import Ucf.Change.Records

/-! The last stages of a change: evidence is bound to the subjects of the delta, accepted, and
archived with the final behavior. -/

namespace Ucf

/-- The values of `ImplementationEvidenceErrorCode` -/
def ImplementationEvidenceErrorCode.value : ImplementationEvidenceErrorCode → String
  | brokenReference => "broken_reference"
  | capabilityMismatch => "capability_mismatch"
  | contentIdentityMismatch => "content_identity_mismatch"
  | documentIdentityMismatch => "document_identity_mismatch"
  | duplicateIdentity => "duplicate_identity"
  | environmentIdentityMismatch => "environment_identity_mismatch"
  | evidenceNotPassed => "evidence_not_passed"
  | incompleteBinding => "incomplete_binding"
  | invalidStructure => "invalid_structure"
  | nonCanonicalOrder => "non_canonical_order"
  | procedureMismatch => "procedure_mismatch"
  | producerIdentityMismatch => "producer_identity_mismatch"
  | requestIdentityMismatch => "request_identity_mismatch"
  | resultStatusMismatch => "result_status_mismatch"
  | sourceIdentityMismatch => "source_identity_mismatch"
  | sourceNotCandidateEvidence => "source_not_candidate_evidence"
  | targetNotMapped => "target_not_mapped"
  | targetNotMaterialized => "target_not_materialized"
  | unknownPort => "unknown_port"
  | valueKindMismatch => "value_kind_mismatch"
  | wrongTargetKind => "wrong_target_kind"

/-- The values of `OnboardingErrorCode` -/
def OnboardingErrorCode.value : OnboardingErrorCode → String
  | brokenReference => "broken_reference"
  | contentIdentityMismatch => "content_identity_mismatch"
  | documentIdentityMismatch => "document_identity_mismatch"
  | duplicateIdentity => "duplicate_identity"
  | invalidDecision => "invalid_decision"
  | invalidProposal => "invalid_proposal"
  | illegalPromotion => "illegal_promotion"
  | nonCanonicalOrder => "non_canonical_order"
  | staleDecision => "stale_decision"
  | summaryMismatch => "summary_mismatch"
  | unreachableEntity => "unreachable_entity"
  | wrongTargetKind => "wrong_target_kind"

/-! ### Nesting -/

/-- The first place in a document that is nested deeper than the limit of 128 levels. Values that
occur at several places are looked at in each of them. -/
def tooDeepAt (location : String) (document : Json) : Option String :=
  match validateNumberProfile (document.height + 1) 0 location document with
  | .error (.ir .invalidStructure _ place) => some place
  | _ => none

/-- The depth checks of `_reject_undeclared_typed_fields` and `_direct_python_validation_input` -/
def rejectDeep {α : Type} [Model α] (message location : String) (document : α) :
    Except ChangeLifecycleError Unit :=
  match tooDeepAt location (modelDump document) with
  | some place => .error ⟨.invalidStructure, message, place⟩
  | none => .ok ()

/-- `_validate_direct_python_input` of a document of a closed model -/
def validateDirectInput {α : Type} [Model α] (location : String) (document : α) :
    Except ChangeLifecycleError Unit :=
  rejectDeep "direct Python input exceeds the 128-level nesting limit" location document

/-- `canonical_change_lifecycle_json` of a document with an embedded evidence result or behavior
in canonical form -/
def canonicalRecordJson {α : Type} [Model α] (document : α) :
    Except ChangeLifecycleError (List Char) := do
  rejectDeep "lifecycle resource exceeds the maximum typed nesting depth of 128" "$" document
  canonicalLifecycleJson document

/-! ### Evidence -/

/-- Inputs that the validation of an execution result needs besides the result. -/
structure ExecutionEvidenceContext [Unicodedata] [Hashlib] where
  result : ExecutionVerificationResult
  mappingResult : ImplementationMappingResult
  bundle : OnboardingBundle
  currentInventory : InventorySnapshot
  mappingInitializedAdapter : Producer
  initializedAdapter : Producer
  negotiatedCapabilities : NegotiatedCapabilities

/-- `CapabilitySelection(kind="capability", name=name, version=version)` -/
def capabilitySelection (name version : String) : Except (List Issue) CapabilitySelection :=
  modelValidate (.obj [("kind", .str "capability"), ("name", .str name),
    ("version", .str version)])

/-- `_evidence_subject` of an entry that is not a removal -/
def BehaviorDeltaEntry.evidenceSubject? : BehaviorDeltaEntry → Option BehaviorEntityRef
  | added e => some e.finalSubject
  | modified e => some e.finalSubject
  | removed _ => none

section Evidence

variable [Unicodedata] [Hashlib]

/-- The body of the loop of `_validate_evidence_contexts`. -/
def validateEvidenceContext (index : Nat) (context : ExecutionEvidenceContext) :
    Except ChangeLifecycleError Unit := do
  let location := at_ "$.evidence_contexts" index
  validateDirectInput (location ++ ".result") context.result
  validateDirectInput (location ++ ".mapping_result") context.mappingResult
  validateDirectInput (location ++ ".bundle") context.bundle
  validateDirectInput (location ++ ".current_inventory") context.currentInventory
  validateDirectInput (location ++ ".mapping_initialized_adapter")
    context.mappingInitializedAdapter
  validateDirectInput (location ++ ".initialized_adapter") context.initializedAdapter
  let capabilitiesLocation := location ++ ".negotiated_capabilities"
  require (context.negotiatedCapabilities.size ≤ maxNegotiatedCapabilities)
    ⟨.invalidStructure, "negotiated capabilities exceed the 256-selection limit",
      capabilitiesLocation⟩
  checkEach (fun _ (name, version) => do
    let _ ← structured (capabilitiesLocation ++ "['" ++ name ++ "']")
      (capabilitySelection name version)) context.negotiatedCapabilities.items

/-- `_validate_evidence_contexts` -/
def validateEvidenceContexts (contexts : List ExecutionEvidenceContext) :
    Except ChangeLifecycleError Unit := do
  require (contexts.length ≤ maxImplementationEvidenceContexts)
    ⟨.invalidStructure, "evidence contexts exceed the 256-binding limit", "$.evidence_contexts"⟩
  checkEach validateEvidenceContext contexts

omit [Unicodedata] [Hashlib] in
/-- What becomes of an error of `validate_execution_verification_result`. -/
def evidenceContextError (location : String) : EvidenceError → RecordError
  | .evidence code message place => .change (.lifecycle ⟨.evidenceContextInvalid,
      "execution evidence context is not valid: " ++ code.value ++ " at " ++ place ++ ": " ++
        message, location⟩)
  | .embedded (.onboarding code message place) => .change (.lifecycle ⟨.evidenceContextInvalid,
      "execution evidence context is not valid: " ++ code.value ++ " at " ++ place ++ ": " ++
        message, location⟩)
  | .embedded error => .raised error

/-- `_context_validation_receipt` -/
def contextValidationReceipt (context : ExecutionEvidenceContext) :
    Except ChangeError EvidenceContextValidationReceipt := do
  let selections ← (collect (fun (item : String × String) =>
    capabilitySelection item.1 item.2) (sortedBy Prod.fst
      context.negotiatedCapabilities.items)).mapError .validation
  let capabilities ← (Tuple.ofList selections).mapError .validation
  if h : validateReceiptCapabilities capabilities.items = .ok () then
    pure ⟨canonicalEvidenceDigest context.result, canonicalEvidenceDigest context.mappingResult,
      canonicalOnboardingDigest context.bundle, canonicalInventoryDigest context.currentInventory,
      context.mappingInitializedAdapter, context.initializedAdapter, capabilities, h⟩
  else throw valueError

/-- `ImplementationEvidenceBinding(...)` -/
def ImplementationEvidenceBinding.make (subject : DeltaSubjectRef)
    (result : ExecutionVerificationResult) (validation : EvidenceContextValidationReceipt) :
    Except ChangeError ImplementationEvidenceBinding :=
  if h : validation.resultDigest = canonicalEvidenceDigest result then
    .ok ⟨subject, result, validation, h⟩
  else .error valueError

/-- The subjects that evidence is needed for, under their references. -/
abbrev ExpectedSubjects : Type := Dict DeltaSubjectRef BehaviorEntityRef

/-- The validation of the result of a context against the context. -/
def ExecutionEvidenceContext.validate (context : ExecutionEvidenceContext) :
    Except EvidenceError Unit :=
  validateExecutionVerificationResult context.result context.result.request context.mappingResult
    context.bundle context.currentInventory context.mappingInitializedAdapter
    context.initializedAdapter context.negotiatedCapabilities

/-- The body of the loop of `_bind_implementation_evidence` over the contexts. -/
def bindContext (expected : ExpectedSubjects) (used : List DeltaSubjectRef) (index : Nat)
    (context : ExecutionEvidenceContext) : Except RecordError ImplementationEvidenceBinding := do
  let location := at_ "$.evidence_contexts" index
  let request := context.result.request
  context.validate.mapError (evidenceContextError location)
  match expected.items.filter fun item => request.subject = item.2 with
  | [(subjectRef, behaviorSubject)] =>
    staged (raising (require (request.baseBehavior =
        ⟨behaviorSubject.documentId, behaviorSubject.canonicalDigest⟩)
      ⟨.documentIdentityMismatch, "execution evidence binds the wrong behavior document",
        location ++ ".result.request.base_behavior"⟩))
    staged (raising (require (subjectRef ∉ used) ⟨.duplicateIdentity,
      "multiple evidence results bind one delta subject", location⟩))
    let receipt ← staged (contextValidationReceipt context)
    staged (ImplementationEvidenceBinding.make subjectRef context.result receipt)
  | _ =>
    throw (.change (.lifecycle ⟨.brokenReference,
      "execution evidence subject does not resolve to one delta entry",
      location ++ ".result.request.subject"⟩))

/-- The loop of `_bind_implementation_evidence` over the contexts. -/
def bindContexts (expected : ExpectedSubjects) (bindings : List ImplementationEvidenceBinding) :
    Nat → List ExecutionEvidenceContext → Except RecordError (List ImplementationEvidenceBinding)
  | _, [] => .ok bindings
  | index, context :: contexts => do
    let binding ← bindContext expected (bindings.map ImplementationEvidenceBinding.subject) index
      context
    bindContexts expected (bindings ++ [binding]) (index + 1) contexts

/-- `_bind_implementation_evidence` -/
def bindImplementationEvidence (delta : BehaviorDelta) (contexts : List ExecutionEvidenceContext) :
    Except RecordError (List ImplementationEvidenceBinding) := do
  staged (raising (checkEach (fun (index : Nat) (entry : BehaviorDeltaEntry) =>
    require (entry.evidenceSubject?.isSome) ⟨.unsupportedEvidenceProfile,
      "removed behavior requires final-state absence evidence; " ++
        "base-subject execution evidence is not accepted", at_ "$.entries" index⟩)
    delta.entries.val))
  let expected : ExpectedSubjects := Dict.ofList (delta.entries.val.filterMap fun entry =>
    entry.evidenceSubject?.map fun subject => (entry.subjectRef, subject))
  let bindings ← bindContexts expected [] 0 contexts
  let used := bindings.map ImplementationEvidenceBinding.subject
  staged (raising (require (used ⊆ expected.keys ∧ expected.keys ⊆ used) ⟨.incompleteCoverage,
    "implementation evidence does not cover every delta subject", "$.evidence_contexts"⟩))
  pure (sortedBy (fun binding => binding.subject.key) bindings)

/-! ### References -/

omit [Unicodedata] in
/-- `task_graph_ref` -/
def taskGraphRef (graph : TaskGraph) : Except ChangeLifecycleError TaskGraphRef := do
  pure ⟨graph.changeId, ← canonicalLifecycleDigest graph⟩

omit [Unicodedata] in
/-- `implementation_record_ref` -/
def implementationRecordRef (record : ImplementationRecord) :
    Except ChangeLifecycleError ImplementationRecordRef := do
  let _ ← canonicalRecordJson record
  pure ⟨record.changeId, ⟨identityDigest (modelDump record)⟩⟩

omit [Unicodedata] in
/-- `verification_record_ref` -/
def verificationRecordRef (record : VerificationRecord) :
    Except ChangeLifecycleError VerificationRecordRef := do
  pure ⟨record.changeId, ← canonicalLifecycleDigest record⟩

/-! ### Implementation records -/

omit [Unicodedata] [Hashlib] in
/-- `_require_completed_tasks` -/
def requireCompletedTasks (graph : TaskGraph) : Except ChangeLifecycleError Unit :=
  let incomplete := graph.tasks.items.filter fun task => task.status ≠ .completed
  require (incomplete = []) ⟨.incompleteTasks,
    "implementation requires completed tasks: " ++
      pyTuple (incomplete.map fun task => task.id.val), "$.tasks"⟩

omit [Unicodedata] in
/-- `_require_passing_evidence` -/
def requirePassingEvidence (implementation : ImplementationRecord) :
    Except ChangeLifecycleError Unit :=
  let nonpassing := implementation.bindings.items.filter fun binding =>
    binding.result.outcome ≠ .passed
  require (nonpassing = []) ⟨.evidenceNotPassed,
    "verification requires passing evidence: " ++
      pyTuple (nonpassing.map fun binding => binding.subject.targetId.val), "$.bindings"⟩

variable [HashlibBytes] [PyYaml]

/-- `derive_implementation_record` -/
def deriveImplementationRecord (graph : TaskGraph) (delta : BehaviorDelta)
    (proposal : ChangeProposal) (baseBehavior finalBehavior : BehaviorIR)
    (contexts : List ExecutionEvidenceContext) : Except RecordError ImplementationRecord := do
  staged (raising (validateEvidenceContexts contexts))
  staged (validateTaskGraph graph delta proposal baseBehavior finalBehavior)
  staged (raising (requireCompletedTasks graph))
  let bindings ← bindImplementationEvidence delta contexts
  let tasks ← staged (raising (taskGraphRef graph))
  let record ← staged (ImplementationRecord.make graph.changeId tasks bindings)
  let _ ← staged (raising (canonicalRecordJson record))
  pure record

/-- `validate_implementation_record` -/
def validateImplementationRecord (record : ImplementationRecord) (graph : TaskGraph)
    (delta : BehaviorDelta) (proposal : ChangeProposal) (baseBehavior finalBehavior : BehaviorIR)
    (contexts : List ExecutionEvidenceContext) : Except RecordError Unit := do
  staged (raising (validateEvidenceContexts contexts))
  let _ ← staged (raising (canonicalRecordJson record))
  staged (validateTaskGraph graph delta proposal baseBehavior finalBehavior)
  staged (raising (requireCompletedTasks graph))
  staged (raising (require (record.changeId = graph.changeId) ⟨.brokenReference,
    "implementation record change ID differs from the task graph", "$.change_id"⟩))
  let tasks ← staged (raising (taskGraphRef graph))
  staged (raising (require (record.tasks = tasks) ⟨.contentIdentityMismatch,
    "implementation task reference is stale or fabricated", "$.tasks"⟩))
  let expected ← bindImplementationEvidence delta contexts
  staged (raising (require (record.bindings.items = expected) ⟨.contentIdentityMismatch,
    "implementation evidence bindings are not exact", "$.bindings"⟩))

/-! ### Verification records -/

/-- `derive_verification_record` -/
def deriveVerificationRecord (implementation : ImplementationRecord) (graph : TaskGraph)
    (delta : BehaviorDelta) (proposal : ChangeProposal) (baseBehavior finalBehavior : BehaviorIR)
    (contexts : List ExecutionEvidenceContext) : Except RecordError VerificationRecord := do
  staged (raising (validateEvidenceContexts contexts))
  validateImplementationRecord implementation graph delta proposal baseBehavior finalBehavior
    contexts
  staged (raising (requirePassingEvidence implementation))
  let reference ← staged (raising (implementationRecordRef implementation))
  staged (VerificationRecord.make implementation.changeId reference
    (implementation.bindings.items.map ImplementationEvidenceBinding.subject))

/-- `validate_verification_record` -/
def validateVerificationRecord (verification : VerificationRecord)
    (implementation : ImplementationRecord) (graph : TaskGraph) (delta : BehaviorDelta)
    (proposal : ChangeProposal) (baseBehavior finalBehavior : BehaviorIR)
    (contexts : List ExecutionEvidenceContext) : Except RecordError Unit := do
  staged (raising (validateEvidenceContexts contexts))
  let _ ← staged (raising (canonicalLifecycleJson verification))
  validateImplementationRecord implementation graph delta proposal baseBehavior finalBehavior
    contexts
  staged (raising (requirePassingEvidence implementation))
  staged (raising (require (verification.changeId = implementation.changeId) ⟨.brokenReference,
    "verification change ID differs from implementation", "$.change_id"⟩))
  let reference ← staged (raising (implementationRecordRef implementation))
  staged (raising (require (verification.implementation = reference) ⟨.contentIdentityMismatch,
    "verification implementation reference is stale or fabricated", "$.implementation"⟩))
  staged (raising (require (verification.subjects.items =
      implementation.bindings.items.map ImplementationEvidenceBinding.subject)
    ⟨.incompleteCoverage, "verification subjects differ from accepted evidence", "$.subjects"⟩))

/-! ### Archive records -/

omit [Unicodedata] [Hashlib] [HashlibBytes] [PyYaml] in
/-- `_normalize_embedded_behavior` -/
def normalizeEmbeddedBehavior (archive : ArchiveRecord) :
    Except ChangeLifecycleError ArchiveRecord := do
  validateBehaviorDocument archive.finalBehavior "$.final_behavior"
  let canonical ← (parseIrJson (canonicalIrJson archive.finalBehavior)).mapError
    (behaviorError "$.final_behavior")
  pure { archive with finalBehavior := canonical }

omit [Unicodedata] [Hashlib] [HashlibBytes] [PyYaml] in
/-- `canonical_change_lifecycle_json` of an archive -/
def canonicalArchiveJson (archive : ArchiveRecord) : Except ChangeLifecycleError (List Char) := do
  let archive ← normalizeEmbeddedBehavior archive
  let encoded ← canonicalRecordJson archive
  let parsed ← (parseChangeDocument encoded : Except ChangeLifecycleError ArchiveRecord)
  let _ ← normalizeEmbeddedBehavior parsed
  pure encoded

/-- `ArchiveRecord(...)` -/
def ArchiveRecord.make (changeId : OpenSpecChangeId) (proposal : ChangeProposalRef)
    (delta : BehaviorDeltaRef) (tasks : TaskGraphRef) (implementation : ImplementationRecordRef)
    (verification : VerificationRecordRef) (finalBehavior : BehaviorIR) :
    Except ChangeError ArchiveRecord :=
  if h : sameChange changeId proposal delta tasks implementation verification then
    .ok ⟨changeId, proposal, delta, tasks, implementation, verification, finalBehavior, h⟩
  else .error valueError

/-- `derive_archive_record` -/
def deriveArchiveRecord (proposal : ChangeProposal) (delta : BehaviorDelta) (graph : TaskGraph)
    (implementation : ImplementationRecord) (verification : VerificationRecord)
    (baseBehavior finalBehavior : BehaviorIR) (contexts : List ExecutionEvidenceContext) :
    Except RecordError ArchiveRecord := do
  staged (raising (validateEvidenceContexts contexts))
  staged (validateBehaviorDelta delta proposal baseBehavior finalBehavior)
  validateVerificationRecord verification implementation graph delta proposal baseBehavior
    finalBehavior contexts
  let canonical ← (parseIrJson (canonicalIrJson finalBehavior)).mapError .raised
  let proposalRef ← staged (raising (changeProposalRef proposal))
  let deltaRef ← staged (raising (behaviorDeltaRef delta))
  let tasksRef ← staged (raising (taskGraphRef graph))
  let implementationRef ← staged (raising (implementationRecordRef implementation))
  let verificationRef ← staged (raising (verificationRecordRef verification))
  let archive ← staged (ArchiveRecord.make proposal.changeId proposalRef deltaRef tasksRef
    implementationRef verificationRef canonical)
  let _ ← staged (raising (canonicalArchiveJson archive))
  pure archive

/-- `validate_archive_record` -/
def validateArchiveRecord (archive : ArchiveRecord) (proposal : ChangeProposal)
    (delta : BehaviorDelta) (graph : TaskGraph) (implementation : ImplementationRecord)
    (verification : VerificationRecord) (baseBehavior finalBehavior : BehaviorIR)
    (contexts : List ExecutionEvidenceContext) : Except RecordError Unit := do
  staged (raising (validateEvidenceContexts contexts))
  let _ ← staged (raising (canonicalArchiveJson archive))
  staged (validateBehaviorDelta delta proposal baseBehavior finalBehavior)
  validateVerificationRecord verification implementation graph delta proposal baseBehavior
    finalBehavior contexts
  let stale (field : String) : ChangeLifecycleError := ⟨.contentIdentityMismatch,
    "archive " ++ field ++ " reference is stale or fabricated", "$." ++ field⟩
  let proposalRef ← staged (raising (changeProposalRef proposal))
  let deltaRef ← staged (raising (behaviorDeltaRef delta))
  let tasksRef ← staged (raising (taskGraphRef graph))
  let implementationRef ← staged (raising (implementationRecordRef implementation))
  let verificationRef ← staged (raising (verificationRecordRef verification))
  staged (raising (require (archive.proposal = proposalRef) (stale "proposal")))
  staged (raising (require (archive.delta = deltaRef) (stale "delta")))
  staged (raising (require (archive.tasks = tasksRef) (stale "tasks")))
  staged (raising (require (archive.implementation = implementationRef) (stale "implementation")))
  staged (raising (require (archive.verification = verificationRef) (stale "verification")))
  staged (raising (require (archive.changeId = proposal.changeId) ⟨.brokenReference,
    "archive change ID differs from the proposal", "$.change_id"⟩))
  staged (raising (require (canonicalIrJson archive.finalBehavior = canonicalIrJson finalBehavior ∧
      behaviorDocumentRef archive.finalBehavior = delta.finalBehavior)
    ⟨.documentIdentityMismatch, "archive final behavior is not the exact accepted delta target",
      "$.final_behavior"⟩))

end Evidence

end Ucf
