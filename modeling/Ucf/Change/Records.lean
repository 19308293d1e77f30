import Ucf.Change.Tasks
import Ucf.Evidence.Validation

/-! The records of a change: the evidence for each subject of its delta, the acceptance of that
evidence, and the archive of the change with its final behavior. -/

namespace Ucf

def implementationRecordSchemaUri : String :=
  "urn:ucf:change-lifecycle:implementation-record:1.0.0"

def verificationRecordSchemaUri : String := "urn:ucf:change-lifecycle:verification-record:1.0.0"

def archiveRecordSchemaUri : String := "urn:ucf:change-lifecycle:archive-record:1.0.0"

def evidenceContextValidationProcedureUri : String :=
  "urn:ucf:change-lifecycle:evidence-context-validation:1.0.0"

def maxImplementationEvidenceContexts : Nat := 256

def maxNegotiatedCapabilities : Nat := 256

/-- What deriving or validating a record raises: an error of the lifecycle or of a model, or what
the validation of the evidence lets through. -/
inductive RecordError where
  | change (error : ChangeError)
  | raised (error : PyError)

/-- The error of an earlier stage. -/
def staged {α : Type} (x : Except ChangeError α) : Except RecordError α := x.mapError .change

@[simp] theorem staged_eq_ok {α : Type} {x : Except ChangeError α} {a : α} :
    staged x = .ok a ↔ x = .ok a := by
  rw [staged, mapError_eq_ok]

/-! ### Models -/

/-- What a stage is referred to by: the change and the digest of its document. -/
structure StageRef where
  changeId : OpenSpecChangeId
  canonicalDigest : Digest
deriving DecidableEq

/-- The document form of a reference to a stage. -/
def stageRef (kind schemaUri : String) : Schema StageRef :=
  .iso (.record (.lit "kind" kind <| .lit "change_lifecycle_version" changeLifecycleVersion <|
      .lit "schema_uri" schemaUri <| .required "change_id" <| .required "canonical_digest" .nil)
    (Fields.nodup_names (by simp)))
    (fun r => (r.changeId, r.canonicalDigest, ())) (fun (id, digest, ()) => ⟨id, digest⟩)
    (fun _ => rfl) (fun _ => rfl)

structure TaskGraphRef extends StageRef
deriving DecidableEq

structure ImplementationRecordRef extends StageRef
deriving DecidableEq

structure VerificationRecordRef extends StageRef
deriving DecidableEq

instance : Model TaskGraphRef where
  schema := .iso (stageRef "task_graph_ref" taskGraphSchemaUri) TaskGraphRef.toStageRef
    TaskGraphRef.mk (fun _ => rfl) (fun _ => rfl)
  notNull _ := nofun

instance : Model ImplementationRecordRef where
  schema := .iso (stageRef "implementation_record_ref" implementationRecordSchemaUri)
    ImplementationRecordRef.toStageRef ImplementationRecordRef.mk (fun _ => rfl) (fun _ => rfl)
  notNull _ := nofun

instance : Model VerificationRecordRef where
  schema := .iso (stageRef "verification_record_ref" verificationRecordSchemaUri)
    VerificationRecordRef.toStageRef VerificationRecordRef.mk (fun _ => rfl) (fun _ => rfl)
  notNull _ := nofun

/-- `EvidenceContextValidationReceipt.validate_capabilities` -/
def validateReceiptCapabilities (capabilities : List CapabilitySelection) : Except String Unit :=
  requireCanonical (capabilities.map fun capability => capability.name.val)
    "context validation receipt contains duplicate capabilities"
    "context validation receipt capabilities are not canonical"

structure EvidenceContextValidationReceipt where
  resultDigest : Digest
  mappingResultDigest : Digest
  onboardingBundleDigest : Digest
  currentInventoryDigest : Digest
  mappingInitializedAdapter : Producer
  verificationInitializedAdapter : Producer
  negotiatedCapabilities : Tuple 2 maxNegotiatedCapabilities CapabilitySelection
  valid : validateReceiptCapabilities negotiatedCapabilities.items = .ok ()
deriving DecidableEq

instance : Model EvidenceContextValidationReceipt :=
  .recordWhere (.lit "kind" "evidence_context_validation_receipt" <|
      .lit "assurance" "context_validated_import" <|
      .lit "procedure_uri" evidenceContextValidationProcedureUri <| .required "result_digest" <|
      .required "mapping_result_digest" <| .required "onboarding_bundle_digest" <|
      .required "current_inventory_digest" <| .required "mapping_initialized_adapter" <|
      .required "verification_initialized_adapter" <| .required "negotiated_capabilities" .nil)
    (fun (_, _, _, _, _, _, capabilities, ()) =>
      validateReceiptCapabilities capabilities.items = .ok ())
    (fun r => ⟨(r.resultDigest, r.mappingResultDigest, r.onboardingBundleDigest,
      r.currentInventoryDigest, r.mappingInitializedAdapter, r.verificationInitializedAdapter,
      r.negotiatedCapabilities, ()), r.valid⟩)
    (fun ⟨(result, mapping, bundle, inventory, mappingAdapter, adapter, capabilities, ()), h⟩ =>
      ⟨result, mapping, bundle, inventory, mappingAdapter, adapter, capabilities, h⟩)

section Records

variable [Hashlib]

structure ImplementationEvidenceBinding where
  subject : DeltaSubjectRef
  result : ExecutionVerificationResult
  validation : EvidenceContextValidationReceipt
  valid : validation.resultDigest = canonicalEvidenceDigest result
deriving DecidableEq

instance : Model ImplementationEvidenceBinding :=
  .recordWhere (.lit "kind" "implementation_evidence_binding" <| .required "subject" <|
      .required "result" <| .required "validation" .nil)
    (fun (_, (result : ExecutionVerificationResult),
        (validation : EvidenceContextValidationReceipt), ()) =>
      validation.resultDigest = canonicalEvidenceDigest result)
    (fun b => ⟨(b.subject, b.result, b.validation, ()), b.valid⟩)
    (fun ⟨(subject, result, validation, ()), h⟩ => ⟨subject, result, validation, h⟩)

/-- `ImplementationRecord.validate_shape` -/
def validateImplementationShape (changeId : OpenSpecChangeId) (tasks : TaskGraphRef)
    (bindings : List ImplementationEvidenceBinding) : Except String Unit := do
  require (tasks.changeId = changeId) "implementation record change ID differs from its tasks"
  requireCanonical (bindings.map fun binding => binding.subject.key)
    "implementation record contains duplicate delta subjects"
    "implementation bindings are not in canonical order"

structure ImplementationRecord where
  changeId : OpenSpecChangeId
  tasks : TaskGraphRef
  bindings : Tuple 1 256 ImplementationEvidenceBinding
  valid : validateImplementationShape changeId tasks bindings.items = .ok ()
deriving DecidableEq

instance : Model ImplementationRecord :=
  .recordWhere (.lit "kind" "implementation_record" <|
      .lit "change_lifecycle_version" changeLifecycleVersion <|
      .lit "schema_uri" implementationRecordSchemaUri <| .required "change_id" <|
      .required "tasks" <| .required "bindings" .nil)
    (fun (changeId, tasks, bindings, ()) =>
      validateImplementationShape changeId tasks bindings.items = .ok ())
    (fun r => ⟨(r.changeId, r.tasks, r.bindings, ()), r.valid⟩)
    (fun ⟨(changeId, tasks, bindings, ()), h⟩ => ⟨changeId, tasks, bindings, h⟩)

/-- `ImplementationRecord(...)` -/
def ImplementationRecord.make (changeId : OpenSpecChangeId) (tasks : TaskGraphRef)
    (bindings : List ImplementationEvidenceBinding) : Except ChangeError ImplementationRecord := do
  let bindings ← (Tuple.ofList bindings).mapError .validation
  if h : validateImplementationShape changeId tasks bindings.items = .ok () then
    pure ⟨changeId, tasks, bindings, h⟩
  else throw valueError

omit [Hashlib] in
/-- `VerificationRecord.validate_shape` -/
def validateVerificationShape (changeId : OpenSpecChangeId)
    (implementation : ImplementationRecordRef) (subjects : List DeltaSubjectRef) :
    Except String Unit := do
  require (implementation.changeId = changeId)
    "verification record change ID differs from implementation"
  requireCanonical (subjects.map DeltaSubjectRef.key)
    "verification record contains duplicate subjects"
    "verification subjects are not in canonical order"

structure VerificationRecord where
  changeId : OpenSpecChangeId
  implementation : ImplementationRecordRef
  subjects : Tuple 1 256 DeltaSubjectRef
  valid : validateVerificationShape changeId implementation subjects.items = .ok ()
deriving DecidableEq

instance : Model VerificationRecord :=
  .recordWhere (.lit "kind" "verification_record" <|
      .lit "change_lifecycle_version" changeLifecycleVersion <|
      .lit "schema_uri" verificationRecordSchemaUri <| .required "change_id" <|
      .required "implementation" <| .lit "outcome" "accepted" <| .required "subjects" .nil)
    (fun (changeId, implementation, subjects, ()) =>
      validateVerificationShape changeId implementation subjects.items = .ok ())
    (fun r => ⟨(r.changeId, r.implementation, r.subjects, ()), r.valid⟩)
    (fun ⟨(changeId, implementation, subjects, ()), h⟩ => ⟨changeId, implementation, subjects, h⟩)

/-- `VerificationRecord(...)` -/
def VerificationRecord.make (changeId : OpenSpecChangeId)
    (implementation : ImplementationRecordRef) (subjects : List DeltaSubjectRef) :
    Except ChangeError VerificationRecord := do
  let subjects ← (Tuple.ofList subjects).mapError .validation
  if h : validateVerificationShape changeId implementation subjects.items = .ok () then
    pure ⟨changeId, implementation, subjects, h⟩
  else throw valueError

/-- `ArchiveRecord.validate_shape` -/
def sameChange (changeId : OpenSpecChangeId) (proposal : ChangeProposalRef)
    (delta : BehaviorDeltaRef) (tasks : TaskGraphRef) (implementation : ImplementationRecordRef)
    (verification : VerificationRecordRef) : Prop :=
  ∀ id ∈ [proposal.changeId, delta.changeId, tasks.changeId, implementation.changeId,
    verification.changeId], id = changeId

instance (changeId : OpenSpecChangeId) (proposal : ChangeProposalRef) (delta : BehaviorDeltaRef)
    (tasks : TaskGraphRef) (implementation : ImplementationRecordRef)
    (verification : VerificationRecordRef) :
    Decidable (sameChange changeId proposal delta tasks implementation verification) :=
  inferInstanceAs (Decidable (∀ id ∈ _, _))

structure ArchiveRecord where
  changeId : OpenSpecChangeId
  proposal : ChangeProposalRef
  delta : BehaviorDeltaRef
  tasks : TaskGraphRef
  implementation : ImplementationRecordRef
  verification : VerificationRecordRef
  finalBehavior : BehaviorIR
  valid : sameChange changeId proposal delta tasks implementation verification
deriving DecidableEq

instance : Model ArchiveRecord :=
  .recordWhere (.lit "kind" "archive_record" <|
      .lit "change_lifecycle_version" changeLifecycleVersion <|
      .lit "schema_uri" archiveRecordSchemaUri <| .required "change_id" <|
      .lit "status" "archived" <| .required "proposal" <| .required "delta" <|
      .required "tasks" <| .required "implementation" <| .required "verification" <|
      .required "final_behavior" .nil)
    (fun (changeId, proposal, delta, tasks, implementation, verification, _, ()) =>
      sameChange changeId proposal delta tasks implementation verification)
    (fun a => ⟨(a.changeId, a.proposal, a.delta, a.tasks, a.implementation, a.verification,
      a.finalBehavior, ()), a.valid⟩)
    (fun ⟨(changeId, proposal, delta, tasks, implementation, verification, behavior, ()), h⟩ =>
      ⟨changeId, proposal, delta, tasks, implementation, verification, behavior, h⟩)

end Records

end Ucf
