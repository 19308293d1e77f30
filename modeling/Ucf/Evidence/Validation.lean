import Ucf.Evidence.Models

/-! The validation of implementation evidence: a mapping against the onboarding bundle and the
current inventory, and an execution against an accepted mapping. A document here is always a value
of its closed model, so that revalidating its structure changes nothing. -/

namespace Ucf

/-- `ucf.implementation_evidence.errors.ImplementationEvidenceErrorCode` -/
inductive ImplementationEvidenceErrorCode where
  | brokenReference
  | capabilityMismatch
  | contentIdentityMismatch
  | documentIdentityMismatch
  | duplicateIdentity
  | environmentIdentityMismatch
  | evidenceNotPassed
  | incompleteBinding
  | invalidStructure
  | nonCanonicalOrder
  | procedureMismatch
  | producerIdentityMismatch
  | requestIdentityMismatch
  | resultStatusMismatch
  | sourceIdentityMismatch
  | sourceNotCandidateEvidence
  | targetNotMapped
  | targetNotMaterialized
  | unknownPort
  | valueKindMismatch
  | wrongTargetKind
deriving DecidableEq, Repr

/-- What validating evidence raises: `ImplementationEvidenceValidationError`, or what the
validation of the embedded documents raises. -/
inductive EvidenceError where
  | evidence (code : ImplementationEvidenceErrorCode) (message location : String)
  | embedded (error : PyError)
deriving DecidableEq, Repr

/-- The ports of an entity, for the kinds that have ports. -/
def Entity.ports? : Entity → Option (List Port × List Port)
  | .action e => some (e.inputPorts, e.outputPorts)
  | .useCase e => some (e.inputPorts, e.outputPorts)
  | _ => none

/-- The value fits the port: it is of the port's kind, or absent where the port is optional. -/
def fitsPort (port : Port) (value : IRValue) : Prop :=
  if value.valueKind = .null then port.required = false else value.valueKind = port.valueKind

instance (port : Port) (value : IRValue) : Decidable (fitsPort port value) :=
  inferInstanceAs (Decidable (ite _ _ _))

/-- `_validate_port_values` -/
def validatePortValues (values : List ExecutionPortValue) (ports : List Port) (location : String) :
    Except EvidenceError Unit := do
  let portIndex := Dict.index Port.name ports
  checkEach (fun (position : Nat) (item : ExecutionPortValue) => do
    let itemLocation := at_ location position
    let port ← orRaise (portIndex.get? item.port.name) (.evidence .unknownPort
      "verification value names an unknown behavior port" (itemLocation ++ ".port.name"))
    require (fitsPort port item.value) (.evidence .valueKindMismatch
      "verification value kind differs from the behavior port" (itemLocation ++ ".value"))) values
  require (∀ port ∈ ports, port.required = true → port.name ∈ values.map fun item => item.port.name)
    (.evidence .incompleteBinding "verification values omit a required behavior port" location)

section Evidence

variable [Hashlib]

/-! ### Identities -/

/-- `canonical_implementation_evidence_digest` -/
def canonicalEvidenceDigest {α : Type} [Model α] (document : α) : Digest :=
  ⟨identityDigest (modelDump document)⟩

/-- `derive_execution_verification_result_id` -/
def deriveExecutionResultId (result : ExecutionVerificationResult) :
    ExecutionVerificationResultId :=
  ⟨identityDigest ((modelDump result).exclude ["id"])⟩

variable [Unicodedata]

/-- `derive_implementation_mapping_result_id` -/
def deriveMappingResultId (result : ImplementationMappingResult) : ImplementationMappingResultId :=
  ⟨identityDigest ((modelDump result).exclude ["id"])⟩

/-! ### Mappings -/

/-- The body of the loop of `validate_implementation_mapping_request` over the targets. -/
def validateMappingTarget (bundle : OnboardingBundle) (position : Nat)
    (target : BehaviorEntityRef) : Except EvidenceError Unit := do
  let location := at_ "$.targets" position
  require (target.documentId = bundle.behavior.documentId) (.evidence .documentIdentityMismatch
    "mapping target document_id differs from the bundle behavior" (location ++ ".document_id"))
  require (target.canonicalDigest = ⟨canonicalIrDigest bundle.behavior⟩)
    (.evidence .documentIdentityMismatch
      "mapping target canonical_digest differs from the bundle behavior"
      (location ++ ".canonical_digest"))
  let entity ← orRaise ((Dict.index Entity.id bundle.behavior.entities).get? target.targetId)
    (.evidence .brokenReference "mapping target does not resolve in the bundle behavior" location)
  require (entity.kind = target.targetKind) (.evidence .wrongTargetKind
    "mapping target kind differs from the resolved behavior entity" (location ++ ".target_kind"))
  require (target ∈ bundle.baseline.materializations.items.map BehaviorMaterialization.root)
    (.evidence .targetNotMaterialized "mapping target is not a reviewed materialization root"
      location)

/-- `validate_implementation_mapping_request` -/
def validateImplementationMappingRequest (request : ImplementationMappingRequest)
    (bundle : OnboardingBundle) : Except EvidenceError Unit := do
  (validateOnboardingBundle bundle).mapError .embedded
  require (request.onboarding.canonicalDigest = canonicalOnboardingDigest bundle)
    (.evidence .documentIdentityMismatch
      "mapping request does not bind the supplied onboarding bundle" "$.onboarding.canonical_digest")
  require (request.behavior = bundle.behavior) (.evidence .documentIdentityMismatch
    "mapping request Behavior IR differs from the reviewed bundle" "$.behavior")
  require (request.inventory = bundle.inventory) (.evidence .documentIdentityMismatch
    "mapping request inventory differs from the reviewed bundle" "$.inventory")
  checkEach (validateMappingTarget bundle) request.targets.items

/-- The checks on a source record of a binding. -/
def validateSourceRecord (records : Dict InventoryRecordId InventoryRecord)
    (evidence : List InventoryRecordRef) (location : String) (reference : InventoryRecordRef) :
    Except EvidenceError Unit := do
  let record ← orRaise (records.get? reference.targetId)
    (.evidence .brokenReference "implementation source record does not exist" location)
  require (record.kind = reference.targetKind) (.evidence .wrongTargetKind
    "implementation source record kind differs from inventory" (location ++ ".target_kind"))
  require (reference ∈ evidence) (.evidence .sourceNotCandidateEvidence
    "implementation source is not reviewed candidate evidence" location)

/-- The candidate that a materialization root came from. -/
def candidateOf (bundle : OnboardingBundle) (root : BehaviorEntityRef) :
    Except EvidenceError DiscoveryCandidate := do
  let materializations :=
    Dict.index BehaviorMaterialization.root bundle.baseline.materializations.items
  let candidates := Dict.index DiscoveryCandidate.id bundle.discovery.candidates.items
  let materialization ← orRaise (materializations.get? root) (.embedded .keyError)
  orRaise (candidates.get? materialization.candidate.candidateId) (.embedded .keyError)

/-- The body of the loop of `validate_implementation_mapping_result` over the bindings. -/
def validateBindingIn (bundle : OnboardingBundle) (inventory : InventorySnapshot)
    (bindingPosition : Nat) (binding : ImplementationBinding) : Except EvidenceError Unit := do
  let location := at_ "$.bindings" bindingPosition ++ ".source_records"
  let candidate ← candidateOf bundle binding.behavior
  let records := Dict.index InventoryRecord.id inventory.records.items
  checkEach (fun (sourcePosition : Nat) (reference : InventoryRecordRef) =>
    validateSourceRecord records candidate.evidence.items (at_ location sourcePosition) reference)
    binding.sourceRecords.items
  require (candidate.subject ∈ binding.sourceRecords.items) (.evidence .sourceNotCandidateEvidence
    "implementation binding omits the candidate public interface" location)

/-- `negotiated_capabilities`: a mapping from names to versions -/
abbrev NegotiatedCapabilities : Type := Dict String String

/-- `validate_implementation_mapping_result` -/
def validateImplementationMappingResult (result : ImplementationMappingResult)
    (request : ImplementationMappingRequest) (bundle : OnboardingBundle)
    (currentInventory : InventorySnapshot) (initializedAdapter : Producer)
    (negotiatedCapabilities : NegotiatedCapabilities) : Except EvidenceError Unit := do
  require (result.id = deriveMappingResultId result) (.evidence .contentIdentityMismatch
    "mapping result ID is not derived from its exact content" "$.id")
  require (result.request = request) (.evidence .requestIdentityMismatch
    "mapping result does not echo the exact request" "$.request")
  validateImplementationMappingRequest request bundle
  require (result.producer = initializedAdapter) (.evidence .producerIdentityMismatch
    "mapping result producer differs from the initialized adapter" "$.producer")
  require (result.capability = request.capability ∧
      negotiatedCapabilities.get? request.capability.name.val = some request.capability.version.val)
    (.evidence .capabilityMismatch "the exact mapping capability was not selected" "$.capability")
  require (result.procedureUri = request.adapterProcedureUri) (.evidence .procedureMismatch
    "mapping result procedure differs from the request" "$.procedure_uri")
  require (currentInventory = request.inventory) (.evidence .sourceIdentityMismatch
    "current inventory differs from the mapped source snapshot" "$.request.inventory")
  let actual := (result.bindings.items.map ImplementationBinding.behavior)
  require (actual.Nodup ∧ actual ⊆ request.targets.items ∧ request.targets.items ⊆ actual)
    (.evidence .incompleteBinding "mapping result must contain exactly one binding per target"
      "$.bindings")
  checkEach (validateBindingIn bundle request.inventory) result.bindings.items

/-! ### Executions -/

/-- `validate_execution_verification_request` -/
def validateExecutionVerificationRequest (request : ExecutionVerificationRequest)
    (mappingResult : ImplementationMappingResult) (bundle : OnboardingBundle)
    (currentInventory : InventorySnapshot) (mappingInitializedAdapter : Producer)
    (negotiatedCapabilities : NegotiatedCapabilities) : Except EvidenceError Unit := do
  require (currentInventory.subjectUri.val = request.source.subjectUri.val)
    (.evidence .sourceIdentityMismatch
      "current inventory coordinates differ from the verification source" "$.source.subject_uri")
  require (currentInventory.sourceRevision = request.source.sourceRevision)
    (.evidence .sourceIdentityMismatch
      "current inventory coordinates differ from the verification source"
      "$.source.source_revision")
  validateImplementationMappingResult mappingResult mappingResult.request bundle currentInventory
    mappingInitializedAdapter negotiatedCapabilities
  require (request.mapping.targetId = mappingResult.id) (.evidence .contentIdentityMismatch
    "verification mapping target_id differs from the accepted result" "$.mapping.target_id")
  require (request.mapping.canonicalDigest = canonicalEvidenceDigest mappingResult)
    (.evidence .contentIdentityMismatch
      "verification mapping canonical_digest differs from the accepted result"
      "$.mapping.canonical_digest")
  require (request.baseBehavior.documentId = bundle.behavior.documentId)
    (.evidence .documentIdentityMismatch
      "verification base Behavior document_id differs from the bundle"
      "$.base_behavior.document_id")
  require (request.baseBehavior.canonicalDigest = ⟨canonicalIrDigest bundle.behavior⟩)
    (.evidence .documentIdentityMismatch
      "verification base Behavior canonical_digest differs from the bundle"
      "$.base_behavior.canonical_digest")
  let subjectEntity ← orRaise
    ((Dict.index Entity.id bundle.behavior.entities).get? request.subject.targetId)
    (.evidence .brokenReference "verification subject does not resolve in the base behavior"
      "$.subject")
  require (subjectEntity.kind = request.subject.targetKind) (.evidence .wrongTargetKind
    "verification subject kind differs from the resolved entity" "$.subject.target_kind")
  let binding ← orRaise
    (mappingResult.bindings.items.find? fun candidate => candidate.behavior = request.subject)
    (.evidence .targetNotMapped "verification subject has no accepted implementation binding"
      "$.subject")
  let (inputPorts, outputPorts) ← orRaise subjectEntity.ports? (.embedded .attributeError)
  validatePortValues request.inputs.items inputPorts "$.inputs"
  validatePortValues request.expectedOutputs.items outputPorts "$.expected_outputs"
  let mapped := mappingResult.request.inventory
  require (request.source.subjectUri.val = mapped.subjectUri.val)
    (.evidence .sourceIdentityMismatch "verification source subject_uri differs from its mapping"
      "$.source.subject_uri")
  require (request.source.sourceRevision = mapped.sourceRevision)
    (.evidence .sourceIdentityMismatch
      "verification source source_revision differs from its mapping" "$.source.source_revision")
  require (request.source.records.items = binding.sourceRecords.items)
    (.evidence .sourceIdentityMismatch "verification source records differs from its mapping"
      "$.source.records")
  require (currentInventory.subjectUri.val = request.source.subjectUri.val ∧
      currentInventory.sourceRevision = request.source.sourceRevision ∧
      currentInventory = mapped)
    (.evidence .sourceIdentityMismatch "current inventory differs from the verification source"
      "$.source.source_revision")
  require (negotiatedCapabilities.get? request.capability.name.val =
      some request.capability.version.val)
    (.evidence .capabilityMismatch "the exact verification capability was not selected"
      "$.capability")

/-- `validate_execution_verification_result` -/
def validateExecutionVerificationResult (result : ExecutionVerificationResult)
    (request : ExecutionVerificationRequest) (mappingResult : ImplementationMappingResult)
    (bundle : OnboardingBundle) (currentInventory : InventorySnapshot)
    (mappingInitializedAdapter initializedAdapter : Producer)
    (negotiatedCapabilities : NegotiatedCapabilities) : Except EvidenceError Unit := do
  require (result.id = deriveExecutionResultId result) (.evidence .contentIdentityMismatch
    "verification result ID is not derived from its exact content" "$.id")
  require (result.request = request) (.evidence .requestIdentityMismatch
    "verification result does not echo the exact request" "$.request")
  validateExecutionVerificationRequest request mappingResult bundle currentInventory
    mappingInitializedAdapter negotiatedCapabilities
  require (result.producer = initializedAdapter) (.evidence .producerIdentityMismatch
    "verification result producer differs from the initialized adapter" "$.producer")
  require (result.capability = request.capability ∧
      negotiatedCapabilities.get? request.capability.name.val = some request.capability.version.val)
    (.evidence .capabilityMismatch "the exact verification capability was not selected"
      "$.capability")
  require (result.procedureUri = request.adapterProcedureUri) (.evidence .procedureMismatch
    "verification result procedure differs from the request" "$.procedure_uri")

end Evidence

end Ucf
