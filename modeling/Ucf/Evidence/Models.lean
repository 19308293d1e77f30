import Ucf.Onboarding.Bundle
import Ucf.Ir.TrustCanonical

/-! The documents of implementation evidence: which source records implement the entities of a
behavior, and what came out when one of these was executed. -/

namespace Ucf

def implementationEvidenceVersion : String := "1.0.0"

def implementationMappingCapability : String := "org.ucf.adapter.mapping"

def implementationMappingRequestSchemaUri : String :=
  "urn:ucf:adapter:implementation-mapping-request:1.0.0"

def implementationMappingResultSchemaUri : String :=
  "urn:ucf:adapter:implementation-mapping-result:1.0.0"

def implementationMappingProcedureUri : String := "urn:ucf:implementation-evidence:map:1.0.0"

def executionVerificationCapability : String := "org.ucf.adapter.verification"

def executionVerificationRequestSchemaUri : String :=
  "urn:ucf:adapter:execution-verification-request:1.0.0"

def executionVerificationResultSchemaUri : String :=
  "urn:ucf:adapter:execution-verification-result:1.0.0"

def executionVerificationProcedureUri : String := "urn:ucf:implementation-evidence:verify:1.0.0"

def maxImplementationBindings : Nat := 256

abbrev ImplementationMappingResultId : Type := ContentId "mapping"

abbrev ExecutionVerificationResultId : Type := ContentId "result"

/-- A part of a URN: a character of one class, then characters of another one. -/
def matchUrnPart (isFirst isRest : Char → Bool) : List Char → Bool
  | [] => false
  | c :: cs => isFirst c && cs.all isRest

/-- `_VERSIONED_URN_PATTERN` -/
def matchVersionedUrn (cs : List Char) : Bool :=
  match splitOn ':' cs with
  | scheme :: authority :: rest =>
    scheme = "urn".toList &&
      matchUrnPart isLower (fun c => isLowerAlnum c || c ∈ ['.', '-']) authority &&
      2 ≤ rest.length &&
      (rest.dropLast.all
        (matchUrnPart isLowerAlnum fun c => isLowerAlnum c || c ∈ ['.', '_', '-'])) &&
      rest.getLast?.any matchVersion
  | _ => false

/-- A URI that must be an explicitly versioned URN. -/
abbrev VersionedURN : Type := Checked (andThen uriConstraints matchVersionedUrn)

/-- Keys without repetition, in their order. -/
def requireCanonical {κ : Type} [LinearOrder κ] (keys : List κ) (duplicate order : String) :
    Except String Unit := do
  require keys.Nodup duplicate
  require (keys = sortedBy id keys) order

theorem requireCanonical_eq_ok {κ : Type} [LinearOrder κ] {keys : List κ}
    {duplicate order : String} {u : Unit} : requireCanonical keys duplicate order = .ok u ↔
      keys.Pairwise (· < ·) := by
  rw [← nodup_and_eq_sortedBy_iff]
  simp only [requireCanonical, bind_eq_ok, require_eq_ok, exists_const]

/-- The key by which references to behavior entities are sorted. -/
def behaviorRefKey (ref : BehaviorEntityRef) : String ×ₗ String :=
  toLex (ref.targetKind.value, ref.targetId.val)

/-- A capability of the profile, in its one version. -/
def isEvidenceCapability (name : String) (capability : CapabilitySelection) : Prop :=
  capability.name.val = name ∧ capability.version.val = implementationEvidenceVersion

instance (name : String) (capability : CapabilitySelection) :
    Decidable (isEvidenceCapability name capability) := inferInstanceAs (Decidable (_ ∧ _))

/-! ### Mappings -/

structure OnboardingBundleBinding where
  canonicalDigest : Digest
deriving DecidableEq

instance : Model OnboardingBundleBinding :=
  .record (.lit "kind" "onboarding_bundle_binding" <| .lit "schema_uri" onboardingBundleSchemaUri <|
      .lit "schema_version" onboardingVersion <| .required "canonical_digest" .nil)
    (fun b => (b.canonicalDigest, ())) (fun (digest, ()) => ⟨digest⟩)

/-- `ImplementationMappingRequest.validate_profile_coordinates` -/
def validateMappingRequest (capability : CapabilitySelection) (targets : List BehaviorEntityRef) :
    Except String Unit := do
  require (isEvidenceCapability implementationMappingCapability capability)
    "mapping request requires the exact mapping capability"
  requireCanonical (targets.map behaviorRefKey) "mapping request contains duplicate targets"
    "mapping request targets are not in canonical order"

/-- `ImplementationBinding.validate_source_records` -/
def validateSourceRecords (records : List InventoryRecordRef) : Except String Unit :=
  requireCanonical (records.map inventoryRefKey)
    "implementation binding contains duplicate source records"
    "implementation binding source records are not in canonical order"

structure ImplementationBinding where
  behavior : BehaviorEntityRef
  sourceRecords : Tuple 1 maxImplementationBindings InventoryRecordRef
  valid : validateSourceRecords sourceRecords.items = .ok ()
deriving DecidableEq

instance : Model ImplementationBinding :=
  .recordWhere (.lit "kind" "implementation_binding" <| .required "behavior" <|
      .required "source_records" .nil)
    (fun (_, records, ()) => validateSourceRecords records.items = .ok ())
    (fun b => ⟨(b.behavior, b.sourceRecords, ()), b.valid⟩)
    (fun ⟨(behavior, records, ()), h⟩ => ⟨behavior, records, h⟩)

/-- `ImplementationSource.validate_records` -/
def validateImplementationSource (records : List InventoryRecordRef) : Except String Unit :=
  requireCanonical (records.map inventoryRefKey)
    "implementation source contains duplicate records"
    "implementation source records are not in canonical order"

structure ImplementationSource where
  subjectUri : URI
  sourceRevision : Digest
  records : Tuple 1 maxImplementationBindings InventoryRecordRef
  valid : validateImplementationSource records.items = .ok ()
deriving DecidableEq

instance : Model ImplementationSource :=
  .recordWhere (.lit "kind" "implementation_source" <| .required "subject_uri" <|
      .required "source_revision" <| .required "records" .nil)
    (fun (_, _, records, ()) => validateImplementationSource records.items = .ok ())
    (fun s => ⟨(s.subjectUri, s.sourceRevision, s.records, ()), s.valid⟩)
    (fun ⟨(uri, revision, records, ()), h⟩ => ⟨uri, revision, records, h⟩)

structure ImplementationMappingResultRef where
  targetId : ImplementationMappingResultId
  canonicalDigest : Digest
deriving DecidableEq

instance : Model ImplementationMappingResultRef :=
  .record (.lit "kind" "implementation_mapping_result_ref" <|
      .lit "schema_uri" implementationMappingResultSchemaUri <|
      .lit "schema_version" implementationEvidenceVersion <| .required "target_id" <|
      .required "canonical_digest" .nil)
    (fun r => (r.targetId, r.canonicalDigest, ())) (fun (id, digest, ()) => ⟨id, digest⟩)

section Mapping

variable [Unicodedata] [Hashlib]

deriving instance DecidableEq for InventorySnapshot

structure ImplementationMappingRequest where
  capability : CapabilitySelection
  adapterProcedureUri : VersionedURN
  onboarding : OnboardingBundleBinding
  behavior : BehaviorIR
  inventory : InventorySnapshot
  targets : Tuple 1 maxImplementationBindings BehaviorEntityRef
  valid : validateMappingRequest capability targets.items = .ok ()
deriving DecidableEq

instance : Model ImplementationMappingRequest :=
  .recordWhere (.lit "kind" "implementation_mapping_request" <|
      .lit "implementation_evidence_version" implementationEvidenceVersion <|
      .lit "schema_uri" implementationMappingRequestSchemaUri <| .required "capability" <|
      .lit "profile_procedure_uri" implementationMappingProcedureUri <|
      .required "adapter_procedure_uri" <| .required "onboarding" <| .required "behavior" <|
      .required "inventory" <| .required "targets" .nil)
    (fun (capability, _, _, _, _, targets, ()) =>
      validateMappingRequest capability targets.items = .ok ())
    (fun r => ⟨(r.capability, r.adapterProcedureUri, r.onboarding, r.behavior, r.inventory,
      r.targets, ()), r.valid⟩)
    (fun ⟨(capability, uri, onboarding, behavior, inventory, targets, ()), h⟩ =>
      ⟨capability, uri, onboarding, behavior, inventory, targets, h⟩)

/-- `ImplementationMappingResult.validate_profile_coordinates` -/
def validateMappingResult (request : ImplementationMappingRequest)
    (capability : CapabilitySelection) (procedureUri : VersionedURN)
    (bindings : List ImplementationBinding) : Except String Unit := do
  require (isEvidenceCapability implementationMappingCapability capability)
    "mapping result requires the exact mapping capability"
  require (procedureUri = request.adapterProcedureUri)
    "mapping result procedure differs from the request"
  requireCanonical (bindings.map fun binding => behaviorRefKey binding.behavior)
    "mapping result contains duplicate bindings" "mapping result bindings are not in canonical order"

structure ImplementationMappingResult where
  id : ImplementationMappingResultId
  request : ImplementationMappingRequest
  producer : Producer
  capability : CapabilitySelection
  procedureUri : VersionedURN
  bindings : Tuple 1 maxImplementationBindings ImplementationBinding
  valid : validateMappingResult request capability procedureUri bindings.items = .ok ()
deriving DecidableEq

instance : Model ImplementationMappingResult :=
  .recordWhere (.lit "kind" "implementation_mapping_result" <|
      .lit "implementation_evidence_version" implementationEvidenceVersion <|
      .lit "schema_uri" implementationMappingResultSchemaUri <| .required "id" <|
      .lit "status" "complete" <| .required "request" <| .required "producer" <|
      .required "capability" <| .required "procedure_uri" <| .required "bindings" .nil)
    (fun (_, request, _, capability, uri, bindings, ()) =>
      validateMappingResult request capability uri bindings.items = .ok ())
    (fun r => ⟨(r.id, r.request, r.producer, r.capability, r.procedureUri, r.bindings, ()),
      r.valid⟩)
    (fun ⟨(id, request, producer, capability, uri, bindings, ()), h⟩ =>
      ⟨id, request, producer, capability, uri, bindings, h⟩)

end Mapping

/-! ### Executions -/

structure ExecutionEnvironment where
  identityUri : VersionedURN
  revision : Digest
deriving DecidableEq

instance : Model ExecutionEnvironment :=
  .record (.lit "kind" "execution_environment" <| .required "identity_uri" <|
      .required "revision" .nil)
    (fun e => (e.identityUri, e.revision, ())) (fun (uri, revision, ()) => ⟨uri, revision⟩)

namespace IRValue

mutual

/-- `_validate_canonical_ir_value` -/
def isCanonical : IRValue → Bool
  | .scalar _ => true
  | .list items => isCanonicalItems items
  | .record entries =>
    let names : List String := entries.map fun entry => entry.1.val
    names = sortedBy id names && isCanonicalEntries entries

def isCanonicalItems : List IRValue → Bool
  | [] => true
  | item :: items => isCanonical item && isCanonicalItems items

def isCanonicalEntries : List (Identifier × IRValue) → Bool
  | [] => true
  | (_, value) :: entries => isCanonical value && isCanonicalEntries entries

end

end IRValue

/-- `ExecutionPortValue.validate_value` -/
def isExecutionValue (value : IRValue) : Prop :=
  validateIrValue value = .ok () ∧ value.isCanonical = true

instance (value : IRValue) : Decidable (isExecutionValue value) :=
  inferInstanceAs (Decidable (_ ∧ _))

structure ExecutionPortValue where
  port : PortRef
  value : IRValue
  valid : isExecutionValue value
deriving DecidableEq

instance : Model ExecutionPortValue :=
  .recordWhere (.lit "kind" "execution_port_value" <| .required "port" <| .required "value" .nil)
    (fun (_, value, ()) => isExecutionValue value)
    (fun v => ⟨(v.port, v.value, ()), v.valid⟩) (fun ⟨(port, value, ()), h⟩ => ⟨port, value, h⟩)

/-- The key by which port values are sorted. -/
def portValueKey (value : ExecutionPortValue) : String ×ₗ String ×ₗ String ×ₗ String :=
  toLex (value.port.owner.targetKind.value, toLex (value.port.owner.targetId.val,
    toLex (value.port.direction.value, value.port.name.val)))

/-- `ExecutionVerificationRequest._validate_port_values` -/
def validateRequestValues (subject : BehaviorEntityRef) (values : List ExecutionPortValue)
    (direction : Direction) : Except String Unit := do
  let about (message : String) := "verification " ++ direction.value ++ " " ++ message
  requireCanonical (values.map portValueKey) (about "values contain duplicate ports")
    (about "values are not in canonical order")
  checkEach (fun (_ : Nat) (value : ExecutionPortValue) => do
    require (value.port.direction = direction) (about "value has wrong direction")
    require (value.port.owner.targetKind = subject.targetKind ∧
        value.port.owner.targetId = subject.targetId)
      (about "value owner differs from subject")) values

/-- `ExecutionVerificationRequest.validate_profile_coordinates` -/
def validateVerificationRequest (capability : CapabilitySelection)
    (baseBehavior : BehaviorDocumentRef) (subject : BehaviorEntityRef)
    (inputs expectedOutputs : List ExecutionPortValue) (check : Check) : Except String Unit := do
  require (isEvidenceCapability executionVerificationCapability capability)
    "verification request requires the exact verification capability"
  require (matchVersionedUrn check.procedureUri.val.toList = true)
    "verification check procedure must be an explicitly versioned URN"
  require (subject.documentId = baseBehavior.documentId ∧
      subject.canonicalDigest = baseBehavior.canonicalDigest)
    "verification subject does not bind the base behavior"
  validateRequestValues subject inputs .input
  validateRequestValues subject expectedOutputs .output

structure ExecutionVerificationRequest where
  capability : CapabilitySelection
  adapterProcedureUri : VersionedURN
  mapping : ImplementationMappingResultRef
  baseBehavior : BehaviorDocumentRef
  subject : BehaviorEntityRef
  inputs : Tuple 0 maxImplementationBindings ExecutionPortValue
  expectedOutputs : Tuple 0 maxImplementationBindings ExecutionPortValue
  source : ImplementationSource
  environment : ExecutionEnvironment
  check : Check
  valid : validateVerificationRequest capability baseBehavior subject inputs.items
    expectedOutputs.items check = .ok ()
deriving DecidableEq

instance : Model ExecutionVerificationRequest :=
  .recordWhere (.lit "kind" "execution_verification_request" <|
      .lit "implementation_evidence_version" implementationEvidenceVersion <|
      .lit "schema_uri" executionVerificationRequestSchemaUri <| .required "capability" <|
      .lit "profile_procedure_uri" executionVerificationProcedureUri <|
      .required "adapter_procedure_uri" <| .required "mapping" <| .required "base_behavior" <|
      .required "subject" <| .required "inputs" <| .required "expected_outputs" <|
      .required "source" <| .required "environment" <| .required "check" .nil)
    (fun (capability, _, _, base, subject, inputs, outputs, _, _, check, ()) =>
      validateVerificationRequest capability base subject inputs.items outputs.items check = .ok ())
    (fun r => ⟨(r.capability, r.adapterProcedureUri, r.mapping, r.baseBehavior, r.subject,
      r.inputs, r.expectedOutputs, r.source, r.environment, r.check, ()), r.valid⟩)
    (fun ⟨(capability, uri, mapping, base, subject, inputs, outputs, source, environment, check,
        ()), h⟩ =>
      ⟨capability, uri, mapping, base, subject, inputs, outputs, source, environment, check, h⟩)

inductive ExecutionOutcome where
  | passed
  | failed
  | error
deriving DecidableEq, Repr

def ExecutionOutcome.value : ExecutionOutcome → String
  | passed => "passed"
  | failed => "failed"
  | error => "error"

instance : Model ExecutionOutcome := .enum [.passed, .failed, .error] ExecutionOutcome.value

/-- `ExecutionVerificationResult.validate_profile_coordinates` -/
def validateVerificationResult (request : ExecutionVerificationRequest)
    (capability : CapabilitySelection) (procedureUri : VersionedURN) : Except String Unit := do
  require (isEvidenceCapability executionVerificationCapability capability)
    "verification result requires the exact verification capability"
  require (procedureUri = request.adapterProcedureUri)
    "verification result procedure differs from the request"

structure ExecutionVerificationResult where
  id : ExecutionVerificationResultId
  request : ExecutionVerificationRequest
  outcome : ExecutionOutcome
  executedAt : Timestamp
  producer : Producer
  capability : CapabilitySelection
  procedureUri : VersionedURN
  valid : validateVerificationResult request capability procedureUri = .ok ()
deriving DecidableEq

instance : Model ExecutionVerificationResult :=
  .recordWhere (.lit "kind" "execution_verification_result" <|
      .lit "implementation_evidence_version" implementationEvidenceVersion <|
      .lit "schema_uri" executionVerificationResultSchemaUri <| .required "id" <|
      .lit "status" "completed" <| .required "request" <| .required "outcome" <|
      .required "executed_at" <| .required "producer" <| .required "capability" <|
      .required "procedure_uri" .nil)
    (fun (_, request, _, _, _, capability, uri, ()) =>
      validateVerificationResult request capability uri = .ok ())
    (fun r => ⟨(r.id, r.request, r.outcome, r.executedAt, r.producer, r.capability,
      r.procedureUri, ()), r.valid⟩)
    (fun ⟨(id, request, outcome, executedAt, producer, capability, uri, ()), h⟩ =>
      ⟨id, request, outcome, executedAt, producer, capability, uri, h⟩)

end Ucf
