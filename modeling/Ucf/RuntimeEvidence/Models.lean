import Ucf.Adapter.Errors
import Ucf.Evidence.Models

/-! The documents of runtime evidence: a policy of rules that say what may be observed of a behavior,
a request to import observations under it, and the result. -/

namespace Ucf

def runtimeEvidenceVersion : String := "1.0.0"

def runtimeEvidenceCapability : String := "org.ucf.adapter.runtime-evidence"

def runtimeEvidencePolicySchemaUri : String := "urn:ucf:runtime-evidence:policy:1.0.0"

def runtimeEvidenceEnvironmentSchemaUri : String := "urn:ucf:runtime-evidence:environment:1.0.0"

def runtimeEvidenceRequestSchemaUri : String := "urn:ucf:adapter:runtime-evidence-request:1.0.0"

def runtimeEvidenceResultSchemaUri : String := "urn:ucf:adapter:runtime-evidence-result:1.0.0"

def runtimeEvidenceImportProcedureUri : String := "urn:ucf:runtime-evidence:recorded-import:1.0.0"

def maxRuntimeEvidenceRules : Nat := 64

def maxRuntimeStringValueLength : Nat := 128

def maxRuntimeTargetPath : Nat := 16

/-- `Literal[False]` -/
abbrev LiteralFalse : Type := { b : Bool // b = false }

instance : Model LiteralFalse := .refine "literal_error" fun b : Bool => b = false

/-- `Literal[0]` -/
abbrev LiteralZero : Type := { n : SafeInteger // n.val = 0 }

instance : Model LiteralZero := .refine "literal_error" fun n : SafeInteger => n.val = 0

/-- A letter or digit of either case. -/
def isAlnum (c : Char) : Bool := isLowerAlnum c || 'A' ≤ c && c ≤ 'Z'

/-- `_SAFE_OPAQUE_URN_PATTERN` -/
def matchOpaqueUrn (cs : List Char) : Bool :=
  match splitOn ':' cs with
  | scheme :: authority :: rest =>
    scheme = "urn".toList &&
      matchUrnPart isLower (fun c => isLowerAlnum c || c ∈ ['.', '-']) authority &&
      1 ≤ rest.length &&
      rest.all (matchUrnPart isAlnum fun c => isAlnum c || c ∈ ['.', '_', '-'])
  | _ => false

/-- A URI that must be a safe opaque URN. -/
abbrev OpaqueURN : Type := Checked (andThen uriConstraints matchOpaqueUrn)

abbrev RuntimeEvidenceResultId : Type := ContentId "result"

/-! ### Policies -/

/-- The values that a rule may assert: booleans, integers and short semantic tokens. -/
def isRuntimeValue : IRValue → Bool
  | .scalar (.boolean _) => true
  | .scalar (.integer _) => true
  | .scalar (.string value) =>
    value.value.toList.length ≤ maxRuntimeStringValueLength &&
      matchName (fun c => c ∈ ['.', '_', '-']) value.value.toList
  | _ => false

/-- `RuntimeObservationRule.validate_assertion` -/
def validateRuntimeRule (subject : BehaviorEntityRef) (assertion : FactAssertion) :
    Except String Unit := do
  require (subject.targetKind = .observation)
    "runtime observation rule must target an observation entity"
  require (1 ≤ assertion.target.path.length ∧ assertion.target.path.length ≤ maxRuntimeTargetPath)
    "runtime observation target path is outside supported bounds"
  require (isRuntimeValue assertion.value = true)
    (if assertion.value.valueKind = .string then
      "runtime observation string value is not a bounded semantic token"
    else "runtime observation value kind is not supported")

structure RuntimeObservationRule where
  id : Identifier
  selectorUri : VersionedURN
  subject : BehaviorEntityRef
  assertion : FactAssertion
  valid : validateRuntimeRule subject assertion = .ok ()
deriving DecidableEq

instance : Model RuntimeObservationRule :=
  .recordWhere (.lit "kind" "runtime_observation_rule" <| .required "id" <|
      .required "selector_uri" <| .required "subject" <| .required "assertion" .nil)
    (fun (_, _, subject, assertion, ()) => validateRuntimeRule subject assertion = .ok ())
    (fun r => ⟨(r.id, r.selectorUri, r.subject, r.assertion, ()), r.valid⟩)
    (fun ⟨(id, uri, subject, assertion, ()), h⟩ => ⟨id, uri, subject, assertion, h⟩)

/-- What a rule projects to. -/
def RuntimeObservationRule.projection (rule : RuntimeObservationRule) :
    BehaviorEntityRef × FactAssertion :=
  (rule.subject, rule.assertion)

/-- The behavior document of a rule's subject. -/
def RuntimeObservationRule.document (rule : RuntimeObservationRule) : BehaviorDocumentRef :=
  ⟨rule.subject.documentId, rule.subject.canonicalDigest⟩

/-- `RuntimeEvidencePolicy.validate_rules` -/
def validateRuntimePolicy (rules : List RuntimeObservationRule) : Except String Unit := do
  requireCanonical (rules.map fun rule => rule.id.val)
    "runtime evidence policy contains duplicate rules"
    "runtime evidence policy rules are not in canonical order"
  require (rules.map RuntimeObservationRule.selectorUri).Nodup
    "runtime evidence policy contains duplicate selectors"
  require (rules.map RuntimeObservationRule.projection).Nodup
    "runtime evidence policy contains duplicate projections"
  require ((rules.map RuntimeObservationRule.document).dedup.length = 1)
    "runtime evidence policy rules must bind one behavior document"

structure RuntimeEvidencePolicy where
  policyUri : VersionedURN
  rules : Tuple 1 maxRuntimeEvidenceRules RuntimeObservationRule
  valid : validateRuntimePolicy rules.items = .ok ()
deriving DecidableEq

instance : Model RuntimeEvidencePolicy :=
  .recordWhere (.lit "kind" "runtime_evidence_policy" <|
      .lit "runtime_evidence_version" runtimeEvidenceVersion <|
      .lit "schema_uri" runtimeEvidencePolicySchemaUri <| .required "policy_uri" <|
      .lit "secret_handling" "reject" <| .lit "personal_data_handling" "reject" <|
      .lit "unselected_handling" "omit" <| .lit "raw_retention" "none" <| .required "rules" .nil)
    (fun (_, rules, ()) => validateRuntimePolicy rules.items = .ok ())
    (fun p => ⟨(p.policyUri, p.rules, ()), p.valid⟩) (fun ⟨(uri, rules, ()), h⟩ => ⟨uri, rules, h⟩)

/-! ### Requests -/

structure RuntimeEnvironment where
  environmentUri : VersionedURN
  revision : Digest
deriving DecidableEq

instance : Model RuntimeEnvironment :=
  .record (.lit "kind" "runtime_environment" <|
      .lit "runtime_evidence_version" runtimeEvidenceVersion <|
      .lit "schema_uri" runtimeEvidenceEnvironmentSchemaUri <| .required "environment_uri" <|
      .required "revision" .nil)
    (fun e => (e.environmentUri, e.revision, ())) (fun (uri, revision, ()) => ⟨uri, revision⟩)

structure RuntimeEnvironmentRef where
  environmentUri : VersionedURN
  revision : Digest
  canonicalDigest : Digest
deriving DecidableEq

instance : Model RuntimeEnvironmentRef :=
  .record (.lit "kind" "runtime_environment_ref" <|
      .lit "schema_uri" runtimeEvidenceEnvironmentSchemaUri <|
      .lit "schema_version" runtimeEvidenceVersion <| .required "environment_uri" <|
      .required "revision" <| .required "canonical_digest" .nil)
    (fun r => (r.environmentUri, r.revision, r.canonicalDigest, ()))
    (fun (uri, revision, digest, ()) => ⟨uri, revision, digest⟩)

/-- `RuntimeSource`; every timestamp is a valid date and time already. -/
structure RuntimeSource where
  sourceUri : OpaqueURN
  sourceRevision : Digest
  capturedAt : Timestamp
deriving DecidableEq

instance : Model RuntimeSource :=
  .record (.lit "kind" "runtime_source" <| .required "source_uri" <|
      .required "source_revision" <| .required "captured_at" .nil)
    (fun s => (s.sourceUri, s.sourceRevision, s.capturedAt, ()))
    (fun (uri, revision, capturedAt, ()) => ⟨uri, revision, capturedAt⟩)

structure RuntimeSamplingScope where
  procedureUri : VersionedURN
  totalKnown : LiteralFalse
deriving DecidableEq

instance : Model RuntimeSamplingScope :=
  .record (.lit "kind" "runtime_sampling_scope" <| .required "procedure_uri" <|
      .lit "completeness" "partial" <| .required "total_known" .nil)
    (fun s => (s.procedureUri, s.totalKnown, ())) (fun (uri, known, ()) => ⟨uri, known⟩)

/-- The profile's capability, in its one version. -/
def isRuntimeCapability (capability : CapabilitySelection) : Prop :=
  capability.name.val = runtimeEvidenceCapability ∧ capability.version.val = runtimeEvidenceVersion

instance (capability : CapabilitySelection) : Decidable (isRuntimeCapability capability) :=
  inferInstanceAs (Decidable (_ ∧ _))

/-- `RuntimeEvidenceImportRequest.validate_coordinates` -/
def validateImportRequest (capability : CapabilitySelection) (behavior : BehaviorDocumentRef)
    (rules : List RuntimeObservationRule) : Except String Unit := do
  require (isRuntimeCapability capability)
    "runtime evidence request requires the exact profile capability"
  require (∀ rule ∈ rules, rule.document = behavior)
    "runtime evidence policy does not bind the request behavior"

structure RuntimeEvidenceImportRequest where
  capability : CapabilitySelection
  behavior : BehaviorDocumentRef
  source : RuntimeSource
  environment : RuntimeEnvironmentRef
  sampling : RuntimeSamplingScope
  policy : RuntimeEvidencePolicy
  adapterProcedureUri : VersionedURN
  valid : validateImportRequest capability behavior policy.rules.items = .ok ()
deriving DecidableEq

instance : Model RuntimeEvidenceImportRequest :=
  .recordWhere (.lit "kind" "runtime_evidence_import_request" <|
      .lit "runtime_evidence_version" runtimeEvidenceVersion <|
      .lit "schema_uri" runtimeEvidenceRequestSchemaUri <| .required "capability" <|
      .required "behavior" <| .required "source" <| .required "environment" <|
      .required "sampling" <| .required "policy" <|
      .lit "procedure_uri" runtimeEvidenceImportProcedureUri <|
      .required "adapter_procedure_uri" .nil)
    (fun (capability, behavior, _, _, _, policy, _, ()) =>
      validateImportRequest capability behavior policy.rules.items = .ok ())
    (fun r => ⟨(r.capability, r.behavior, r.source, r.environment, r.sampling, r.policy,
      r.adapterProcedureUri, ()), r.valid⟩)
    (fun ⟨(capability, behavior, source, environment, sampling, policy, uri, ()), h⟩ =>
      ⟨capability, behavior, source, environment, sampling, policy, uri, h⟩)

/-! ### Results -/

structure RuntimeObservationRuleRef where
  targetId : Identifier
deriving DecidableEq

instance : Model RuntimeObservationRuleRef :=
  .record (.lit "kind" "runtime_observation_rule_ref" <| .required "target_id" .nil)
    (fun r => (r.targetId, ())) (fun (id, ()) => ⟨id⟩)

structure RuntimeObservation where
  rule : RuntimeObservationRuleRef
deriving DecidableEq

instance : Model RuntimeObservation :=
  .record (.lit "kind" "runtime_observation" <| .required "rule" .nil)
    (fun o => (o.rule, ())) (fun (rule, ()) => ⟨rule⟩)

/-- `Annotated[SafeInteger, Field(ge=1, le=MAX_RUNTIME_EVIDENCE_RULES)]` -/
abbrev RuleCount : Type := { n : Nat // 1 ≤ n ∧ n ≤ 64 }

instance : Model RuleCount := ⟨.nat 1 64 (by decide), fun _ => nofun⟩

structure RuntimeSanitizationSummary where
  selectedRuleCount : RuleCount
  forbiddenMatchCount : LiteralZero
  rawRetained : LiteralFalse
deriving DecidableEq

instance : Model RuntimeSanitizationSummary :=
  .record (.lit "kind" "runtime_sanitization_summary" <| .required "selected_rule_count" <|
      .required "forbidden_match_count" <| .required "raw_retained" .nil)
    (fun s => (s.selectedRuleCount, s.forbiddenMatchCount, s.rawRetained, ()))
    (fun (count, forbidden, raw, ()) => ⟨count, forbidden, raw⟩)

inductive RuntimePolicyRejectionCode where
  | selectedPersonalData
  | selectedSecret
  | selectedValueNotAllowed
deriving DecidableEq, Repr

def RuntimePolicyRejectionCode.value : RuntimePolicyRejectionCode → String
  | selectedPersonalData => "selected_personal_data"
  | selectedSecret => "selected_secret"
  | selectedValueNotAllowed => "selected_value_not_allowed"

instance : Model RuntimePolicyRejectionCode :=
  .enum [.selectedPersonalData, .selectedSecret, .selectedValueNotAllowed]
    RuntimePolicyRejectionCode.value

/-- `_RuntimeEvidenceResultBase.validate_profile_coordinates` -/
def validateRuntimeResult (request : RuntimeEvidenceImportRequest)
    (capability : CapabilitySelection) (procedureUri : VersionedURN) : Except String Unit := do
  require (isRuntimeCapability capability)
    "runtime evidence result requires the exact profile capability"
  require (procedureUri = request.adapterProcedureUri)
    "runtime evidence result procedure differs from the request"

structure RuntimeEvidenceAcceptedResult where
  id : RuntimeEvidenceResultId
  request : RuntimeEvidenceImportRequest
  producer : Producer
  capability : CapabilitySelection
  procedureUri : VersionedURN
  sanitization : RuntimeSanitizationSummary
  observations : Tuple 1 maxRuntimeEvidenceRules RuntimeObservation
  valid : validateRuntimeResult request capability procedureUri = .ok ()
deriving DecidableEq

instance : Model RuntimeEvidenceAcceptedResult :=
  .recordWhere (.lit "kind" "runtime_evidence_result" <|
      .lit "runtime_evidence_version" runtimeEvidenceVersion <|
      .lit "schema_uri" runtimeEvidenceResultSchemaUri <| .required "id" <| .required "request" <|
      .required "producer" <| .required "capability" <| .required "procedure_uri" <|
      .lit "status" "accepted" <| .required "sanitization" <| .required "observations" .nil)
    (fun (_, request, _, capability, uri, _, _, ()) =>
      validateRuntimeResult request capability uri = .ok ())
    (fun r => ⟨(r.id, r.request, r.producer, r.capability, r.procedureUri, r.sanitization,
      r.observations, ()), r.valid⟩)
    (fun ⟨(id, request, producer, capability, uri, sanitization, observations, ()), h⟩ =>
      ⟨id, request, producer, capability, uri, sanitization, observations, h⟩)

structure RuntimeEvidenceRejectedResult where
  id : RuntimeEvidenceResultId
  request : RuntimeEvidenceImportRequest
  producer : Producer
  capability : CapabilitySelection
  procedureUri : VersionedURN
  reasonCodes : Tuple 1 3 RuntimePolicyRejectionCode
  valid : validateRuntimeResult request capability procedureUri = .ok ()
deriving DecidableEq

instance : Model RuntimeEvidenceRejectedResult :=
  .recordWhere (.lit "kind" "runtime_evidence_result" <|
      .lit "runtime_evidence_version" runtimeEvidenceVersion <|
      .lit "schema_uri" runtimeEvidenceResultSchemaUri <| .required "id" <| .required "request" <|
      .required "producer" <| .required "capability" <| .required "procedure_uri" <|
      .lit "status" "rejected" <| .required "reason_codes" .nil)
    (fun (_, request, _, capability, uri, _, ()) =>
      validateRuntimeResult request capability uri = .ok ())
    (fun r => ⟨(r.id, r.request, r.producer, r.capability, r.procedureUri, r.reasonCodes, ()),
      r.valid⟩)
    (fun ⟨(id, request, producer, capability, uri, reasons, ()), h⟩ =>
      ⟨id, request, producer, capability, uri, reasons, h⟩)

inductive RuntimeEvidenceResult where
  | accepted (result : RuntimeEvidenceAcceptedResult)
  | rejected (result : RuntimeEvidenceRejectedResult)
deriving DecidableEq

namespace RuntimeEvidenceResult

def id : RuntimeEvidenceResult → RuntimeEvidenceResultId
  | accepted r => r.id
  | rejected r => r.id

def request : RuntimeEvidenceResult → RuntimeEvidenceImportRequest
  | accepted r => r.request
  | rejected r => r.request

def producer : RuntimeEvidenceResult → Producer
  | accepted r => r.producer
  | rejected r => r.producer

/-- `result.model_dump(mode="json")` -/
def dump : RuntimeEvidenceResult → Json
  | accepted r => modelDump r
  | rejected r => modelDump r

end RuntimeEvidenceResult

end Ucf
