import Ucf.RuntimeEvidence.Models

/-! The validation of runtime evidence: a request against the behavior and the environment that it
names, and a result against its request. -/

namespace Ucf

open Adapter (versionAtLeast)

/-- The codes of `ucf.runtime_evidence.errors.RuntimeEvidenceErrorCode` -/
inductive RuntimeEvidenceErrorCode where
  | documentIdentityMismatch
  | environmentIdentityMismatch
  | brokenReference
  | wrongTargetKind
  | assertionMismatch
  | contentIdentityMismatch
  | duplicateIdentity
  | nonCanonicalOrder
  | summaryMismatch
  | requestIdentityMismatch
  | producerIdentityMismatch
  | capabilityMismatch
  | sourceIdentityMismatch
  | resultStatusMismatch
deriving DecidableEq, Repr

/-- What is raised: `RuntimeEvidenceValidationError`, or what the validation of the IR documents
raises. -/
inductive RuntimeEvidenceError where
  | evidence (code : RuntimeEvidenceErrorCode) (message location : String)
  | embedded (error : PyError)
deriving DecidableEq, Repr

open RuntimeEvidenceError (evidence)

variable [Hashlib]

/-- `canonical_runtime_evidence_digest` of a document with this JSON form -/
def canonicalRuntimeEvidenceDigest (dumped : Json) : Digest := ⟨identityDigest dumped⟩

/-- `derive_runtime_evidence_result_id` -/
def deriveRuntimeEvidenceResultId (result : RuntimeEvidenceResult) : RuntimeEvidenceResultId :=
  ⟨identityDigest (result.dump.exclude ["id"])⟩

/-! ### Requests -/

/-- `_validate_behavior_binding`; both documents have the only version of Behavior IR there is. -/
def validateBehaviorBinding (request : RuntimeEvidenceImportRequest) (behavior : BehaviorIR) :
    Except RuntimeEvidenceError Unit := do
  let mismatch (field : String) : RuntimeEvidenceError := evidence .documentIdentityMismatch
    ("request behavior " ++ field ++ " differs from supplied behavior") ("$.behavior." ++ field)
  require (request.behavior.documentId = behavior.documentId) (mismatch "document_id")
  require (request.behavior.canonicalDigest.value = canonicalIrDigest behavior)
    (mismatch "canonical_digest")

/-- `_validate_environment_binding` -/
def validateEnvironmentBinding (request : RuntimeEvidenceImportRequest)
    (environment : RuntimeEnvironment) : Except RuntimeEvidenceError Unit := do
  let mismatch (field : String) : RuntimeEvidenceError := evidence .environmentIdentityMismatch
    ("request environment " ++ field ++ " differs from supplied environment")
    ("$.environment." ++ field)
  let bound := request.environment
  require (bound.environmentUri = environment.environmentUri) (mismatch "environment_uri")
  require (bound.revision = environment.revision) (mismatch "revision")
  require (bound.canonicalDigest = canonicalRuntimeEvidenceDigest (modelDump environment))
    (mismatch "canonical_digest")

/-- The body of the loop of `validate_runtime_evidence_request` over the rules. -/
def validateRequestRule (request : RuntimeEvidenceImportRequest) (index : EntityIndex)
    (position : Nat) (rule : RuntimeObservationRule) : Except RuntimeEvidenceError Unit := do
  let location := at_ "$.policy.rules" position
  require (rule.document = request.behavior) (evidence .documentIdentityMismatch
    "policy subject does not bind the request behavior" (location ++ ".subject"))
  let target ← orRaise (index.get? rule.subject.targetId) (evidence .brokenReference
    "runtime observation subject does not exist" (location ++ ".subject"))
  match target with
  | .observation target =>
    require (rule.assertion.target = target.target ∧ rule.assertion.value = target.value)
      (evidence .assertionMismatch "runtime observation assertion differs from declared slot"
        (location ++ ".assertion"))
  | _ => throw (evidence .wrongTargetKind
      "runtime observation subject does not resolve to observation"
      (location ++ ".subject.target_kind"))

/-- `validate_runtime_evidence_request` -/
def validateRuntimeEvidenceRequest (request : RuntimeEvidenceImportRequest)
    (behavior : BehaviorIR) (environment : RuntimeEnvironment) :
    Except RuntimeEvidenceError Unit := do
  validateBehaviorBinding request behavior
  validateEnvironmentBinding request environment
  checkEach (validateRequestRule request (Dict.index Entity.id behavior.entities))
    request.policy.rules.items

/-! ### Results -/

/-- A tuple without repetition, in its order. -/
def validateCanonicalTuple (keys : List String) (duplicate order location : String) :
    Except RuntimeEvidenceError Unit := do
  require keys.Nodup (evidence .duplicateIdentity duplicate location)
  require (keys = sortedBy id keys) (evidence .nonCanonicalOrder order location)

/-- `validate_runtime_evidence_result_structure` -/
def validateRuntimeEvidenceResultStructure (result : RuntimeEvidenceResult) :
    Except RuntimeEvidenceError Unit := do
  match result with
  | .accepted result => do
    let observations := result.observations.items
    validateCanonicalTuple (observations.map fun observation => observation.rule.targetId.val)
      "runtime evidence observations contain duplicate rule refs"
      "runtime evidence observations are not in canonical order" "$.observations"
    require (result.sanitization.selectedRuleCount.val = observations.length)
      (evidence .summaryMismatch "selected rule count differs from observations"
        "$.sanitization.selected_rule_count")
  | .rejected result =>
    validateCanonicalTuple (result.reasonCodes.items.map RuntimePolicyRejectionCode.value)
      "runtime evidence rejection contains duplicate reason codes"
      "runtime evidence rejection reasons are not canonical" "$.reason_codes"
  require (result.id = deriveRuntimeEvidenceResultId result) (evidence .contentIdentityMismatch
    "runtime evidence result ID is not derived from exact content" "$.id")

/-- `validate_runtime_observation_refs` -/
def validateRuntimeObservationRefs (result : RuntimeEvidenceAcceptedResult) :
    Except RuntimeEvidenceError Unit :=
  checkEach (fun position (observation : RuntimeObservation) =>
    require (observation.rule.targetId ∈ result.request.policy.rules.items.map RuntimeObservationRule.id)
      (evidence .brokenReference "runtime observation names an unknown policy rule"
        (at_ "$.observations" position ++ ".rule"))) result.observations.items

/-- The selected capabilities are those that runtime evidence needs. -/
def selectsRuntimeEvidence (negotiated : Dict String String) : Prop :=
  (∃ version, negotiated.get? "org.ucf.adapter.verification" = some version ∧
    versionAtLeast version.toList "1.0.0".toList = true) ∧
  negotiated.get? "org.ucf.adapter.runtime-evidence" = some "1.0.0"

instance (negotiated : Dict String String) : Decidable (selectsRuntimeEvidence negotiated) := by
  unfold selectsRuntimeEvidence
  cases h : negotiated.get? "org.ucf.adapter.verification" with
  | none => exact isFalse (by simp)
  | some version =>
    exact decidable_of_iff (versionAtLeast version.toList "1.0.0".toList = true ∧
      negotiated.get? "org.ucf.adapter.runtime-evidence" = some "1.0.0") (by simp)

/-- `validate_runtime_evidence_result` -/
def validateRuntimeEvidenceResult (result : RuntimeEvidenceResult)
    (request : RuntimeEvidenceImportRequest) (behavior : BehaviorIR)
    (environment : RuntimeEnvironment) (initializedAdapter : Producer)
    (negotiatedCapabilities : Dict String String) (sourceRevision : Digest) :
    Except RuntimeEvidenceError Unit := do
  validateRuntimeEvidenceResultStructure result
  require (result.request = request) (evidence .requestIdentityMismatch
    "runtime evidence result does not echo the exact request" "$.request")
  validateRuntimeEvidenceRequest request behavior environment
  require (result.producer = initializedAdapter) (evidence .producerIdentityMismatch
    "runtime evidence producer differs from initialized adapter" "$.producer")
  require (selectsRuntimeEvidence negotiatedCapabilities) (evidence .capabilityMismatch
    "required runtime evidence capabilities were not selected" "$.capability")
  require (sourceRevision = request.source.sourceRevision) (evidence .sourceIdentityMismatch
    "runtime evidence source revision differs from local input"
    "$.request.source.source_revision")
  match result with
  | .accepted result => validateRuntimeObservationRefs result
  | .rejected _ => pure ()

end Ucf
