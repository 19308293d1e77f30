import Ucf.RuntimeEvidence.Validation

/-! The projection of runtime evidence to Trust IR: one source record for the result and one observed
fact for each of its observations. -/

namespace Ucf

open RuntimeEvidenceError (evidence)

variable [Hashlib]

/-- What the identity of an observation is derived from. -/
def observationIdentity (resultDigest : DigestValue) (ruleId : Identifier) : Json :=
  .obj [("result_revision", .str resultDigest.text), ("rule_id", .str ruleId.val)]

/-- `source_id` -/
def runtimeSourceId (resultDigest : DigestValue) : Identifier :=
  digestIdentifier "source.runtime-evidence" resultDigest (by decide)

/-- `_project_observation` -/
def projectObservation (resultDigest : DigestValue) (sourceId : Identifier)
    (rule : RuntimeObservationRule) : ObservedFact where
  id := digestIdentifier "observed.runtime-evidence"
    (identityDigest (observationIdentity resultDigest rule.id)) (by decide)
  subject := rule.subject
  assertion := rule.assertion
  trace := ⟨.sourceRecord, sourceId⟩

/-- The digest of an accepted result. -/
def RuntimeEvidenceAcceptedResult.digest (result : RuntimeEvidenceAcceptedResult) : Digest :=
  canonicalRuntimeEvidenceDigest (modelDump result)

/-- `source` -/
def projectSource (result : RuntimeEvidenceAcceptedResult) : SourceRecord where
  id := runtimeSourceId result.digest.value
  sourceUri := ⟨runtimeEvidenceResultSchemaUri, by decide⟩
  sourceRevision := result.digest
  producer := result.producer
  capturedAt := result.request.source.capturedAt

/-- The Trust IR document of a result and its facts. -/
def runtimeTrust (result : RuntimeEvidenceAcceptedResult) (facts : List ObservedFact) : TrustIR where
  documentId := digestIdentifier "document.runtime-evidence" result.digest.value (by decide)
  subjectDocument := result.request.behavior
  records := .sourceRecord (projectSource result) :: facts.map .observedFact

/-- `project_runtime_evidence_to_trust` -/
def projectRuntimeEvidenceToTrust (result : RuntimeEvidenceResult) (behavior : BehaviorIR)
    (environment : RuntimeEnvironment) : Except RuntimeEvidenceError TrustIR := do
  validateRuntimeEvidenceResultStructure result
  match result with
  | .rejected _ => throw (evidence .resultStatusMismatch
      "rejected runtime evidence cannot be projected" "$.status")
  | .accepted result => do
    validateRuntimeEvidenceRequest result.request behavior environment
    validateRuntimeObservationRefs result
    let rules := Dict.index RuntimeObservationRule.id result.request.policy.rules.items
    let facts ← collect (fun (observation : RuntimeObservation) => do
      let rule ← orRaise (rules.get? observation.rule.targetId) (.embedded .keyError)
      pure (projectObservation result.digest.value (runtimeSourceId result.digest.value) rule))
      result.observations.items
    let trust := runtimeTrust result facts
    (validateTrustAgainstBehavior trust behavior).mapError .embedded
    pure trust

end Ucf
