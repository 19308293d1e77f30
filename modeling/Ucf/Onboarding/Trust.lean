import Ucf.Onboarding.Reconciliation

/-! The Trust IR of a bundle: what was declared by decisions and observed by discovery. -/

namespace Ucf

theorem sourceDiscovery_valid : stringConstraints 1 (some 255)
    (matchName fun c => c ∈ ['.', '_', '-']) "source.discovery" = none := by decide

theorem sourceDecisions_valid : stringConstraints 1 (some 255)
    (matchName fun c => c ∈ ['.', '_', '-']) "source.decisions" = none := by decide

variable [Hashlib]

/-- `validate_onboarding_trust` -/
def validateOnboardingTrust (trust : TrustIR) (behavior : BehaviorIR) : Except PyError Unit := do
  checkEach (fun position record =>
    match record with
    | .behaviorCandidate _ | .mapping _ => throw (.onboarding .illegalPromotion
        "BRN-002 trust cannot contain candidates or mappings" (at_ "$.records" position))
    | .claim claim => require (claim.level = .observed ∨ claim.level = .declared)
        (.onboarding .illegalPromotion
          "BRN-002 trust permits only independently supported observed and declared claims"
          (at_ "$.records" position ++ ".level"))
    | _ => pure ()) trust.records
  validateTrustAgainstBehavior trust behavior

/-- The value `StringValue(kind="string", value=...)` -/
def stringValue (value : String) : IRValue := .scalar (.string ⟨value⟩)

/-- The records of one materialization: a declaration, an observation, and a claim on each. -/
def trustRecordsOf (candidatesById : Dict DiscoveryCandidateId DiscoveryCandidate)
    (decisionTrace : RecordRef) (link : BehaviorMaterialization) :
    Except PyError (List TrustRecord) := do
  let suffix := link.candidate.candidateId.digest
  let candidate ← orRaise (candidatesById.get? link.candidate.candidateId) .keyError
  let declarationId := digestIdentifier "declaration" suffix (by decide)
  let observationId := digestIdentifier "observed" suffix (by decide)
  pure [
    .declaration ⟨declarationId, link.root, decisionTrace⟩,
    .observedFact ⟨observationId, link.root,
      ⟨⟨⟨"inventory", by decide⟩, [⟨"public-interface-id", by decide⟩]⟩,
        stringValue candidate.subject.targetId.text⟩, decisionTrace⟩,
    .claim ⟨digestIdentifier "claim.declared" suffix (by decide), .declared, link.root,
      .declared ⟨⟨.declaration, declarationId⟩⟩, decisionTrace⟩,
    .claim ⟨digestIdentifier "claim.observed" suffix (by decide), .observed, link.root,
      .observed ⟨⟨.observedFact, observationId⟩⟩, decisionTrace⟩]

/-- `build_onboarding_trust` -/
def buildOnboardingTrust (discovery : DiscoveryResult) (decisionSet : DecisionSet)
    (behavior : BehaviorIR) (materializations : List BehaviorMaterialization) :
    Except PyError TrustIR := do
  validateDecisionSet discovery decisionSet
  let (expectedBehavior, expectedMaterializations) ← materializeBehavior discovery decisionSet
  require (behavior = expectedBehavior) (.onboarding .documentIdentityMismatch
    "Behavior IR differs from deterministic decision materialization" "$.behavior")
  require (materializations = expectedMaterializations) (.onboarding .illegalPromotion
    "materializations must be the exact accepted and edited decisions" "$.materializations")
  let behaviorDigest := canonicalIrDigest behavior
  let discoveryDigest := canonicalOnboardingDigest discovery
  let decisionDigest := canonicalOnboardingDigest decisionSet
  let discoverySource : SourceRecord := ⟨⟨"source.discovery", sourceDiscovery_valid⟩,
    ⟨discoveryResultSchemaUri, discoveryResultSchemaUri_valid⟩, discoveryDigest, discovery.producer,
    decisionSet.captureContext.capturedAt⟩
  let decisionSource : SourceRecord := ⟨⟨"source.decisions", sourceDecisions_valid⟩,
    ⟨decisionSetSchemaUri, decisionSetSchemaUri_valid⟩, decisionDigest, decisionSet.reviewer,
    decisionSet.captureContext.capturedAt⟩
  let candidatesById := Dict.index DiscoveryCandidate.id discovery.candidates.items
  let records ← collect (trustRecordsOf candidatesById ⟨.sourceRecord, decisionSource.id⟩)
    materializations
  let trust ← parseTrustIrJson (canonicalTrustIrJson
    ⟨digestIdentifier "trust"
        (Hashlib.sha256 (.text (behaviorDigest.text ++ decisionDigest.value.text))) isDigestTag_trust,
      ⟨behavior.documentId, ⟨behaviorDigest⟩⟩,
      .sourceRecord discoverySource :: .sourceRecord decisionSource :: records.flatten⟩)
  validateOnboardingTrust trust behavior
  pure trust

end Ucf
