import Ucf.Ir.RoundTrip
import Ucf.Onboarding.Trust

/-! Onboarding bundles: the documents of one onboarding and the summary that binds them. -/

namespace Ucf

variable [Unicodedata] [Hashlib]

/-- `_request_for` -/
def requestFor (inventory : InventorySnapshot) (discovery : DiscoveryResult) :
    Except PyError DiscoveryRequest :=
  if h : isDiscoveryCapability discovery.capability ∧
      matchesInventory discovery.inventoryBinding inventory then
    .ok ⟨discovery.capability, discovery.inventoryBinding, inventory, h⟩
  else .error (.validation [⟨"value_error", []⟩])

/-- `_derive_baseline` -/
def deriveOnboardingBaseline (inventory : InventorySnapshot) (discovery : DiscoveryResult)
    (decisions : DecisionSet) (behavior : BehaviorIR) (trust : TrustIR)
    (materializations : List BehaviorMaterialization) : Except PyError OnboardingBaseline := do
  let documents : Tuple 5 5 BundleDocumentRef := ⟨[
    ⟨.inventory, ⟨inventorySchemaUri, by decide⟩, ⟨inventoryVersion, inventoryVersion_valid⟩,
      canonicalInventoryDigest inventory⟩,
    ⟨.discovery, ⟨discoveryResultSchemaUri, discoveryResultSchemaUri_valid⟩,
      ⟨onboardingVersion, onboardingVersion_valid⟩,
      canonicalOnboardingDigest discovery⟩,
    ⟨.decisions, ⟨decisionSetSchemaUri, decisionSetSchemaUri_valid⟩,
      ⟨onboardingVersion, onboardingVersion_valid⟩,
      canonicalOnboardingDigest decisions⟩,
    ⟨.behavior, ⟨"urn:ucf:schema:ir:1.0.0", by decide⟩, ⟨currentIrVersion, by decide⟩,
      ⟨canonicalIrDigest behavior⟩⟩,
    ⟨.trust, ⟨"urn:ucf:schema:trust-ir:1.0.0", by decide⟩, ⟨currentTrustIrVersion, by decide⟩,
      ⟨identityDigest (canonicalTrustIrValue trust)⟩⟩], le_rfl, le_rfl⟩
  let summaryOf (disposition : DispositionKind) : Except PyError DispositionSummary := do
    let ids := (decisions.decisions.items.filter fun d => d.disposition = disposition).map
      fun d => d.candidate.candidateId
    let candidateIds ← validated (Tuple.ofList (sortedBy id ids))
    pure ⟨disposition, candidateIds⟩
  let dispositions ← collect summaryOf DispositionKind.all
  let levelOf (level : ClaimLevel) : Except PyError ClaimLevelSummary := do
    let ids := trust.records.filterMap fun record =>
      match record with
      | .claim claim => if claim.level = level then some claim.id else none
      | _ => none
    let claimIds ← validated (Tuple.ofList (sortedBy (fun id : Identifier => id.val) ids))
    pure ⟨level, claimIds⟩
  let claimLevels ← collect levelOf ClaimLevel.all
  let dispositions ← validated (Tuple.ofList dispositions)
  let materializations ← validated (Tuple.ofList (sortedBy
    (fun item : BehaviorMaterialization => item.candidate.candidateId) materializations))
  let claimLevels ← validated (Tuple.ofList claimLevels)
  pure ⟨documents, dispositions, materializations, discovery.coverage.status,
    discovery.coverage.uncoveredSubjects, claimLevels⟩

/-- `validate_onboarding_bundle` -/
def validateOnboardingBundle (bundle : OnboardingBundle) : Except PyError Unit := do
  require (bundle.captureContext = bundle.decisions.captureContext)
    (.onboarding .documentIdentityMismatch "bundle capture context differs from its decision set"
      "$.capture_context")
  let request ← requestFor bundle.inventory bundle.discovery
  validateDiscoveryExchange request bundle.discovery
  validateDecisionSet bundle.discovery bundle.decisions
  let (expectedBehavior, expectedMaterializations) ←
    materializeBehavior bundle.discovery bundle.decisions
  require (bundle.behavior = expectedBehavior) (.onboarding .documentIdentityMismatch
    "embedded Behavior IR differs from deterministic materialization" "$.behavior")
  let expectedTrust ← buildOnboardingTrust bundle.discovery bundle.decisions bundle.behavior
    expectedMaterializations
  require (bundle.trust = expectedTrust) (.onboarding .documentIdentityMismatch
    "embedded Trust IR differs from deterministic evidence import" "$.trust")
  let expectedBaseline ← deriveOnboardingBaseline bundle.inventory bundle.discovery
    bundle.decisions bundle.behavior bundle.trust expectedMaterializations
  require (bundle.baseline = expectedBaseline) (.onboarding .summaryMismatch
    "onboarding baseline differs from its exact embedded documents" "$.baseline")

end Ucf

/-! ### A sample

The smallest inventory has a root directory and its provenance. It has no public interfaces, so
there is nothing to propose or to decide. Its documents are the same for every hash function that
gives them the digest zero. -/

namespace Ucf.Sample

/-- Sample texts are ASCII, which normalization keeps. -/
scoped instance unicodedata : Unicodedata := ⟨id⟩

def captureContext : CaptureContext := ⟨⟨"2024-01-01T00:00:00Z", timestamp_valid⟩, digest⟩

theorem inventoryUri_valid :
    andThen uriConstraints matchVersionedUri "urn:ucf:inventory:1.0.0" = none := by decide

theorem discoveryUri_valid :
    andThen uriConstraints matchVersionedUri "urn:ucf:discovery:1.0.0" = none := by decide

theorem certain_valid : stringConstraints 0 (some 64) matchConfidence "1" = none := by decide

theorem spanless : (none : Option SourceSpan) ≠ none → (none : Option Digest) ≠ none :=
  fun h => absurd rfl h

theorem directory_valid : validEntryCoordinates .directory none none none := by decide

def provenance : InventoryProvenance where
  id := ⟨.provenance, digestValue⟩
  sourcePath := ⟨".", by decide +kernel⟩
  contentDigest := none
  sourceSpan := none
  producer := producer
  procedureUri := ⟨"urn:ucf:inventory:1.0.0", inventoryUri_valid⟩
  spanHasContent := spanless

def rootEntry : RepositoryEntryFact where
  id := ⟨.entry, digestValue⟩
  provenance := ⟨.inventoryProvenance, provenance.id⟩
  confidence := ⟨⟨"1", certain_valid⟩, ⟨"urn:ucf:inventory:1.0.0", inventoryUri_valid⟩⟩
  path := ⟨".", by decide +kernel⟩
  entryKind := .directory
  sizeBytes := none
  contentDigest := none
  symlinkTargetDigest := none
  valid := directory_valid

theorem subjectUri_valid : andThen uriConstraints
    (fun cs => (cs.takeWhile fun c => c ≠ ':') ≠ "file".toList) "urn:ucf:sample" = none := by decide

def inventory : InventorySnapshot where
  subjectUri := ⟨"urn:ucf:sample", subjectUri_valid⟩
  sourceRevision := digest
  producer := producer
  capability := ⟨⟨inventoryCapability, inventoryCapability_valid⟩,
    ⟨inventoryVersion, inventoryVersion_valid⟩⟩
  appliedPolicy := ⟨⟨[], by decide, by decide⟩, by decide⟩
  coverage := FactKind.all.map fun kind =>
    ⟨kind, .complete, if kind = .repositoryEntry then ⟨1, one_safe⟩ else ⟨0, zero_safe⟩⟩
  records := ⟨[.inventoryProvenance provenance, .repositoryEntry rootEntry], by decide, by decide⟩
  valid := by decide +kernel

def inventoryBinding : InventoryBinding := ⟨⟨"urn:ucf:sample", sampleUri_valid⟩, digest, digest⟩

theorem discoveryCapability_known : isDiscoveryCapability
    ⟨⟨discoveryCapability, discoveryCapability_valid⟩,
      ⟨onboardingVersion, onboardingVersion_valid⟩⟩ := ⟨rfl, rfl⟩

theorem nothing_uncovered : CoverageStatus.complete = .complete ↔
    (⟨[], Tuple.nil_lower, Tuple.nil_upper⟩ :
      Tuple 0 maxDiscoveryCandidates InventoryRecordRef).items = [] := by simp

def discovery : DiscoveryResult where
  inventoryBinding := inventoryBinding
  producer := producer
  capability := ⟨⟨discoveryCapability, discoveryCapability_valid⟩,
    ⟨onboardingVersion, onboardingVersion_valid⟩⟩
  procedureUri := ⟨"urn:ucf:discovery:1.0.0", discoveryUri_valid⟩
  coverage := ⟨.complete, ⟨[], Tuple.nil_lower, Tuple.nil_upper⟩,
    ⟨[], Tuple.nil_lower, Tuple.nil_upper⟩, nothing_uncovered⟩
  diagnostics := ⟨[], Tuple.nil_lower, Tuple.nil_upper⟩
  candidates := ⟨[], by decide, by decide⟩
  validCapability := discoveryCapability_known

def decisions : DecisionSet where
  discovery := ⟨digest⟩
  inventoryBinding := inventoryBinding
  reviewer := producer
  captureContext := captureContext
  decisions := ⟨[], by decide, by decide⟩

/-- The bundle of the sample documents, when it is valid. -/
def bundle : Except PyError OnboardingBundle := do
  let (behavior, materializations) ← materializeBehavior discovery decisions
  let trust ← buildOnboardingTrust discovery decisions behavior materializations
  let baseline ← deriveOnboardingBaseline inventory discovery decisions behavior trust
    materializations
  let bundle := ⟨captureContext, inventory, discovery, decisions, behavior, trust, baseline⟩
  validateOnboardingBundle bundle
  pure bundle

end Ucf.Sample
