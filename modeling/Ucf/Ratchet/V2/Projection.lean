import Ucf.Ratchet.V2.Identity

/-! What profile 2.0.0 takes from an onboarding bundle: its behavior subjects, and the coverage
ledger of its public interfaces. Fingerprints leave out paths and record identifiers. -/

namespace Ucf.V2

/-- `_broken` -/
def broken {α : Type} (message location : String) : Except PyError α :=
  .error (.ratchet .brokenReference message location)

section Records

variable [Unicodedata]

/-- The records of an inventory by identifier. -/
abbrev Records : Type := Dict InventoryRecordId InventoryRecord

/-- `_resolve_record` -/
def resolveRecord (identifier : InventoryRecordId) (records : Records) (location : String) :
    Except PyError InventoryRecord :=
  orRaise (records.get? identifier)
    (.ratchet .brokenReference "inventory evidence does not exist" location)

/-- The repository entry that a record refers to. -/
def resolveEntry (reference : InventoryRecordRef) (records : Records) (message location : String) :
    Except PyError RepositoryEntryFact := do
  let record ← resolveRecord reference.targetId records location
  match record with
  | .repositoryEntry entry => pure entry
  | _ => throw (.ratchet .wrongTargetKind message location)

/-- `_normalize_public_interface` -/
def normalizePublicInterface (record : InventoryRecord) (records : Records) (location : String) :
    Except PyError Json :=
  match record with
  | .publicInterface fact => do
    let entry ← resolveEntry fact.entry records "public interface entry has the wrong target kind"
      (location ++ ".entry")
    pure (.obj [
      ("kind", .str "public_interface"),
      ("interface_kind_uri", modelDump fact.interfaceKindUri),
      ("container", dumpOrNull fact.container),
      ("name", modelDump fact.name),
      ("declaration_digest", modelDump fact.declarationDigest),
      ("entry_content_digest", dumpOrNull entry.contentDigest),
      ("confidence", modelDump fact.confidence)])
  | _ => .error (.ratchet .wrongTargetKind "candidate subject is not a public interface" location)

/-- `_normalize_candidate_evidence` -/
def normalizeCandidateEvidence (record : InventoryRecord) (records : Records) (location : String) :
    Except PyError Json :=
  match record with
  | .publicInterface _ => normalizePublicInterface record records location
  | .buildManifest fact => do
    let entry ← resolveEntry fact.entry records "build manifest entry has the wrong target kind"
      (location ++ ".entry")
    pure (.obj [
      ("kind", .str "build_manifest"),
      ("dialect_uri", modelDump fact.dialectUri),
      ("confidence", modelDump fact.confidence),
      ("entry", .obj [
        ("kind", .str "repository_entry"),
        ("entry_kind", modelDump entry.entryKind),
        ("content_digest", dumpOrNull entry.contentDigest),
        ("symlink_target_digest", dumpOrNull entry.symlinkTargetDigest),
        ("confidence", modelDump entry.confidence)])])
  | _ => .error (.ratchet .unsupportedEvidenceKind
      ("inventory record kind '" ++ record.kind.value ++
        "' is unsupported by observed-fingerprint profile 2.0.0") location)

/-- `_candidate_observed_projection` -/
def candidateObservedProjection (candidate : DiscoveryCandidate) (records : Records)
    (location : String) : Except PyError Json := do
  let evidence ← collect (fun item : InventoryRecordRef × Nat => do
    let itemLocation := at_ (location ++ ".evidence") item.2
    let record ← resolveRecord item.1.targetId records itemLocation
    normalizeCandidateEvidence record records itemLocation) candidate.evidence.items.zipIdx
  let subject ← resolveRecord candidate.subject.targetId records (location ++ ".subject")
  let subjectProjection ← normalizePublicInterface subject records (location ++ ".subject")
  pure (.obj [
    ("confidence", modelDump candidate.confidence),
    ("evidence", .arr (sortedBy (fun value => value.canonical.write) evidence)),
    ("subject", subjectProjection)])

end Records

/-! ### Behavior subjects -/

/-- The loop of `_behavior_semantic_projection` -/
def projectEntities (entities : Dict Identifier Entity) :
    List BehaviorEntityRef → Except PyError (List Json)
  | [] => .ok []
  | reference :: references => do
    let entity ← orRaise (entities.get? reference.targetId)
      (.ratchet .brokenReference "materialized behavior entity does not exist" "$.behavior")
    require (entity.kind = reference.targetKind) (.ratchet .wrongTargetKind
      "materialized behavior reference has the wrong target kind" "$.baseline.materializations")
    let projected ← projectEntities entities references
    pure (if entity.kind = .provenance then projected
      else (modelDump entity).exclude ["provenance"] :: projected)

/-- `_behavior_semantic_projection` -/
def behaviorSemanticProjection (references : List BehaviorEntityRef)
    (entities : Dict Identifier Entity) : Except PyError Json := do
  let projected ← projectEntities entities references
  pure (.obj [("entities", .arr (sortedBy
    (fun value => toLex (stringMember "kind" value, stringMember "id" value)) projected))])

variable [Unicodedata] [Hashlib]

/-- The position of a candidate in a discovery result. -/
def candidatePosition (discovery : DiscoveryResult) (id : DiscoveryCandidateId) : Nat :=
  (discovery.candidates.items.map DiscoveryCandidate.id).idxOf id

/-- `f"$.discovery.candidates[{position}]"` -/
def candidateLocation (discovery : DiscoveryResult) (id : DiscoveryCandidateId) : String :=
  at_ "$.discovery.candidates" (candidatePosition discovery id)

/-- The snapshot of one materialization. -/
def behaviorSubjectSnapshot (bundle : OnboardingBundle)
    (materialization : BehaviorMaterialization) : Except PyError BehaviorSubjectSnapshot := do
  let behaviorEntities := Dict.index Entity.id bundle.behavior.entities
  let inventoryRecords := Dict.index InventoryRecord.id bundle.inventory.records.items
  let candidates := Dict.index DiscoveryCandidate.id bundle.discovery.candidates.items
  let candidate ← orRaise (candidates.get? materialization.candidate.candidateId)
    (.ratchet .brokenReference "materialization candidate does not exist" "$.baseline")
  let key : BehaviorSubjectKey := ⟨bundle.inventory.subjectUri.toUri,
    materialization.root.targetKind, materialization.root.targetId⟩
  let semantic ← behaviorSemanticProjection materialization.entities.items behaviorEntities
  let observed ← candidateObservedProjection candidate inventoryRecords
    (candidateLocation bundle.discovery candidate.id)
  pure {
    id := deriveBehaviorSubjectId key
    key := key
    semantic := ⟨projectionDigest semantic⟩
    observed := ⟨projectionDigest observed⟩
    trace := {
      onboardingBundle := onboardingBundleRef bundle
      behavior := materialization.root
      inventorySourceRevision := bundle.inventory.sourceRevision
      candidate := materialization.candidate
      decisionId := materialization.decisionId } }

/-- `derive_behavior_subject_snapshots` -/
def deriveBehaviorSubjectSnapshots (bundle : OnboardingBundle) :
    Except PyError (List BehaviorSubjectSnapshot) := do
  validateOnboardingBundle bundle
  let snapshots ← collect (behaviorSubjectSnapshot bundle) bundle.baseline.materializations.items
  pure (sortedBy (fun snapshot => behaviorSubjectOrder snapshot.key) snapshots)

/-! ### The coverage ledger -/

/-- `_coverage_semantic_fingerprint` -/
def coverageSemanticFingerprint (value : Json) : CoverageSemanticFingerprint :=
  ⟨projectionDigest value⟩

/-- `_coverage_observed_fingerprint` -/
def coverageObservedFingerprint (value : Json) : CoverageObservedFingerprint :=
  ⟨projectionDigest value⟩

/-- What the semantic fingerprint of a reconciliation covers. -/
def reconciliationSemantic (candidateSemanticDigest : Digest) (disposition : DispositionKind)
    (replacement : Option Digest) : Json :=
  .obj [
    ("candidate_semantic_digest", modelDump candidateSemanticDigest),
    ("disposition", modelDump disposition),
    ("replacement_semantic_digest", dumpOrNull replacement)]

/-- What the semantic fingerprint of a group covers. -/
def groupSemantic (state : CoverageSubjectState)
    (reconciliations : List CoverageReconciliationSnapshot) : Json :=
  .obj [
    ("state", modelDump state),
    ("reconciliations", .arr (reconciliations.map fun item => modelDump item.semantic.digest))]

/-- `decision.replacement_digest if isinstance(decision, EditedDecision) else None` -/
def replacementOf : Decision → Option Digest
  | .edited decision => some decision.replacementDigest
  | _ => none

omit [Unicodedata] [Hashlib] in
theorem disposition_eq_edited_iff (decision : Decision) :
    decision.disposition = .edited ↔ replacementOf decision ≠ none := by
  cases decision <;> simp [Decision.disposition, replacementOf]

/-- The reconciliation of one candidate with its decision. -/
def reconciliationOf (subject : PublicInterfaceFact) (discovery : DiscoveryResult)
    (records : Records) (candidate : DiscoveryCandidate) (decision : Decision) :
    Except PyError CoverageReconciliationSnapshot := do
  let location := candidateLocation discovery candidate.id
  let interface ← normalizePublicInterface (.publicInterface subject) records
    (location ++ ".subject")
  let projection ← candidateObservedProjection candidate records location
  pure {
    disposition := decision.disposition
    candidateSemanticDigest := candidate.semanticDigest
    replacementSemanticDigest := replacementOf decision
    semantic := coverageSemanticFingerprint (reconciliationSemantic candidate.semanticDigest
      decision.disposition (replacementOf decision))
    observed := coverageObservedFingerprint (.obj [
      ("interface", interface), ("candidate", projection)])
    trace := ⟨decision.candidate, decision.id⟩
    validReplacement := disposition_eq_edited_iff decision }

/-- The loop of `_derive_reconciliations`; `seen` is `semantic_coordinates`. -/
def reconcileCandidates (subject : PublicInterfaceFact) (discovery : DiscoveryResult)
    (decisions : Dict DiscoveryCandidateId Decision) (records : Records)
    (seen : List DigestValue) :
    List DiscoveryCandidate → Except PyError (List CoverageReconciliationSnapshot)
  | [] => .ok []
  | candidate :: candidates => do
    let decision ← orRaise (decisions.get? candidate.id)
      (.ratchet .brokenReference "candidate has no exact decision" "$.decisions")
    require (candidate.semanticDigest.value ∉ seen) (.ratchet .ambiguousCoverageIdentity
      "one interface has duplicate candidate semantic identities"
      "$.coverage.groups.reconciliations")
    let reconciliation ← reconciliationOf subject discovery records candidate decision
    let reconciliations ← reconcileCandidates subject discovery decisions records
      (candidate.semanticDigest.value :: seen) candidates
    pure (reconciliation :: reconciliations)

/-- The key by which the reconciliations of a group are sorted. Digests are ordered as their texts
are; the empty text of a missing replacement comes first. -/
def reconciliationOrder (item : CoverageReconciliationSnapshot) : DigestValue ×ₗ String ×ₗ Nat :=
  toLex (item.candidateSemanticDigest.value, toLex (item.disposition.value,
    item.replacementSemanticDigest.elim 0 fun digest => digest.value.number + 1))

/-- `_derive_reconciliations` -/
def deriveReconciliations (subject : PublicInterfaceFact) (candidates : List DiscoveryCandidate)
    (discovery : DiscoveryResult) (decisions : Dict DiscoveryCandidateId Decision)
    (records : Records) : Except PyError (List CoverageReconciliationSnapshot) := do
  let reconciliations ← reconcileCandidates subject discovery decisions records [] candidates
  pure (sortedBy reconciliationOrder reconciliations)

/-- The stable key of a public interface, which names neither a path nor a record. -/
def coverageSubjectKey (bundle : OnboardingBundle) (subject : PublicInterfaceFact) :
    CoverageSubjectKey :=
  ⟨bundle.inventory.subjectUri.toUri, subject.interfaceKindUri, subject.container, subject.name⟩

/-- `_coverage_subject_trace` -/
def coverageSubjectTrace (bundle : OnboardingBundle) (reference : InventoryRecordRef) :
    CoverageSubjectTrace :=
  ⟨onboardingBundleRef bundle, bundle.inventory.sourceRevision, reference⟩

/-- `CoverageSubjectState.RECONCILED if reconciliations else CoverageSubjectState.UNCOVERED` -/
def coverageState (reconciliations : List CoverageReconciliationSnapshot) : CoverageSubjectState :=
  if reconciliations = [] then .uncovered else .reconciled

omit [Unicodedata] [Hashlib] in
theorem coverageState_eq_uncovered_iff {reconciliations : List CoverageReconciliationSnapshot} :
    coverageState reconciliations = .uncovered ↔ reconciliations = [] := by
  unfold coverageState
  split <;> simp_all

/-- `decisions`, the decisions of a bundle by candidate -/
def decisionsByCandidate (bundle : OnboardingBundle) : Dict DiscoveryCandidateId Decision :=
  Dict.index (fun decision => decision.candidate.candidateId) bundle.decisions.decisions.items

/-- `candidates_by_subject.get(identifier, [])` -/
def candidatesBySubject (bundle : OnboardingBundle) (identifier : InventoryRecordId) :
    List DiscoveryCandidate :=
  bundle.discovery.candidates.items.filter fun candidate => candidate.subject.targetId = identifier

/-- The group of one public interface. -/
def coverageGroup (bundle : OnboardingBundle) (records : Records) (reference : InventoryRecordRef)
    (subject : PublicInterfaceFact) : Except PyError CoverageSubjectGroup := do
  let key := coverageSubjectKey bundle subject
  let reconciliations ← deriveReconciliations subject (candidatesBySubject bundle subject.id)
    bundle.discovery (decisionsByCandidate bundle) records
  let interface ← normalizePublicInterface (.publicInterface subject) records
    "$.discovery.coverage.eligible_subjects"
  let limited : Tuple 0 maxRatchetSubjects CoverageReconciliationSnapshot ←
    validated (Tuple.ofList reconciliations)
  pure {
    id := deriveCoverageSubjectId key
    key := key
    state := coverageState limited.items
    semantic := coverageSemanticFingerprint (groupSemantic (coverageState limited.items)
      limited.items)
    observed := coverageObservedFingerprint (.obj [
      ("interface", interface),
      ("reconciliations", .arr (limited.items.map fun item => modelDump item.observed.digest))])
    reconciliations := limited
    trace := coverageSubjectTrace bundle reference
    validState := coverageState_eq_uncovered_iff }

/-- The loop of `derive_coverage_ledger` over the eligible subjects. -/
def coverageGroups (bundle : OnboardingBundle) (records : Records) (stableKeys : List Json) :
    List InventoryRecordRef → Except PyError (List CoverageSubjectGroup)
  | [] => .ok []
  | reference :: references =>
    match records.get? reference.targetId with
    | some (.publicInterface subject) => do
      let keyIdentity := (modelDump (coverageSubjectKey bundle subject)).canonical
      require (keyIdentity ∉ stableKeys) (.ratchet .ambiguousCoverageIdentity
        "public interfaces have the same path-independent key" "$.coverage.groups")
      let group ← coverageGroup bundle records reference subject
      let groups ← coverageGroups bundle records (keyIdentity :: stableKeys) references
      pure (group :: groups)
    | _ => .error (.ratchet .wrongTargetKind "coverage subject is not a public interface"
        "$.discovery.coverage.eligible_subjects")

/-- The key by which groups are sorted. -/
def coverageGroupOrder (key : CoverageSubjectKey) :
    String ×ₗ String ×ₗ String ×ₗ String ×ₗ String :=
  toLex (key.subjectUri.val, toLex ("public_interface", toLex (key.interfaceKindUri.val,
    toLex ((key.container.map Subtype.val).getD "", key.name.val))))

/-- The debt of an interface that no candidate covers. -/
def uncoveredDebt (group : CoverageSubjectGroup) : CoverageDebtSnapshot :=
  let key : CoverageDebtKey := ⟨.uncovered, ⟨group.id⟩, none, by simp⟩
  { id := deriveCoverageDebtId key
    key := key
    semantic := group.semantic
    observed := group.observed
    subjectTrace := group.trace
    reconciliationTrace := none
    validTrace := by simp [key] }

/-- The debt of a candidate that was left uncertain. -/
def uncertainDebt (group : CoverageSubjectGroup) (reconciliation : CoverageReconciliationSnapshot) :
    CoverageDebtSnapshot :=
  let key : CoverageDebtKey :=
    ⟨.uncertain, ⟨group.id⟩, some reconciliation.candidateSemanticDigest, by simp⟩
  { id := deriveCoverageDebtId key
    key := key
    semantic := reconciliation.semantic
    observed := reconciliation.observed
    subjectTrace := group.trace
    reconciliationTrace := some reconciliation.trace
    validTrace := by simp [key] }

/-- The debts of one group. -/
def groupDebts (group : CoverageSubjectGroup) : List CoverageDebtSnapshot :=
  match group.state with
  | .uncovered => [uncoveredDebt group]
  | .reconciled =>
    (group.reconciliations.items.filter fun item => item.disposition = .uncertain).map
      (uncertainDebt group)

/-- `_derive_coverage_debts` -/
def deriveCoverageDebts (groups : List CoverageSubjectGroup) : List CoverageDebtSnapshot :=
  sortedBy (fun debt => debt.id) (groups.flatMap groupDebts)

/-- The procedure of the provenance that a record refers to, if it is one. -/
def procedureOf (records : Records) (reference : InventoryRecordRef) : List URI :=
  match records.get? reference.targetId with
  | some (.inventoryProvenance provenance) => [provenance.procedureUri.toUri]
  | _ => []

/-- The procedures that found the public interfaces that `references` name. -/
def interfaceProcedures (records : Records) (references : List InventoryRecordRef) :
    Except PyError (List (List URI)) :=
  collect (fun reference => do
    match ← orRaise (records.get? reference.targetId) .keyError with
    | .publicInterface subject => pure (procedureOf records subject.provenance)
    | _ => pure []) references

/-- The procedures that found the build manifests that `references` name. -/
def manifestProcedures (records : Records) (references : List InventoryRecordRef) :
    Except PyError (List (List URI)) :=
  collect (fun reference => do
    match ← orRaise (records.get? reference.targetId) .keyError with
    | .buildManifest fact => pure (procedureOf records fact.provenance)
    | _ => pure []) references

/-- `_derive_qualification` -/
def deriveQualification (bundle : OnboardingBundle) (records : Records) :
    Except PyError CoverageQualification := do
  let interfaces ← interfaceProcedures records bundle.discovery.coverage.eligibleSubjects.items
  let manifests ← manifestProcedures records
    (bundle.discovery.candidates.items.flatMap fun candidate => candidate.evidence.items)
  let provisional : CoverageQualification := {
    id := ⟨zeroDigest⟩
    subjectUri := bundle.inventory.subjectUri.toUri
    inventoryProducer := bundle.inventory.producer
    inventoryCapability := bundle.inventory.capability
    inventoryIgnorePolicyDigest := projectionDigest (modelDump bundle.inventory.appliedPolicy)
    inventoryProcedureUris := sortedSet (interfaces.flatten ++ manifests.flatten)
    discoveryProducer := bundle.discovery.producer
    discoveryCapability := bundle.discovery.capability
    discoveryProcedureUri := bundle.discovery.procedureUri.toUri }
  pure { provisional with id := deriveCoverageQualificationId provisional }

/-- `_public_interface_coverage` -/
def publicInterfaceCoverage (bundle : OnboardingBundle) : Except PyError CoverageStatus := do
  let item ← orRaise
    (bundle.inventory.coverage.find? fun item => item.factKind = .publicInterface) .stopIteration
  pure item.status

/-- `derive_coverage_ledger` -/
def deriveCoverageLedger (bundle : OnboardingBundle) :
    Except PyError CoverageAssessmentLedger := do
  validateOnboardingBundle bundle
  let records := Dict.index InventoryRecord.id bundle.inventory.records.items
  let groups ← coverageGroups bundle records [] bundle.discovery.coverage.eligibleSubjects.items
  let groups := sortedBy (fun group => coverageGroupOrder group.key) groups
  let qualification ← deriveQualification bundle records
  let inventoryCoverage ← publicInterfaceCoverage bundle
  let limitedGroups ← validated (Tuple.ofList groups)
  let debts ← validated (Tuple.ofList (deriveCoverageDebts groups))
  pure {
    qualification := qualification
    inventoryCoverage := inventoryCoverage
    discoveryCoverage := bundle.discovery.coverage.status
    groups := limitedGroups
    debts := debts }

end Ucf.V2
