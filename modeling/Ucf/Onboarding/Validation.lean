import Ucf.Onboarding.Proposals

/-! The identities of onboarding documents, and the validation of a discovery result against its
inventory and of a decision set against its discovery result. -/

namespace Ucf

variable [Hashlib]

/-! ### Identities -/

/-- `derive_candidate_semantic_digest` -/
def deriveCandidateSemanticDigest (proposal : CandidateProposal) : Digest :=
  ⟨identityDigest (modelDump proposal)⟩

/-- `derive_discovery_candidate_id` -/
def deriveDiscoveryCandidateId (candidate : DiscoveryCandidate) (result : DiscoveryResult) :
    DiscoveryCandidateId :=
  ⟨identityDigest (.obj [
    ("candidate", (modelDump candidate).exclude ["id", "semantic_digest"]),
    ("capability", modelDump result.capability),
    ("inventory_binding", modelDump result.inventoryBinding),
    ("procedure_uri", modelDump result.procedureUri),
    ("producer", modelDump result.producer)])⟩

/-- `derive_decision_id` -/
def deriveDecisionId (decision : Decision) (decisionSet : DecisionSet) : DecisionId :=
  ⟨identityDigest (.obj [
    ("capture_context", modelDump decisionSet.captureContext),
    ("decision", (modelDump decision).exclude ["id"]),
    ("discovery", modelDump decisionSet.discovery),
    ("inventory_binding", modelDump decisionSet.inventoryBinding),
    ("reviewer", modelDump decisionSet.reviewer)])⟩

/-- `canonical_onboarding_digest` -/
def canonicalOnboardingDigest {α : Type} [Model α] (document : α) : Digest :=
  ⟨identityDigest (modelDump document)⟩

/-! ### Discovery -/

/-- The key by which references to inventory records are sorted. -/
def inventoryRefKey (reference : InventoryRecordRef) : String ×ₗ InventoryRecordId :=
  toLex (reference.targetKind.value, reference.targetId)

/-- `reference_keys` are unique and sorted. -/
def isCanonicalRefs (references : List InventoryRecordRef) : Prop :=
  (references.map inventoryRefKey).Nodup ∧
    references.map inventoryRefKey = sortedBy id (references.map inventoryRefKey)

instance (references : List InventoryRecordRef) : Decidable (isCanonicalRefs references) :=
  inferInstanceAs (Decidable (_ ∧ _))

section Discovery

variable [Unicodedata]

/-- A reference to a record of the inventory, with the messages for a missing target and for a
target of a different kind. -/
def validateInventoryRef (recordsById : Dict InventoryRecordId InventoryRecord)
    (reference : InventoryRecordRef) (missing wrongKind location : String) :
    Except PyError Unit := do
  let target ← orRaise (recordsById.get? reference.targetId)
    (.onboarding .brokenReference missing location)
  require (target.kind = reference.targetKind) (.onboarding .wrongTargetKind wrongKind location)

/-- `_validate_diagnostics` -/
def validateDiagnostics (request : DiscoveryRequest) (result : DiscoveryResult) :
    Except PyError Unit := do
  let diagnosticIds : List DiscoveryDiagnosticId := result.diagnostics.items.map fun d => d.id
  require diagnosticIds.Nodup (.onboarding .duplicateIdentity
    "discovery diagnostic IDs must be unique" "$.diagnostics")
  require (diagnosticIds = sortedBy id diagnosticIds) (.onboarding .nonCanonicalOrder
    "discovery diagnostics must be sorted by ID" "$.diagnostics")
  let recordsById := Dict.index InventoryRecord.id request.inventory.records.items
  checkEach (fun position diagnostic =>
    match diagnostic.evidence with
    | none => pure ()
    | some reference => validateInventoryRef recordsById reference
        "diagnostic evidence target does not exist"
        "diagnostic evidence target has a different kind"
        (at_ "$.diagnostics" position ++ ".evidence")) result.diagnostics.items

/-- The body of the loop of `_validate_candidates` -/
def validateCandidate (recordsById : Dict InventoryRecordId InventoryRecord)
    (result : DiscoveryResult) (position : Nat) (candidate : DiscoveryCandidate) :
    Except PyError Unit := do
  let location := at_ "$.candidates" position
  validateCandidateProposal candidate.proposal (location ++ ".proposal")
  require (candidate.semanticDigest = deriveCandidateSemanticDigest candidate.proposal)
    (.onboarding .contentIdentityMismatch "candidate semantic digest does not match its proposal"
      (location ++ ".semantic_digest"))
  require (candidate.id = deriveDiscoveryCandidateId candidate result)
    (.onboarding .contentIdentityMismatch
      "candidate ID does not match its exact content and context" (location ++ ".id"))
  require (isCanonicalRefs candidate.evidence.items) (.onboarding .nonCanonicalOrder
    "candidate evidence must be unique and canonically sorted" (location ++ ".evidence"))
  checkEach (fun evidencePosition reference =>
    validateInventoryRef recordsById reference "candidate evidence target does not exist"
      "candidate evidence target has a different kind"
      (at_ (location ++ ".evidence") evidencePosition)) candidate.evidence.items
  let subjectTarget ← orRaise (recordsById.get? candidate.subject.targetId)
    (.onboarding .brokenReference "candidate subject target does not exist"
      (location ++ ".subject"))
  require (candidate.subject.targetKind = .publicInterface ∧ subjectTarget.kind = .publicInterface)
    (.onboarding .wrongTargetKind "candidate subject must resolve to a public interface"
      (location ++ ".subject"))
  require (candidate.subject ∈ candidate.evidence.items) (.onboarding .summaryMismatch
    "candidate evidence must include its subject" (location ++ ".evidence"))

/-- `_validate_coverage` -/
def validateCoverage (request : DiscoveryRequest) (result : DiscoveryResult) :
    Except PyError Unit := do
  let eligible := result.coverage.eligibleSubjects.items
  let uncovered := result.coverage.uncoveredSubjects.items
  require (isCanonicalRefs eligible) (.onboarding .nonCanonicalOrder
    "coverage references must be unique and canonically sorted" "$.coverage.eligible_subjects")
  require (isCanonicalRefs uncovered) (.onboarding .nonCanonicalOrder
    "coverage references must be unique and canonically sorted" "$.coverage.uncovered_subjects")
  let expectedEligible : List InventoryRecordRef :=
    (request.inventory.records.items.filterMap InventoryRecord.interface?).map
      fun fact => ⟨.publicInterface, fact.id⟩
  require (eligible ⊆ expectedEligible ∧ expectedEligible ⊆ eligible)
    (.onboarding .summaryMismatch "eligible subjects do not match inventory public interfaces"
      "$.coverage.eligible_subjects")
  require (uncovered ⊆ expectedEligible) (.onboarding .brokenReference
    "uncovered subjects must be eligible public interfaces" "$.coverage.uncovered_subjects")
  let candidateSubjects : List InventoryRecordRef := result.candidates.items.map fun c => c.subject
  let coveredSubjects := expectedEligible.filter fun reference => reference ∉ uncovered
  require (candidateSubjects ⊆ coveredSubjects ∧ coveredSubjects ⊆ candidateSubjects)
    (.onboarding .summaryMismatch "candidate subjects do not match declared discovery coverage"
      "$.coverage")

/-- `_validate_candidates` -/
def validateCandidates (request : DiscoveryRequest) (result : DiscoveryResult) :
    Except PyError Unit := do
  let candidates := result.candidates.items
  let candidateIds : List DiscoveryCandidateId := candidates.map fun c => c.id
  require candidateIds.Nodup (.onboarding .duplicateIdentity
    "discovery candidate IDs must be unique" "$.candidates")
  require (candidateIds = sortedBy id candidateIds) (.onboarding .nonCanonicalOrder
    "discovery candidates must be sorted by content identity" "$.candidates")
  require (candidates.map fun c => c.semanticDigest.value).Nodup (.onboarding .duplicateIdentity
    "discovery candidates must have unique semantic proposals" "$.candidates")
  let recordsById := Dict.index InventoryRecord.id request.inventory.records.items
  checkEach (validateCandidate recordsById result) candidates
  validateCoverage request result

/-- `validate_discovery_exchange` -/
def validateDiscoveryExchange (request : DiscoveryRequest) (result : DiscoveryResult) :
    Except PyError Unit := do
  let mismatch (field : String) : PyError := .onboarding .documentIdentityMismatch
    "discovery result names a different inventory snapshot" ("$.inventory_binding." ++ field)
  let given := request.inventoryBinding
  let binding := result.inventoryBinding
  require (given.subjectUri = binding.subjectUri) (mismatch "subject_uri")
  require (given.sourceRevision = binding.sourceRevision) (mismatch "source_revision")
  require (given.canonicalDigest = binding.canonicalDigest) (mismatch "canonical_digest")
  validateDiagnostics request result
  validateCandidates request result

end Discovery

/-! ### Decisions -/

/-- `_stale_decision` -/
def staleDecision (message location : String) : PyError :=
  .onboarding .staleDecision message location

/-- The body of the loop of `validate_decision_set` -/
def validateDecision (discoveryDigest : Digest)
    (candidatesById : Dict DiscoveryCandidateId DiscoveryCandidate) (decisionSet : DecisionSet)
    (position : Nat) (decision : Decision) : Except PyError Unit := do
  let location := at_ "$.decisions" position
  let candidate ← orRaise (candidatesById.get? decision.candidate.candidateId) .keyError
  require (decision.candidate.discoveryDigest = discoveryDigest)
    (staleDecision "candidate reference names a different discovery document"
      (location ++ ".candidate.discovery_digest"))
  require (decision.candidate.semanticDigest = candidate.semanticDigest)
    (staleDecision "candidate semantic digest is stale" (location ++ ".candidate.semantic_digest"))
  match decision with
  | .edited edited =>
    validateCandidateProposal edited.replacement (location ++ ".replacement")
    require (edited.replacementDigest = deriveCandidateSemanticDigest edited.replacement)
      (staleDecision "edited replacement digest is stale" (location ++ ".replacement_digest"))
  | _ => pure ()
  require (decision.id = deriveDecisionId decision decisionSet)
    (.onboarding .contentIdentityMismatch
      "decision ID does not match its exact content and context" (location ++ ".id"))

/-- `validate_decision_set` -/
def validateDecisionSet (discovery : DiscoveryResult) (decisionSet : DecisionSet) :
    Except PyError Unit := do
  let discoveryDigest := canonicalOnboardingDigest discovery
  require (decisionSet.discovery.canonicalDigest = discoveryDigest)
    (staleDecision "decision set names a different discovery document"
      "$.discovery.canonical_digest")
  let mismatch (field : String) : PyError := staleDecision
    "decision set names a different inventory snapshot" ("$.inventory_binding." ++ field)
  let given := decisionSet.inventoryBinding
  let binding := discovery.inventoryBinding
  require (given.subjectUri = binding.subjectUri) (mismatch "subject_uri")
  require (given.sourceRevision = binding.sourceRevision) (mismatch "source_revision")
  require (given.canonicalDigest = binding.canonicalDigest) (mismatch "canonical_digest")
  let candidatesById := Dict.index DiscoveryCandidate.id discovery.candidates.items
  let decisions := decisionSet.decisions.items
  let decisionCandidateIds : List DiscoveryCandidateId :=
    decisions.map fun decision => decision.candidate.candidateId
  require (decisionCandidateIds.length = candidatesById.keys.length ∧ decisionCandidateIds.Nodup ∧
      decisionCandidateIds ⊆ candidatesById.keys ∧ candidatesById.keys ⊆ decisionCandidateIds)
    (staleDecision "decisions must cover every current candidate exactly once" "$.decisions")
  checkEach (validateDecision discoveryDigest candidatesById decisionSet) decisions
  require (decisionCandidateIds = sortedBy id decisionCandidateIds)
    (.onboarding .nonCanonicalOrder "decisions must be sorted by candidate ID" "$.decisions")

end Ucf
