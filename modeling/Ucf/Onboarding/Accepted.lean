import Ucf.Ir.TrustCanonical
import Ucf.Onboarding.Bundle
import Ucf.Onboarding.Materialized

/-! What an accepted bundle is: its behavior and trust documents are the canonical forms of what its
decisions select, its materializations link each selected decision to its entities, and the evidence
of its candidates resolves in its inventory. -/

namespace Ucf

section Documents

variable [Hashlib] {discovery : DiscoveryResult} {decisionSet : DecisionSet}
  {behavior : BehaviorIR} {materializations : List BehaviorMaterialization}

/-- What the selected decisions need to be materialized, and what they are materialized as. -/
structure MaterializedAs (decisionSet : DecisionSet) (selected : List Selected)
    (behavior : BehaviorIR) (materializations : List BehaviorMaterialization) : Prop where
  proposals_nodup : (proposalIds selected).Nodup
  provenance_nodup : (selected.map fun s => provenanceId s.decision).Nodup
  disjoint : ∀ id ∈ selected.map fun s => provenanceId s.decision, id ∉ proposalIds selected
  wellFormed : (materializedDocument decisionSet selected).WellFormed
  behavior_eq : behavior = (materializedDocument decisionSet selected).canonical
  linked : collect (materializationOf behavior (canonicalIrDigest behavior)
    (Dict.index Entity.id behavior.entities)) selected = .ok materializations

theorem materializeBehavior_eq_ok :
    materializeBehavior discovery decisionSet = .ok (behavior, materializations) ↔
      validateDecisionSet discovery decisionSet = .ok () ∧
      ∃ selected, selectProposals (Dict.index DiscoveryCandidate.id discovery.candidates.items)
        decisionSet.decisions.items = .ok selected ∧
        MaterializedAs decisionSet selected behavior materializations := by
  have hparse : ∀ selected parsed, parseIrJson (canonicalIrJson
      (materializedDocument decisionSet selected)) = .ok parsed ↔
        (materializedDocument decisionSet selected).WellFormed ∧
          parsed = (materializedDocument decisionSet selected).canonical := by
    intro selected parsed
    rw [parseIrJson_canonicalIrJson]
    exact and_iff_right withinNesting_materializedDocument
  simp only [materializeBehavior, bind_eq_ok, pure_eq_ok, require_eq_ok, Except.ok.injEq,
    Prod.mk.injEq]
  constructor
  · rintro ⟨_, hvalid, selected, hselected, _, hproposals, _, ⟨hprovenance, hdisjoint⟩, parsed,
      hparsed, linked, hlinked, rfl, rfl⟩
    obtain ⟨hwf, rfl⟩ := (hparse selected parsed).mp hparsed
    exact ⟨hvalid, selected, hselected, hproposals, hprovenance, hdisjoint, hwf, rfl, hlinked⟩
  · rintro ⟨hvalid, selected, hselected, h⟩
    exact ⟨(), hvalid, selected, hselected, (), h.proposals_nodup, (),
      ⟨h.provenance_nodup, h.disjoint⟩, behavior,
      (hparse selected behavior).mpr ⟨h.wellFormed, h.behavior_eq⟩, materializations, h.linked,
      rfl, rfl⟩

/-- The trust document of a bundle, before it is put in canonical form. -/
def trustDocument (discovery : DiscoveryResult) (decisionSet : DecisionSet) (behavior : BehaviorIR)
    (records : List (List TrustRecord)) : TrustIR where
  documentId := digestIdentifier "trust" (Hashlib.sha256 (.text ((canonicalIrDigest behavior).text ++
    (canonicalOnboardingDigest decisionSet).value.text))) isDigestTag_trust
  subjectDocument := ⟨behavior.documentId, ⟨canonicalIrDigest behavior⟩⟩
  records :=
    .sourceRecord ⟨⟨"source.discovery", sourceDiscovery_valid⟩,
      ⟨discoveryResultSchemaUri, discoveryResultSchemaUri_valid⟩,
      canonicalOnboardingDigest discovery, discovery.producer,
      decisionSet.captureContext.capturedAt⟩ ::
    .sourceRecord ⟨⟨"source.decisions", sourceDecisions_valid⟩,
      ⟨decisionSetSchemaUri, decisionSetSchemaUri_valid⟩,
      canonicalOnboardingDigest decisionSet, decisionSet.reviewer,
      decisionSet.captureContext.capturedAt⟩ :: records.flatten

/-- What the trust document of a bundle is. -/
structure TrustedAs (discovery : DiscoveryResult) (decisionSet : DecisionSet)
    (behavior : BehaviorIR) (records : List (List TrustRecord)) (trust : TrustIR) : Prop where
  withinNesting : (trustDocument discovery decisionSet behavior records).WithinNesting
  wellFormed : (trustDocument discovery decisionSet behavior records).canonical.WellFormed
  trust_eq : trust = (trustDocument discovery decisionSet behavior records).canonical
  valid : validateOnboardingTrust trust behavior = .ok ()

theorem buildOnboardingTrust_eq_ok {trust : TrustIR} :
    buildOnboardingTrust discovery decisionSet behavior materializations = .ok trust ↔
      materializeBehavior discovery decisionSet = .ok (behavior, materializations) ∧
      ∃ records, collect (trustRecordsOf
          (Dict.index DiscoveryCandidate.id discovery.candidates.items)
          ⟨.sourceRecord, ⟨"source.decisions", by decide⟩⟩) materializations = .ok records ∧
        TrustedAs discovery decisionSet behavior records trust := by
  simp only [buildOnboardingTrust, bind_eq_ok, pure_eq_ok, require_eq_ok, Except.ok.injEq]
  constructor
  · rintro ⟨_, -, ⟨expected, linked⟩, hmaterialized, _, rfl, _, rfl, records, hrecords, parsed,
      hparsed, _, hvalid, rfl⟩
    obtain ⟨hnesting, hwf, htrust⟩ := parseTrustIrJson_canonicalTrustIrJson.mp hparsed
    exact ⟨hmaterialized, records, hrecords, hnesting, hwf, htrust, hvalid⟩
  · rintro ⟨hmaterialized, records, hrecords, h⟩
    exact ⟨(), (materializeBehavior_eq_ok.mp hmaterialized).1, _, hmaterialized, (), rfl, (), rfl,
      records, hrecords, trust,
      parseTrustIrJson_canonicalTrustIrJson.mpr ⟨h.withinNesting, h.wellFormed, h.trust_eq⟩, (),
      h.valid, rfl⟩

end Documents

/-! ### The bundle -/

variable [Unicodedata] [Hashlib]

/-- What an accepted bundle is, with what its decisions select and what that is linked to. -/
structure OnboardingBundle.AcceptedAs (bundle : OnboardingBundle) (request : DiscoveryRequest)
    (selected : List Selected) (materializations : List BehaviorMaterialization)
    (records : List (List TrustRecord)) : Prop where
  context_eq : bundle.captureContext = bundle.decisions.captureContext
  request_eq : requestFor bundle.inventory bundle.discovery = .ok request
  exchange : validateDiscoveryExchange request bundle.discovery = .ok ()
  decided : validateDecisionSet bundle.discovery bundle.decisions = .ok ()
  selected_eq : selectProposals (Dict.index DiscoveryCandidate.id bundle.discovery.candidates.items)
    bundle.decisions.decisions.items = .ok selected
  materialized : MaterializedAs bundle.decisions selected bundle.behavior materializations
  records_eq : collect (trustRecordsOf
    (Dict.index DiscoveryCandidate.id bundle.discovery.candidates.items)
    ⟨.sourceRecord, ⟨"source.decisions", by decide⟩⟩) materializations = .ok records
  trusted : TrustedAs bundle.discovery bundle.decisions bundle.behavior records bundle.trust
  baseline_eq : deriveOnboardingBaseline bundle.inventory bundle.discovery bundle.decisions
    bundle.behavior bundle.trust materializations = .ok bundle.baseline

theorem validateOnboardingBundle_eq_ok {bundle : OnboardingBundle} {u : Unit} :
    validateOnboardingBundle bundle = .ok u ↔ ∃ request selected materializations records,
      bundle.AcceptedAs request selected materializations records := by
  simp only [validateOnboardingBundle, bind_eq_ok, require_eq_ok]
  constructor
  · rintro ⟨_, hcontext, request, hrequest, _, hexchange, _, hdecided,
      ⟨expected, materializations⟩, hmaterialized, _, rfl, trust, htrust, _, rfl, baseline,
      hbaseline, rfl⟩
    obtain ⟨-, selected, hselected, hlinked⟩ := materializeBehavior_eq_ok.mp hmaterialized
    obtain ⟨-, records, hrecords, htrusted⟩ := buildOnboardingTrust_eq_ok.mp htrust
    exact ⟨request, selected, materializations, records, hcontext, hrequest, hexchange, hdecided,
      hselected, hlinked, hrecords, htrusted, hbaseline⟩
  · rintro ⟨request, selected, materializations, records, h⟩
    have hmaterialized := materializeBehavior_eq_ok.mpr
      ⟨h.decided, selected, h.selected_eq, h.materialized⟩
    exact ⟨(), h.context_eq, request, h.request_eq, (), h.exchange, (), h.decided, _, hmaterialized,
      (), rfl, _, buildOnboardingTrust_eq_ok.mpr ⟨hmaterialized, records, h.records_eq, h.trusted⟩,
      (), rfl, _, h.baseline_eq, rfl⟩

/-- The bundle of an inventory with its discovery and decisions, without a detour over the texts of
its documents. -/
def assembleBundle (inventory : InventorySnapshot) (discovery : DiscoveryResult)
    (decisions : DecisionSet) : Except PyError OnboardingBundle := do
  let request ← requestFor inventory discovery
  validateDiscoveryExchange request discovery
  validateDecisionSet discovery decisions
  let candidatesById := Dict.index DiscoveryCandidate.id discovery.candidates.items
  let selected ← selectProposals candidatesById decisions.decisions.items
  let provenanceIds := selected.map fun s => provenanceId s.decision
  require ((proposalIds selected).Nodup ∧ provenanceIds.Nodup ∧
    ∀ id ∈ provenanceIds, id ∉ proposalIds selected) .assertionError
  validateIrSemantics (materializedDocument decisions selected)
  let behavior := (materializedDocument decisions selected).canonical
  let materializations ← collect (materializationOf behavior (canonicalIrDigest behavior)
    (Dict.index Entity.id behavior.entities)) selected
  let records ← collect (trustRecordsOf candidatesById
    ⟨.sourceRecord, ⟨"source.decisions", sourceDecisions_valid⟩⟩) materializations
  let trust := trustDocument discovery decisions behavior records
  require ((canonicalTrustIrValue trust).height ≤ maxJsonNesting + 1) .recursionError
  validateOnboardingTrust trust.canonical behavior
  let baseline ← deriveOnboardingBaseline inventory discovery decisions behavior trust.canonical
    materializations
  pure ⟨decisions.captureContext, inventory, discovery, decisions, behavior, trust.canonical,
    baseline⟩

theorem documents_of_assembleBundle {inventory : InventorySnapshot} {discovery : DiscoveryResult}
    {decisions : DecisionSet} {bundle : OnboardingBundle}
    (h : assembleBundle inventory discovery decisions = .ok bundle) :
    bundle.inventory = inventory ∧ bundle.discovery = discovery ∧ bundle.decisions = decisions := by
  simp only [assembleBundle, bind_eq_ok, require_eq_ok, pure_eq_ok, Except.ok.injEq] at h
  obtain ⟨_, _, _, _, _, _, _, _, _, _, _, _, _, _, _, _, _, _, _, _, _, _, _, rfl⟩ := h
  exact ⟨rfl, rfl, rfl⟩

/-- What is assembled is accepted. -/
theorem validate_of_assembleBundle {inventory : InventorySnapshot} {discovery : DiscoveryResult}
    {decisions : DecisionSet} {bundle : OnboardingBundle}
    (h : assembleBundle inventory discovery decisions = .ok bundle) :
    validateOnboardingBundle bundle = .ok () := by
  simp only [assembleBundle, bind_eq_ok, require_eq_ok, pure_eq_ok, Except.ok.injEq] at h
  obtain ⟨request, hrequest, _, hexchange, _, hdecided, selected, hselected, _,
    ⟨hproposals, hprovenance, hdisjoint⟩, _, hwf, materializations, hlinked, records, hrecords, _,
    hnesting, _, htrust, baseline, hbaseline, rfl⟩ := h
  have hvalid := htrust
  simp only [validateOnboardingTrust, bind_eq_ok] at hvalid
  obtain ⟨_, -, hagainst⟩ := hvalid
  exact validateOnboardingBundle_eq_ok.mpr ⟨request, selected, materializations, records,
    { context_eq := rfl
      request_eq := hrequest
      exchange := hexchange
      decided := hdecided
      selected_eq := hselected
      materialized := ⟨hproposals, hprovenance, hdisjoint, validateIrSemantics_eq_ok.mp hwf, rfl,
        hlinked⟩
      records_eq := hrecords
      trusted := ⟨hnesting, (validateTrustAgainstBehavior_eq_ok.mp hagainst).wellFormed, rfl,
        htrust⟩
      baseline_eq := hbaseline }⟩

/-- The steps that give an accepted bundle its documents. -/
theorem documents_of_validate {bundle : OnboardingBundle}
    (h : validateOnboardingBundle bundle = .ok ()) : ∃ materializations,
    materializeBehavior bundle.discovery bundle.decisions = .ok (bundle.behavior, materializations) ∧
      buildOnboardingTrust bundle.discovery bundle.decisions bundle.behavior materializations =
        .ok bundle.trust ∧
      deriveOnboardingBaseline bundle.inventory bundle.discovery bundle.decisions bundle.behavior
        bundle.trust materializations = .ok bundle.baseline := by
  obtain ⟨request, selected, materializations, records, haccepted⟩ :=
    validateOnboardingBundle_eq_ok.mp h
  have hmaterialized := materializeBehavior_eq_ok.mpr
    ⟨haccepted.decided, selected, haccepted.selected_eq, haccepted.materialized⟩
  exact ⟨materializations, hmaterialized, buildOnboardingTrust_eq_ok.mpr
    ⟨hmaterialized, records, haccepted.records_eq, haccepted.trusted⟩, haccepted.baseline_eq⟩

/-- What is assembled is what the documents are built into through their texts. -/
theorem build_of_assembleBundle {inventory : InventorySnapshot} {discovery : DiscoveryResult}
    {decisions : DecisionSet} {bundle : OnboardingBundle} {context : CaptureContext}
    (h : assembleBundle inventory discovery decisions = .ok bundle)
    (hcontext : bundle.captureContext = context) :
    (do
      let (behavior, materializations) ← materializeBehavior discovery decisions
      let trust ← buildOnboardingTrust discovery decisions behavior materializations
      let baseline ← deriveOnboardingBaseline inventory discovery decisions behavior trust
        materializations
      let bundle : OnboardingBundle :=
        ⟨context, inventory, discovery, decisions, behavior, trust, baseline⟩
      validateOnboardingBundle bundle
      pure bundle) = .ok bundle := by
  have hvalid := validate_of_assembleBundle h
  obtain ⟨rfl, rfl, rfl⟩ := documents_of_assembleBundle h
  obtain ⟨materializations, hbehavior, htrust, hbaseline⟩ := documents_of_validate hvalid
  simp only [hbehavior, htrust, hbaseline, ok_bind, ← hcontext]
  rw [hvalid]
  rfl

theorem requestFor_eq_ok {inventory : InventorySnapshot} {discovery : DiscoveryResult}
    {request : DiscoveryRequest} (h : requestFor inventory discovery = .ok request) :
    request.inventory = inventory := by
  rw [requestFor] at h
  split at h
  · cases h
    rfl
  · cases h

theorem deriveOnboardingBaseline_materializations {inventory : InventorySnapshot}
    {discovery : DiscoveryResult} {decisions : DecisionSet} {behavior : BehaviorIR}
    {trust : TrustIR} {materializations : List BehaviorMaterialization}
    {baseline : OnboardingBaseline} (h : deriveOnboardingBaseline inventory discovery decisions
      behavior trust materializations = .ok baseline) :
    baseline.materializations.items =
      sortedBy (fun item => item.candidate.candidateId) materializations := by
  simp only [deriveOnboardingBaseline, bind_eq_ok, pure_eq_ok, validated_eq_ok,
    Tuple.ofList_eq_ok, Except.ok.injEq] at h
  obtain ⟨_, -, _, -, _, -, linked, hlinked, _, -, rfl⟩ := h
  exact hlinked

namespace OnboardingBundle.AcceptedAs

variable {bundle : OnboardingBundle} {request : DiscoveryRequest} {selected : List Selected}
  {materializations : List BehaviorMaterialization} {records : List (List TrustRecord)}
  (h : bundle.AcceptedAs request selected materializations records)
include h

theorem inventory_eq : request.inventory = bundle.inventory := requestFor_eq_ok h.request_eq

theorem materializations_perm : bundle.baseline.materializations.items.Perm materializations := by
  rw [deriveOnboardingBaseline_materializations h.baseline_eq]
  exact sortedBy_perm _ _

theorem ready : ∀ decision ∈ bundle.decisions.decisions.items,
    decision.Ready (Dict.index DiscoveryCandidate.id bundle.discovery.candidates.items) :=
  Decision.ready_of_valid h.exchange h.decided

theorem selected_eq_selection : selected = selection bundle.discovery bundle.decisions :=
  Except.ok.inj (h.selected_eq.symm.trans (selectProposals_eq h.ready))

theorem candidates_nodup :
    (bundle.discovery.candidates.items.map DiscoveryCandidate.id).Nodup := by
  have hexchange := h.exchange
  simp only [validateDiscoveryExchange, validateCandidates, bind_eq_ok, require_eq_ok] at hexchange
  obtain ⟨_, _, _, _, _, _, _, _, _, hids, -⟩ := hexchange
  exact hids

/-- A materialization links one selected decision. -/
theorem exists_selected {materialization : BehaviorMaterialization}
    (hmem : materialization ∈ materializations) : ∃ s ∈ selected,
      materializationOf bundle.behavior (canonicalIrDigest bundle.behavior)
        (Dict.index Entity.id bundle.behavior.entities) s = .ok materialization :=
  (mem_of_collect h.materialized.linked materialization).mp hmem

/-- The candidate of a selected decision is one of the discovery. -/
theorem exists_candidate {s : Selected} (hs : s ∈ selected) :
    ∃ candidate ∈ bundle.discovery.candidates.items,
      candidate.id = s.decision.candidate.candidateId := by
  rw [h.selected_eq_selection, selection, List.mem_filterMap] at hs
  obtain ⟨decision, hdecision, hselected⟩ := hs
  obtain ⟨candidate, hcandidate, -⟩ := h.ready decision hdecision
  obtain ⟨hmem, hid⟩ := Dict.mem_of_get?_index hcandidate
  rw [decision_eq_of_selectedOf hselected]
  exact ⟨candidate, hmem, hid⟩

/-- The evidence of a candidate is sorted and resolves, and its subject is a public interface in
its evidence. -/
theorem candidate_valid {candidate : DiscoveryCandidate}
    (hmem : candidate ∈ bundle.discovery.candidates.items) :
    isCanonicalRefs candidate.evidence.items ∧
      (∀ reference ∈ candidate.evidence.items, ∃ record ∈ bundle.inventory.records.items,
        record.id = reference.targetId ∧ record.kind = reference.targetKind) ∧
      candidate.subject.targetKind = .publicInterface ∧
      candidate.subject ∈ candidate.evidence.items := by
  have hexchange := h.exchange
  simp only [validateDiscoveryExchange, validateCandidates, bind_eq_ok, require_eq_ok] at hexchange
  obtain ⟨_, _, _, _, _, _, _, _, _, _, _, _, _, _, _, hcandidates, _⟩ := hexchange
  obtain ⟨i, hi, rfl⟩ := List.mem_iff_getElem.mp hmem
  have hvalid := checkEach_eq_ok.mp hcandidates i hi
  rw [h.inventory_eq] at hvalid
  simp only [validateCandidate, bind_eq_ok, require_eq_ok] at hvalid
  obtain ⟨_, _, _, _, _, _, _, hrefs, _, hevidence, subject, _, _, hsubject, hincluded⟩ := hvalid
  refine ⟨hrefs, fun reference hreference => ?_, hsubject.1, hincluded⟩
  obtain ⟨k, hk, rfl⟩ := List.mem_iff_getElem.mp hreference
  have hresolved := checkEach_eq_ok.mp hevidence k hk
  simp only [validateInventoryRef, bind_eq_ok, orRaise_eq_ok, require_eq_ok] at hresolved
  obtain ⟨record, hrecord, hkind⟩ := hresolved
  obtain ⟨hrecordMem, hid⟩ := Dict.mem_of_get?_index hrecord
  exact ⟨record, hrecordMem, hid, hkind⟩

end OnboardingBundle.AcceptedAs

end Ucf
