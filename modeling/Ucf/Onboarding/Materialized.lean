import Ucf.Onboarding.Bundle
import Ucf.Onboarding.WellFormed

/-! Materialization is the exact image of the decisions. Every accepted proposal becomes well-formed
entities, whatever else the document holds, so the document of all selected proposals is valid as
soon as their identifiers are different. -/

namespace Ucf

/-! ### The image of a proposal -/

/-- The entity that a proposed entity becomes. -/
def ProposalEntity.image (provenance : EntityRef) : ProposalEntity → Entity
  | .action e => .action ⟨e.id, e.inputPorts, e.outputPorts, [], [], provenance⟩
  | .binding e => .binding ⟨e.id, portRef e.target, .port (portRef e.source), provenance⟩
  | .step e => .step ⟨e.id, entityRef e.action, e.bindings.map entityRef, [], [], [], provenance⟩
  | .useCase e =>
    .useCase ⟨e.id, e.inputPorts, e.outputPorts, e.steps.items.map entityRef, [], [], provenance⟩

theorem materializeProposal_eq (proposal : CandidateProposal) (provenance : EntityRef) :
    materializeProposal proposal provenance =
      proposal.entities.items.map (ProposalEntity.image provenance) :=
  List.map_congr_left fun entity _ => by cases entity <;> rfl

section Image

variable (provenance : EntityRef) (entity : ProposalEntity)

@[simp] theorem id_image : (entity.image provenance).id = entity.id := by
  cases entity <;> rfl

@[simp] theorem kind_image : (entity.image provenance).kind = behaviorKind entity.kind := by
  cases entity <;> rfl

@[simp] theorem provenanceRef?_image : (entity.image provenance).provenanceRef? = some provenance := by
  cases entity <;> rfl

@[simp] theorem capabilityName?_image : (entity.image provenance).capabilityName? = none := by
  cases entity <;> rfl

end Image

theorem RefSet.nil (entities : List Entity) (kinds : List EntityKind) : RefSet entities kinds [] :=
  ⟨.nil, nofun⟩

section Images

variable {whole : List Entity} {entities : List ProposalEntity} {provenance : EntityRef}
  (hmem : ∀ entity ∈ entities, entity.image provenance ∈ whole)
include hmem

/-- What resolves in a proposal resolves in every document that holds its image. -/
theorem ProposalResolves.image {ref : ProposalEntityRef} {target : ProposalEntity}
    (h : ProposalResolves entities ref target) :
    Resolves whole (entityRef ref) (target.image provenance) :=
  ⟨hmem _ h.mem, (id_image provenance target).trans h.id_eq,
    (kind_image provenance target).trans (congrArg behaviorKind h.kind_eq)⟩

theorem ProposalResolves.refTo {ref : ProposalEntityRef} {target : ProposalEntity}
    (h : ProposalResolves entities ref target) {kinds : List EntityKind}
    (hkind : behaviorKind target.kind ∈ kinds) : RefTo whole kinds (entityRef ref) :=
  ⟨by rwa [entityRef, ← h.kind_eq], _, h.image hmem⟩

theorem ProposalSource.image {root : ProposedUseCase} {source : ProposalPortRef}
    {port target : Port} (h : ProposalSource entities root source port) :
    SourceOf whole target (.port (portRef source)) port.valueKind := by
  cases h with
  | root howner hdirection hport hname =>
    refine .useCase (howner.image hmem) hdirection (.useCase (howner.image hmem) ?_ hname)
    rwa [portRef, hdirection]
  | step howner hdirection haction hport hname =>
    refine .step (howner.image hmem) hdirection
      (.step (howner.image hmem) (haction.image hmem) ?_ hname)
    rwa [portRef, hdirection]

theorem ProposalBindingFits.image {root : ProposedUseCase} {step : ProposedStep}
    {action : ProposedAction} {binding : ProposedBinding} {target source : Port}
    (h : ProposalBindingFits entities root step action binding target source) :
    BindingFits whole
      ⟨binding.id, portRef binding.target, .port (portRef binding.source), provenance⟩ := by
  have howner := h.owner.image hmem
  refine ⟨howner.kind_eq.symm, h.direction, target,
    .step howner (h.resolves.image hmem) ?_ h.name_eq, _, h.reads.image hmem, .inr h.kind_eq⟩
  rw [portRef, h.direction]
  exact h.mem

/-- The image of an entity of an accepted proposal is well formed. -/
theorem CandidateProposal.WellFormed.image {proposal : CandidateProposal} {root : ProposedUseCase}
    (h : proposal.WellFormed root) (hentities : proposal.entities.items = entities)
    {entity : ProposalEntity} (hentity : entity ∈ entities) :
    (entity.image provenance).PartsFit whole := by
  subst hentities
  have hports := h.ports entity hentity
  have hfits := h.entities entity hentity
  cases entity with
  | action e => exact ⟨hports.1, hports.2, .nil _ _, .nil _ _⟩
  | binding e =>
    obtain ⟨step, action, target, source, hbinding⟩ := hfits
    exact hbinding.image hmem
  | step e =>
    obtain ⟨action, haction⟩ := hfits.action
    have hbindings : RefSet whole [.binding] (e.bindings.map entityRef) := by
      refine ⟨?_, fun ref href => ?_⟩
      · refine List.Nodup.of_map EntityRef.targetId ?_
        rw [List.map_map]
        exact hfits.nodup
      · obtain ⟨proposed, hproposed, rfl⟩ := List.mem_map.mp href
        obtain ⟨binding, hbinding⟩ := hfits.bindings proposed hproposed
        exact hbinding.refTo hmem (by simp [ProposalEntity.kind, behaviorKind])
    exact ⟨haction.refTo hmem (by simp [ProposalEntity.kind, behaviorKind]), hbindings,
      .nil _ _, .nil _ _, .nil _ _⟩
  | useCase e =>
    obtain rfl : e = root := hfits
    refine ⟨hports.1, hports.2, fun ref href => ?_, .nil _ _, .nil _ _⟩
    obtain ⟨proposed, hproposed, rfl⟩ := List.mem_map.mp href
    obtain ⟨step, hstep⟩ := h.steps proposed hproposed
    exact hstep.refTo hmem (by simp [ProposalEntity.kind, behaviorKind])

end Images

/-! ### The selected decisions -/

/-- The proposal that a decision selects: that of the candidate it accepts, or what it puts in its
place. -/
def selectedOf (candidatesById : Dict DiscoveryCandidateId DiscoveryCandidate) :
    Decision → Option Selected
  | .accepted d => (candidatesById.get? d.candidate.candidateId).map fun candidate =>
      ⟨.accepted d, candidate.proposal⟩
  | .edited d => some ⟨.edited d, d.replacement⟩
  | .rejected _ => none
  | .uncertain _ => none

/-- The decisions that select a proposal, with their proposals. -/
def selection (discovery : DiscoveryResult) (decisionSet : DecisionSet) : List Selected :=
  decisionSet.decisions.items.filterMap
    (selectedOf (Dict.index DiscoveryCandidate.id discovery.candidates.items))

/-- The decision accepts its candidate or edits it. -/
def Decision.Selects (decision : Decision) : Prop :=
  decision.disposition = .accepted ∨ decision.disposition = .edited

instance (decision : Decision) : Decidable decision.Selects :=
  inferInstanceAs (Decidable (_ ∨ _))

/-- What a decision needs to be materialized. -/
def Decision.Ready (candidatesById : Dict DiscoveryCandidateId DiscoveryCandidate)
    (decision : Decision) : Prop :=
  ∃ candidate, candidatesById.get? decision.candidate.candidateId = some candidate ∧
    validateCandidateProposal candidate.proposal "$" = .ok () ∧
    ∀ d, decision = .edited d → validateCandidateProposal d.replacement "$" = .ok ()

section Selection

variable {candidatesById : Dict DiscoveryCandidateId DiscoveryCandidate}

theorem decision_eq_of_selectedOf {decision : Decision} {selected : Selected}
    (h : selectedOf candidatesById decision = some selected) : selected.decision = decision := by
  cases decision with
  | accepted d =>
    rw [selectedOf, Option.map_eq_some_iff] at h
    obtain ⟨candidate, _, rfl⟩ := h
    rfl
  | edited d =>
    rw [selectedOf, Option.some.injEq] at h
    rw [← h]
  | rejected d => cases h
  | uncertain d => cases h

theorem selectProposals_eq {decisions : List Decision}
    (h : ∀ decision ∈ decisions, decision.Ready candidatesById) :
    selectProposals candidatesById decisions =
      .ok (decisions.filterMap (selectedOf candidatesById)) := by
  induction decisions with
  | nil => rfl
  | cons decision decisions ih =>
    rw [List.forall_mem_cons] at h
    obtain ⟨⟨candidate, hcandidate, hproposal, hreplacement⟩, hrest⟩ := h
    have hselected := ih hrest
    cases decision with
    | accepted d =>
      have hget : candidatesById.get? d.candidate.candidateId = some candidate := hcandidate
      simp only [selectProposals, hget, orRaise_some, ok_bind, hproposal, hselected, pure_eq_ok,
        List.filterMap_cons, selectedOf, Option.map_some]
    | edited d =>
      simp only [selectProposals, hreplacement d rfl, ok_bind, hselected, pure_eq_ok,
        List.filterMap_cons, selectedOf]
    | rejected d =>
      rw [selectProposals, hselected]
      · rfl
      · nofun
      · nofun
    | uncertain d =>
      rw [selectProposals, hselected]
      · rfl
      · nofun
      · nofun

/-- Each decision that accepts or edits is selected once, and no other is. -/
theorem map_decision_selected {decisions : List Decision}
    (h : ∀ decision ∈ decisions, decision.Ready candidatesById) :
    (decisions.filterMap (selectedOf candidatesById)).map Selected.decision =
      decisions.filter fun decision => decision.Selects := by
  induction decisions with
  | nil => rfl
  | cons decision decisions ih =>
    rw [List.forall_mem_cons] at h
    obtain ⟨⟨candidate, hcandidate, _⟩, hrest⟩ := h
    have hselected := ih hrest
    cases decision with
    | accepted d =>
      have hget : candidatesById.get? d.candidate.candidateId = some candidate := hcandidate
      simp [selectedOf, hget, Decision.Selects, Decision.disposition, hselected]
    | edited d => simp [selectedOf, Decision.Selects, Decision.disposition, hselected]
    | rejected d =>
      rw [List.filterMap_cons_none rfl, List.filter_cons_of_neg
        (by simp [Decision.Selects, Decision.disposition])]
      exact hselected
    | uncertain d =>
      rw [List.filterMap_cons_none rfl, List.filter_cons_of_neg
        (by simp [Decision.Selects, Decision.disposition])]
      exact hselected

/-- A selected proposal is valid. -/
theorem valid_of_mem_selected {decisions : List Decision}
    (h : ∀ decision ∈ decisions, decision.Ready candidatesById) {selected : Selected}
    (hselected : selected ∈ decisions.filterMap (selectedOf candidatesById)) :
    validateCandidateProposal selected.proposal "$" = .ok () := by
  obtain ⟨decision, hdecision, hsome⟩ := List.mem_filterMap.mp hselected
  obtain ⟨candidate, hcandidate, hproposal, hreplacement⟩ := h decision hdecision
  cases decision with
  | accepted d =>
    have hget : candidatesById.get? d.candidate.candidateId = some candidate := hcandidate
    simp only [selectedOf, hget, Option.map_some, Option.some.injEq] at hsome
    rw [← hsome]
    exact hproposal
  | edited d =>
    rw [selectedOf, Option.some.injEq] at hsome
    rw [← hsome]
    exact hreplacement d rfl
  | rejected d => cases hsome
  | uncertain d => cases hsome

end Selection

/-! ### What the validators promise -/

section Validators

variable [Hashlib]

theorem Decision.ready_of_valid [Unicodedata] {request : DiscoveryRequest}
    {discovery : DiscoveryResult} {decisionSet : DecisionSet}
    (hdiscovery : validateDiscoveryExchange request discovery = .ok ())
    (hdecisions : validateDecisionSet discovery decisionSet = .ok ()) :
    ∀ decision ∈ decisionSet.decisions.items,
      decision.Ready (Dict.index DiscoveryCandidate.id discovery.candidates.items) := by
  simp only [validateDiscoveryExchange, validateCandidates, bind_eq_ok, require_eq_ok] at hdiscovery
  obtain ⟨_, _, _, _, _, _, _, _, _, hids, _, _, _, _, _, hcandidates, _⟩ := hdiscovery
  simp only [validateDecisionSet, bind_eq_ok, require_eq_ok] at hdecisions
  obtain ⟨_, _, _, _, _, _, _, _, _, _, _, hchecked, _⟩ := hdecisions
  intro decision hdecision
  obtain ⟨i, hi, rfl⟩ := List.mem_iff_getElem.mp hdecision
  have hvalid := checkEach_eq_ok.mp hchecked i hi
  simp only [validateDecision, bind_eq_ok, orRaise_eq_ok, require_eq_ok] at hvalid
  obtain ⟨candidate, hcandidate, _, _, _, _, hreplacement⟩ := hvalid
  obtain ⟨hmem, _⟩ := (Dict.get?_index hids).mp hcandidate
  obtain ⟨k, hk, rfl⟩ := List.mem_iff_getElem.mp hmem
  have hproposal := checkEach_eq_ok.mp hcandidates k hk
  simp only [validateCandidate, bind_eq_ok] at hproposal
  refine ⟨_, hcandidate, (sameValue_validateCandidateProposal _ _ _ ()).mp hproposal.choose_spec.1,
    fun d hd => ?_⟩
  rw [hd] at hreplacement
  simp only [bind_eq_ok] at hreplacement
  exact (sameValue_validateCandidateProposal _ _ _ ()).mp hreplacement.choose_spec.1

/-- The documents that the identifiers of decisions are hashes of. -/
def decisionDocument (decisionSet : DecisionSet) (decision : Decision) : Json :=
  .obj [("capture_context", modelDump decisionSet.captureContext),
    ("decision", (modelDump decision).exclude ["id"]),
    ("discovery", modelDump decisionSet.discovery),
    ("inventory_binding", modelDump decisionSet.inventoryBinding),
    ("reviewer", modelDump decisionSet.reviewer)]

/-- What is hashed to identify the decisions of a set and their provenance. -/
def decisionPayloads (decisionSet : DecisionSet) : Set Payload :=
  { payload | ∃ decision ∈ decisionSet.decisions.items,
    payload = .canonical (decisionDocument decisionSet decision) ∨
      payload = .text decision.id.text }

omit [Hashlib] in
theorem get?_candidate_decision (decision : Decision) :
    ((modelDump decision).exclude ["id"]).get? "candidate" = some (modelDump decision.candidate) := by
  cases decision with
  | accepted d => rfl
  | edited d => rfl
  | rejected d => rfl
  | uncertain d => rfl

theorem validateDecisionSet_ids {discovery : DiscoveryResult} {decisionSet : DecisionSet}
    (h : validateDecisionSet discovery decisionSet = .ok ()) :
    (decisionSet.decisions.items.map fun decision => decision.candidate.candidateId).Nodup ∧
      ∀ decision ∈ decisionSet.decisions.items,
        decision.id = deriveDecisionId decision decisionSet := by
  simp only [validateDecisionSet, bind_eq_ok, require_eq_ok] at h
  obtain ⟨_, _, _, _, _, _, _, _, _, ⟨_, hnodup, _⟩, _, hchecked, _⟩ := h
  refine ⟨hnodup, fun decision hdecision => ?_⟩
  obtain ⟨i, hi, rfl⟩ := List.mem_iff_getElem.mp hdecision
  have hvalid := checkEach_eq_ok.mp hchecked i hi
  simp only [validateDecision, bind_eq_ok] at hvalid
  obtain ⟨_, _, _, _, _, _, hrest⟩ := hvalid
  cases hd : decisionSet.decisions.items[i] with
  | edited d =>
    simp only [hd, bind_eq_ok, require_eq_ok] at hrest
    exact hrest.choose_spec.2.choose_spec.2
  | _ => simpa only [hd, require_eq_ok] using hrest

/-- Different decisions have different provenance, unless SHA-256 collides on them. -/
theorem provenanceId_injOn {discovery : DiscoveryResult} {decisionSet : DecisionSet}
    (h : validateDecisionSet discovery decisionSet = .ok ())
    (hsha : Set.InjOn Hashlib.sha256 (decisionPayloads decisionSet)) :
    ∀ d ∈ decisionSet.decisions.items, ∀ e ∈ decisionSet.decisions.items,
      provenanceId d = provenanceId e → d = e := by
  intro d hd e he hprovenance
  obtain ⟨hnodup, hids⟩ := validateDecisionSet_ids h
  have htext := hsha ⟨d, hd, .inr rfl⟩ ⟨e, he, .inr rfl⟩ (digestIdentifier_injective _ hprovenance)
  have hid : d.id = e.id := ContentId.text_injective (Payload.text.inj htext)
  rw [hids d hd, hids e he] at hid
  have hdocument := hsha ⟨d, hd, .inl rfl⟩ ⟨e, he, .inl rfl⟩ (congrArg ContentId.digest hid)
  rw [Payload.canonical.injEq, decisionDocument, decisionDocument, Json.obj.injEq] at hdocument
  have hcandidate : (modelDump d.candidate) = modelDump e.candidate := by
    have hfields : (modelDump d).exclude ["id"] = (modelDump e).exclude ["id"] := by
      simpa using hdocument
    have hget := get?_candidate_decision d
    rw [hfields, get?_candidate_decision, Option.some.injEq] at hget
    exact hget.symm
  have hcandidate' : d.candidate = e.candidate := modelDump_injective (by rw [hcandidate])
  exact List.inj_on_of_nodup_map hnodup hd he (congrArg CandidateRef.candidateId hcandidate')

end Validators

/-! ### The document -/

section Document

variable [Hashlib]

/-- The identifiers that the selected proposals propose. -/
def proposalIds (selected : List Selected) : List Identifier :=
  selected.flatMap fun s => s.proposal.entities.items.map ProposalEntity.id

/-- The provenance that a selected decision gives its entities. -/
def Selected.provenanceRef (selected : Selected) : EntityRef :=
  ⟨.provenance, provenanceId selected.decision⟩

/-- The provenance entity of a selected decision. -/
def Selected.provenance (decisionSet : DecisionSet) (selected : Selected) : Entity :=
  .provenance ⟨provenanceId selected.decision,
    ⟨digestUri "urn:ucf:onboarding:decision-set:" (canonicalOnboardingDigest decisionSet).value
      isUriTag_decisionSet, canonicalOnboardingDigest decisionSet⟩,
    decisionSet.reviewer, decisionSet.captureContext.capturedAt⟩

/-- The images of what a selected decision proposes. -/
def Selected.images (selected : Selected) : List Entity :=
  selected.proposal.entities.items.map (ProposalEntity.image selected.provenanceRef)

theorem materializeSelected_eq (decisionSet : DecisionSet) (selected : Selected) :
    materializeSelected decisionSet (canonicalOnboardingDigest decisionSet) selected =
      selected.provenance decisionSet :: selected.images := by
  rw [materializeSelected, materializeProposal_eq]
  rfl

/-- The document that the selected decisions make up, before it is put in canonical form. -/
def materializedDocument (decisionSet : DecisionSet) (selected : List Selected) : BehaviorIR where
  documentId := digestIdentifier "behavior" (canonicalOnboardingDigest decisionSet).value
    isDigestTag_behavior
  roots := selected.map fun s => entityRef s.proposal.root
  entities := selected.flatMap
    (materializeSelected decisionSet (canonicalOnboardingDigest decisionSet))

variable {decisionSet : DecisionSet} {selected : List Selected}

theorem mem_materializedDocument {entity : Entity} :
    entity ∈ (materializedDocument decisionSet selected).entities ↔ ∃ s ∈ selected,
      entity = s.provenance decisionSet ∨
        ∃ proposed ∈ s.proposal.entities.items, proposed.image s.provenanceRef = entity := by
  simp only [materializedDocument, List.mem_flatMap, materializeSelected_eq, List.mem_cons,
    Selected.images, List.mem_map]

theorem materializedDocument_perm : (materializedDocument decisionSet selected).entities.Perm
    (selected.map (Selected.provenance decisionSet) ++ selected.flatMap Selected.images) := by
  rw [List.map_eq_flatMap]
  refine List.Perm.trans ?_ (List.flatMap_append_perm selected _ _).symm
  simp only [List.singleton_append, ← materializeSelected_eq]
  exact .refl _

/-- The identifiers of the document are different when those of the proposals and of the provenance
are. -/
theorem ids_nodup_materializedDocument (hproposals : (proposalIds selected).Nodup)
    (hprovenance : (selected.map fun s => provenanceId s.decision).Nodup)
    (hdisjoint : ∀ id ∈ selected.map fun s => provenanceId s.decision, id ∉ proposalIds selected) :
    ((materializedDocument decisionSet selected).entities.map Entity.id).Nodup := by
  have hids : (selected.map (Selected.provenance decisionSet) ++
      selected.flatMap Selected.images).map Entity.id =
        (selected.map fun s => provenanceId s.decision) ++ proposalIds selected := by
    rw [List.map_append, List.map_map, List.map_flatMap, proposalIds]
    simp only [Selected.images, List.map_map]
    congr 2
    exact funext fun s => List.map_congr_left fun entity _ => id_image _ _
  rw [(materializedDocument_perm.map Entity.id).nodup_iff, hids]
  exact hprovenance.append hproposals fun id hid hmem => hdisjoint id hid hmem

/-- The document of valid proposals with different identifiers is well formed. -/
theorem wellFormed_materializedDocument
    (hvalid : ∀ s ∈ selected, validateCandidateProposal s.proposal "$" = .ok ())
    (hproposals : (proposalIds selected).Nodup)
    (hprovenance : (selected.map fun s => provenanceId s.decision).Nodup)
    (hdisjoint : ∀ id ∈ selected.map fun s => provenanceId s.decision, id ∉ proposalIds selected) :
    (materializedDocument decisionSet selected).WellFormed := by
  have himages : ∀ s ∈ selected, ∀ proposed ∈ s.proposal.entities.items,
      proposed.image s.provenanceRef ∈ (materializedDocument decisionSet selected).entities :=
    fun s hs proposed hproposed => mem_materializedDocument.mpr ⟨s, hs, .inr ⟨_, hproposed, rfl⟩⟩
  refine ⟨ids_nodup_materializedDocument hproposals hprovenance hdisjoint, ?_, ⟨?_, ?_⟩, ?_⟩
  · have hnames : (materializedDocument decisionSet selected).entities.filterMap
        Entity.capabilityName? = [] := by
      rw [List.filterMap_eq_nil_iff]
      intro entity hentity
      obtain ⟨s, _, rfl | ⟨proposed, _, rfl⟩⟩ := mem_materializedDocument.mp hentity
      · rfl
      · exact capabilityName?_image _ _
    rw [hnames]
    exact .nil
  · -- the roots are among the proposed identifiers, one in each proposal
    have hroots : ∀ s ∈ selected, s.proposal.root.targetId ∈
        s.proposal.entities.items.map ProposalEntity.id := by
      intro s hs
      obtain ⟨root, hroot⟩ := validateCandidateProposal_ok (hvalid s hs)
      exact List.mem_map.mpr ⟨_, hroot.resolves.mem, hroot.resolves.id_eq⟩
    refine List.Nodup.of_map EntityRef.targetId ?_
    have hmap : (materializedDocument decisionSet selected).roots.map EntityRef.targetId =
        selected.map fun s => s.proposal.root.targetId := by
      rw [materializedDocument, List.map_map]
      rfl
    rw [hmap]
    rw [proposalIds, List.nodup_flatMap] at hproposals
    refine (List.pairwise_map.mpr (hproposals.2.imp_of_mem ?_))
    intro s t hs ht hdisjoint heq
    exact hdisjoint (hroots s hs) (heq ▸ hroots t ht)
  · intro ref href
    obtain ⟨s, hs, rfl⟩ := List.mem_map.mp href
    obtain ⟨root, hroot⟩ := validateCandidateProposal_ok (hvalid s hs)
    exact hroot.resolves.refTo (himages s hs) (by simp [ProposalEntity.kind, behaviorKind])
  · intro entity hentity
    obtain ⟨s, hs, rfl | ⟨proposed, hproposed, rfl⟩⟩ := mem_materializedDocument.mp hentity
    · exact ⟨trivial, nofun⟩
    · obtain ⟨root, hroot⟩ := validateCandidateProposal_ok (hvalid s hs)
      refine ⟨hroot.image (himages s hs) rfl hproposed, fun ref href => ?_⟩
      rw [provenanceRef?_image, Option.some.injEq] at href
      subst href
      exact ⟨by simp [Selected.provenanceRef], _,
        mem_materializedDocument.mpr ⟨s, hs, .inl rfl⟩, rfl, rfl⟩

/-- Nothing in the document nests deep. -/
theorem withinNesting_materializedDocument :
    (materializedDocument decisionSet selected).WithinNesting := by
  have hportRef : ∀ ref : PortRef, (modelDump ref).height ≤ 3 :=
    fun ref => (Model.schema.within 2 rfl ref).height_le
  rw [BehaviorIR.withinNesting_iff]
  intro entity hentity
  refine lt_of_le_of_lt ?_ (by decide : 8 < maxJsonNesting)
  obtain ⟨s, _, rfl | ⟨proposed, _, rfl⟩⟩ := mem_materializedDocument.mp hentity
  · exact (Model.schema.within 3 rfl (_ : Provenance)).height_le.trans (by decide)
  · cases proposed with
    | action e => exact (Model.schema.within 3 rfl (_ : Action)).height_le.trans (by decide)
    | step e => exact (Model.schema.within 3 rfl (_ : Step)).height_le.trans (by decide)
    | useCase e => exact (Model.schema.within 3 rfl (_ : UseCase)).height_le.trans (by decide)
    | binding e =>
      have hdump : modelDump ((ProposalEntity.binding e).image s.provenanceRef).canonical =
          .obj [("kind", .str "binding"), ("id", .str e.id.val),
            ("target", modelDump (portRef e.target)), ("source", modelDump (portRef e.source)),
            ("provenance", modelDump s.provenanceRef)] := rfl
      have htarget := hportRef (portRef e.target)
      have hsource := hportRef (portRef e.source)
      have hprovenance := (Model.schema.within 1 rfl s.provenanceRef).height_le
      rw [hdump, Json.height]
      refine Nat.succ_le_succ (Json.heightFields_le.mpr fun field hfield => ?_)
      simp only [List.mem_cons, List.not_mem_nil, or_false] at hfield
      rcases hfield with rfl | rfl | rfl | rfl | rfl
      · simp [Json.height]
      · simp [Json.height]
      · exact htarget.trans (by decide)
      · exact hsource.trans (by decide)
      · exact hprovenance.trans (by decide)

/-! ### The materializations -/

/-- What the materialization of a selected decision names: its candidate, its root, and exactly its
provenance and the images of what it proposes. -/
structure Materializes (behavior : BehaviorIR) (decisionSet : DecisionSet) (selected : Selected)
    (materialization : BehaviorMaterialization) : Prop where
  candidate_eq : materialization.candidate = selected.decision.candidate
  decisionId_eq : materialization.decisionId = selected.decision.id
  root_eq : materialization.root = ⟨behavior.documentId, ⟨canonicalIrDigest behavior⟩,
    behaviorKind selected.proposal.root.targetKind, selected.proposal.root.targetId⟩
  entities_perm : materialization.entities.items.Perm
    ((selected.provenance decisionSet :: selected.images).map
      (behaviorRef behavior (canonicalIrDigest behavior)))

/-- Each entity of the document is found under its identifier, in its canonical form. -/
theorem get?_materializedDocument (hwf : (materializedDocument decisionSet selected).WellFormed)
    {entity : Entity} (hentity : entity ∈ (materializedDocument decisionSet selected).entities) :
    (Dict.index Entity.id (materializedDocument decisionSet selected).canonical.entities).get?
      entity.id = some entity.canonical := by
  rw [Dict.get?_index hwf.canonical.ids_nodup]
  refine ⟨?_, Entity.id_canonical entity⟩
  rw [BehaviorIR.canonical, mem_sortedBy]
  exact List.mem_map_of_mem hentity

theorem exists_materializationOf (hwf : (materializedDocument decisionSet selected).WellFormed)
    {s : Selected} (hs : s ∈ selected)
    (hvalid : validateCandidateProposal s.proposal "$" = .ok ()) {behavior : BehaviorIR}
    (hbehavior : behavior = (materializedDocument decisionSet selected).canonical) :
    ∃ materialization, materializationOf behavior (canonicalIrDigest behavior)
        (Dict.index Entity.id behavior.entities) s = .ok materialization ∧
      Materializes behavior decisionSet s materialization := by
  have hget : ∀ entity ∈ s.images ++ [s.provenance decisionSet],
      (Dict.index Entity.id behavior.entities).get? entity.id = some entity.canonical := by
    intro entity hentity
    rw [hbehavior]
    refine get?_materializedDocument hwf (mem_materializedDocument.mpr ⟨s, hs, ?_⟩)
    rcases List.mem_append.mp hentity with himage | hprovenance
    · exact .inr (List.mem_map.mp himage)
    · exact .inl (List.mem_singleton.mp hprovenance)
  have hlinks : s.proposal.entities.items.map ProposalEntity.id ++ [provenanceId s.decision] =
      (s.images ++ [s.provenance decisionSet]).map Entity.id := by
    rw [List.map_append, Selected.images, List.map_map]
    refine congrArg₂ _ (List.map_congr_left fun entity _ => ?_) rfl
    exact (id_image _ entity).symm
  have hlength : (s.images ++ [s.provenance decisionSet]).length =
      s.proposal.entities.items.length + 1 := by
    rw [List.length_append, Selected.images, List.length_map]
    rfl
  obtain ⟨root, hroot⟩ := validateCandidateProposal_ok hvalid
  have hrootMem : (ProposalEntity.useCase root).image s.provenanceRef ∈
      s.images ++ [s.provenance decisionSet] :=
    List.mem_append_left _ (List.mem_map_of_mem hroot.resolves.mem)
  have hrootGet := hget _ hrootMem
  rw [id_image, hroot.resolves.id_eq] at hrootGet
  have hupper := s.proposal.entities.le_upper
  refine ⟨⟨s.decision.candidate, s.decision.id,
    behaviorRef behavior (canonicalIrDigest behavior)
      ((ProposalEntity.useCase root).image s.provenanceRef).canonical,
    ⟨sortedBy (fun reference : BehaviorEntityRef => toLex (reference.targetKind.value,
      reference.targetId.val)) ((s.images ++ [s.provenance decisionSet]).map
        (behaviorRef behavior (canonicalIrDigest behavior))), ?_, ?_⟩⟩, ?_, ⟨rfl, rfl, ?_, ?_⟩⟩
  · rw [length_sortedBy, List.length_map, hlength]
    omega
  · rw [length_sortedBy, List.length_map, hlength]
    omega
  · simp only [materializationOf, hlinks, bind_eq_ok, pure_eq_ok, hrootGet, orRaise_some,
      validated_eq_ok, Tuple.ofList_eq_ok, Except.ok.injEq]
    refine ⟨_, collect_eq_ok.mpr ?_, _, rfl, _, rfl, rfl⟩
    rw [List.forall₂_map_left_iff, List.forall₂_map_right_iff, List.forall₂_same]
    intro entity hentity
    rw [hget entity hentity]
    simp only [orRaise_some, ok_bind, behaviorRef, Entity.id_canonical, Entity.kind_canonical]
  · simp only [behaviorRef, Entity.id_canonical, Entity.kind_canonical, id_image, kind_image]
    rw [← hroot.resolves.id_eq, ← hroot.resolves.kind_eq]
  · refine (sortedBy_perm _ _).trans (List.Perm.map _ ?_)
    exact List.perm_append_singleton _ _

end Document

/-- Materialization is total on valid documents whose selected proposals are disjoint, and its
result is the exact image of the decisions. -/
theorem materializeBehavior_exact [Unicodedata] [Hashlib] {request : DiscoveryRequest}
    {discovery : DiscoveryResult} {decisionSet : DecisionSet}
    (hdiscovery : validateDiscoveryExchange request discovery = .ok ())
    (hdecisions : validateDecisionSet discovery decisionSet = .ok ())
    (hproposals : (proposalIds (selection discovery decisionSet)).Nodup)
    (hprovenance : ∀ s ∈ selection discovery decisionSet,
      provenanceId s.decision ∉ proposalIds (selection discovery decisionSet))
    (hsha : Set.InjOn Hashlib.sha256 (decisionPayloads decisionSet)) :
    ∃ behavior materializations,
      materializeBehavior discovery decisionSet = .ok (behavior, materializations) ∧
      validateIrSemantics behavior = .ok () ∧
      behavior.entities.Perm
        (((selection discovery decisionSet).map (Selected.provenance decisionSet) ++
          (selection discovery decisionSet).flatMap Selected.images).map Entity.canonical) ∧
      behavior.roots.Perm
        ((selection discovery decisionSet).map fun s => entityRef s.proposal.root) ∧
      List.Forall₂ (Materializes behavior decisionSet) (selection discovery decisionSet)
        materializations ∧
      (selection discovery decisionSet).map Selected.decision =
        decisionSet.decisions.items.filter fun decision => decision.Selects := by
  have hready := Decision.ready_of_valid hdiscovery hdecisions
  have hvalid : ∀ s ∈ selection discovery decisionSet,
      validateCandidateProposal s.proposal "$" = .ok () :=
    fun s hs => valid_of_mem_selected hready hs
  have hdecisionMap : (selection discovery decisionSet).map Selected.decision =
      decisionSet.decisions.items.filter fun decision => decision.Selects :=
    map_decision_selected hready
  -- different decisions have different provenance
  have hprovenanceIds :
      ((selection discovery decisionSet).map fun s => provenanceId s.decision).Nodup := by
    have hmap : ((selection discovery decisionSet).map fun s => provenanceId s.decision) =
        (decisionSet.decisions.items.filter fun decision => decision.Selects).map provenanceId := by
      rw [← hdecisionMap, List.map_map]
      rfl
    rw [hmap]
    refine List.Nodup.map_on (fun d hd e he => ?_)
      ((validateDecisionSet_ids hdecisions).1.of_map.filter _)
    exact provenanceId_injOn hdecisions hsha d (List.mem_of_mem_filter hd) e
      (List.mem_of_mem_filter he)
  have hdisjoint : ∀ id ∈ (selection discovery decisionSet).map fun s => provenanceId s.decision,
      id ∉ proposalIds (selection discovery decisionSet) := by
    intro id hid
    obtain ⟨s, hs, rfl⟩ := List.mem_map.mp hid
    exact hprovenance s hs
  have hwf := @wellFormed_materializedDocument _ decisionSet _ hvalid hproposals hprovenanceIds
    hdisjoint
  have hparse := parseIrJson_canonicalIrJson.mpr
    ⟨withinNesting_materializedDocument, hwf, rfl⟩
  obtain ⟨materializations, hcollect, hmaterializes⟩ := exists_collect fun s hs =>
    exists_materializationOf hwf hs (hvalid s hs) rfl
  refine ⟨_, materializations, ?_, validateIrSemantics_eq_ok.mpr hwf.canonical, ?_, ?_,
    hmaterializes, hdecisionMap⟩
  · simp only [materializeBehavior, bind_eq_ok, pure_eq_ok, require_eq_ok, Except.ok.injEq,
      Prod.mk.injEq]
    exact ⟨(), hdecisions, _, selectProposals_eq hready, (), hproposals, (),
      ⟨hprovenanceIds, hdisjoint⟩, _, hparse, _, hcollect, rfl, rfl⟩
  · rw [BehaviorIR.canonical]
    exact (sortedBy_perm _ _).trans (materializedDocument_perm.map _)
  · rw [BehaviorIR.canonical]
    exact sortedBy_perm _ _

end Ucf

/-! ### A sample

A repository with one file, which declares one public interface. Discovery proposes a use case for
it with one step, and the reviewer accepts the proposal. The sample hash counts the values in what
it hashes, which tells the documents of the sample apart. -/

namespace Ucf.Orders

open Ucf.Sample (producer captureContext inventoryUri_valid discoveryUri_valid certain_valid spanless
  directory_valid order_valid discoveryCapability_known nothing_uncovered)

def digestValue (n : Nat) : DigestValue :=
  ⟨n % 2 ^ 32, lt_digestBound.mpr ((Nat.mod_lt n (by norm_num)).trans (by norm_num))⟩

def digest (n : Nat) : Digest := ⟨digestValue n⟩

mutual

/-- The number of values in a JSON value, integers counting for what they are. -/
def weight : Json → Nat
  | .arr items => weightItems items + 1
  | .obj fields => weightFields fields + 1
  | .int n => n.toNat + 1
  | _ => 1

def weightItems : List Json → Nat
  | [] => 0
  | item :: items => weight item + weightItems items

def weightFields : List (String × Json) → Nat
  | [] => 0
  | (_, value) :: fields => weight value + weightFields fields

end

scoped instance hashlib : Hashlib where
  sha256
    | .text _ => digestValue 0
    | .canonical value => digestValue (weight value)

scoped instance unicodedata : Unicodedata := Sample.unicodedata

/-! The inventory -/

def rootProvenance : InventoryProvenance where
  id := ⟨.provenance, digestValue 10⟩
  sourcePath := ⟨".", by decide +kernel⟩
  contentDigest := none
  sourceSpan := none
  producer := producer
  procedureUri := ⟨"urn:ucf:inventory:1.0.0", inventoryUri_valid⟩
  spanHasContent := spanless

def fileProvenance : InventoryProvenance where
  id := ⟨.provenance, digestValue 13⟩
  sourcePath := ⟨"orders.py", by decide +kernel⟩
  contentDigest := some (digest 1)
  sourceSpan := none
  producer := producer
  procedureUri := ⟨"urn:ucf:inventory:1.0.0", inventoryUri_valid⟩
  spanHasContent := by decide

def confidence : InventoryConfidence :=
  ⟨⟨"1", certain_valid⟩, ⟨"urn:ucf:inventory:1.0.0", inventoryUri_valid⟩⟩

def rootEntry : RepositoryEntryFact where
  id := ⟨.entry, digestValue 17⟩
  provenance := ⟨.inventoryProvenance, rootProvenance.id⟩
  confidence := confidence
  path := ⟨".", by decide +kernel⟩
  entryKind := .directory
  sizeBytes := none
  contentDigest := none
  symlinkTargetDigest := none
  valid := directory_valid

def fileEntry : RepositoryEntryFact where
  id := ⟨.entry, digestValue 21⟩
  provenance := ⟨.inventoryProvenance, fileProvenance.id⟩
  confidence := confidence
  path := ⟨"orders.py", by decide +kernel⟩
  entryKind := .file
  sizeBytes := some ⟨1, one_safe⟩
  contentDigest := some (digest 1)
  symlinkTargetDigest := none
  valid := by decide

theorem functionUri_valid : uriConstraints "urn:ucf:interface:function" = none := by decide

theorem placeText_valid : stringConstraints 1 (some 255) (fun _ => true) "place" = none := by decide

def interfaceFact : PublicInterfaceFact where
  id := ⟨.interface, digestValue 23⟩
  provenance := ⟨.inventoryProvenance, fileProvenance.id⟩
  confidence := confidence
  entry := ⟨.repositoryEntry, fileEntry.id⟩
  interfaceKindUri := ⟨"urn:ucf:interface:function", functionUri_valid⟩
  name := ⟨"place", placeText_valid⟩
  container := none
  declarationDigest := digest 2

theorem subjectUri_valid : andThen uriConstraints
    (fun cs => (cs.takeWhile fun c => c ≠ ':') ≠ "file".toList) "urn:ucf:orders" = none := by decide

def inventory : InventorySnapshot where
  subjectUri := ⟨"urn:ucf:orders", subjectUri_valid⟩
  sourceRevision := digest 21
  producer := producer
  capability := ⟨⟨inventoryCapability, inventoryCapability_valid⟩,
    ⟨inventoryVersion, inventoryVersion_valid⟩⟩
  appliedPolicy := ⟨⟨[], by decide, by decide⟩, by decide⟩
  coverage := FactKind.all.map fun kind => ⟨kind, .complete, match kind with
    | .repositoryEntry => ⟨2, two_safe⟩
    | .publicInterface => ⟨1, one_safe⟩
    | _ => ⟨0, zero_safe⟩⟩
  records := ⟨[.inventoryProvenance rootProvenance, .inventoryProvenance fileProvenance,
    .publicInterface interfaceFact, .repositoryEntry rootEntry, .repositoryEntry fileEntry],
    by decide, by decide⟩
  valid := by decide +kernel

/-! Its discovery -/

def interfaceRef : InventoryRecordRef := ⟨.publicInterface, interfaceFact.id⟩

theorem ordersUri_valid : uriConstraints "urn:ucf:orders" = none := by decide

def inventoryBinding : InventoryBinding :=
  ⟨⟨"urn:ucf:orders", ordersUri_valid⟩, inventory.sourceRevision, digest 141⟩

def orderPort : Port := ⟨⟨"order", order_valid⟩, .string, true⟩

def placeAction : ProposedAction := ⟨⟨"place.action", by decide⟩, [orderPort], []⟩

theorem place_valid : stringConstraints 1 (some 255) (matchName fun c => c ∈ ['.', '_', '-'])
    "place" = none := by decide

def placeBinding : ProposedBinding where
  id := ⟨"place.binding", by decide⟩
  target := ⟨⟨.step, ⟨"place.step", by decide⟩⟩, .input, orderPort.name⟩
  source := ⟨⟨.useCase, ⟨"place", place_valid⟩⟩, .input, orderPort.name⟩

def placeStep : ProposedStep :=
  ⟨⟨"place.step", by decide⟩, ⟨.action, placeAction.id⟩, [⟨.binding, placeBinding.id⟩]⟩

def placeUseCase : ProposedUseCase :=
  ⟨⟨"place", place_valid⟩, [orderPort], [], ⟨[⟨.step, placeStep.id⟩], by decide, by decide⟩⟩

def proposal : CandidateProposal where
  root := ⟨.useCase, placeUseCase.id⟩
  entities := ⟨[.action placeAction, .binding placeBinding, .step placeStep,
    .useCase placeUseCase], by decide, by decide⟩

def candidate : DiscoveryCandidate where
  id := ⟨digestValue 102⟩
  semanticDigest := digest 63
  subject := interfaceRef
  evidence := ⟨[interfaceRef], by decide, by decide⟩
  confidence := confidence
  proposal := proposal

def discovery : DiscoveryResult where
  inventoryBinding := inventoryBinding
  producer := producer
  capability := ⟨⟨discoveryCapability, discoveryCapability_valid⟩,
    ⟨onboardingVersion, onboardingVersion_valid⟩⟩
  procedureUri := ⟨"urn:ucf:discovery:1.0.0", discoveryUri_valid⟩
  coverage := ⟨.complete, ⟨[interfaceRef], by decide, by decide⟩,
    ⟨[], Tuple.nil_lower, Tuple.nil_upper⟩, nothing_uncovered⟩
  diagnostics := ⟨[], Tuple.nil_lower, Tuple.nil_upper⟩
  candidates := ⟨[candidate], by decide, by decide⟩
  validCapability := discoveryCapability_known

def request : DiscoveryRequest where
  capability := discovery.capability
  inventoryBinding := inventoryBinding
  inventory := inventory
  valid := by decide +kernel

/-! The decision -/

theorem reason_valid : stringConstraints 1 (some 512) (fun _ => true) "as declared" = none := by
  decide

def decision : PlainDecision where
  id := ⟨digestValue 47⟩
  candidate := ⟨digest 121, candidate.id, candidate.semanticDigest⟩
  reason := ⟨"as declared", reason_valid⟩

def decisions : DecisionSet where
  discovery := ⟨digest 121⟩
  inventoryBinding := inventoryBinding
  reviewer := producer
  captureContext := captureContext
  decisions := ⟨[.accepted decision], by decide, by decide⟩

end Ucf.Orders

namespace Ucf

open Orders

theorem materializeBehavior_exact_sample : ∃ behavior materializations,
    materializeBehavior discovery decisions = .ok (behavior, materializations) ∧
      validateIrSemantics behavior = .ok () ∧ behavior.entities.length = 5 ∧
      materializations.length = 1 := by
  have hselection : selection discovery decisions = [⟨.accepted decision, proposal⟩] := by
    decide +kernel
  have hsha : Set.InjOn Hashlib.sha256 (decisionPayloads decisions) := by
    rintro _ ⟨d, hd, rfl | rfl⟩ _ ⟨e, he, rfl | rfl⟩ heq <;>
      obtain rfl : d = .accepted decision := List.mem_singleton.mp hd <;>
      obtain rfl : e = .accepted decision := List.mem_singleton.mp he
    · rfl
    · exact absurd heq (by decide +kernel)
    · exact absurd heq (by decide +kernel)
    · rfl
  obtain ⟨behavior, materializations, hmaterialize, hvalid, hentities, _, hall, _⟩ :=
    @materializeBehavior_exact _ _ request discovery decisions (by decide +kernel)
      (by decide +kernel) (by rw [hselection]; decide +kernel) (by rw [hselection]; decide +kernel)
      hsha
  refine ⟨behavior, materializations, hmaterialize, hvalid, ?_, ?_⟩
  · rw [hentities.length_eq, hselection]
    simp [Selected.images, proposal]
  · rw [← hall.length_eq, hselection]
    rfl

end Ucf
