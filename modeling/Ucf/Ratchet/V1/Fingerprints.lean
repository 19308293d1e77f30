import Ucf.Ratchet.V1.Contents

/-! What the fingerprints of a materialization cover: the proposal that it materializes, and the
contents of the evidence of its candidate, in their order. -/

namespace Ucf.V1

/-! ### The semantic projection -/

/-- A proposed entity as it is projected; its provenance is left out. -/
def entityJson (entity : ProposalEntity) : Json :=
  (modelDump (entity.image ⟨.provenance, entity.id⟩).canonical).exclude ["provenance"]

/-- The semantic projection of a proposal. -/
def semanticJson (proposal : CandidateProposal) : Json :=
  .obj [("entities", .arr (sortedBy
    (fun value => toLex (stringMember "kind" value, stringMember "id" value))
    (proposal.entities.items.map entityJson)))]

theorem entityJson_eq (entity : ProposalEntity) (provenance : EntityRef) :
    (modelDump (entity.image provenance).canonical).exclude ["provenance"] = entityJson entity := by
  cases entity <;> rfl

theorem stringMember_entityJson (entity : ProposalEntity) :
    stringMember "id" (entityJson entity) = entity.id.val := by
  cases entity <;> rfl

section Semantic

variable [Hashlib] {decisionSet : DecisionSet} {selected : List Selected} {s : Selected}
  {behavior : BehaviorIR} {materialization : BehaviorMaterialization}

theorem semanticProjection_eq (hwf : (materializedDocument decisionSet selected).WellFormed)
    (hbehavior : behavior = (materializedDocument decisionSet selected).canonical)
    (hs : s ∈ selected) (hnodup : (s.proposal.entities.items.map ProposalEntity.id).Nodup)
    (h : Materializes behavior decisionSet s materialization) :
    semanticProjection materialization.entities.items (Dict.index Entity.id behavior.entities) =
      .ok (semanticJson s.proposal) := by
  have hget : ∀ entity ∈ s.provenance decisionSet :: s.images,
      (Dict.index Entity.id behavior.entities).get? entity.id = some entity.canonical := by
    intro entity hentity
    rw [hbehavior]
    refine get?_materializedDocument hwf (mem_materializedDocument.mpr ⟨s, hs, ?_⟩)
    rcases List.mem_cons.mp hentity with hprovenance | himage
    · exact .inl hprovenance
    · exact .inr (List.mem_map.mp himage)
  have hresolves : ∀ reference ∈ materialization.entities.items, ∃ entity,
      (Dict.index Entity.id behavior.entities).get? reference.targetId = some entity ∧
        entity.kind = reference.targetKind := by
    intro reference hreference
    rw [h.entities_perm.mem_iff, List.mem_map] at hreference
    obtain ⟨entity, hentity, rfl⟩ := hreference
    exact ⟨entity.canonical, hget entity hentity, Entity.kind_canonical entity⟩
  -- the references in their order project to the images, in another order
  have hprojected : (materialization.entities.items.filterMap
      (projectRef (Dict.index Entity.id behavior.entities))).Perm
        (s.proposal.entities.items.map entityJson) := by
    refine (h.entities_perm.filterMap _).trans (.of_eq ?_)
    have hfirst : projectRef (Dict.index Entity.id behavior.entities)
        (behaviorRef behavior (canonicalIrDigest behavior) (s.provenance decisionSet)) = none := by
      have hfound := hget _ (List.mem_cons_self ..)
      rw [projectRef, behaviorRef, hfound]
      exact if_pos (Entity.kind_canonical _)
    have hrest : ∀ entity ∈ s.proposal.entities.items,
        projectRef (Dict.index Entity.id behavior.entities)
          (behaviorRef behavior (canonicalIrDigest behavior) (entity.image s.provenanceRef)) =
            some (entityJson entity) := by
      intro entity hentity
      have hfound := hget _ (List.mem_cons_of_mem _ (List.mem_map_of_mem hentity))
      have hkind : behaviorKind entity.kind ≠ .provenance := by
        cases entity <;> simp [ProposalEntity.kind, behaviorKind]
      rw [projectRef, behaviorRef, hfound]
      simp only [Entity.kind_canonical, kind_image, hkind, if_false, entityJson_eq]
    rw [List.map_cons, List.filterMap_cons, hfirst, Selected.images, List.map_map,
      List.filterMap_map]
    rw [← List.filterMap_eq_map]
    exact List.filterMap_congr hrest
  have hkeys : ((s.proposal.entities.items.map entityJson).map fun value =>
      toLex (stringMember "kind" value, stringMember "id" value)).Nodup := by
    refine List.Nodup.of_map (fun key => (ofLex key).2) ?_
    have hids : ((s.proposal.entities.items.map ProposalEntity.id).map Subtype.val).Nodup :=
      hnodup.map Subtype.val_injective
    rw [List.map_map, List.map_map]
    rw [List.map_map] at hids
    refine (List.map_congr_left fun entity _ => ?_) ▸ hids
    exact (stringMember_entityJson entity).symm
  rw [semanticProjection, projectEntities_eq hresolves, ok_bind, semanticJson,
    sortedBy_eq_of_perm hprojected.symm hkeys]
  rfl

end Semantic

/-! ### The observed projection -/

section Observed

variable [Unicodedata] [Hashlib]

/-- The content of the record that a reference leads to. -/
def ContentAt (inventory : InventorySnapshot) (reference : InventoryRecordRef)
    (content : RecordContent) : Prop :=
  ∃ record ∈ inventory.records.items, record.id = reference.targetId ∧
    HasContent inventory.records.items record content

/-- The observed projection of a candidate. -/
def observedJson (confidence : InventoryConfidence) (evidence : List RecordContent)
    (subject : RecordContent) : Json :=
  .obj [("confidence", modelDump confidence), ("evidence", .arr (evidence.map RecordContent.json)),
    ("subject", subject.json)]

omit [Unicodedata] [Hashlib] in
theorem evidence_eq_of_observedJson {confidence confidence' : InventoryConfidence}
    {evidence evidence' : List RecordContent} {subject subject' : RecordContent}
    (h : observedJson confidence evidence subject = observedJson confidence' evidence' subject') :
    evidence = evidence' := by
  simp only [observedJson, Json.obj.injEq, List.cons.injEq, Prod.mk.injEq, Json.arr.injEq,
    true_and, and_true] at h
  exact List.map_injective_iff.mpr RecordContent.json_injective h.2.1

variable {inventory : InventorySnapshot} {reference : InventoryRecordRef}

theorem ContentAt.normalizedTarget {content : RecordContent}
    (h : ContentAt inventory reference content) :
    normalizedTarget inventory reference = .ok content.json := by
  obtain ⟨record, hmem, hid, hcontent⟩ := h
  exact hcontent.normalizes.normalizedTarget hmem hid

theorem rightUnique_contentAt (inventory : InventorySnapshot) :
    Relator.RightUnique (ContentAt inventory) := by
  intro reference content content' h h'
  have htarget := h.normalizedTarget
  rw [h'.normalizedTarget, Except.ok.injEq] at htarget
  exact RecordContent.json_injective htarget.symm

theorem exists_contentAt {form : Json}
    (hresolves : ∃ record ∈ inventory.records.items, record.id = reference.targetId)
    (h : normalizedTarget inventory reference = .ok form) :
    ∃ content, ContentAt inventory reference content ∧ form = content.json := by
  obtain ⟨record, hmem, hid⟩ := hresolves
  rcases normalizedTarget_of_mem hmem hid with ⟨-, herror⟩ | ⟨-, herror⟩ | ⟨-, -, _, hnormalizes⟩
  · rw [h] at herror
    cases herror
  · rw [h] at herror
    cases herror
  · obtain ⟨content, hcontent⟩ := exists_hasContent hnormalizes
    have hat : ContentAt inventory reference content := ⟨record, hmem, hid, hcontent⟩
    have htarget := hat.normalizedTarget
    rw [h, Except.ok.injEq] at htarget
    exact ⟨content, hat, htarget⟩

variable {bundle : OnboardingBundle} {request : DiscoveryRequest} {selected : List Selected}
  {materializations : List BehaviorMaterialization} {records : List (List TrustRecord)}

/-- The observed projection of a candidate holds the contents of its evidence, in their order. -/
theorem observedProjection_eq_ok
    (h : bundle.AcceptedAs request selected materializations records)
    {candidate : DiscoveryCandidate} (hcandidate : candidate ∈ bundle.discovery.candidates.items)
    {observed : Json} : observedProjection candidate
        (Dict.index InventoryRecord.id bundle.inventory.records.items) = .ok observed ↔
      ∃ evidence subject,
        List.Forall₂ (ContentAt bundle.inventory) candidate.evidence.items evidence ∧
        ContentAt bundle.inventory candidate.subject subject ∧
        observed = observedJson candidate.confidence evidence subject := by
  obtain ⟨-, hresolves, -, hincluded⟩ := h.candidate_valid hcandidate
  have hresolves' : ∀ reference ∈ candidate.evidence.items,
      ∃ record ∈ bundle.inventory.records.items, record.id = reference.targetId :=
    fun reference hreference => (hresolves reference hreference).imp fun _ hrecord =>
      ⟨hrecord.1, hrecord.2.1⟩
  rw [observedProjection_eq]
  simp only [bind_eq_ok, Except.ok.injEq]
  constructor
  · rintro ⟨forms, hforms, form, hform, rfl⟩
    obtain ⟨subject, hsubject, rfl⟩ := exists_contentAt (hresolves' _ hincluded) hform
    have hevidence : ∀ (references : List InventoryRecordRef) (forms : List Json),
        (∀ reference ∈ references, ∃ record ∈ bundle.inventory.records.items,
          record.id = reference.targetId) →
        List.Forall₂ (fun reference form => normalizedTarget bundle.inventory reference = .ok form)
          references forms →
        ∃ evidence, List.Forall₂ (ContentAt bundle.inventory) references evidence ∧
          forms = evidence.map RecordContent.json := by
      intro references forms hmem hall
      induction hall with
      | nil => exact ⟨[], .nil, rfl⟩
      | cons hfirst _ ih =>
        rw [List.forall_mem_cons] at hmem
        obtain ⟨content, hcontent, rfl⟩ := exists_contentAt hmem.1 hfirst
        obtain ⟨evidence, hevidence, rfl⟩ := ih hmem.2
        exact ⟨content :: evidence, .cons hcontent hevidence, rfl⟩
    obtain ⟨evidence, hevidence, rfl⟩ := hevidence _ forms hresolves' (collect_eq_ok.mp hforms)
    exact ⟨evidence, subject, hevidence, hsubject, rfl⟩
  · rintro ⟨evidence, subject, hevidence, hsubject, rfl⟩
    refine ⟨evidence.map RecordContent.json, collect_eq_ok.mpr ?_, _, hsubject.normalizedTarget,
      rfl⟩
    rw [List.forall₂_map_right_iff]
    exact hevidence.imp fun _ _ hcontent => hcontent.normalizedTarget

/-! ### The fingerprints of a snapshot -/

/-- The subject of a snapshot with its fingerprints. -/
def fingerprints (snapshot : BehaviorSubjectSnapshot) :
    BehaviorSubjectId × BehaviorSubjectKey × SemanticFingerprint × ObservedFingerprint :=
  (snapshot.id, snapshot.key, snapshot.semantic, snapshot.observed)

/-- The subject of a proposal. -/
def proposalKey (subjectUri : URI) (proposal : CandidateProposal) : BehaviorSubjectKey :=
  ⟨subjectUri, behaviorKind proposal.root.targetKind, proposal.root.targetId⟩

/-- The fingerprints of a proposal on some evidence. -/
def fingerprintsOf (subjectUri : URI) (proposal : CandidateProposal)
    (confidence : InventoryConfidence) (evidence : List RecordContent) (subject : RecordContent) :
    BehaviorSubjectId × BehaviorSubjectKey × SemanticFingerprint × ObservedFingerprint :=
  (deriveBehaviorSubjectId (proposalKey subjectUri proposal), proposalKey subjectUri proposal,
    ⟨projectionDigest (semanticJson proposal)⟩,
    ⟨projectionDigest (observedJson confidence evidence subject)⟩)

/-- The snapshot of a selected decision holds the fingerprints of its proposal on the evidence of
its candidate. -/
theorem subjectSnapshot_eq_ok (h : bundle.AcceptedAs request selected materializations records)
    {s : Selected} (hs : s ∈ selected) {candidate : DiscoveryCandidate}
    (hcandidate : candidate ∈ bundle.discovery.candidates.items)
    (hid : candidate.id = s.decision.candidate.candidateId)
    {materialization : BehaviorMaterialization}
    (hlinked : materializationOf bundle.behavior (canonicalIrDigest bundle.behavior)
      (Dict.index Entity.id bundle.behavior.entities) s = .ok materialization) :
    (∀ evidence subject,
        List.Forall₂ (ContentAt bundle.inventory) candidate.evidence.items evidence →
        ContentAt bundle.inventory candidate.subject subject →
        ∃ snapshot, subjectSnapshot bundle materialization = .ok snapshot) ∧
      ∀ snapshot, subjectSnapshot bundle materialization = .ok snapshot → ∃ evidence subject,
        List.Forall₂ (ContentAt bundle.inventory) candidate.evidence.items evidence ∧
        ContentAt bundle.inventory candidate.subject subject ∧
        fingerprints snapshot = fingerprintsOf bundle.inventory.subjectUri.toUri s.proposal
          candidate.confidence evidence subject := by
  have hvalid : validateCandidateProposal s.proposal "$" = .ok () := by
    have hmem := hs
    rw [h.selected_eq_selection] at hmem
    exact valid_of_mem_selected h.ready hmem
  obtain ⟨root, hroot⟩ := validateCandidateProposal_ok hvalid
  obtain ⟨other, hother, hmaterializes⟩ := exists_materializationOf h.materialized.wellFormed hs
    hvalid h.materialized.behavior_eq
  rw [hlinked, Except.ok.injEq] at hother
  subst hother
  have hsemantic := semanticProjection_eq h.materialized.wellFormed h.materialized.behavior_eq hs
    hroot.ids_nodup hmaterializes
  have hget : (Dict.index DiscoveryCandidate.id bundle.discovery.candidates.items).get?
      materialization.candidate.candidateId = some candidate := by
    rw [hmaterializes.candidate_eq]
    exact (Dict.get?_index h.candidates_nodup).mpr ⟨hcandidate, hid⟩
  constructor
  · intro evidence subject hevidence hsubject
    have hobserved := (observedProjection_eq_ok h hcandidate).mpr
      ⟨evidence, subject, hevidence, hsubject, rfl⟩
    rw [subjectSnapshot]
    simp only [hget, orRaise_some, ok_bind, hsemantic, hobserved]
    exact ⟨_, rfl⟩
  · intro snapshot hsnapshot
    rw [subjectSnapshot] at hsnapshot
    simp only [hget, orRaise_some, ok_bind, hsemantic, bind_eq_ok, pure_eq_ok, Except.ok.injEq]
      at hsnapshot
    obtain ⟨observed, hobserved, rfl⟩ := hsnapshot
    obtain ⟨evidence, subject, hevidence, hsubject, rfl⟩ :=
      (observedProjection_eq_ok h hcandidate).mp hobserved
    refine ⟨evidence, subject, hevidence, hsubject, ?_⟩
    rw [fingerprints, fingerprintsOf, proposalKey, hmaterializes.root_eq]

end Observed

end Ucf.V1
