import Ucf.Library.Correspond
import Ucf.Ratchet.V1.Fingerprints

/-! Bundles that differ in the paths of a repository, and so in its source spans and in all derived
identifiers, and what the projection makes of two such bundles. -/

namespace Ucf.V1

variable [Unicodedata]

/-! ### Renamed records -/

/-- The reference to a renamed record. -/
def renameRef (ρ : InventoryRecordId → InventoryRecordId) (reference : InventoryRecordRef) :
    InventoryRecordRef :=
  ⟨reference.targetKind, ρ reference.targetId⟩

/-- Two records that differ in identifiers, paths and source spans only. -/
def RenamedRecord (ρ : InventoryRecordId → InventoryRecordId) :
    InventoryRecord → InventoryRecord → Prop
  | .apiDescription r, .apiDescription s => s = { r with
      id := ρ r.id, provenance := renameRef ρ r.provenance, entry := renameRef ρ r.entry }
  | .buildManifest r, .buildManifest s => s = { r with
      id := ρ r.id, provenance := renameRef ρ r.provenance, entry := renameRef ρ r.entry }
  | .inventoryDiagnostic r, .inventoryDiagnostic s => ∃ path, s = { r with
      id := ρ r.id, path := path, provenance := r.provenance.map (renameRef ρ) }
  | .inventoryIgnoreMatch r, .inventoryIgnoreMatch s =>
      ∃ path, s = { r with id := ρ r.id, path := path }
  | .inventoryProvenance r, .inventoryProvenance s => ∃ path span valid,
      s = ⟨ρ r.id, path, r.contentDigest, span, r.producer, r.procedureUri, valid⟩
  | .publicInterface r, .publicInterface s => s = { r with
      id := ρ r.id, provenance := renameRef ρ r.provenance, entry := renameRef ρ r.entry }
  | .repositoryEntry r, .repositoryEntry s => ∃ path, s = { r with
      id := ρ r.id, provenance := renameRef ρ r.provenance, path := path }
  | .testAsset r, .testAsset s => s = { r with
      id := ρ r.id, provenance := renameRef ρ r.provenance, entry := renameRef ρ r.entry }
  | _, _ => False

section Records

variable {ρ : InventoryRecordId → InventoryRecordId} {records records' : List InventoryRecord}
  {record record' : InventoryRecord}

theorem RenamedRecord.id_eq (h : RenamedRecord ρ record record') : record'.id = ρ record.id := by
  cases record <;> cases record' <;> simp only [RenamedRecord] at h
  case inventoryDiagnostic | inventoryIgnoreMatch | repositoryEntry =>
    obtain ⟨path, rfl⟩ := h
    rfl
  case inventoryProvenance =>
    obtain ⟨path, span, valid, rfl⟩ := h
    rfl
  all_goals
    subst h
    rfl

theorem RenamedRecord.provenance {provenance : InventoryProvenance}
    (h : RenamedRecord ρ (.inventoryProvenance provenance) record') : ∃ provenance',
      record' = .inventoryProvenance provenance' ∧ provenance'.id = ρ provenance.id ∧
        provenance'.contentDigest = provenance.contentDigest := by
  cases record' with
  | inventoryProvenance provenance' =>
    obtain ⟨path, span, valid, rfl⟩ := h
    exact ⟨_, rfl, rfl, rfl⟩
  | _ => exact h.elim

theorem RenamedRecord.entry {entry : RepositoryEntryFact}
    (h : RenamedRecord ρ (.repositoryEntry entry) record') : ∃ entry',
      record' = .repositoryEntry entry' ∧ entry'.id = ρ entry.id ∧
        entry'.provenance = renameRef ρ entry.provenance ∧
        ∀ provenance provenance' : InventoryProvenance,
          provenance'.contentDigest = provenance.contentDigest →
            entryContent entry' provenance' = entryContent entry provenance := by
  cases record' with
  | repositoryEntry entry' =>
    obtain ⟨path, rfl⟩ := h
    refine ⟨_, rfl, rfl, rfl, fun provenance provenance' hdigest => ?_⟩
    rw [entryContent, entryContent, hdigest]
  | _ => exact h.elim

theorem RenamedRecord.fact {entryRef provenanceRef : InventoryRecordRef}
    {shape : InventoryConfidence × FactShape} (h : RenamedRecord ρ record record')
    (hshape : factContent? record = some shape) (hentryRef : record.entryRef? = some entryRef)
    (hprovenanceRef : record.provenanceRef? = some provenanceRef) :
    factContent? record' = some shape ∧ record'.entryRef? = some (renameRef ρ entryRef) ∧
      record'.provenanceRef? = some (renameRef ρ provenanceRef) := by
  cases record
  case inventoryProvenance | repositoryEntry | inventoryDiagnostic | inventoryIgnoreMatch =>
    cases hentryRef
  all_goals
    cases record' <;> simp only [RenamedRecord] at h
    subst h
    cases hshape
    cases hentryRef
    cases hprovenanceRef
    exact ⟨rfl, rfl, rfl⟩

/-- A renamed record has the same content. -/
theorem HasContent.renamed (hrecords : Corresponds (RenamedRecord ρ) records records')
    {content : RecordContent} (h : HasContent records record content)
    (hrecord : RenamedRecord ρ record record') : HasContent records' record' content := by
  have hprovenance : ∀ provenance : InventoryProvenance,
      .inventoryProvenance provenance ∈ records → ∃ provenance' : InventoryProvenance,
        .inventoryProvenance provenance' ∈ records' ∧ provenance'.id = ρ provenance.id ∧
          provenance'.contentDigest = provenance.contentDigest := by
    intro provenance hmem
    obtain ⟨_, hmem', hrenamed⟩ := hrecords.exists_right hmem
    obtain ⟨provenance', rfl, hid, hdigest⟩ := hrenamed.provenance
    exact ⟨provenance', hmem', hid, hdigest⟩
  cases h with
  | provenance provenance =>
    obtain ⟨provenance', rfl, -, hdigest⟩ := hrecord.provenance
    rw [← hdigest]
    exact .provenance provenance'
  | @entry entry provenance hmem hid =>
    obtain ⟨entry', rfl, -, href, hcontent⟩ := hrecord.entry
    obtain ⟨provenance', hmem', hid', hdigest⟩ := hprovenance provenance hmem
    rw [← hcontent provenance provenance' hdigest]
    refine .entry hmem' ?_
    rw [href, renameRef, hid, hid']
  | @fact _ entryRef provenanceRef confidence shape entry entryProvenance provenance hshape
      hentryRef hprovenanceRef hentryMem hentryId hentryProvenance hentryProvenanceId hmem hid =>
    obtain ⟨hshape', hentryRef', hprovenanceRef'⟩ := hrecord.fact hshape hentryRef hprovenanceRef
    obtain ⟨_, hentryMem', hentryRenamed⟩ := hrecords.exists_right hentryMem
    obtain ⟨entry', rfl, hentryId', href, hcontent⟩ := hentryRenamed.entry
    obtain ⟨entryProvenance', hentryProvenance', hentryProvenanceId', hentryDigest⟩ :=
      hprovenance entryProvenance hentryProvenance
    obtain ⟨provenance', hmem', hid', hdigest⟩ := hprovenance provenance hmem
    rw [← hcontent entryProvenance entryProvenance' hentryDigest, ← hdigest]
    refine .fact hshape' hentryRef' hprovenanceRef' hentryMem' ?_ hentryProvenance' ?_ hmem' ?_
    · rw [renameRef, hentryId, hentryId']
    · rw [href, renameRef, hentryProvenanceId, hentryProvenanceId']
    · rw [renameRef, hid, hid']

end Records

/-! ### Renamed bundles -/

/-- Two candidates that propose the same for the same evidence. -/
structure RenamedCandidate (ρ : InventoryRecordId → InventoryRecordId)
    (σ : DiscoveryCandidateId → DiscoveryCandidateId) (c d : DiscoveryCandidate) : Prop where
  id_eq : d.id = σ c.id
  subject_eq : d.subject = renameRef ρ c.subject
  evidence_perm : (c.evidence.items.map (renameRef ρ)).Perm d.evidence.items
  confidence_eq : d.confidence = c.confidence
  proposal_eq : d.proposal = c.proposal

/-- Two decisions that say the same of one candidate. -/
def RenamedDecision (σ : DiscoveryCandidateId → DiscoveryCandidateId) : Decision → Decision → Prop
  | .accepted d, .accepted e =>
    e.candidate.candidateId = σ d.candidate.candidateId ∧ e.reason = d.reason
  | .edited d, .edited e => e.candidate.candidateId = σ d.candidate.candidateId ∧
      e.reason = d.reason ∧ e.replacement = d.replacement
  | .rejected d, .rejected e =>
    e.candidate.candidateId = σ d.candidate.candidateId ∧ e.reason = d.reason
  | .uncertain d, .uncertain e =>
    e.candidate.candidateId = σ d.candidate.candidateId ∧ e.reason = d.reason
  | _, _ => False

/-- Two bundles of one repository before and after its paths have changed: `ρ` renames the records
and `σ` the candidates. -/
structure Renamed [Hashlib] (ρ : InventoryRecordId → InventoryRecordId)
    (σ : DiscoveryCandidateId → DiscoveryCandidateId) (bundle bundle' : OnboardingBundle) :
    Prop where
  subjectUri_eq : bundle'.inventory.subjectUri = bundle.inventory.subjectUri
  records : Corresponds (RenamedRecord ρ) bundle.inventory.records.items
    bundle'.inventory.records.items
  candidates : Corresponds (RenamedCandidate ρ σ) bundle.discovery.candidates.items
    bundle'.discovery.candidates.items
  decisions : Corresponds (RenamedDecision σ) bundle.decisions.decisions.items
    bundle'.decisions.decisions.items

/-- Two selected decisions that stand for the same proposal for one candidate. -/
structure RenamedSelected (σ : DiscoveryCandidateId → DiscoveryCandidateId) (s t : Selected) :
    Prop where
  candidate_eq : t.decision.candidate.candidateId = σ s.decision.candidate.candidateId
  proposal_eq : t.proposal = s.proposal

section Renamed

variable [Hashlib] {ρ : InventoryRecordId → InventoryRecordId}
  {σ : DiscoveryCandidateId → DiscoveryCandidateId} {bundle bundle' : OnboardingBundle}

theorem ContentAt.renamed (hrenamed : Renamed ρ σ bundle bundle') {reference : InventoryRecordRef}
    {content : RecordContent} (h : ContentAt bundle.inventory reference content) :
    ContentAt bundle'.inventory (renameRef ρ reference) content := by
  obtain ⟨record, hmem, hid, hcontent⟩ := h
  obtain ⟨record', hmem', hrecord⟩ := hrenamed.records.exists_right hmem
  refine ⟨record', hmem', ?_, hcontent.renamed hrenamed.records hrecord⟩
  rw [hrecord.id_eq, hid, renameRef]

variable {request request' : DiscoveryRequest} {selected selected' : List Selected}
  {materializations materializations' : List BehaviorMaterialization}
  {records records' : List (List TrustRecord)}
  (h : bundle.AcceptedAs request selected materializations records)
  (h' : bundle'.AcceptedAs request' selected' materializations' records')
include h h'

/-- Renamed decisions select the same proposals. -/
theorem Renamed.corresponds (hrenamed : Renamed ρ σ bundle bundle') :
    Corresponds (RenamedSelected σ) selected selected' := by
  rw [h.selected_eq_selection, h'.selected_eq_selection]
  refine hrenamed.decisions.filterMap fun d hd d' hd' hdecision => ?_
  obtain ⟨c, hc, -⟩ := h.ready d hd
  obtain ⟨c', hc', -⟩ := h'.ready d' hd'
  have hproposal : c'.proposal = c.proposal := by
    obtain ⟨hmem, hid⟩ := Dict.mem_of_get?_index hc
    obtain ⟨hmem', hid'⟩ := Dict.mem_of_get?_index hc'
    obtain ⟨other, hother, hcandidate⟩ := hrenamed.candidates.exists_right hmem
    have hsame : other = c' := by
      refine List.inj_on_of_nodup_map h'.candidates_nodup hother hmem' ?_
      rw [hcandidate.id_eq, hid, hid']
      cases d <;> cases d' <;> simp only [RenamedDecision] at hdecision <;>
        exact hdecision.1.symm
    rw [← hsame, hcandidate.proposal_eq]
  cases d <;> cases d' <;> simp only [RenamedDecision] at hdecision
  case accepted.accepted d d' =>
    have hget : (Dict.index DiscoveryCandidate.id bundle.discovery.candidates.items).get?
        d.candidate.candidateId = some c := hc
    have hget' : (Dict.index DiscoveryCandidate.id bundle'.discovery.candidates.items).get?
        d'.candidate.candidateId = some c' := hc'
    rw [selectedOf, selectedOf, hget, hget']
    exact .some ⟨hdecision.1, hproposal⟩
  case edited.edited d d' => exact .some ⟨hdecision.1, hdecision.2.2⟩
  case rejected.rejected => exact .none
  case uncertain.uncertain => exact .none

end Renamed

/-! ### When the projection is insensitive -/

section Insensitive

variable [Hashlib]

/-- The projections of two bundles have the same subjects with the same fingerprints. -/
def Insensitive (bundle bundle' : OnboardingBundle) : Prop :=
  ∃ snapshots snapshots', deriveSubjectSnapshots bundle = .ok snapshots ∧
    deriveSubjectSnapshots bundle' = .ok snapshots' ∧
    snapshots.map fingerprints = snapshots'.map fingerprints

/-- In both bundles, the evidence of each materialized candidate has the same contents in the same
order. -/
def Aligned (σ : DiscoveryCandidateId → DiscoveryCandidateId)
    (bundle bundle' : OnboardingBundle) : Prop :=
  ∀ decision ∈ bundle.decisions.decisions.items, decision.Selects →
    ∀ c ∈ bundle.discovery.candidates.items, c.id = decision.candidate.candidateId →
    ∀ c' ∈ bundle'.discovery.candidates.items, c'.id = σ c.id →
      List.Forall₂ (fun reference reference' => ∃ content,
        ContentAt bundle.inventory reference content ∧
          ContentAt bundle'.inventory reference' content) c.evidence.items c'.evidence.items

/-- What is hashed for the observed fingerprints of a bundle. -/
def observedPayloads (bundle : OnboardingBundle) : Set Payload :=
  { payload | ∃ candidate ∈ bundle.discovery.candidates.items, ∃ observed,
    observedProjection candidate
      (Dict.index InventoryRecord.id bundle.inventory.records.items) = .ok observed ∧
    payload = .canonical observed }

variable {ρ : InventoryRecordId → InventoryRecordId}
  {σ : DiscoveryCandidateId → DiscoveryCandidateId} {bundle bundle' : OnboardingBundle}
  {request request' : DiscoveryRequest} {selected selected' : List Selected}
  {materializations materializations' : List BehaviorMaterialization}
  {records records' : List (List TrustRecord)}

/-- The snapshot of a selected decision. -/
def snapshotOf (bundle : OnboardingBundle) (s : Selected) :
    Except PyError BehaviorSubjectSnapshot := do
  let materialization ← materializationOf bundle.behavior (canonicalIrDigest bundle.behavior)
    (Dict.index Entity.id bundle.behavior.entities) s
  subjectSnapshot bundle materialization

section Bundle

variable (h : bundle.AcceptedAs request selected materializations records)
include h

theorem exists_linked {s : Selected} (hs : s ∈ selected) : ∃ materialization ∈ materializations,
    materializationOf bundle.behavior (canonicalIrDigest bundle.behavior)
      (Dict.index Entity.id bundle.behavior.entities) s = .ok materialization :=
  exists_of_mem_collect h.materialized.linked hs

/-- The projection of a bundle returns when every selected decision has a snapshot, and holds their
fingerprints. -/
theorem deriveSubjectSnapshots_eq_ok {snapshots : List BehaviorSubjectSnapshot}
    (hsnapshots : deriveSubjectSnapshots bundle = .ok snapshots) :
    (∀ s ∈ selected, ∃ snapshot, snapshotOf bundle s = .ok snapshot) ∧
      (snapshots.map fingerprints).Perm
        (selected.filterMap fun s => (snapshotOf bundle s).toOption.map fingerprints) ∧
      snapshots = sortedBy (fun snapshot => behaviorSubjectOrder snapshot.key) snapshots := by
  rw [deriveSubjectSnapshots_eq (validateOnboardingBundle_eq_ok.mpr ⟨_, _, _, _, h⟩), bind_eq_ok]
    at hsnapshots
  obtain ⟨unsorted, hcollect, hsorted⟩ := hsnapshots
  rw [Except.ok.injEq] at hsorted
  have hlinked := eq_filterMap_of_collect h.materialized.linked
  refine ⟨?_, ?_, by rw [← hsorted, sortedBy_sortedBy]⟩
  · intro s hs
    obtain ⟨materialization, hmem, hmaterialization⟩ := exists_linked h hs
    obtain ⟨snapshot, -, hsnapshot⟩ := exists_of_mem_collect hcollect
      (h.materializations_perm.mem_iff.mpr hmem)
    exact ⟨snapshot, by rw [snapshotOf, hmaterialization, ok_bind, hsnapshot]⟩
  · have hselected : (selected.filterMap fun s => (snapshotOf bundle s).toOption) =
        materializations.filterMap fun materialization =>
          (subjectSnapshot bundle materialization).toOption := by
      rw [hlinked, List.filterMap_filterMap]
      refine List.filterMap_congr fun s _ => ?_
      rw [snapshotOf]
      cases materializationOf bundle.behavior (canonicalIrDigest bundle.behavior)
        (Dict.index Entity.id bundle.behavior.entities) s <;> rfl
    have hperm : snapshots.Perm (selected.filterMap fun s => (snapshotOf bundle s).toOption) := by
      rw [hselected, ← hsorted, eq_filterMap_of_collect hcollect]
      exact (sortedBy_perm _ _).trans (h.materializations_perm.filterMap _)
    refine (hperm.map fingerprints).trans (.of_eq ?_)
    rw [List.map_filterMap]

theorem exists_deriveSubjectSnapshots
    (hall : ∀ s ∈ selected, ∃ snapshot, snapshotOf bundle s = .ok snapshot) :
    ∃ snapshots, deriveSubjectSnapshots bundle = .ok snapshots := by
  rw [deriveSubjectSnapshots_eq (validateOnboardingBundle_eq_ok.mpr ⟨_, _, _, _, h⟩)]
  have hmaterialized : ∀ materialization ∈ bundle.baseline.materializations.items,
      ∃ snapshot, subjectSnapshot bundle materialization = .ok snapshot ∧ True := by
    intro materialization hmem
    obtain ⟨s, hs, hlinked⟩ :=
      h.exists_selected (h.materializations_perm.mem_iff.mp hmem)
    obtain ⟨snapshot, hsnapshot⟩ := hall s hs
    rw [snapshotOf, hlinked, ok_bind] at hsnapshot
    exact ⟨snapshot, hsnapshot, trivial⟩
  obtain ⟨snapshots, hsnapshots, -⟩ := exists_collect (r := fun _ _ => True) hmaterialized
  rw [hsnapshots, ok_bind]
  exact ⟨_, rfl⟩

/-- The candidate, the decision and the snapshot of a selected decision. -/
theorem exists_candidate_snapshot {s : Selected} (hs : s ∈ selected) :
    ∃ candidate ∈ bundle.discovery.candidates.items,
      candidate.id = s.decision.candidate.candidateId ∧
      (∀ evidence subject,
        List.Forall₂ (ContentAt bundle.inventory) candidate.evidence.items evidence →
        ContentAt bundle.inventory candidate.subject subject →
        ∃ snapshot, snapshotOf bundle s = .ok snapshot) ∧
      ∀ snapshot, snapshotOf bundle s = .ok snapshot → ∃ evidence subject,
        List.Forall₂ (ContentAt bundle.inventory) candidate.evidence.items evidence ∧
        ContentAt bundle.inventory candidate.subject subject ∧
        fingerprints snapshot = fingerprintsOf bundle.inventory.subjectUri.toUri s.proposal
          candidate.confidence evidence subject := by
  obtain ⟨candidate, hcandidate, hid⟩ := h.exists_candidate hs
  obtain ⟨materialization, -, hlinked⟩ := exists_linked h hs
  obtain ⟨hok, hfingerprints⟩ := subjectSnapshot_eq_ok h hs hcandidate hid hlinked
  rw [snapshotOf, hlinked, ok_bind]
  exact ⟨candidate, hcandidate, hid, hok, hfingerprints⟩

/-- Different selected decisions have different subjects. -/
theorem eq_of_proposalKey_eq {s t : Selected} (hs : s ∈ selected) (ht : t ∈ selected)
    {uri₁ uri₂ : URI} (hkey : proposalKey uri₁ s.proposal = proposalKey uri₂ t.proposal) :
    s = t := by
  have hroots : (selected.map fun s => entityRef s.proposal.root).Nodup :=
    h.materialized.wellFormed.roots.nodup
  refine List.inj_on_of_nodup_map hroots hs ht ?_
  rw [proposalKey, proposalKey, BehaviorSubjectKey.mk.injEq] at hkey
  rw [entityRef, entityRef, hkey.2.1, hkey.2.2]

/-- A decision that selects is the decision of a selected one, and the other way round. -/
theorem exists_selected_decision {decision : Decision} :
    (∃ s ∈ selected, s.decision = decision) ↔
      decision ∈ bundle.decisions.decisions.items ∧ decision.Selects := by
  have hdecisions := map_decision_selected h.ready
  rw [← selection, ← h.selected_eq_selection] at hdecisions
  rw [← List.mem_map, hdecisions, List.mem_filter, decide_eq_true_eq]

theorem orders_nodup (uri : URI) :
    (selected.map fun s => behaviorSubjectOrder (proposalKey uri s.proposal)).Nodup := by
  have hroots : (selected.map fun s => entityRef s.proposal.root).Nodup :=
    h.materialized.wellFormed.roots.nodup
  refine List.Nodup.map_on (fun s hs t ht horder => ?_) hroots.of_map
  rw [behaviorSubjectOrder, behaviorSubjectOrder] at horder
  simp only [EmbeddingLike.apply_eq_iff_eq, Prod.mk.injEq] at horder
  have hkey : proposalKey uri s.proposal = proposalKey uri t.proposal := by
    rw [proposalKey, proposalKey, BehaviorSubjectKey.mk.injEq]
    exact ⟨rfl, EntityKind.value_injective horder.2.1, Subtype.ext horder.2.2⟩
  exact eq_of_proposalKey_eq h hs ht hkey

/-- The subjects of the snapshots are those of the selected proposals. -/
theorem map_order_fingerprints
    (hall : ∀ s ∈ selected, ∃ snapshot, snapshotOf bundle s = .ok snapshot) :
    ((selected.filterMap fun s => (snapshotOf bundle s).toOption.map fingerprints).map
        fun print => behaviorSubjectOrder print.2.1) =
      selected.map fun s =>
        behaviorSubjectOrder (proposalKey bundle.inventory.subjectUri.toUri s.proposal) := by
  rw [List.map_filterMap, ← List.filterMap_eq_map]
  refine List.filterMap_congr fun s hs => ?_
  obtain ⟨snapshot, hsnapshot⟩ := hall s hs
  obtain ⟨candidate, -, -, -, hfingerprints⟩ := exists_candidate_snapshot h hs
  obtain ⟨evidence, subject, -, -, hprint⟩ := hfingerprints snapshot hsnapshot
  rw [hsnapshot]
  change some (behaviorSubjectOrder (fingerprints snapshot).2.1) = _
  rw [hprint]
  rfl

end Bundle

section Bundles

variable (h : bundle.AcceptedAs request selected materializations records)
  (h' : bundle'.AcceptedAs request' selected' materializations' records')
  (hrenamed : Renamed ρ σ bundle bundle')
include h' hrenamed

omit h' in
theorem Renamed.candidate (hnodup : (bundle'.discovery.candidates.items.map
      DiscoveryCandidate.id).Nodup) {c c' : DiscoveryCandidate}
    (hc : c ∈ bundle.discovery.candidates.items) (hc' : c' ∈ bundle'.discovery.candidates.items)
    (hid : c'.id = σ c.id) : RenamedCandidate ρ σ c c' := by
  obtain ⟨other, hother, hcandidate⟩ := hrenamed.candidates.exists_right hc
  have hsame : other = c' :=
    List.inj_on_of_nodup_map hnodup hother hc' (hcandidate.id_eq.trans hid.symm)
  exact hsame ▸ hcandidate

include h

/-- Aligned evidence gives corresponding decisions the same fingerprints. -/
theorem Aligned.exists_snapshots (haligned : Aligned σ bundle bundle') {s s' : Selected}
    (hs : s ∈ selected) (hs' : s' ∈ selected') (hselected : RenamedSelected σ s s') :
    ∃ snapshot snapshot', snapshotOf bundle s = .ok snapshot ∧
      snapshotOf bundle' s' = .ok snapshot' ∧ fingerprints snapshot = fingerprints snapshot' := by
  obtain ⟨c, hc, hid, hok, hprint⟩ := exists_candidate_snapshot h hs
  obtain ⟨c', hc', hid', hok', hprint'⟩ := exists_candidate_snapshot h' hs'
  have hσ : c'.id = σ c.id := by rw [hid', hselected.candidate_eq, hid]
  have hcandidate := hrenamed.candidate h'.candidates_nodup hc hc' hσ
  obtain ⟨hdecision, hselects⟩ := (exists_selected_decision h).mp ⟨s, hs, rfl⟩
  obtain ⟨evidence, hevidence, hevidence'⟩ :=
    forall₂_exists_iff.mp (haligned _ hdecision hselects c hc hid c' hc' hσ)
  -- the subject is one of the evidence, so it has a content
  obtain ⟨-, -, -, hincluded⟩ := h.candidate_valid hc
  obtain ⟨subject, -, hsubject⟩ :=
    Corresponds.exists_right ⟨evidence, hevidence, .refl _⟩ hincluded
  have hsubject' : ContentAt bundle'.inventory c'.subject subject := by
    rw [hcandidate.subject_eq]
    exact hsubject.renamed hrenamed
  obtain ⟨snapshot, hsnapshot⟩ := hok evidence subject hevidence hsubject
  obtain ⟨snapshot', hsnapshot'⟩ := hok' evidence subject hevidence' hsubject'
  refine ⟨snapshot, snapshot', hsnapshot, hsnapshot', ?_⟩
  obtain ⟨evidence₁, subject₁, hevidence₁, hsubject₁, hprint⟩ := hprint snapshot hsnapshot
  obtain ⟨evidence₂, subject₂, hevidence₂, hsubject₂, hprint'⟩ := hprint' snapshot' hsnapshot'
  have hunique := rightUnique_contentAt bundle.inventory
  have hunique' := rightUnique_contentAt bundle'.inventory
  rw [hprint, hprint', hrenamed.subjectUri_eq, hselected.proposal_eq, hcandidate.confidence_eq,
    hunique hsubject₁ hsubject, hunique' hsubject₂ hsubject',
    List.right_unique_forall₂' hunique hevidence₁ hevidence,
    List.right_unique_forall₂' hunique' hevidence₂ hevidence']

/-- Aligned evidence makes the projection insensitive. -/
theorem Aligned.insensitive (haligned : Aligned σ bundle bundle') :
    Insensitive bundle bundle' := by
  have hcorresponds := hrenamed.corresponds h h'
  have hall : ∀ s ∈ selected, ∃ snapshot, snapshotOf bundle s = .ok snapshot := by
    intro s hs
    obtain ⟨s', hs', hselected⟩ := hcorresponds.exists_right hs
    obtain ⟨snapshot, -, hsnapshot, -⟩ := haligned.exists_snapshots h h' hrenamed hs hs' hselected
    exact ⟨snapshot, hsnapshot⟩
  have hall' : ∀ s' ∈ selected', ∃ snapshot, snapshotOf bundle' s' = .ok snapshot := by
    intro s' hs'
    obtain ⟨s, hs, hselected⟩ := hcorresponds.exists_left hs'
    obtain ⟨-, snapshot', -, hsnapshot', -⟩ :=
      haligned.exists_snapshots h h' hrenamed hs hs' hselected
    exact ⟨snapshot', hsnapshot'⟩
  obtain ⟨snapshots, hsnapshots⟩ := exists_deriveSubjectSnapshots h hall
  obtain ⟨snapshots', hsnapshots'⟩ := exists_deriveSubjectSnapshots h' hall'
  refine ⟨snapshots, snapshots', hsnapshots, hsnapshots', ?_⟩
  obtain ⟨-, hperm, hsorted⟩ := deriveSubjectSnapshots_eq_ok h hsnapshots
  obtain ⟨-, hperm', hsorted'⟩ := deriveSubjectSnapshots_eq_ok h' hsnapshots'
  have hprints : (snapshots.map fingerprints).Perm (snapshots'.map fingerprints) := by
    refine hperm.trans (List.Perm.trans ?_ hperm'.symm)
    have hrelated : Corresponds Eq
        (selected.filterMap fun s => (snapshotOf bundle s).toOption.map fingerprints)
        (selected'.filterMap fun s => (snapshotOf bundle' s).toOption.map fingerprints) := by
      refine hcorresponds.filterMap fun s hs s' hs' hselected => ?_
      obtain ⟨snapshot, snapshot', hsnapshot, hsnapshot', hprint⟩ :=
        haligned.exists_snapshots h h' hrenamed hs hs' hselected
      rw [hsnapshot, hsnapshot']
      exact .some hprint
    obtain ⟨image, himage, hpermuted⟩ := hrelated
    rw [List.forall₂_eq_eq_eq] at himage
    exact himage ▸ hpermuted
  have hkeys : ((snapshots.map fingerprints).map
      fun print => behaviorSubjectOrder print.2.1).Nodup := by
    rw [(hperm.map _).nodup_iff, map_order_fingerprints h hall]
    exact orders_nodup h _
  have hbyPrint : ∀ items : List BehaviorSubjectSnapshot,
      items = sortedBy (fun snapshot => behaviorSubjectOrder snapshot.key) items →
      items.map fingerprints =
        sortedBy (fun print => behaviorSubjectOrder print.2.1) (items.map fingerprints) := by
    intro items hitems
    rw [sortedBy_map]
    exact congrArg (List.map fingerprints) hitems
  rw [hbyPrint _ hsorted, hbyPrint _ hsorted', sortedBy_eq_of_perm hprints hkeys]

/-- Where no two of the projections have one hash, the evidence of an insensitive projection is
aligned. -/
theorem Insensitive.aligned
    (hsha : Set.InjOn Hashlib.sha256 (observedPayloads bundle ∪ observedPayloads bundle'))
    (hinsensitive : Insensitive bundle bundle') : Aligned σ bundle bundle' := by
  obtain ⟨snapshots, snapshots', hsnapshots, hsnapshots', hprints⟩ := hinsensitive
  obtain ⟨hall, hperm, -⟩ := deriveSubjectSnapshots_eq_ok h hsnapshots
  obtain ⟨-, hperm', -⟩ := deriveSubjectSnapshots_eq_ok h' hsnapshots'
  have hcorresponds := hrenamed.corresponds h h'
  intro decision hdecision hselects c hc hid c' hc' hσ
  obtain ⟨s, hs, rfl⟩ := (exists_selected_decision h).mpr ⟨hdecision, hselects⟩
  obtain ⟨s', hs', hselected⟩ := hcorresponds.exists_right hs
  obtain ⟨snapshot, hsnapshot⟩ := hall s hs
  -- the other projection has a snapshot with the same fingerprints, of the same subject
  have hmem : fingerprints snapshot ∈
      selected'.filterMap fun t => (snapshotOf bundle' t).toOption.map fingerprints := by
    rw [← hperm'.mem_iff, ← hprints, hperm.mem_iff, List.mem_filterMap]
    exact ⟨s, hs, by rw [hsnapshot]; rfl⟩
  obtain ⟨t, ht, hprint⟩ := List.mem_filterMap.mp hmem
  obtain ⟨snapshot', hsnapshot'⟩ : ∃ snapshot', snapshotOf bundle' t = .ok snapshot' := by
    cases hresult : snapshotOf bundle' t with
    | ok snapshot' => exact ⟨snapshot', rfl⟩
    | error e =>
      rw [hresult] at hprint
      cases hprint
  rw [hsnapshot'] at hprint
  have hequal : fingerprints snapshot' = fingerprints snapshot := Option.some.inj hprint
  obtain ⟨d, hd, hdid, -, hfingerprints⟩ := exists_candidate_snapshot h hs
  obtain ⟨d', hd', hdid', -, hfingerprints'⟩ := exists_candidate_snapshot h' ht
  obtain ⟨evidence, subject, hevidence, hsubject, hfingerprint⟩ := hfingerprints _ hsnapshot
  obtain ⟨evidence', subject', hevidence', hsubject', hfingerprint'⟩ :=
    hfingerprints' _ hsnapshot'
  rw [hfingerprint, hfingerprint', fingerprintsOf, fingerprintsOf, Prod.mk.injEq, Prod.mk.injEq,
    Prod.mk.injEq] at hequal
  obtain ⟨-, hkey, -, hobserved⟩ := hequal
  rw [← hselected.proposal_eq] at hkey
  obtain rfl : t = s' := eq_of_proposalKey_eq h' ht hs' hkey
  obtain rfl : d = c := List.inj_on_of_nodup_map h.candidates_nodup hd hc (hdid.trans hid.symm)
  obtain rfl : d' = c' := by
    refine List.inj_on_of_nodup_map h'.candidates_nodup hd' hc' ?_
    rw [hdid', hselected.candidate_eq, hσ, hid]
  have hpayload : observedJson d'.confidence evidence' subject' =
      observedJson d.confidence evidence subject := by
    have hdigest := congrArg (fun print => print.digest.value) hobserved
    have hin : Payload.canonical (observedJson d.confidence evidence subject) ∈
        observedPayloads bundle :=
      ⟨d, hc, _, (observedProjection_eq_ok h hc).mpr ⟨_, _, hevidence, hsubject, rfl⟩, rfl⟩
    have hin' : Payload.canonical (observedJson d'.confidence evidence' subject') ∈
        observedPayloads bundle' :=
      ⟨d', hc', _, (observedProjection_eq_ok h' hc').mpr ⟨_, _, hevidence', hsubject', rfl⟩, rfl⟩
    exact Payload.canonical.inj (hsha (.inr hin') (.inl hin) hdigest)
  rw [evidence_eq_of_observedJson hpayload] at hevidence'
  exact forall₂_exists_iff.mpr ⟨evidence, hevidence, hevidence'⟩

end Bundles

/-- The observed fingerprints of two valid bundles that differ by a renaming of paths agree when
the records that a candidate cites keep their order, up to records of one content. -/
theorem insensitive_iff_aligned {u u' : Unit} (hvalid : validateOnboardingBundle bundle = .ok u)
    (hvalid' : validateOnboardingBundle bundle' = .ok u') (hrenamed : Renamed ρ σ bundle bundle')
    (hsha : Set.InjOn Hashlib.sha256 (observedPayloads bundle ∪ observedPayloads bundle')) :
    Insensitive bundle bundle' ↔ Aligned σ bundle bundle' := by
  obtain ⟨_, _, _, _, h⟩ := validateOnboardingBundle_eq_ok.mp hvalid
  obtain ⟨_, _, _, _, h'⟩ := validateOnboardingBundle_eq_ok.mp hvalid'
  exact ⟨Insensitive.aligned h h' hrenamed hsha, Aligned.insensitive h h' hrenamed⟩

end Insensitive

end Ucf.V1

namespace Ucf.V1.ProjectionSample

open Ucf.Orders (digest digestValue)

/-! The repository of the sample with its two files renamed -/

def renamedFirst : File := ⟨⟨"aaa.py", by decide +kernel⟩, ⟨1, one_safe⟩, digest 1, 19, 27⟩

def renamedSecond : File := ⟨⟨"b.py", by decide +kernel⟩, ⟨2, two_safe⟩, digest 2, 17, 26⟩

def renamedInventory : InventorySnapshot :=
  inventoryOf renamedFirst renamedSecond 109 (by decide +kernel)

def renamedDigests : Digests := ⟨109, 6777, 286, 305, 47⟩

/-- The bundle of the renamed repository; the identifiers of its files have another order. -/
def renamedBundle : Except PyError OnboardingBundle :=
  bundleOf renamedInventory (fileEvidence renamedSecond renamedFirst) renamedDigests

/-- The identifiers that change. -/
def renamedId (id : InventoryRecordId) : InventoryRecordId :=
  if id = ⟨.provenance, digestValue 17⟩ then ⟨.provenance, digestValue 19⟩
  else if id = ⟨.provenance, digestValue 19⟩ then ⟨.provenance, digestValue 17⟩
  else if id = ⟨.entry, digestValue 25⟩ then ⟨.entry, digestValue 27⟩
  else if id = ⟨.entry, digestValue 28⟩ then ⟨.entry, digestValue 26⟩
  else id

/-- The records of the repository with its two files, in the order in which they are listed. -/
def listed (first second : File) : List InventoryRecord :=
  [.inventoryProvenance (provenanceOf rootPath none 11),
    .inventoryProvenance (provenanceOf first.path (some first.content) first.provenanceId),
    .inventoryProvenance (provenanceOf second.path (some second.content) second.provenanceId),
    .repositoryEntry rootEntry, .repositoryEntry first.entry, .repositoryEntry second.entry,
    .publicInterface first.interface, .inventoryDiagnostic diagnostic]

theorem corresponds_recordsOf : Corresponds (RenamedRecord renamedId)
    (recordsOf firstFile secondFile).items (recordsOf renamedFirst renamedSecond).items := by
  have hlisted : List.Forall₂ (RenamedRecord renamedId) (listed firstFile secondFile)
      (listed renamedFirst renamedSecond) :=
    .cons ⟨_, _, _, rfl⟩ <| .cons ⟨_, _, _, rfl⟩ <| .cons ⟨_, _, _, rfl⟩ <| .cons ⟨_, rfl⟩ <|
      .cons ⟨_, rfl⟩ <| .cons ⟨_, rfl⟩ <| .cons rfl <| .cons ⟨_, rfl⟩ .nil
  exact (Corresponds.of_forall₂ hlisted).perm (sortedBy_perm recordKey _)
    (sortedBy_perm recordKey _).symm

theorem renamedCandidate_candidateOf : RenamedCandidate renamedId id
    (candidateOf (fileEvidence firstFile secondFile) fileDigests)
    (candidateOf (fileEvidence renamedSecond renamedFirst) renamedDigests) where
  id_eq := rfl
  subject_eq := rfl
  evidence_perm := by decide +kernel
  confidence_eq := rfl
  proposal_eq := rfl

theorem renamedDecision_decisionOf :
    RenamedDecision id (.accepted (decisionOf fileDigests)) (.accepted (decisionOf renamedDigests)) :=
  ⟨rfl, rfl⟩

theorem subjectUri_inventory : inventory.subjectUri = ⟨"urn:ucf:orders", by decide⟩ := rfl

theorem subjectUri_renamedInventory :
    renamedInventory.subjectUri = ⟨"urn:ucf:orders", by decide⟩ := rfl

theorem renamed_bundles {bundle bundle' : OnboardingBundle} (h : entriesBundle = .ok bundle)
    (h' : renamedBundle = .ok bundle') : Renamed renamedId id bundle bundle' := by
  rw [entriesBundle, bundleOf] at h
  rw [renamedBundle, bundleOf] at h'
  obtain ⟨hinventory, hdiscovery, hdecisions⟩ := documents_of_assembleBundle h
  obtain ⟨hinventory', hdiscovery', hdecisions'⟩ := documents_of_assembleBundle h'
  refine ⟨?_, ?_, ?_, ?_⟩
  · rw [hinventory, hinventory', subjectUri_inventory, subjectUri_renamedInventory]
  · rw [hinventory, hinventory']
    exact corresponds_recordsOf
  · rw [hdiscovery, hdiscovery']
    exact .of_forall₂ (.cons renamedCandidate_candidateOf .nil)
  · rw [hdecisions, hdecisions']
    exact .of_forall₂ (.cons renamedDecision_decisionOf .nil)

/-- The observed fingerprints of a bundle. -/
def observedOf (bundle : OnboardingBundle) : Option (List Digest) :=
  (collect (subjectSnapshot bundle) bundle.baseline.materializations.items).toOption.map
    fun snapshots => snapshots.map fun snapshot => snapshot.observed.digest

theorem observedOf_entriesBundle :
    entriesBundle.toOption.map observedOf = some (some [digest 219]) := by decide +kernel

theorem observedOf_renamedBundle :
    renamedBundle.toOption.map observedOf = some (some [digest 217]) := by decide +kernel

theorem exists_bundles : ∃ bundle bundle' : OnboardingBundle,
    entriesBundle = .ok bundle ∧ renamedBundle = .ok bundle' ∧
      observedOf bundle = some [digest 219] ∧ observedOf bundle' = some [digest 217] := by
  obtain ⟨bundle, hbundle, hobserved⟩ := exists_of_map observedOf_entriesBundle
  obtain ⟨bundle', hbundle', hobserved'⟩ := exists_of_map observedOf_renamedBundle
  exact ⟨bundle, bundle', hbundle, hbundle', hobserved, hobserved'⟩

/-- The weight of what is hashed for the observed fingerprint of a candidate. -/
def observedWeight (inventory : InventorySnapshot) (candidate : DiscoveryCandidate) : Option Nat :=
  (observedProjection candidate
    (Dict.index InventoryRecord.id inventory.records.items)).toOption.map weight

theorem observedPayloads_injOn {bundle bundle' : OnboardingBundle}
    (h : entriesBundle = .ok bundle) (h' : renamedBundle = .ok bundle') :
    Set.InjOn Hashlib.sha256 (observedPayloads bundle ∪ observedPayloads bundle') := by
  obtain ⟨hinventory, hdiscovery, -⟩ := documents_of_assembleBundle h
  obtain ⟨hinventory', hdiscovery', -⟩ := documents_of_assembleBundle h'
  have hweight : observedWeight inventory (candidateOf (fileEvidence firstFile secondFile)
      fileDigests) = some 219 := by decide +kernel
  have hweight' : observedWeight renamedInventory (candidateOf
      (fileEvidence renamedSecond renamedFirst) renamedDigests) = some 217 := by decide +kernel
  rw [observedPayloads, observedPayloads, hinventory, hinventory', hdiscovery, hdiscovery']
  rintro p (⟨c, hc, o, ho, rfl⟩ | ⟨c, hc, o, ho, rfl⟩) q
    (⟨d, hd, o', ho', rfl⟩ | ⟨d, hd, o', ho', rfl⟩) hequal <;>
    obtain rfl := List.mem_singleton.mp hc <;> obtain rfl := List.mem_singleton.mp hd
  · rw [ho, Except.ok.injEq] at ho'
    rw [ho']
  · exact absurd hequal (by
      rw [observedWeight, ho] at hweight
      rw [observedWeight, ho'] at hweight'
      change digestValue (weight o) ≠ digestValue (weight o')
      rw [Option.some.inj hweight, Option.some.inj hweight']
      decide)
  · exact absurd hequal (by
      rw [observedWeight, ho] at hweight'
      rw [observedWeight, ho'] at hweight
      change digestValue (weight o) ≠ digestValue (weight o')
      rw [Option.some.inj hweight, Option.some.inj hweight']
      decide)
  · rw [ho, Except.ok.injEq] at ho'
    rw [ho']

end Ucf.V1.ProjectionSample

namespace Ucf.V1

open ProjectionSample

theorem insensitive_iff_aligned_sample : ∃ bundle bundle' : OnboardingBundle,
    entriesBundle = .ok bundle ∧ renamedBundle = .ok bundle' ∧
      (Insensitive bundle bundle' ↔ Aligned id bundle bundle') := by
  obtain ⟨bundle, bundle', h, h', -, -⟩ := exists_bundles
  exact ⟨bundle, bundle', h, h', insensitive_iff_aligned (validate_of_assembleBundle h)
    (validate_of_assembleBundle h') (renamed_bundles h h') (observedPayloads_injOn h h')⟩

/-- Two files of one content each are renamed so that their identifiers change order, and the
observed fingerprint of their interface changes. -/
theorem renaming_changes_observed : ∃ bundle bundle' : OnboardingBundle,
    validateOnboardingBundle bundle = .ok () ∧ validateOnboardingBundle bundle' = .ok () ∧
      Renamed renamedId id bundle bundle' ∧ ¬Insensitive bundle bundle' := by
  obtain ⟨bundle, bundle', h, h', hobserved, hobserved'⟩ := exists_bundles
  have hvalid := validate_of_assembleBundle h
  have hvalid' := validate_of_assembleBundle h'
  refine ⟨bundle, bundle', hvalid, hvalid', renamed_bundles h h', ?_⟩
  rintro ⟨snapshots, snapshots', hsnapshots, hsnapshots', hprints⟩
  have hdigests : ∀ {bundle : OnboardingBundle} {snapshots : List BehaviorSubjectSnapshot}
      {observed : List Digest}, validateOnboardingBundle bundle = .ok () →
      observedOf bundle = some observed → deriveSubjectSnapshots bundle = .ok snapshots →
      (snapshots.map fun snapshot => snapshot.observed.digest).Perm observed := by
    intro bundle snapshots observed hvalid hobserved hsnapshots
    rw [deriveSubjectSnapshots_eq hvalid, bind_eq_ok] at hsnapshots
    obtain ⟨unsorted, hcollect, hsorted⟩ := hsnapshots
    rw [observedOf, hcollect] at hobserved
    rw [← Option.some.inj hobserved, ← Except.ok.inj hsorted]
    exact (sortedBy_perm _ _).map _
  have hfirst := List.perm_singleton.mp (hdigests hvalid hobserved hsnapshots)
  have hsecond := List.perm_singleton.mp (hdigests hvalid' hobserved' hsnapshots')
  have hequal := congrArg (List.map fun print => print.2.2.2.digest) hprints
  rw [List.map_map, List.map_map] at hequal
  have hdistinct : [Orders.digest 219] ≠ [Orders.digest 217] := by decide
  exact hdistinct (hfirst.symm.trans (hequal.trans hsecond))

end Ucf.V1
