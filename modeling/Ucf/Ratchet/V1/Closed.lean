import Ucf.Inventory.Structure
import Ucf.Library.Collect
import Ucf.Onboarding.Accepted
import Ucf.Ratchet.V1.Projection

/-! How the projection of a bundle ends: for every accepted bundle, with a snapshot for each
materialization or with an error, which is decided by the first record that has no normal form. -/

namespace Ucf

variable [Unicodedata] [Hashlib]

namespace InventorySnapshot

variable {s : InventorySnapshot}

theorem ids_nodup (s : InventorySnapshot) :
    (s.records.items.map InventoryRecord.id).Nodup := by
  have h := s.valid
  simp only [validateSnapshot, validateRecords, bind_eq_ok, require_eq_ok] at h
  obtain ⟨_, -, _, hids, -⟩ := h
  exact hids

/-- A record is found under its identifier. -/
theorem get?_of_mem {record : InventoryRecord} (h : record ∈ s.records.items) :
    (Dict.index InventoryRecord.id s.records.items).get? record.id = some record :=
  (Dict.get?_index s.ids_nodup).mpr ⟨h, rfl⟩

/-- The provenance of a fact. -/
theorem exists_provenance {record : InventoryRecord} (h : record ∈ s.records.items)
    (hfact : record.factKind ≠ none) : ∃ provenance,
      .inventoryProvenance provenance ∈ s.records.items ∧
      record.provenanceRef?.map InventoryRecordRef.targetId = some provenance.id := by
  obtain ⟨_, _, hvalid⟩ := validateRecord_of_mem h
  obtain ⟨provenance, hmem, hid, -⟩ := validateRecord_fact hfact hvalid
  exact ⟨provenance, hmem, hid⟩

end InventorySnapshot

end Ucf

namespace Ucf.V1

variable [Unicodedata]

/-! ### Normal forms -/

/-- The normal form of an entry with its provenance. -/
def entryForm (entry : RepositoryEntryFact) (provenance : InventoryProvenance) : Json :=
  withMember ((modelDump entry).exclude ["id", "level", "path", "provenance"]) "provenance_content"
    (normalizeProvenance provenance)

/-- The normal form of a fact with the normal form of its entry and its provenance. -/
def factForm (fact : InventoryRecord) (entry : Json) (provenance : InventoryProvenance) : Json :=
  withMember (withMember ((modelDump fact).exclude ["entry", "id", "level", "provenance"])
    "entry" entry) "provenance_content" (normalizeProvenance provenance)

/-- A record, with the records that it refers to, and its normal form. -/
inductive Normalizes (records : List InventoryRecord) : InventoryRecord → Json → Prop
  | provenance (provenance : InventoryProvenance) :
    Normalizes records (.inventoryProvenance provenance) (normalizeProvenance provenance)
  | entry {entry : RepositoryEntryFact} {provenance : InventoryProvenance}
    (hmem : .inventoryProvenance provenance ∈ records)
    (hid : entry.provenance.targetId = provenance.id) :
    Normalizes records (.repositoryEntry entry) (entryForm entry provenance)
  | fact {fact : InventoryRecord} {entryRef provenanceRef : InventoryRecordRef}
    {entry : RepositoryEntryFact} {form : Json} {provenance : InventoryProvenance}
    (hentryRef : fact.entryRef? = some entryRef)
    (hprovenanceRef : fact.provenanceRef? = some provenanceRef)
    (hentryMem : .repositoryEntry entry ∈ records) (hentryId : entryRef.targetId = entry.id)
    (hentry : Normalizes records (.repositoryEntry entry) form)
    (hmem : .inventoryProvenance provenance ∈ records)
    (hid : provenanceRef.targetId = provenance.id) :
    Normalizes records fact (factForm fact form provenance)

section Normal

variable {records : List InventoryRecord} (hids : (records.map InventoryRecord.id).Nodup)
include hids

theorem resolveInventoryRecord_of_mem {record : InventoryRecord} (h : record ∈ records) :
    resolveInventoryRecord record.id (Dict.index InventoryRecord.id records) = .ok record := by
  rw [resolveInventoryRecord, (Dict.get?_index hids).mpr ⟨h, rfl⟩, orRaise_some]

theorem normalizedProvenance_of_mem {provenance : InventoryProvenance}
    (h : .inventoryProvenance provenance ∈ records) :
    normalizedProvenance provenance.id (Dict.index InventoryRecord.id records) =
      .ok (normalizeProvenance provenance) := by
  have hresolve := resolveInventoryRecord_of_mem hids h
  rw [InventoryRecord.id] at hresolve
  rw [normalizedProvenance, hresolve]
  rfl

omit hids in
theorem normalizeInventoryRecord_fact {byId : Dict InventoryRecordId InventoryRecord}
    {fact : InventoryRecord} {entryRef provenanceRef : InventoryRecordRef} (fuel : Nat)
    (hentryRef : fact.entryRef? = some entryRef)
    (hprovenanceRef : fact.provenanceRef? = some provenanceRef) :
    normalizeInventoryRecord byId (fuel + 1) fact = (do
      let target ← resolveInventoryRecord entryRef.targetId byId
      let normalized ← normalizeInventoryRecord byId fuel target
      let content ← normalizedProvenance provenanceRef.targetId byId
      pure (withMember (withMember
        ((modelDump fact).exclude ["entry", "id", "level", "provenance"]) "entry" normalized)
        "provenance_content" content)) := by
  cases fact
  case inventoryProvenance | repositoryEntry | inventoryDiagnostic | inventoryIgnoreMatch =>
    cases hentryRef
  all_goals
    cases hentryRef
    cases hprovenanceRef
    rfl

theorem normalizeInventoryRecord_entry {entry : RepositoryEntryFact}
    {provenance : InventoryProvenance} (fuel : Nat)
    (hmem : .inventoryProvenance provenance ∈ records)
    (hid : entry.provenance.targetId = provenance.id) :
    normalizeInventoryRecord (Dict.index InventoryRecord.id records) (fuel + 1)
      (.repositoryEntry entry) = .ok (entryForm entry provenance) := by
  simp only [normalizeInventoryRecord, hid, normalizedProvenance_of_mem hids hmem, ok_bind,
    entryForm]
  rfl

/-- The normal form of a record is what the code computes; a fact needs one call for its entry. -/
theorem Normalizes.eq_ok {record : InventoryRecord} {form : Json}
    (h : Normalizes records record form) (fuel : Nat) :
    normalizeInventoryRecord (Dict.index InventoryRecord.id records) (fuel + 2) record =
      .ok form := by
  cases h with
  | provenance provenance => rfl
  | entry hmem hid => exact normalizeInventoryRecord_entry hids (fuel + 1) hmem hid
  | @fact _ entryRef provenanceRef entry form provenance hentryRef hprovenanceRef hentryMem
      hentryId hentry hmem hid =>
    have htarget := resolveInventoryRecord_of_mem hids hentryMem
    rw [InventoryRecord.id, ← hentryId] at htarget
    have hform : normalizeInventoryRecord (Dict.index InventoryRecord.id records) (fuel + 1)
        (.repositoryEntry entry) = .ok form := by
      cases hentry with
      | entry hmem hid => exact normalizeInventoryRecord_entry hids fuel hmem hid
      | fact hnone => cases hnone
    rw [normalizeInventoryRecord_fact (fuel + 1) hentryRef hprovenanceRef, htarget, ok_bind, hform,
      ok_bind, hid, normalizedProvenance_of_mem hids hmem, ok_bind]
    rfl

end Normal

/-- Every record of an inventory has a normal form, but the diagnostics and the ignore matches. -/
theorem exists_normalizes [Hashlib] {s : InventorySnapshot} {record : InventoryRecord}
    (h : record ∈ s.records.items) (hdiagnostic : record.kind ≠ .inventoryDiagnostic)
    (hignore : record.kind ≠ .inventoryIgnoreMatch) :
    ∃ form, Normalizes s.records.items record form := by
  have hentryForm : ∀ entry : RepositoryEntryFact, .repositoryEntry entry ∈ s.records.items →
      ∃ form, Normalizes s.records.items (.repositoryEntry entry) form := by
    intro entry hentry
    obtain ⟨provenance, hmem, hid⟩ := InventorySnapshot.exists_provenance hentry
      (by simp [InventoryRecord.factKind])
    exact ⟨_, .entry hmem (Option.some.inj hid)⟩
  have hfact : record.entryRef? ≠ none → ∃ form, Normalizes s.records.items record form := by
    intro hne
    obtain ⟨entry, provenance, hclassified⟩ := InventorySnapshot.classifies h hne
    obtain ⟨entryRef, hentryRef, hentryId⟩ := Option.map_eq_some_iff.mp hclassified.entry_ref
    obtain ⟨provenanceRef, hprovenanceRef, hid⟩ :=
      Option.map_eq_some_iff.mp hclassified.provenance_ref
    obtain ⟨form, hform⟩ := hentryForm entry hclassified.entry_mem
    exact ⟨_, .fact hentryRef hprovenanceRef hclassified.entry_mem hentryId hform
      hclassified.provenance_mem hid⟩
  cases record with
  | inventoryProvenance provenance => exact ⟨_, .provenance provenance⟩
  | repositoryEntry entry => exact hentryForm entry h
  | inventoryDiagnostic => exact absurd rfl hdiagnostic
  | inventoryIgnoreMatch => exact absurd rfl hignore
  | apiDescription | buildManifest | publicInterface | testAsset =>
    exact hfact (by simp [InventoryRecord.entryRef?])

/-! ### The projections of one materialization -/

section Projections

variable [Hashlib] {bundle : OnboardingBundle} {candidate : DiscoveryCandidate}

/-- The record of a reference, in its normal form. -/
def normalizedTarget (inventory : InventorySnapshot) (reference : InventoryRecordRef) :
    Except PyError Json := do
  let byId := Dict.index InventoryRecord.id inventory.records.items
  let record ← resolveInventoryRecord reference.targetId byId
  normalizeInventoryRecord byId (byId.items.length + 1) record

theorem observedProjection_eq (inventory : InventorySnapshot) (candidate : DiscoveryCandidate) :
    observedProjection candidate (Dict.index InventoryRecord.id inventory.records.items) =
      collect (normalizedTarget inventory) candidate.evidence.items >>= fun evidence =>
        normalizedTarget inventory candidate.subject >>= fun subject => .ok (.obj [
          ("confidence", modelDump candidate.confidence), ("evidence", .arr evidence),
          ("subject", subject)]) := rfl

theorem normalizedTarget_eq {inventory : InventorySnapshot} {record : InventoryRecord}
    {reference : InventoryRecordRef} (hmem : record ∈ inventory.records.items)
    (hid : record.id = reference.targetId) :
    normalizedTarget inventory reference = normalizeInventoryRecord
      (Dict.index InventoryRecord.id inventory.records.items)
      ((Dict.index InventoryRecord.id inventory.records.items).items.length + 1) record := by
  have hresolve := resolveInventoryRecord_of_mem inventory.ids_nodup hmem
  rw [hid] at hresolve
  rw [normalizedTarget, hresolve]
  rfl

theorem Normalizes.normalizedTarget {inventory : InventorySnapshot} {record : InventoryRecord}
    {form : Json} (h : Normalizes inventory.records.items record form)
    {reference : InventoryRecordRef} (hmem : record ∈ inventory.records.items)
    (hid : record.id = reference.targetId) : normalizedTarget inventory reference = .ok form := by
  have hlength : (Dict.index InventoryRecord.id inventory.records.items).items.length =
      inventory.records.items.length := by
    rw [Dict.index_items inventory.ids_nodup, List.length_map]
  obtain ⟨fuel, hfuel⟩ := Nat.exists_eq_add_of_lt (List.length_pos_of_mem hmem)
  rw [normalizedTarget_eq hmem hid, hlength, hfuel, Nat.zero_add]
  exact h.eq_ok inventory.ids_nodup fuel

/-- How a reference to a record ends, by the kind of the record. -/
theorem normalizedTarget_of_mem {inventory : InventorySnapshot} {record : InventoryRecord}
    {reference : InventoryRecordRef} (hmem : record ∈ inventory.records.items)
    (hid : record.id = reference.targetId) :
    (record.kind = .inventoryDiagnostic ∧
        normalizedTarget inventory reference = .error .attributeError) ∨
      (record.kind = .inventoryIgnoreMatch ∧ normalizedTarget inventory reference =
        .error (.ratchetV1 .wrongTargetKind
          "candidate evidence has an unsupported inventory record kind" "$.inventory.records")) ∨
      (record.kind ≠ .inventoryDiagnostic ∧ record.kind ≠ .inventoryIgnoreMatch ∧
        ∃ form, Normalizes inventory.records.items record form) := by
  have htarget := normalizedTarget_eq hmem hid
  by_cases hdiagnostic : record.kind = .inventoryDiagnostic
  · refine .inl ⟨hdiagnostic, ?_⟩
    rw [htarget]
    cases record with
    | inventoryDiagnostic => rfl
    | _ => cases hdiagnostic
  · by_cases hignore : record.kind = .inventoryIgnoreMatch
    · refine .inr (.inl ⟨hignore, ?_⟩)
      rw [htarget]
      cases record with
      | inventoryIgnoreMatch => rfl
      | _ => cases hignore
    · exact .inr (.inr ⟨hdiagnostic, hignore, exists_normalizes hmem hdiagnostic hignore⟩)

/-- The record kinds of the evidence of a candidate. -/
def Cites (candidate : DiscoveryCandidate) (kind : InventoryRecordKind) : Prop :=
  ∃ reference ∈ candidate.evidence.items, reference.targetKind = kind

omit [Unicodedata] [Hashlib] in
/-- In the canonical order, diagnostics come before ignore matches. -/
theorem notMem_after_of_ignoreMatch {before after : List InventoryRecordRef}
    {reference other : InventoryRecordRef}
    (hsorted : isCanonicalRefs (before ++ reference :: after))
    (hignore : reference.targetKind = .inventoryIgnoreMatch)
    (hdiagnostic : other.targetKind = .inventoryDiagnostic) : other ∉ after := by
  intro hother
  have hpairwise : ((before ++ reference :: after).map inventoryRefKey).Pairwise (· ≤ ·) := by
    rw [hsorted.2]
    exact pairwise_sortedBy id _
  rw [List.map_append, List.map_cons, List.pairwise_append, List.pairwise_cons] at hpairwise
  have hle := hpairwise.2.1.1 _ (List.mem_map_of_mem hother)
  rw [inventoryRefKey, inventoryRefKey, hignore, hdiagnostic, Prod.Lex.toLex_le_toLex] at hle
  have hvalues : ¬InventoryRecordKind.inventoryIgnoreMatch.value <
      InventoryRecordKind.inventoryDiagnostic.value ∧
      InventoryRecordKind.inventoryIgnoreMatch.value ≠
        InventoryRecordKind.inventoryDiagnostic.value := by decide
  rcases hle with hlt | ⟨heq, -⟩
  · exact hvalues.1 hlt
  · exact hvalues.2 heq

/-- What the semantic projection takes from a reference. -/
def projectRef (entities : Dict Identifier Entity) (reference : BehaviorEntityRef) : Option Json :=
  match entities.get? reference.targetId with
  | some entity => if entity.kind = .provenance then none
      else some ((modelDump entity).exclude ["provenance"])
  | none => none

/-- The candidate of a materialization cites a kind of record as its evidence. -/
def MaterializationCites (bundle : OnboardingBundle) (materialization : BehaviorMaterialization)
    (kind : InventoryRecordKind) : Prop :=
  ∃ candidate ∈ bundle.discovery.candidates.items,
    candidate.id = materialization.candidate.candidateId ∧ Cites candidate kind

variable {request : DiscoveryRequest} {selected : List Selected}
  {materializations : List BehaviorMaterialization} {records : List (List TrustRecord)}
  (h : bundle.AcceptedAs request selected materializations records)
include h

/-- How a piece of evidence ends, by the kind of its reference. -/
theorem normalizedTarget_of_evidence (hcandidate : candidate ∈ bundle.discovery.candidates.items)
    {reference : InventoryRecordRef} (hreference : reference ∈ candidate.evidence.items) :
    (reference.targetKind = .inventoryDiagnostic ∧
        normalizedTarget bundle.inventory reference = .error .attributeError) ∨
      (reference.targetKind = .inventoryIgnoreMatch ∧
        normalizedTarget bundle.inventory reference = .error (.ratchetV1 .wrongTargetKind
          "candidate evidence has an unsupported inventory record kind" "$.inventory.records")) ∨
      (reference.targetKind ≠ .inventoryDiagnostic ∧
        reference.targetKind ≠ .inventoryIgnoreMatch ∧
        ∃ form, normalizedTarget bundle.inventory reference = .ok form) := by
  obtain ⟨record, hrecord, hid, hkind⟩ := (h.candidate_valid hcandidate).2.1 reference hreference
  rw [← hkind]
  rcases normalizedTarget_of_mem hrecord hid with herror | herror | ⟨hne, hne', form, hform⟩
  · exact .inl herror
  · exact .inr (.inl herror)
  · exact .inr (.inr ⟨hne, hne', form, hform.normalizedTarget hrecord hid⟩)

theorem observedProjection_of_uncited (hcandidate : candidate ∈ bundle.discovery.candidates.items)
    (hdiagnostic : ¬Cites candidate .inventoryDiagnostic)
    (hignore : ¬Cites candidate .inventoryIgnoreMatch) : ∃ observed, observedProjection candidate
      (Dict.index InventoryRecord.id bundle.inventory.records.items) = .ok observed := by
  have hall : ∀ reference ∈ candidate.evidence.items,
      ∃ form, normalizedTarget bundle.inventory reference = .ok form := by
    intro reference hreference
    rcases normalizedTarget_of_evidence h hcandidate hreference with
      ⟨hkind, -⟩ | ⟨hkind, -⟩ | ⟨-, -, hform⟩
    · exact absurd ⟨reference, hreference, hkind⟩ hdiagnostic
    · exact absurd ⟨reference, hreference, hkind⟩ hignore
    · exact hform
  obtain ⟨evidence, hevidence, -⟩ := exists_collect (r := fun _ _ => True) fun reference hmem =>
    (hall reference hmem).imp fun _ hform => ⟨hform, trivial⟩
  obtain ⟨subject, hsubject⟩ := hall candidate.subject (h.candidate_valid hcandidate).2.2.2
  rw [observedProjection_eq, hevidence, ok_bind, hsubject, ok_bind]
  exact ⟨_, rfl⟩

/-- A diagnostic in the evidence has no attribute `evidence`. -/
theorem observedProjection_of_diagnostic
    (hcandidate : candidate ∈ bundle.discovery.candidates.items)
    (hdiagnostic : Cites candidate .inventoryDiagnostic) : observedProjection candidate
      (Dict.index InventoryRecord.id bundle.inventory.records.items) = .error .attributeError := by
  obtain ⟨cited, hcited, hkind⟩ := hdiagnostic
  have hraises : ∀ form, normalizedTarget bundle.inventory cited ≠ .ok form := by
    intro form hform
    rcases normalizedTarget_of_evidence h hcandidate hcited with
      ⟨-, herror⟩ | ⟨-, herror⟩ | ⟨hne, -⟩
    · rw [hform] at herror
      cases herror
    · rw [hform] at herror
      cases herror
    · exact hne hkind
  rcases collect_eq_ok_or_error (normalizedTarget bundle.inventory) candidate.evidence.items with
    ⟨evidence, hevidence⟩ | ⟨e, he⟩
  · obtain ⟨form, -, hform⟩ := exists_of_mem_collect hevidence hcited
    exact absurd hform (hraises form)
  · obtain ⟨before, reference, after, hlist, hbefore, herror⟩ := collect_eq_error.mp he
    have hreference : reference ∈ candidate.evidence.items := by
      rw [hlist]
      simp
    rw [observedProjection_eq, he]
    rcases normalizedTarget_of_evidence h hcandidate hreference with
      ⟨-, herror'⟩ | ⟨hignore, -⟩ | ⟨-, -, form, hform⟩
    · rw [herror, Except.error.injEq] at herror'
      rw [herror']
      rfl
    · -- the diagnostic would come before the ignore match, which raises first
      have hsorted := (h.candidate_valid hcandidate).1
      rw [hlist] at hsorted hcited
      rcases List.mem_append.mp hcited with hmem | hmem
      · obtain ⟨form, hform⟩ := hbefore cited hmem
        exact absurd hform (hraises form)
      · rcases List.mem_cons.mp hmem with rfl | hmem
        · rw [hkind] at hignore
          cases hignore
        · exact absurd hmem (notMem_after_of_ignoreMatch hsorted hignore hkind)
    · rw [hform] at herror
      cases herror

/-- An ignore match in the evidence is refused. -/
theorem observedProjection_of_ignoreMatch
    (hcandidate : candidate ∈ bundle.discovery.candidates.items)
    (hdiagnostic : ¬Cites candidate .inventoryDiagnostic)
    (hignore : Cites candidate .inventoryIgnoreMatch) : observedProjection candidate
      (Dict.index InventoryRecord.id bundle.inventory.records.items) =
        .error (.ratchetV1 .wrongTargetKind
          "candidate evidence has an unsupported inventory record kind"
          "$.inventory.records") := by
  obtain ⟨cited, hcited, hkind⟩ := hignore
  rcases collect_eq_ok_or_error (normalizedTarget bundle.inventory) candidate.evidence.items with
    ⟨evidence, hevidence⟩ | ⟨e, he⟩
  · obtain ⟨form, -, hform⟩ := exists_of_mem_collect hevidence hcited
    rcases normalizedTarget_of_evidence h hcandidate hcited with
      ⟨-, herror⟩ | ⟨-, herror⟩ | ⟨-, hne, -⟩
    · rw [hform] at herror
      cases herror
    · rw [hform] at herror
      cases herror
    · exact absurd hkind hne
  · obtain ⟨before, reference, after, hlist, -, herror⟩ := collect_eq_error.mp he
    have hreference : reference ∈ candidate.evidence.items := by
      rw [hlist]
      simp
    rw [observedProjection_eq, he]
    rcases normalizedTarget_of_evidence h hcandidate hreference with
      ⟨hcites, -⟩ | ⟨-, herror'⟩ | ⟨-, -, form, hform⟩
    · exact absurd ⟨reference, hreference, hcites⟩ hdiagnostic
    · rw [herror, Except.error.injEq] at herror'
      rw [herror']
      rfl
    · rw [hform] at herror
      cases herror

omit [Unicodedata] [Hashlib] h in
/-- Every reference that resolves is projected, but those to provenance. -/
theorem projectEntities_eq {entities : Dict Identifier Entity} {references : List BehaviorEntityRef}
    (hresolves : ∀ reference ∈ references, ∃ entity,
      entities.get? reference.targetId = some entity ∧ entity.kind = reference.targetKind) :
    projectEntities entities references = .ok (references.filterMap (projectRef entities)) := by
  induction references with
  | nil => rfl
  | cons reference references ih =>
    rw [List.forall_mem_cons] at hresolves
    obtain ⟨⟨entity, hentity, hkind⟩, hresolves⟩ := hresolves
    rw [projectEntities, hentity, orRaise_some, ok_bind, require_eq_ok (u := ()) |>.mpr hkind,
      ok_bind, ih hresolves, ok_bind, List.filterMap_cons, projectRef, hentity]
    by_cases hprovenance : entity.kind = .provenance <;> simp [hprovenance]

/-- The entities that a materialization refers to are those of the behavior document. -/
theorem semanticProjection_of_mem {materialization : BehaviorMaterialization}
    (hmem : materialization ∈ materializations) : ∃ semantic,
      semanticProjection materialization.entities.items
        (Dict.index Entity.id bundle.behavior.entities) = .ok semantic := by
  obtain ⟨s, -, hlinked⟩ := h.exists_selected hmem
  simp only [materializationOf, bind_eq_ok, pure_eq_ok, validated_eq_ok, Tuple.ofList_eq_ok,
    Except.ok.injEq] at hlinked
  obtain ⟨references, hreferences, _, -, entities, hentities, rfl⟩ := hlinked
  have hresolves : ∀ reference ∈ entities.items, ∃ entity,
      (Dict.index Entity.id bundle.behavior.entities).get? reference.targetId = some entity ∧
        entity.kind = reference.targetKind := by
    intro reference hreference
    rw [hentities, mem_sortedBy, mem_of_collect hreferences] at hreference
    obtain ⟨identifier, -, hreference⟩ := hreference
    simp only [bind_eq_ok, orRaise_eq_ok, Except.ok.injEq] at hreference
    obtain ⟨entity, hentity, rfl⟩ := hreference
    obtain ⟨-, hid⟩ := Dict.mem_of_get?_index hentity
    exact ⟨entity, by rw [behaviorRef, hid, hentity], rfl⟩
  rw [semanticProjection, projectEntities_eq hresolves, ok_bind]
  exact ⟨_, rfl⟩

theorem exists_candidateOf {materialization : BehaviorMaterialization}
    (hmem : materialization ∈ materializations) :
    ∃ candidate ∈ bundle.discovery.candidates.items,
      candidate.id = materialization.candidate.candidateId := by
  obtain ⟨s, hs, hlinked⟩ := h.exists_selected hmem
  obtain ⟨candidate, hcandidate, hid⟩ := h.exists_candidate hs
  refine ⟨candidate, hcandidate, hid.trans ?_⟩
  simp only [materializationOf, bind_eq_ok, pure_eq_ok, Except.ok.injEq] at hlinked
  obtain ⟨_, -, _, -, _, -, rfl⟩ := hlinked
  rfl

/-! ### The snapshot of one materialization -/

omit h in
/-- The subject of a materialization. -/
def subjectKey (bundle : OnboardingBundle) (materialization : BehaviorMaterialization) :
    BehaviorSubjectKey :=
  ⟨bundle.inventory.subjectUri.toUri, materialization.root.targetKind,
    materialization.root.targetId⟩

/-- How the snapshot of a materialization ends is decided by the evidence of its candidate. -/
theorem subjectSnapshot_of_observed {materialization : BehaviorMaterialization}
    (hmem : materialization ∈ materializations)
    (hcandidate : candidate ∈ bundle.discovery.candidates.items)
    (hid : candidate.id = materialization.candidate.candidateId) :
    (∀ e, observedProjection candidate
        (Dict.index InventoryRecord.id bundle.inventory.records.items) = .error e →
        subjectSnapshot bundle materialization = .error e) ∧
      ∀ observed, observedProjection candidate
        (Dict.index InventoryRecord.id bundle.inventory.records.items) = .ok observed →
        ∃ snapshot, subjectSnapshot bundle materialization = .ok snapshot ∧
          snapshot.key = subjectKey bundle materialization ∧
          snapshot.trace.decisionId = materialization.decisionId := by
  obtain ⟨semantic, hsemantic⟩ := semanticProjection_of_mem h hmem
  have hget : (Dict.index DiscoveryCandidate.id bundle.discovery.candidates.items).get?
      materialization.candidate.candidateId = some candidate :=
    (Dict.get?_index h.candidates_nodup).mpr ⟨hcandidate, hid⟩
  constructor
  · intro e he
    rw [subjectSnapshot]
    simp only [hget, orRaise_some, ok_bind, hsemantic, he]
    rfl
  · intro observed hobserved
    rw [subjectSnapshot]
    simp only [hget, orRaise_some, ok_bind, hsemantic, hobserved]
    exact ⟨_, rfl, rfl, rfl⟩

theorem subjectSnapshot_outcome {materialization : BehaviorMaterialization}
    (hmem : materialization ∈ materializations) :
    (MaterializationCites bundle materialization .inventoryDiagnostic ∧
        subjectSnapshot bundle materialization = .error .attributeError) ∨
      (¬MaterializationCites bundle materialization .inventoryDiagnostic ∧
        MaterializationCites bundle materialization .inventoryIgnoreMatch ∧
        ∃ code message location, subjectSnapshot bundle materialization =
          .error (.ratchetV1 code message location)) ∨
      (¬MaterializationCites bundle materialization .inventoryDiagnostic ∧
        ¬MaterializationCites bundle materialization .inventoryIgnoreMatch ∧
        ∃ snapshot, subjectSnapshot bundle materialization = .ok snapshot ∧
          snapshot.key = subjectKey bundle materialization ∧
          snapshot.trace.decisionId = materialization.decisionId) := by
  obtain ⟨candidate, hcandidate, hid⟩ := exists_candidateOf h hmem
  obtain ⟨herror, hok⟩ := subjectSnapshot_of_observed h hmem hcandidate hid
  have hcites : ∀ kind, MaterializationCites bundle materialization kind ↔ Cites candidate kind := by
    intro kind
    constructor
    · rintro ⟨other, hother, hother', hcites⟩
      rwa [← List.inj_on_of_nodup_map h.candidates_nodup hother hcandidate (hother'.trans hid.symm)]
    · exact fun hcites => ⟨candidate, hcandidate, hid, hcites⟩
  rw [hcites, hcites]
  by_cases hdiagnostic : Cites candidate .inventoryDiagnostic
  · exact .inl ⟨hdiagnostic, herror _ (observedProjection_of_diagnostic h hcandidate hdiagnostic)⟩
  · by_cases hignore : Cites candidate .inventoryIgnoreMatch
    · exact .inr (.inl ⟨hdiagnostic, hignore, _, _, _,
        herror _ (observedProjection_of_ignoreMatch h hcandidate hdiagnostic hignore)⟩)
    · obtain ⟨observed, hobserved⟩ :=
        observedProjection_of_uncited h hcandidate hdiagnostic hignore
      exact .inr (.inr ⟨hdiagnostic, hignore, hok observed hobserved⟩)

end Projections

/-! ### The snapshots of a bundle -/

section Closed

variable [Hashlib] {bundle : OnboardingBundle}

/-- The projection returns one snapshot for each materialization or raises
`RatchetValidationError`. -/
def ErrorClosed (bundle : OnboardingBundle) : Prop :=
  (∃ snapshots, deriveSubjectSnapshots bundle = .ok snapshots ∧
    (snapshots.map fun snapshot => (snapshot.key, snapshot.trace.decisionId)).Perm
      (bundle.baseline.materializations.items.map fun materialization =>
        (subjectKey bundle materialization, materialization.decisionId))) ∨
  ∃ code message location, deriveSubjectSnapshots bundle = .error (.ratchetV1 code message location)

/-- Before each materialization that cites a diagnostic there is one that cites an ignore match. -/
def DiagnosticsShielded (bundle : OnboardingBundle) : Prop :=
  ∀ before materialization after,
    bundle.baseline.materializations.items = before ++ materialization :: after →
    MaterializationCites bundle materialization .inventoryDiagnostic →
    ∃ earlier ∈ before, MaterializationCites bundle earlier .inventoryIgnoreMatch

theorem deriveSubjectSnapshots_eq (hvalid : validateOnboardingBundle bundle = .ok ()) :
    deriveSubjectSnapshots bundle =
      collect (subjectSnapshot bundle) bundle.baseline.materializations.items >>= fun snapshots =>
        .ok (sortedBy (fun snapshot => behaviorSubjectOrder snapshot.key) snapshots) := by
  rw [deriveSubjectSnapshots, hvalid]
  rfl

/-- The projection of an accepted bundle is closed under errors exactly when an ignore match is met
before every diagnostic. -/
theorem errorClosed_iff (hvalid : validateOnboardingBundle bundle = .ok ()) :
    ErrorClosed bundle ↔ DiagnosticsShielded bundle := by
  obtain ⟨request, selected, materializations, records, h⟩ :=
    validateOnboardingBundle_eq_ok.mp hvalid
  have houtcome : ∀ materialization ∈ bundle.baseline.materializations.items, _ :=
    fun materialization hmem => subjectSnapshot_outcome h (h.materializations_perm.mem_iff.mp hmem)
  have hderive := deriveSubjectSnapshots_eq hvalid
  rcases collect_eq_ok_or_error (subjectSnapshot bundle) bundle.baseline.materializations.items with
    ⟨snapshots, hsnapshots⟩ | ⟨e, he⟩
  · -- no materialization raises
    have huncited : ∀ materialization ∈ bundle.baseline.materializations.items,
        ¬MaterializationCites bundle materialization .inventoryDiagnostic ∧
          ∀ snapshot, subjectSnapshot bundle materialization = .ok snapshot →
            (snapshot.key, snapshot.trace.decisionId) =
              (subjectKey bundle materialization, materialization.decisionId) := by
      intro materialization hmem
      obtain ⟨snapshot, -, hsnapshot⟩ := exists_of_mem_collect hsnapshots hmem
      rcases houtcome materialization hmem with
        ⟨-, herror⟩ | ⟨-, -, _, _, _, herror⟩ | ⟨hdiagnostic, -, other, hother, hkey, hdecision⟩
      · rw [hsnapshot] at herror
        cases herror
      · rw [hsnapshot] at herror
        cases herror
      · refine ⟨hdiagnostic, fun found hfound => ?_⟩
        rw [hother, Except.ok.injEq] at hfound
        rw [← hfound, hkey, hdecision]
    rw [hsnapshots, ok_bind] at hderive
    constructor
    · intro _ before materialization after hsplit hdiagnostic
      refine absurd hdiagnostic (huncited materialization ?_).1
      rw [hsplit]
      simp
    · intro _
      refine .inl ⟨_, hderive, ((sortedBy_perm _ _).map _).trans ?_⟩
      rw [map_of_collect hsnapshots fun materialization hmem => (huncited materialization hmem).2]
  · -- the first one that raises decides
    obtain ⟨before, first, after, hsplit, hbefore, hfirst⟩ := collect_eq_error.mp he
    have hmem : first ∈ bundle.baseline.materializations.items := by
      rw [hsplit]
      simp
    rw [he] at hderive
    have hderive' : deriveSubjectSnapshots bundle = .error e := hderive
    have hnone : ∀ earlier ∈ before,
        ¬MaterializationCites bundle earlier .inventoryIgnoreMatch ∧
          ¬MaterializationCites bundle earlier .inventoryDiagnostic := by
      intro earlier hearlier
      obtain ⟨snapshot, hsnapshot⟩ := hbefore earlier hearlier
      have hearlierMem : earlier ∈ bundle.baseline.materializations.items := by
        rw [hsplit]
        simp [hearlier]
      rcases houtcome earlier hearlierMem with
        ⟨-, herror⟩ | ⟨-, -, _, _, _, herror⟩ | ⟨hdiagnostic, hignore, -⟩
      · rw [hsnapshot] at herror
        cases herror
      · rw [hsnapshot] at herror
        cases herror
      · exact ⟨hignore, hdiagnostic⟩
    rcases houtcome first hmem with
      ⟨hdiagnostic, herror⟩ | ⟨hnot, hignore, code, message, location, herror⟩ |
        ⟨-, -, _, hok, -⟩
    · rw [herror, Except.error.injEq] at hfirst
      subst hfirst
      constructor
      · rintro (⟨snapshots, hok, -⟩ | ⟨code, message, location, hclosed⟩)
        · rw [hderive'] at hok
          cases hok
        · rw [hderive'] at hclosed
          cases hclosed
      · intro hshielded
        obtain ⟨earlier, hearlier, hignore⟩ := hshielded before first after hsplit hdiagnostic
        exact absurd hignore (hnone earlier hearlier).1
    · rw [herror, Except.error.injEq] at hfirst
      subst hfirst
      constructor
      · intro _ before' materialization after' hsplit' hdiagnostic
        have hne : first ≠ materialization := by
          rintro rfl
          exact hnot hdiagnostic
        rw [hsplit] at hsplit'
        rcases mem_before_of_split hsplit' hne with hearlier | hlater
        · exact ⟨first, hearlier, hignore⟩
        · exact absurd hdiagnostic (hnone materialization hlater).2
      · intro _
        exact .inr ⟨code, message, location, hderive'⟩
    · rw [hok] at hfirst
      cases hfirst

end Closed

end Ucf.V1

/-! ### A sample

A repository with two files, of which the first declares a public interface, and with one diagnostic.
Discovery proposes a use case for the interface on some evidence, and the reviewer accepts it. The
sample hash counts the values in what it hashes, and the characters in its paths. -/

namespace Ucf.V1.ProjectionSample

open Ucf.Orders (digest digestValue confidence proposal)
open Ucf.Sample (producer captureContext)

/-- The number of characters in a path. -/
def pathLength (name : String) : Json → Nat
  | .str text => if name = "path" ∨ name = "source_path" then text.length else 0
  | _ => 0

mutual

/-- The number of values in a JSON value and of characters in its paths, where each place in an
array counts twice as much as the place before it. -/
def weight : Json → Nat
  | .arr items => weightItems items + 1
  | .obj fields => weightFields fields + 1
  | .int n => n.toNat + 1
  | _ => 1

def weightItems : List Json → Nat
  | [] => 0
  | item :: items => weight item + 2 * weightItems items

def weightFields : List (String × Json) → Nat
  | [] => 0
  | (name, value) :: fields => pathLength name value + weight value + weightFields fields

end

scoped instance hashlib : Hashlib where
  sha256
    | .text _ => digestValue 0
    | .canonical value => digestValue (weight value)

scoped instance unicodedata : Unicodedata := Ucf.Sample.unicodedata

/-! The inventory -/

/-- A file of the sample, with the numbers in the identifiers of its provenance and its entry. -/
structure File where
  path : RepositoryPath
  size : SafeNat 0
  content : Digest
  provenanceId : Nat
  entryId : Nat

def provenanceOf (path : RepositoryPath) (content : Option Digest) (id : Nat) :
    InventoryProvenance where
  id := ⟨.provenance, digestValue id⟩
  sourcePath := path
  contentDigest := content
  sourceSpan := none
  producer := producer
  procedureUri := ⟨"urn:ucf:inventory:1.0.0", Sample.inventoryUri_valid⟩
  spanHasContent := by simp

def rootPath : RepositoryPath := ⟨".", by decide +kernel⟩

def rootEntry : RepositoryEntryFact where
  id := ⟨.entry, digestValue 18⟩
  provenance := ⟨.inventoryProvenance, ⟨.provenance, digestValue 11⟩⟩
  confidence := confidence
  path := rootPath
  entryKind := .directory
  sizeBytes := none
  contentDigest := none
  symlinkTargetDigest := none
  valid := Sample.directory_valid

def File.entry (file : File) : RepositoryEntryFact where
  id := ⟨.entry, digestValue file.entryId⟩
  provenance := ⟨.inventoryProvenance, ⟨.provenance, digestValue file.provenanceId⟩⟩
  confidence := confidence
  path := file.path
  entryKind := .file
  sizeBytes := some file.size
  contentDigest := some file.content
  symlinkTargetDigest := none
  valid := by simp [validEntryCoordinates]

/-- The interface that a file declares. -/
def File.interface (file : File) : PublicInterfaceFact where
  id := ⟨.interface, digestValue 23⟩
  provenance := ⟨.inventoryProvenance, ⟨.provenance, digestValue file.provenanceId⟩⟩
  confidence := confidence
  entry := ⟨.repositoryEntry, file.entry.id⟩
  interfaceKindUri := ⟨"urn:ucf:interface:function", Orders.functionUri_valid⟩
  name := ⟨"place", Orders.placeText_valid⟩
  container := none
  declarationDigest := digest 2

theorem scan_valid : stringConstraints 1 (some 255) (matchName fun c => c ∈ ['.', '_', '-'])
    "scan" = none := by decide

def diagnostic : InventoryDiagnostic where
  id := ⟨.diagnostic, digestValue 9⟩
  severity := .info
  code := ⟨"ucf.note", by decide⟩
  factKind := none
  path := none
  stage := ⟨"scan", scan_valid⟩
  message := ⟨"a note", by decide⟩
  provenance := none

/-- The records of the repository with its two files. -/
def recordsOf (first second : File) : Tuple 0 maxInventoryRecords InventoryRecord :=
  ⟨sortedBy recordKey [.inventoryProvenance (provenanceOf rootPath none 11),
    .inventoryProvenance (provenanceOf first.path (some first.content) first.provenanceId),
    .inventoryProvenance (provenanceOf second.path (some second.content) second.provenanceId),
    .repositoryEntry rootEntry, .repositoryEntry first.entry, .repositoryEntry second.entry,
    .publicInterface first.interface, .inventoryDiagnostic diagnostic],
    Nat.zero_le _, by simp [maxInventoryRecords]⟩

def coverage : List InventoryCoverage :=
  FactKind.all.map fun kind => ⟨kind, .complete, match kind with
    | .repositoryEntry => ⟨3, by decide⟩
    | .publicInterface => ⟨1, one_safe⟩
    | _ => ⟨0, zero_safe⟩⟩

def firstFile : File := ⟨⟨"a.py", by decide +kernel⟩, ⟨1, one_safe⟩, digest 1, 17, 25⟩

def secondFile : File := ⟨⟨"bbb.py", by decide +kernel⟩, ⟨2, two_safe⟩, digest 2, 19, 28⟩

def capability : CapabilitySelection :=
  ⟨⟨inventoryCapability, inventoryCapability_valid⟩, ⟨inventoryVersion, inventoryVersion_valid⟩⟩

def policy : IgnorePolicy := ⟨⟨[], by decide, by decide⟩, by decide⟩

/-- The inventory of the repository with its two files. -/
def inventoryOf (first second : File) (revision : Nat)
    (valid : validateSnapshot (digest revision) producer capability policy coverage
      (recordsOf first second).items = .ok ()) : InventorySnapshot where
  subjectUri := ⟨"urn:ucf:orders", Orders.subjectUri_valid⟩
  sourceRevision := digest revision
  producer := producer
  capability := capability
  appliedPolicy := policy
  coverage := coverage
  records := recordsOf first second
  valid := valid

def inventory : InventorySnapshot := inventoryOf firstFile secondFile 113 (by decide +kernel)

/-! Its discovery on some evidence, with the numbers in the derived digests -/

structure Digests where
  revision : Nat
  inventory : Nat
  candidate : Nat
  discovery : Nat
  decision : Nat

def interfaceRef : InventoryRecordRef := ⟨.publicInterface, firstFile.interface.id⟩

def candidateOf (evidence : Tuple 1 256 InventoryRecordRef) (digests : Digests) :
    DiscoveryCandidate where
  id := ⟨digestValue digests.candidate⟩
  semanticDigest := digest 223
  subject := interfaceRef
  evidence := evidence
  confidence := confidence
  proposal := proposal

def bindingOf (digests : Digests) : InventoryBinding :=
  ⟨⟨"urn:ucf:orders", Orders.ordersUri_valid⟩, digest digests.revision, digest digests.inventory⟩

def discoveryOf (evidence : Tuple 1 256 InventoryRecordRef) (digests : Digests) :
    DiscoveryResult where
  inventoryBinding := bindingOf digests
  producer := producer
  capability := ⟨⟨discoveryCapability, discoveryCapability_valid⟩,
    ⟨onboardingVersion, onboardingVersion_valid⟩⟩
  procedureUri := ⟨"urn:ucf:discovery:1.0.0", Sample.discoveryUri_valid⟩
  coverage := ⟨.complete, ⟨[interfaceRef], by decide, by decide⟩,
    ⟨[], Tuple.nil_lower, Tuple.nil_upper⟩, Sample.nothing_uncovered⟩
  diagnostics := ⟨[], Tuple.nil_lower, Tuple.nil_upper⟩
  candidates := ⟨[candidateOf evidence digests], by simp, by simp [maxDiscoveryCandidates]⟩
  validCapability := Sample.discoveryCapability_known

/-! The decision -/

def decisionOf (digests : Digests) : PlainDecision where
  id := ⟨digestValue digests.decision⟩
  candidate := ⟨digest digests.discovery, ⟨digestValue digests.candidate⟩, digest 223⟩
  reason := ⟨"as declared", Orders.reason_valid⟩

def decisionsOf (digests : Digests) : DecisionSet where
  discovery := ⟨digest digests.discovery⟩
  inventoryBinding := bindingOf digests
  reviewer := producer
  captureContext := captureContext
  decisions := ⟨[.accepted (decisionOf digests)], by simp, by simp [maxDiscoveryCandidates]⟩

/-- The bundle of the sample on some evidence. -/
def bundleOf (inventory : InventorySnapshot) (evidence : Tuple 1 256 InventoryRecordRef)
    (digests : Digests) : Except PyError OnboardingBundle :=
  assembleBundle inventory (discoveryOf evidence digests) (decisionsOf digests)

/-- The interface and two files as evidence. -/
def fileEvidence (first second : File) : Tuple 1 256 InventoryRecordRef :=
  ⟨[interfaceRef, ⟨.repositoryEntry, first.entry.id⟩, ⟨.repositoryEntry, second.entry.id⟩],
    by simp, by simp⟩

def fileDigests : Digests := ⟨113, 6841, 286, 305, 47⟩

/-- The bundle whose evidence is the two files. -/
def entriesBundle : Except PyError OnboardingBundle :=
  bundleOf inventory (fileEvidence firstFile secondFile) fileDigests

/-- The bundle whose evidence is the diagnostic. -/
def diagnosticBundle : Except PyError OnboardingBundle :=
  bundleOf inventory ⟨[⟨.inventoryDiagnostic, diagnostic.id⟩, interfaceRef], by decide, by decide⟩
    ⟨113, 6841, 270, 289, 47⟩

end Ucf.V1.ProjectionSample

namespace Ucf.V1

open ProjectionSample

/-- The bundle that cites the diagnostic is assembled, and its one materialization is not
projected. -/
theorem diagnosticBundle_unprojected : ∃ bundle, diagnosticBundle = .ok bundle ∧
    bundle.baseline.materializations.items.length = 1 ∧
      collect (subjectSnapshot bundle) bundle.baseline.materializations.items =
        .error .attributeError := by
  have hcomputed : diagnosticBundle.toOption.any (fun bundle =>
      bundle.baseline.materializations.items.length = 1 ∧
        collect (subjectSnapshot bundle) bundle.baseline.materializations.items =
          .error .attributeError) = true := by decide +kernel
  obtain ⟨bundle, hbundle, hfacts⟩ := exists_of_any hcomputed
  exact ⟨bundle, hbundle, of_decide_eq_true hfacts⟩

theorem errorClosed_iff_sample : ∃ bundle : OnboardingBundle,
    bundle.baseline.materializations.items.length = 1 ∧
      (ErrorClosed bundle ↔ DiagnosticsShielded bundle) := by
  obtain ⟨bundle, hbundle, hlength, -⟩ := diagnosticBundle_unprojected
  exact ⟨bundle, hlength, errorClosed_iff (validate_of_assembleBundle hbundle)⟩

/-- An accepted bundle whose candidate cites a diagnostic is not projected, and the error is not
`RatchetValidationError`. -/
theorem diagnostic_unprojected : ∃ bundle : OnboardingBundle,
    validateOnboardingBundle bundle = .ok () ∧
      deriveSubjectSnapshots bundle = .error .attributeError ∧ ¬ErrorClosed bundle := by
  obtain ⟨bundle, hbundle, -, herror⟩ := diagnosticBundle_unprojected
  have hvalid := validate_of_assembleBundle hbundle
  have hderive : deriveSubjectSnapshots bundle = .error .attributeError := by
    rw [deriveSubjectSnapshots_eq hvalid, herror]
    rfl
  refine ⟨bundle, hvalid, hderive, ?_⟩
  rintro (⟨snapshots, hok, -⟩ | ⟨code, message, location, herror⟩)
  · rw [hderive] at hok
    cases hok
  · rw [hderive] at herror
    cases herror

end Ucf.V1
