import Ucf.Change.DeltaExact
import Ucf.Change.Imported

/-! Applying a delta: from the base behavior, the entries, and the definitions of the entities that
the entries add or redefine, the final behavior. -/

namespace Ucf

namespace BehaviorDeltaEntry

/-- The definition in the base behavior is gone. -/
def retracts : BehaviorDeltaEntry → Bool
  | added _ => false
  | modified entry => .definition ∈ entry.aspects.items
  | removed _ => true

/-- There is a new definition in the final behavior. -/
def defines : BehaviorDeltaEntry → Bool
  | added _ => true
  | modified entry => .definition ∈ entry.aspects.items
  | removed _ => false

/-- The subject is a root of the final behavior. -/
def isFinalRoot : BehaviorDeltaEntry → Bool
  | added entry => entry.finalIsRoot
  | modified entry => entry.finalIsRoot
  | removed _ => false

end BehaviorDeltaEntry

/-- The definitions of a document that the entries call for. -/
def calledFor (entries : List BehaviorDeltaEntry) (document : BehaviorIR) : List Entity :=
  document.canonical.entities.filter fun entity =>
    entries.any fun entry => entry.subjectKey = entity.ref ∧ entry.defines

/-- The base behavior with the changes of the entries and the given definitions. -/
def applyDelta (base : BehaviorIR) (entries : List BehaviorDeltaEntry)
    (definitions : List Entity) : BehaviorIR where
  documentId := base.documentId
  roots := sortRefs ((base.roots.filter fun key =>
      entries.all fun entry => entry.subjectKey ≠ key) ++
    (entries.filter BehaviorDeltaEntry.isFinalRoot).map BehaviorDeltaEntry.subjectKey)
  entities := sortedBy Entity.key ((base.entities.filter fun entity =>
      entries.all fun entry => ¬(entry.subjectKey = entity.ref ∧ entry.retracts)) ++ definitions)

section Delta

variable [Hashlib] {base final : BehaviorIR} {entries : List BehaviorDeltaEntry}

namespace IsDifference

variable (h : IsDifference base final entries)
include h

theorem forall_entries {P : BehaviorDeltaEntry → Prop}
    (hadded : ∀ key, base.definition? key = none → final.definition? key ≠ none →
      P (.added ⟨final.subject key, decide (key ∈ final.roots)⟩))
    (hmodified : ∀ key entry, Changed base final key → Modifies base final key entry →
      P (.modified entry))
    (hremoved : ∀ key, base.definition? key ≠ none → final.definition? key = none →
      P (.removed ⟨base.subject key, decide (key ∈ base.roots)⟩)) :
    ∀ entry ∈ entries, P entry := by
  intro entry hentry
  cases entry with
  | added entry =>
    obtain ⟨key, hnone, hsome, rfl⟩ := (h.added entry).mp hentry
    exact hadded key hnone hsome
  | modified entry =>
    obtain ⟨key, hchanged, hmodifies⟩ := (h.modified entry).mp hentry
    exact hmodified key entry hchanged hmodifies
  | removed entry =>
    obtain ⟨key, hsome, hnone, rfl⟩ := (h.removed entry).mp hentry
    exact hremoved key hsome hnone

theorem exists_modified (hbase : base.WellFormed) (hfinal : final.WellFormed) {key : EntityRef}
    (hchanged : Changed base final key) :
    ∃ entry, .modified entry ∈ entries ∧ Modifies base final key entry := by
  obtain ⟨_, _, ⟨hdefinition, hroots, -⟩ | ⟨-, entry, -, hmodifies⟩⟩ :=
    exists_modifiedEntries hbase hfinal key
  · exact absurd hchanged.differs (by tauto)
  · exact ⟨entry, (h.modified entry).mpr ⟨key, hchanged, hmodifies⟩, hmodifies⟩

/-- An entry retracts the definitions that are gone or have changed. -/
theorem retracts_iff (hbase : base.WellFormed) (hfinal : final.WellFormed) {key : EntityRef}
    (hsome : base.definition? key ≠ none) :
    (∃ entry ∈ entries, entry.subjectKey = key ∧ entry.retracts = true) ↔
      base.definition? key ≠ final.definition? key := by
  constructor
  · rintro ⟨entry, hentry, rfl, hretracts⟩
    revert hretracts hsome
    refine h.forall_entries (P := fun entry => entry.retracts = true →
      base.definition? entry.subjectKey ≠ none → base.definition? entry.subjectKey ≠
        final.definition? entry.subjectKey) ?_ ?_ ?_ entry hentry
    · intro key _ _ hretracts
      cases hretracts
    · intro key entry _ hmodifies hretracts _
      rw [hmodifies.subjectKey]
      exact hmodifies.definition.mp (by simpa [BehaviorDeltaEntry.retracts] using hretracts)
    · intro key hsome hnone _ _
      rw [BehaviorIR.subject, subjectKey_removed, hnone]
      exact hsome
  · intro hne
    by_cases hnone : final.definition? key = none
    · exact ⟨_, (h.removed _).mpr ⟨key, hsome, hnone, rfl⟩, rfl, rfl⟩
    · obtain ⟨entry, hentry, hmodifies⟩ := h.exists_modified hbase hfinal ⟨hsome, hnone, .inl hne⟩
      exact ⟨_, hentry, hmodifies.subjectKey, by
        simpa [BehaviorDeltaEntry.retracts] using hmodifies.definition.mpr hne⟩

/-- An entry defines what is new or has changed. -/
theorem defines_iff (hbase : base.WellFormed) (hfinal : final.WellFormed) {key : EntityRef}
    (hsome : final.definition? key ≠ none) :
    (∃ entry ∈ entries, entry.subjectKey = key ∧ entry.defines = true) ↔
      base.definition? key ≠ final.definition? key := by
  constructor
  · rintro ⟨entry, hentry, rfl, hdefines⟩
    revert hdefines hsome
    refine h.forall_entries (P := fun entry => entry.defines = true →
      final.definition? entry.subjectKey ≠ none → base.definition? entry.subjectKey ≠
        final.definition? entry.subjectKey) ?_ ?_ ?_ entry hentry
    · intro key hnone hsome _ _
      rw [BehaviorIR.subject, subjectKey_added, hnone]
      exact hsome.symm
    · intro key entry _ hmodifies hdefines _
      rw [hmodifies.subjectKey]
      exact hmodifies.definition.mp (by simpa [BehaviorDeltaEntry.defines] using hdefines)
    · intro key _ _ hdefines
      cases hdefines
  · intro hne
    by_cases hnone : base.definition? key = none
    · exact ⟨_, (h.added _).mpr ⟨key, hnone, hsome, rfl⟩, rfl, rfl⟩
    · obtain ⟨entry, hentry, hmodifies⟩ := h.exists_modified hbase hfinal ⟨hnone, hsome, .inl hne⟩
      exact ⟨_, hentry, hmodifies.subjectKey, by
        simpa [BehaviorDeltaEntry.defines] using hmodifies.definition.mpr hne⟩

/-- The roots of the final behavior are those of the base that no entry is about, and those that
the entries name. -/
theorem mem_roots_iff (hbase : base.WellFormed) (hfinal : final.WellFormed) {key : EntityRef} :
    key ∈ final.roots ↔ (key ∈ base.roots ∧ ∀ entry ∈ entries, entry.subjectKey ≠ key) ∨
      ∃ entry ∈ entries, entry.isFinalRoot = true ∧ entry.subjectKey = key := by
  constructor
  · intro hroot
    have hsome := hfinal.definition?_of_root hroot
    by_cases hnone : base.definition? key = none
    · exact .inr ⟨_, (h.added _).mpr ⟨key, hnone, hsome, rfl⟩, by
        simpa [BehaviorDeltaEntry.isFinalRoot] using hroot, rfl⟩
    · by_cases hdiffers : base.definition? key ≠ final.definition? key ∨
          ¬(key ∈ base.roots ↔ key ∈ final.roots)
      · obtain ⟨entry, hentry, hmodifies⟩ :=
          h.exists_modified hbase hfinal ⟨hnone, hsome, hdiffers⟩
        exact .inr ⟨_, hentry, by simpa [BehaviorDeltaEntry.isFinalRoot, hmodifies.finalIsRoot]
          using hroot, hmodifies.subjectKey⟩
      · push Not at hdiffers
        refine .inl ⟨hdiffers.2.mpr hroot, ?_⟩
        refine h.forall_entries ?_ ?_ ?_
        · rintro key' hnone' - rfl
          exact hnone hnone'
        · rintro key' entry hchanged hmodifies heq
          rw [hmodifies.subjectKey] at heq
          subst heq
          exact hchanged.differs.elim (fun hne => hne hdiffers.1) fun hne => hne hdiffers.2
        · rintro key' - hnone' rfl
          exact hsome hnone'
  · rintro (⟨hroot, huntouched⟩ | ⟨entry, hentry, hisRoot, rfl⟩)
    · have hsome := hbase.definition?_of_root hroot
      by_contra hnot
      by_cases hnone : final.definition? key = none
      · exact huntouched _ ((h.removed _).mpr ⟨key, hsome, hnone, rfl⟩) rfl
      · obtain ⟨entry, hentry, hmodifies⟩ :=
          h.exists_modified hbase hfinal ⟨hsome, hnone, .inr (by tauto)⟩
        exact huntouched _ hentry hmodifies.subjectKey
    · revert hisRoot
      refine h.forall_entries (P := fun entry => entry.isFinalRoot = true →
        entry.subjectKey ∈ final.roots) ?_ ?_ ?_ entry hentry
      · intro key _ _ hisRoot
        have hroot : key ∈ final.roots := by simpa [BehaviorDeltaEntry.isFinalRoot] using hisRoot
        exact hroot
      · intro key entry _ hmodifies hisRoot
        rw [hmodifies.subjectKey]
        simpa [BehaviorDeltaEntry.isFinalRoot, hmodifies.finalIsRoot] using hisRoot
      · intro key _ _ hisRoot
        cases hisRoot

/-- The delta leads from the base behavior to the final one. -/
theorem applyDelta_eq (hbase : base.WellFormed) (hfinal : final.WellFormed)
    (hid : base.documentId = final.documentId) :
    applyDelta base.canonical entries (calledFor entries final) = final.canonical := by
  have hkept : ∀ entity, entity ∈ base.canonical.entities.filter (fun entity =>
      entries.all fun entry => ¬(entry.subjectKey = entity.ref ∧ entry.retracts)) ↔
      entity ∈ base.canonical.entities ∧
        base.definition? entity.ref = final.definition? entity.ref := by
    intro entity
    rw [List.mem_filter]
    refine and_congr_right fun hmem => ?_
    have hsome : base.definition? entity.ref ≠ none := by
      rw [(hbase.definition?_eq_some).mpr ⟨hmem, rfl⟩]
      exact Option.some_ne_none entity
    have hiff := h.retracts_iff hbase hfinal hsome
    rw [← not_iff_not, not_not] at hiff
    rw [← hiff]
    simp only [not_and, Bool.not_eq_true, List.all_eq_true, decide_eq_true_eq, not_exists]
  have hdefined : ∀ entity, entity ∈ calledFor entries final ↔
      entity ∈ final.canonical.entities ∧
        base.definition? entity.ref ≠ final.definition? entity.ref := by
    intro entity
    rw [calledFor, List.mem_filter]
    refine and_congr_right fun hmem => ?_
    have hsome : final.definition? entity.ref ≠ none := by
      rw [(hfinal.definition?_eq_some).mpr ⟨hmem, rfl⟩]
      exact Option.some_ne_none entity
    rw [← h.defines_iff hbase hfinal hsome]
    simp
  have hentities : (applyDelta base.canonical entries (calledFor entries final)).entities =
      final.canonical.entities := by
    refine @SortedKeys.eq_of_mem_iff _ _ _ Entity.key _ _ (sortedKeys_sortedBy ?_)
      hfinal.sortedKeys fun entity => ?_
    · rw [List.map_append]
      refine List.Nodup.append
        (hbase.sortedKeys.nodup.sublist (List.filter_sublist.map Entity.key))
        (hfinal.sortedKeys.nodup.sublist (List.filter_sublist.map Entity.key)) ?_
      intro key hkey hkey'
      obtain ⟨entity, hentity, hentityKey⟩ := List.mem_map.mp hkey
      obtain ⟨entity', hentity', hentityKey'⟩ := List.mem_map.mp hkey'
      have href : entity.ref = entity'.ref := refKey_injective (hentityKey.trans hentityKey'.symm)
      have hsame := ((hkept entity).mp hentity).2
      have hdiffers := ((hdefined entity').mp hentity').2
      rw [href] at hsame
      exact hdiffers hsame
    · rw [applyDelta, mem_sortedBy, List.mem_append, hkept, hdefined]
      have hmem : ∀ {d : BehaviorIR}, d.WellFormed →
          (entity ∈ d.canonical.entities ↔ d.definition? entity.ref = some entity) := fun hd => by
        rw [hd.definition?_eq_some, and_iff_left rfl]
      rw [hmem hbase, hmem hfinal]
      constructor
      · rintro (⟨hmem, hsame⟩ | ⟨hmem, -⟩)
        · rw [← hsame, hmem]
        · exact hmem
      · intro hmem
        by_cases hsame : base.definition? entity.ref = final.definition? entity.ref
        · exact .inl ⟨hsame.trans hmem, hsame⟩
        · exact .inr ⟨hmem, hsame⟩
  have hroots : (applyDelta base.canonical entries (calledFor entries final)).roots =
      final.canonical.roots := by
    refine sortRefs_eq_of_perm ?_ ((List.perm_ext_iff_of_nodup ?_ hfinal.roots.nodup).mpr
      fun key => ?_)
    all_goals try
      refine List.Nodup.append ((hbase.canonical.roots.nodup).filter _)
        (h.subjects.sublist (List.filter_sublist.map _)) ?_
      intro key hkey hkey'
      obtain ⟨entry, hentry, rfl⟩ := List.mem_map.mp hkey'
      have huntouched := (List.mem_filter.mp hkey).2
      simp only [List.all_eq_true, decide_eq_true_eq] at huntouched
      exact huntouched entry (List.mem_filter.mp hentry).1 rfl
    rw [h.mem_roots_iff hbase hfinal, List.mem_append, List.mem_filter,
      BehaviorIR.mem_canonical_roots, List.mem_map]
    simp only [List.all_eq_true, decide_eq_true_eq, List.mem_filter, and_assoc]
  have hids : (applyDelta base.canonical entries (calledFor entries final)).documentId =
      final.canonical.documentId := hid
  cases happly : applyDelta base.canonical entries (calledFor entries final)
  cases hf : final.canonical
  rw [happly, hf] at hentities hroots hids
  cases hentities
  cases hroots
  cases hids
  rfl

/-- The entity of an id that changes its kind is removed and added. -/
theorem kind_changed (hbase : base.WellFormed) (hfinal : final.WellFormed) {old new : Entity}
    (hold : old ∈ base.canonical.entities) (hnew : new ∈ final.canonical.entities)
    (hid : old.id = new.id) (hkind : old.kind ≠ new.kind) :
    .removed ⟨base.subject old.ref, decide (old.ref ∈ base.roots)⟩ ∈ entries ∧
      .added ⟨final.subject new.ref, decide (new.ref ∈ final.roots)⟩ ∈ entries ∧
      ∀ entry ∈ entries, entry.subjectKey.targetId = old.id →
        entry = .removed ⟨base.subject old.ref, decide (old.ref ∈ base.roots)⟩ ∨
        entry = .added ⟨final.subject new.ref, decide (new.ref ∈ final.roots)⟩ := by
  have honly : ∀ {d : BehaviorIR}, d.WellFormed → ∀ entity ∈ d.canonical.entities, ∀ key,
      key.targetId = entity.id → d.definition? key ≠ none → key = entity.ref := by
    intro d hd entity hentity key hkey hsome
    obtain ⟨found, hfound⟩ := Option.ne_none_iff_exists'.mp hsome
    obtain ⟨hmem, rfl⟩ := BehaviorIR.ref_of_definition? hfound
    rw [List.inj_on_of_nodup_map hd.canonical.ids_nodup hmem hentity hkey]
  have holdSome : base.definition? old.ref ≠ none := by
    rw [hbase.definition?_eq_some.mpr ⟨hold, rfl⟩]
    exact Option.some_ne_none old
  have hnewSome : final.definition? new.ref ≠ none := by
    rw [hfinal.definition?_eq_some.mpr ⟨hnew, rfl⟩]
    exact Option.some_ne_none new
  have hne : old.ref ≠ new.ref := fun heq => hkind (congrArg EntityRef.targetKind heq)
  have holdNone : final.definition? old.ref = none := by
    by_contra hsome
    exact hne (honly hfinal new hnew old.ref hid hsome)
  have hnewNone : base.definition? new.ref = none := by
    by_contra hsome
    exact hne (honly hbase old hold new.ref hid.symm hsome).symm
  refine ⟨(h.removed _).mpr ⟨_, holdSome, holdNone, rfl⟩,
    (h.added _).mpr ⟨_, hnewNone, hnewSome, rfl⟩, ?_⟩
  refine h.forall_entries ?_ ?_ ?_
  · intro key _ hsome hkey
    rw [BehaviorIR.subject, subjectKey_added] at hkey
    rw [honly hfinal new hnew key (hkey.trans hid) hsome]
    exact .inr rfl
  · intro key entry hchanged hmodifies hkey
    rw [hmodifies.subjectKey] at hkey
    have hb := honly hbase old hold key hkey hchanged.inBase
    have hf := honly hfinal new hnew key (hkey.trans hid) hchanged.inFinal
    exact absurd (hb.symm.trans hf) hne
  · intro key hsome _ hkey
    rw [BehaviorIR.subject, subjectKey_removed] at hkey
    rw [honly hbase old hold key hkey hsome]
    exact .inl rfl

end IsDifference

/-! ### Deriving and validating -/

omit [Hashlib] in
theorem validateBehaviorDocument_eq_ok {document : BehaviorIR} {location : String} {u : Unit} :
    validateBehaviorDocument document location = .ok u ↔
      document.WithinNesting ∧ document.WellFormed := by
  simp only [validateBehaviorDocument, bind_eq_ok, mapError_eq_ok, parseIrJson_canonicalIrJson]
  constructor
  · rintro ⟨_, ⟨hnesting, hwf, -⟩, -⟩
    exact ⟨hnesting, hwf⟩
  · rintro ⟨hnesting, hwf⟩
    exact ⟨_, ⟨hnesting, hwf, rfl⟩, rfl⟩

omit [Hashlib] in
theorem canonicalLifecycleJson_eq_ok {α : Type} [Model α] {document : α}
    {fields : List (String × Json)} (hdump : modelDump document = .obj fields) {depth : Nat}
    (hdepth : (Model.schema : Schema α).depth = some depth) (hle : depth < maxJsonNesting) :
    canonicalLifecycleJson document = .ok (modelDump document).canonicalLine := by
  rw [canonicalLifecycleJson, parseChangeDocument_canonical hdump hdepth hle]
  rfl

/-- The reference to a proposal. -/
def ChangeProposal.ref [PyYaml] [HashlibBytes] (proposal : ChangeProposal) : ChangeProposalRef :=
  ⟨proposal.changeId, ⟨identityDigest (modelDump proposal)⟩⟩

theorem changeProposalRef_eq_ok [PyYaml] [HashlibBytes] (proposal : ChangeProposal) :
    changeProposalRef proposal = .ok proposal.ref := by
  rw [changeProposalRef, canonicalLifecycleDigest,
    canonicalLifecycleJson_eq_ok rfl rfl (by decide)]
  rfl

/-- The shape that the model checks is that of every difference. -/
theorem IsDifference.validateDeltaShape_eq_ok (h : IsDifference base final entries)
    (hid : base.documentId = final.documentId)
    (hdigest : canonicalIrDigest base ≠ canonicalIrDigest final) {changeId : OpenSpecChangeId}
    {proposal : ChangeProposalRef} (hproposal : proposal.changeId = changeId) :
    validateDeltaShape changeId proposal (behaviorDocumentRef base) (behaviorDocumentRef final)
      entries = .ok () := by
  have hbinds : ∀ (document : BehaviorIR) (key : EntityRef),
      subjectBindsDocument (document.subject key) (behaviorDocumentRef document) :=
    fun _ _ => ⟨rfl, rfl⟩
  have hentries : ∀ entry ∈ entries, ∀ subject ∈ entry.documentSubjects (behaviorDocumentRef base)
      (behaviorDocumentRef final), subjectBindsDocument subject.2.1 subject.2.2 := by
    refine h.forall_entries ?_ ?_ ?_
    · intro key _ _ subject hsubject
      cases List.mem_singleton.mp hsubject
      exact hbinds final key
    · intro key entry _ hmodifies subject hsubject
      rcases List.mem_pair.mp hsubject with rfl | rfl
      · rw [hmodifies.baseSubject]
        exact hbinds base key
      · rw [hmodifies.finalSubject]
        exact hbinds final key
    · intro key _ _ subject hsubject
      cases List.mem_singleton.mp hsubject
      exact hbinds base key
  have hsubjects : (entries.map fun entry => refKey entry.subjectKey).Nodup := by
    have hrefs := h.subjects.map refKey_injective
    rwa [List.map_map] at hrefs
  have hordered : entries.map BehaviorDeltaEntry.key =
      sortedBy id (entries.map BehaviorDeltaEntry.key) := by
    have hkeys := sortedKeys_iff.mp h.ordered
    exact (nodup_and_eq_sortedBy_iff.mpr hkeys).2
  simp only [validateDeltaShape, bind_eq_ok, require_eq_ok, exists_const]
  refine ⟨hproposal, hid, fun heq => hdigest (congrArg Digest.value heq), (), ?_, hsubjects,
    hordered⟩
  refine (checkEach_eq_ok_of_mem (P := fun entry => ∀ subject ∈ entry.documentSubjects
    (behaviorDocumentRef base) (behaviorDocumentRef final),
      subjectBindsDocument subject.2.1 subject.2.2) fun i entry _ => ?_).mpr hentries
  exact checkEach_eq_ok_of_iff fun _ _ => require_eq_ok

section Exact

variable [PyYaml] [HashlibBytes]

/-- The references of a delta are those of the documents it is derived from. -/
structure BehaviorDelta.RefersTo (delta : BehaviorDelta) (proposal : ChangeProposal)
    (base final : BehaviorIR) : Prop where
  changeId : delta.changeId = proposal.changeId
  proposal : delta.proposal = proposal.ref
  baseBehavior : delta.baseBehavior = behaviorDocumentRef base
  finalBehavior : delta.finalBehavior = behaviorDocumentRef final

variable {proposal : ChangeProposal}

theorem validateBehaviorDocument_of_validateChangeProposal
    (h : validateChangeProposal proposal base = .ok ()) :
    validateBehaviorDocument base "$.base_behavior" = .ok () := by
  simp only [validateChangeProposal, bind_eq_ok] at h
  obtain ⟨_, -, _, hvalid, -⟩ := h
  exact hvalid

/-- A delta is accepted when it refers to its documents and is their difference. -/
theorem validateBehaviorDelta_eq_ok (hproposal : validateChangeProposal proposal base = .ok ())
    (hfinal : validateBehaviorDocument final "$.final_behavior" = .ok ())
    (hid : base.documentId = final.documentId) {delta : BehaviorDelta} :
    validateBehaviorDelta delta proposal base final = .ok () ↔
      delta.RefersTo proposal base final ∧ IsDifference base final delta.entries.val := by
  have hbase := validateBehaviorDocument_of_validateChangeProposal hproposal
  have hbaseWf := (validateBehaviorDocument_eq_ok.mp hbase).2
  have hfinalWf := (validateBehaviorDocument_eq_ok.mp hfinal).2
  obtain ⟨entries, hderive, hentries⟩ := exists_deriveEntries hbaseWf hfinalWf
  have hpair : validateDocumentPair base final = .ok () := by
    rw [validateDocumentPair, hbase, ok_bind, hfinal, ok_bind]
    exact require_eq_ok.mpr hid
  have hjson : canonicalLifecycleJson delta = .ok (modelDump delta).canonicalLine :=
    canonicalLifecycleJson_eq_ok rfl rfl (by decide)
  simp only [validateBehaviorDelta, bind_eq_ok, raising_eq_ok, require_eq_ok, hproposal, hpair,
    hderive, hjson, changeProposalRef_eq_ok, Except.ok.injEq, exists_const, exists_eq_left',
    true_and]
  constructor
  · rintro ⟨hchange, href, hb, hf, -, hsame⟩
    exact ⟨⟨hchange, href, hb, hf⟩, hsame ▸ hentries⟩
  · rintro ⟨h, hdifference⟩
    have hsame := hdifference.unique hentries
    refine ⟨h.changeId, h.proposal, h.baseBehavior, h.finalBehavior, fun hnil => ?_, hsame⟩
    have hlength := delta.entries.property
    rw [hsame, hnil] at hlength
    exact absurd hlength (by decide)

/-- A delta is derived unless the documents have the same canonical form. -/
theorem deriveBehaviorDelta_cases (hproposal : validateChangeProposal proposal base = .ok ())
    (hfinal : validateBehaviorDocument final "$.final_behavior" = .ok ())
    (hid : base.documentId = final.documentId)
    (hsha : canonicalIrDigest base = canonicalIrDigest final → base.canonical = final.canonical) :
    (base.canonical = final.canonical ∧ deriveBehaviorDelta proposal base final =
      .error (.lifecycle ⟨.incompleteDelta,
        "base and final behavior contain no semantic difference", "$.entries"⟩)) ∨
    (base.canonical ≠ final.canonical ∧ ∃ delta, deriveBehaviorDelta proposal base final =
      .ok delta ∧ delta.RefersTo proposal base final ∧
        IsDifference base final delta.entries.val) := by
  have hbase := validateBehaviorDocument_of_validateChangeProposal hproposal
  have hbaseWf := (validateBehaviorDocument_eq_ok.mp hbase).2
  have hfinalWf := (validateBehaviorDocument_eq_ok.mp hfinal).2
  obtain ⟨entries, hderive, hentries⟩ := exists_deriveEntries hbaseWf hfinalWf
  have hempty := hentries.eq_nil_iff hbaseWf hfinalWf hid
  have hpair : validateDocumentPair base final = .ok () := by
    rw [validateDocumentPair, hbase, ok_bind, hfinal, ok_bind]
    exact require_eq_ok.mpr hid
  have hstart : deriveBehaviorDelta proposal base final =
      raising (require (entries ≠ []) ⟨.incompleteDelta,
        "base and final behavior contain no semantic difference", "$.entries"⟩) >>= fun _ =>
      BehaviorDelta.make proposal.changeId proposal.ref (behaviorDocumentRef base)
        (behaviorDocumentRef final) entries := by
    rw [deriveBehaviorDelta, hproposal, hpair, hderive, changeProposalRef_eq_ok]
    rfl
  by_cases hsame : base.canonical = final.canonical
  · refine .inl ⟨hsame, ?_⟩
    rw [hstart, hempty.mpr hsame, require_of_not (by simp)]
    rfl
  · refine .inr ⟨hsame, ?_⟩
    have hne : entries ≠ [] := fun hnil => hsame (hempty.mp hnil)
    have hlength : 1 ≤ entries.length := List.length_pos_iff.mpr hne
    have hvalid : validateDeltaShape proposal.changeId proposal.ref (behaviorDocumentRef base)
        (behaviorDocumentRef final) entries = .ok () :=
      hentries.validateDeltaShape_eq_ok hid (fun heq => hsame (hsha heq)) rfl
    refine ⟨⟨proposal.changeId, proposal.ref, _, _, ⟨entries, hlength⟩, hvalid⟩, ?_,
      ⟨rfl, rfl, rfl, rfl⟩, hentries⟩
    rw [hstart, (require_eq_ok (u := ())).mpr hne, BehaviorDelta.make]
    simp only [raising, Except.mapError, ok_bind, hlength, hvalid, dif_pos]

/-- The delta of two documents is exact: it is derived unless their canonical texts are the same,
it is their difference, it leads from the one to the other, and a delta with the right references is
accepted when it is that difference. -/
theorem behaviorDelta_exact (hproposal : validateChangeProposal proposal base = .ok ())
    (hfinal : validateBehaviorDocument final "$.final_behavior" = .ok ())
    (hid : base.documentId = final.documentId)
    (hsha : Set.InjOn Hashlib.sha256
      {Payload.canonical (canonicalIrValue base), Payload.canonical (canonicalIrValue final)}) :
    ((∃ e, deriveBehaviorDelta proposal base final = .error (.lifecycle e) ∧
        e.code = .incompleteDelta) ↔ canonicalIrJson base = canonicalIrJson final) ∧
    (canonicalIrJson base ≠ canonicalIrJson final →
      ∃ delta, deriveBehaviorDelta proposal base final = .ok delta ∧
        delta.RefersTo proposal base final ∧ IsDifference base final delta.entries.val ∧
        applyDelta base.canonical delta.entries.val (calledFor delta.entries.val final) =
          final.canonical ∧
        ∀ old ∈ base.canonical.entities, ∀ new ∈ final.canonical.entities, old.id = new.id →
          old.kind ≠ new.kind →
          .removed ⟨base.subject old.ref, decide (old.ref ∈ base.roots)⟩ ∈ delta.entries.val ∧
          .added ⟨final.subject new.ref, decide (new.ref ∈ final.roots)⟩ ∈ delta.entries.val ∧
          ∀ entry ∈ delta.entries.val, entry.subjectKey.targetId = old.id →
            entry = .removed ⟨base.subject old.ref, decide (old.ref ∈ base.roots)⟩ ∨
            entry = .added ⟨final.subject new.ref, decide (new.ref ∈ final.roots)⟩) ∧
    ∀ delta : BehaviorDelta, delta.RefersTo proposal base final →
      (validateBehaviorDelta delta proposal base final = .ok () ↔
        IsDifference base final delta.entries.val) := by
  have hbase := (validateBehaviorDocument_eq_ok.mp
    (validateBehaviorDocument_of_validateChangeProposal hproposal)).2
  have hfinalWf := (validateBehaviorDocument_eq_ok.mp hfinal).2
  have hinjective : canonicalIrDigest base = canonicalIrDigest final →
      base.canonical = final.canonical := by
    intro hdigest
    have hvalue := hsha (Set.mem_insert _ _) (Set.mem_insert_of_mem _ rfl) hdigest
    rw [Payload.canonical.injEq, canonicalIrValue_eq, canonicalIrValue_eq] at hvalue
    exact modelDump_injective (by rw [hvalue])
  have hcases := deriveBehaviorDelta_cases hproposal hfinal hid hinjective
  rw [Ne, canonicalIrJson_eq_iff]
  refine ⟨⟨?_, fun hsame => ?_⟩, fun hne => ?_, fun delta hrefers => ?_⟩
  · rintro ⟨e, he, -⟩
    rcases hcases with ⟨hsame, -⟩ | ⟨-, delta, hdelta, -⟩
    · exact hsame
    · cases hdelta.symm.trans he
  · rcases hcases with ⟨-, herror⟩ | ⟨hne, -⟩
    · exact ⟨_, herror, rfl⟩
    · exact absurd hsame hne
  · rcases hcases with ⟨hsame, -⟩ | ⟨-, delta, hdelta, hrefers, hdifference⟩
    · exact absurd hsame hne
    · exact ⟨delta, hdelta, hrefers, hdifference, hdifference.applyDelta_eq hbase hfinalWf hid,
        fun old hold new hnew => hdifference.kind_changed hbase hfinalWf hold hnew⟩
  · rw [validateBehaviorDelta_eq_ok hproposal hfinal hid, and_iff_right hrefers]

end Exact

end Delta

end Ucf

/-! ### A sample

The sample proposal, and a final behavior from which all but the provenance is gone. -/

namespace Ucf.DeltaSample

open Ucf.Sample (behavior irProvenance)
open scoped Ucf.OpenSpecSample

/-- A digest that counts the entities of a behavior. -/
scoped instance hashlib : Hashlib where
  sha256
    | .canonical (.obj [_, _, _, _, (_, .arr entities)]) =>
      ⟨entities.length % 16, lt_digestBound.mpr
        ((Nat.mod_lt _ (by norm_num)).trans_le (by norm_num))⟩
    | _ => Sample.digestValue

def proposal : ChangeProposal :=
  { OpenSpecSample.proposal with baseBehavior := behaviorDocumentRef behavior }

def final : BehaviorIR := { behavior with entities := [.provenance irProvenance] }

theorem validateBehaviorDocument_behavior (location : String) :
    validateBehaviorDocument behavior location = .ok () :=
  validateBehaviorDocument_eq_ok.mpr ⟨by unfold BehaviorIR.WithinNesting; decide +kernel,
    validateIrSemantics_eq_ok.mp (show validateIrSemantics behavior = .ok () by decide +kernel)⟩

theorem validateBehaviorDocument_final (location : String) :
    validateBehaviorDocument final location = .ok () :=
  validateBehaviorDocument_eq_ok.mpr ⟨by unfold BehaviorIR.WithinNesting; decide +kernel,
    validateIrSemantics_eq_ok.mp (show validateIrSemantics final = .ok () by decide +kernel)⟩

theorem validateChangeProposal_proposal : validateChangeProposal proposal behavior = .ok () := by
  simp only [validateChangeProposal, canonicalChangeLifecycleJson,
    parseChangeProposalJson_canonical, validateBehaviorDocument_behavior, ok_bind,
    pure_eq_ok, require_eq_ok]
  rfl

/-- The delta of the sample removes what is gone. -/
theorem behaviorDelta_exact_sample : ∃ delta,
    deriveBehaviorDelta proposal behavior final = .ok delta ∧
      applyDelta behavior.canonical delta.entries.val (calledFor delta.entries.val final) =
        final.canonical := by
  have hne : canonicalIrJson behavior ≠ canonicalIrJson final := by
    rw [Ne, canonicalIrJson_eq_iff]
    decide +kernel
  have hsha : Set.InjOn Hashlib.sha256
      {Payload.canonical (canonicalIrValue behavior), Payload.canonical (canonicalIrValue final)} := by
    have hdigest : canonicalIrDigest behavior ≠ canonicalIrDigest final := by decide +kernel
    rintro _ (rfl | rfl) _ (rfl | rfl) heq
    · rfl
    · exact absurd heq hdigest
    · exact absurd heq.symm hdigest
    · rfl
  obtain ⟨delta, hdelta, -, -, happly, -⟩ := (behaviorDelta_exact validateChangeProposal_proposal
    (validateBehaviorDocument_final _) rfl hsha).2.1 hne
  exact ⟨delta, hdelta, happly⟩

end Ucf.DeltaSample
