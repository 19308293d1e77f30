import Ucf.Change.Delta
import Ucf.Change.Published

/-! A derived delta is the difference of its two documents, and with the definitions that it calls
for it leads from the one to the other. -/

namespace Ucf

/-! ### Documents as maps -/

theorem refKey_ref (entity : Entity) : refKey entity.ref = entity.key := rfl

namespace BehaviorIR

/-- The canonical definition of the entity of a kind and id. -/
def definition? (document : BehaviorIR) (key : EntityRef) : Option Entity :=
  document.canonical.entities.find? fun entity => entity.ref = key

variable {d base final : BehaviorIR} {key : EntityRef}

theorem WellFormed.sortedKeys (h : d.WellFormed) :
    SortedKeys Entity.key d.canonical.entities :=
  sortedKeys_sortedBy (by
    rw [List.map_map]
    have hkeys : Entity.key ∘ Entity.canonical = Entity.key := funext fun e => e.key_canonical
    rw [hkeys]
    exact Entity.key_injOn h.ids_nodup)

theorem WellFormed.refs_nodup (h : d.WellFormed) :
    (d.canonical.entities.map Entity.ref).Nodup := by
  refine List.Nodup.of_map refKey ?_
  rw [List.map_map]
  exact h.sortedKeys.nodup

theorem ref_of_definition? {entity : Entity} (h : d.definition? key = some entity) :
    entity ∈ d.canonical.entities ∧ entity.ref = key :=
  ⟨List.mem_of_find?_eq_some h, by simpa using List.find?_some h⟩

theorem WellFormed.definition?_eq_some (h : d.WellFormed) {entity : Entity} :
    d.definition? key = some entity ↔ entity ∈ d.canonical.entities ∧ entity.ref = key := by
  refine ⟨ref_of_definition?, fun ⟨hmem, href⟩ => ?_⟩
  cases hfind : d.definition? key with
  | none =>
    have hnone := List.find?_eq_none.mp hfind entity hmem
    exact absurd href (by simpa using hnone)
  | some found =>
    obtain ⟨hfound, hkey⟩ := ref_of_definition? hfind
    rw [List.inj_on_of_nodup_map h.refs_nodup hmem hfound (href.trans hkey.symm)]

theorem WellFormed.definition?_of_root (h : d.WellFormed) (hroot : key ∈ d.roots) :
    d.definition? key ≠ none := by
  obtain ⟨-, target, htarget⟩ := h.roots.refs_to key hroot
  intro hnone
  have hmem : target.canonical ∈ d.canonical.entities := by
    rw [BehaviorIR.canonical, mem_sortedBy]
    exact List.mem_map_of_mem htarget.mem
  have hfind := List.find?_eq_none.mp hnone _ hmem
  rw [decide_eq_true_eq, Entity.ref, Entity.id_canonical, Entity.kind_canonical,
    htarget.id_eq, htarget.kind_eq] at hfind
  exact hfind rfl

theorem mem_canonical_roots : key ∈ d.canonical.roots ↔ key ∈ d.roots := by
  rw [canonical, sortRefs, mem_sortedBy]

/-- Documents are the same when their definitions and their roots are. -/
theorem canonical_eq_of_definitions (hbase : base.WellFormed) (hfinal : final.WellFormed)
    (hid : base.documentId = final.documentId)
    (hdefinitions : ∀ key, base.definition? key = final.definition? key)
    (hroots : ∀ key, key ∈ base.roots ↔ key ∈ final.roots) : base.canonical = final.canonical := by
  have hentities : base.canonical.entities = final.canonical.entities := by
    refine hbase.sortedKeys.eq_of_mem_iff hfinal.sortedKeys fun entity => ?_
    have hiff := @WellFormed.definition?_eq_some base entity.ref hbase entity
    rw [hdefinitions, hfinal.definition?_eq_some] at hiff
    simpa using hiff.symm
  have hrefs : base.canonical.roots = final.canonical.roots :=
    sortRefs_eq_of_perm hbase.roots.nodup
      ((List.perm_ext_iff_of_nodup hbase.roots.nodup hfinal.roots.nodup).mpr hroots)
  have hids : base.canonical.documentId = final.canonical.documentId := hid
  cases hb : base.canonical
  cases hf : final.canonical
  rw [hb, hf] at hentities hrefs hids
  cases hentities
  cases hrefs
  cases hids
  rfl

theorem definition?_eq_of_canonical_eq (h : base.canonical = final.canonical) :
    base.definition? key = final.definition? key := by
  rw [definition?, definition?, h]

end BehaviorIR

theorem mem_keys_canonicalEntities {d : BehaviorIR} {key : EntityRef} :
    key ∈ (canonicalEntitiesAndRoots d).1.keys ↔ d.definition? key ≠ none := by
  rw [canonicalEntitiesAndRoots, Dict.mem_keys_ofList, List.map_map, List.mem_map]
  constructor
  · rintro ⟨entity, hmem, href⟩ hnone
    exact absurd href (by simpa using List.find?_eq_none.mp hnone entity hmem)
  · intro h
    obtain ⟨entity, hentity⟩ := Option.ne_none_iff_exists'.mp h
    exact ⟨entity, BehaviorIR.ref_of_definition? hentity⟩

theorem BehaviorIR.WellFormed.get?_canonicalEntities {d : BehaviorIR} (h : d.WellFormed)
    (key : EntityRef) :
    (canonicalEntitiesAndRoots d).1.get? key = (d.definition? key).map modelDump := by
  have hnodup : ((d.canonical.entities.map fun entity =>
      (entity.ref, modelDump entity)).map Prod.fst).Nodup := by
    rw [List.map_map]
    exact h.refs_nodup
  cases hfind : d.definition? key with
  | none =>
    rw [Option.map_none, Dict.get?_eq_none, mem_keys_canonicalEntities]
    exact fun hne => hne hfind
  | some entity =>
    rw [Option.map_some, canonicalEntitiesAndRoots, Dict.get?_ofList hnodup, List.mem_map]
    obtain ⟨hmem, href⟩ := BehaviorIR.ref_of_definition? hfind
    exact ⟨entity, hmem, by rw [href]⟩

theorem map_modelDump_inj {a b : Option Entity} :
    a.map modelDump = b.map modelDump ↔ a = b :=
  (Option.map_injective fun _ _ h => modelDump_injective (by rw [h])).eq_iff

/-! ### What a delta says -/

section Delta

variable [Hashlib]

/-- The reference of a document's delta entries to one of its entities. -/
def BehaviorIR.subject (document : BehaviorIR) (key : EntityRef) : BehaviorEntityRef :=
  entityRefIn (behaviorDocumentRef document) key

omit [Hashlib] in
/-- The entity is in both documents, and its definition or its being a root differs. -/
structure Changed (base final : BehaviorIR) (key : EntityRef) : Prop where
  inBase : base.definition? key ≠ none
  inFinal : final.definition? key ≠ none
  differs : base.definition? key ≠ final.definition? key ∨ ¬(key ∈ base.roots ↔ key ∈ final.roots)

/-- The entry says what changed. -/
structure Modifies (base final : BehaviorIR) (key : EntityRef) (entry : ModifiedBehavior) :
    Prop where
  baseSubject : entry.baseSubject = base.subject key
  finalSubject : entry.finalSubject = final.subject key
  definition : .definition ∈ entry.aspects.items ↔ base.definition? key ≠ final.definition? key
  rootMembership : .rootMembership ∈ entry.aspects.items ↔
    ¬(key ∈ base.roots ↔ key ∈ final.roots)
  baseIsRoot : entry.baseIsRoot = decide (key ∈ base.roots)
  finalIsRoot : entry.finalIsRoot = decide (key ∈ final.roots)

/-- The entries are the difference of the documents: one for each entity that is in one of them
only, and one for each entity that changed, in order. -/
structure IsDifference (base final : BehaviorIR) (entries : List BehaviorDeltaEntry) : Prop where
  added : ∀ entry, .added entry ∈ entries ↔ ∃ key, base.definition? key = none ∧
    final.definition? key ≠ none ∧ entry = ⟨final.subject key, decide (key ∈ final.roots)⟩
  modified : ∀ entry, .modified entry ∈ entries ↔ ∃ key, Changed base final key ∧
    Modifies base final key entry
  removed : ∀ entry, .removed entry ∈ entries ↔ ∃ key, base.definition? key ≠ none ∧
    final.definition? key = none ∧ entry = ⟨base.subject key, decide (key ∈ base.roots)⟩
  subjects : (entries.map BehaviorDeltaEntry.subjectKey).Nodup
  ordered : SortedKeys BehaviorDeltaEntry.key entries

variable {base final : BehaviorIR}

omit [Hashlib] in
theorem validateSubjectPair_eq_ok {baseSubject finalSubject : BehaviorEntityRef}
    {aspects : List BehaviorChangeAspect} {baseIsRoot finalIsRoot : Bool} :
    validateSubjectPair baseSubject finalSubject aspects baseIsRoot finalIsRoot = .ok () ↔
      (baseSubject.targetKind = finalSubject.targetKind ∧
        baseSubject.targetId = finalSubject.targetId) ∧
      (aspects = [BehaviorChangeAspect.definition, .rootMembership].filter fun aspect =>
        aspect ∈ aspects) ∧
      (.definition ∈ aspects ∨ .rootMembership ∈ aspects) ∧
      (.rootMembership ∈ aspects ↔ baseIsRoot ≠ finalIsRoot) := by
  simp only [validateSubjectPair, bind_eq_ok, require_eq_ok, exists_const]

omit [Hashlib] in
theorem modifiedEntry_of_unchanged {baseRef finalRef : BehaviorDocumentRef} {key : EntityRef}
    {isRoot : Bool} : modifiedEntry baseRef finalRef key false isRoot isRoot = .ok [] := by
  simp [modifiedEntry]

omit [Hashlib] in
/-- The model accepts the entry of every entity that changed. -/
theorem modifiedEntry_of_changed {baseRef finalRef : BehaviorDocumentRef} {key : EntityRef}
    {definitionChanged baseIsRoot finalIsRoot : Bool}
    (h : definitionChanged = true ∨ baseIsRoot ≠ finalIsRoot) :
    ∃ entry, modifiedEntry baseRef finalRef key definitionChanged baseIsRoot finalIsRoot =
        .ok [.modified entry] ∧
      entry.baseSubject = entityRefIn baseRef key ∧ entry.finalSubject = entityRefIn finalRef key ∧
      (.definition ∈ entry.aspects.items ↔ definitionChanged = true) ∧
      (.rootMembership ∈ entry.aspects.items ↔ baseIsRoot ≠ finalIsRoot) ∧
      entry.baseIsRoot = baseIsRoot ∧ entry.finalIsRoot = finalIsRoot := by
  rw [modifiedEntry, if_neg (by simp only [bne_iff_ne]; tauto)]
  generalize haspects : changedAspects definitionChanged (baseIsRoot != finalIsRoot) = aspects
  have hlength : 1 ≤ aspects.length ∧ aspects.length ≤ 2 := by
    rw [← haspects]
    revert h
    cases definitionChanged <;> cases baseIsRoot <;> cases finalIsRoot <;> decide
  have hdefinition : .definition ∈ aspects ↔ definitionChanged = true := by
    rw [← haspects]
    cases definitionChanged <;> cases baseIsRoot <;> cases finalIsRoot <;> decide
  have hroot : .rootMembership ∈ aspects ↔ baseIsRoot ≠ finalIsRoot := by
    rw [← haspects]
    cases definitionChanged <;> cases baseIsRoot <;> cases finalIsRoot <;> decide
  have horder : aspects = [BehaviorChangeAspect.definition, .rootMembership].filter fun aspect =>
      aspect ∈ aspects := by
    rw [← haspects]
    cases definitionChanged <;> cases baseIsRoot <;> cases finalIsRoot <;> decide
  have hvalid : validateSubjectPair (entityRefIn baseRef key) (entityRefIn finalRef key) aspects
      baseIsRoot finalIsRoot = .ok () :=
    validateSubjectPair_eq_ok.mpr ⟨⟨rfl, rfl⟩, horder, h.imp hdefinition.mpr hroot.mpr, hroot⟩
  refine ⟨⟨_, _, ⟨aspects, hlength.1, hlength.2⟩, _, _, hvalid⟩, ?_, rfl, rfl, hdefinition, hroot,
    rfl, rfl⟩
  rw [ModifiedBehavior.make, Tuple.ofList_of_le hlength.1 hlength.2]
  simp only [Except.mapError, ok_bind, hvalid, dif_pos, pure_eq_ok]

section Derived

variable (hbase : base.WellFormed) (hfinal : final.WellFormed)
include hbase hfinal

/-- What the loop over the common keys says of a key. -/
theorem exists_modifiedEntries (key : EntityRef) :
    ∃ entries, modifiedEntry (behaviorDocumentRef base) (behaviorDocumentRef final) key
        (decide ((canonicalEntitiesAndRoots base).1.get? key ≠
          (canonicalEntitiesAndRoots final).1.get? key))
        (decide (key ∈ (canonicalEntitiesAndRoots base).2))
        (decide (key ∈ (canonicalEntitiesAndRoots final).2)) = .ok entries ∧
      ((base.definition? key = final.definition? key ∧ (key ∈ base.roots ↔ key ∈ final.roots) ∧
          entries = []) ∨
        ((base.definition? key ≠ final.definition? key ∨ ¬(key ∈ base.roots ↔ key ∈ final.roots)) ∧
          ∃ entry, entries = [.modified entry] ∧ Modifies base final key entry)) := by
  have hdefinition : (canonicalEntitiesAndRoots base).1.get? key =
      (canonicalEntitiesAndRoots final).1.get? key ↔
      base.definition? key = final.definition? key := by
    rw [hbase.get?_canonicalEntities, hfinal.get?_canonicalEntities, map_modelDump_inj]
  have hb : decide (key ∈ (canonicalEntitiesAndRoots base).2) = decide (key ∈ base.roots) :=
    decide_eq_decide.mpr BehaviorIR.mem_canonical_roots
  have hf : decide (key ∈ (canonicalEntitiesAndRoots final).2) = decide (key ∈ final.roots) :=
    decide_eq_decide.mpr BehaviorIR.mem_canonical_roots
  rw [hb, hf]
  by_cases hchanged : base.definition? key ≠ final.definition? key ∨
      ¬(key ∈ base.roots ↔ key ∈ final.roots)
  · have hflags : decide ((canonicalEntitiesAndRoots base).1.get? key ≠
        (canonicalEntitiesAndRoots final).1.get? key) = true ∨
        decide (key ∈ base.roots) ≠ decide (key ∈ final.roots) := by
      rwa [decide_eq_true_iff, Ne, hdefinition, Ne, decide_eq_decide]
    obtain ⟨entry, hentry, hbase', hfinal', hd, hr, hbroot, hfroot⟩ :=
      @modifiedEntry_of_changed (behaviorDocumentRef base) (behaviorDocumentRef final) key _ _ _
        hflags
    refine ⟨_, hentry, .inr ⟨hchanged, entry, rfl, hbase', hfinal', ?_, ?_, hbroot, hfroot⟩⟩
    · rw [hd, decide_eq_true_iff, Ne, hdefinition]
    · rw [hr, Ne, decide_eq_decide]
  · push Not at hchanged
    refine ⟨[], ?_, .inl ⟨hchanged.1, hchanged.2, rfl⟩⟩
    rw [decide_eq_false (not_not.mpr (hdefinition.mpr hchanged.1)),
      decide_eq_decide.mpr hchanged.2]
    exact modifiedEntry_of_unchanged

end Derived

/-! #### The derived entries -/

omit [Hashlib] in
theorem subjectKey_added (document : BehaviorDocumentRef) (key : EntityRef) (isRoot : Bool) :
    (BehaviorDeltaEntry.added ⟨entityRefIn document key, isRoot⟩).subjectKey = key := rfl

omit [Hashlib] in
theorem subjectKey_removed (document : BehaviorDocumentRef) (key : EntityRef) (isRoot : Bool) :
    (BehaviorDeltaEntry.removed ⟨entityRefIn document key, isRoot⟩).subjectKey = key := rfl

theorem Modifies.subjectKey {key : EntityRef} {entry : ModifiedBehavior}
    (h : Modifies base final key entry) : (BehaviorDeltaEntry.modified entry).subjectKey = key := by
  rw [BehaviorDeltaEntry.subjectKey, h.baseSubject]
  rfl

theorem Modifies.unique {key : EntityRef} {entry entry' : ModifiedBehavior}
    (h : Modifies base final key entry) (h' : Modifies base final key entry') :
    entry = entry' := by
  have hvalid := (validateSubjectPair_eq_ok.mp entry.valid).2.1
  have hvalid' := (validateSubjectPair_eq_ok.mp entry'.valid).2.1
  have haspects : entry.aspects = entry'.aspects := by
    refine Tuple.ext ?_
    rw [hvalid, hvalid']
    refine List.filter_congr fun aspect _ => decide_eq_decide.mpr ?_
    cases aspect with
    | definition => exact h.definition.trans h'.definition.symm
    | rootMembership => exact h.rootMembership.trans h'.rootMembership.symm
  have hb := h.baseSubject.trans h'.baseSubject.symm
  have hf := h.finalSubject.trans h'.finalSubject.symm
  have hbroot := h.baseIsRoot.trans h'.baseIsRoot.symm
  have hfroot := h.finalIsRoot.trans h'.finalIsRoot.symm
  cases entry
  cases entry'
  cases hb
  cases hf
  cases haspects
  cases hbroot
  cases hfroot
  rfl

/-- Entries collected for keys, at most one for each. -/
theorem map_subjectKey_sublist {keys : List EntityRef} {entries : List (List BehaviorDeltaEntry)}
    (h : List.Forall₂ (fun key entries => entries = [] ∨
      ∃ entry, entries = [.modified entry] ∧ Modifies base final key entry) keys entries) :
    (entries.flatten.map BehaviorDeltaEntry.subjectKey).Sublist keys := by
  induction h with
  | nil => exact .slnil
  | cons hkey _ ih =>
    rcases hkey with rfl | ⟨entry, rfl, hmodifies⟩
    · exact ih.cons _
    · rw [List.flatten_cons, List.map_append, List.map_singleton, hmodifies.subjectKey]
      exact ih.cons_cons _

/-- The derived entries are the difference. -/
theorem exists_deriveEntries (hbase : base.WellFormed) (hfinal : final.WellFormed) :
    ∃ entries, deriveEntries base final = .ok entries ∧ IsDifference base final entries := by
  set baseKeys := (canonicalEntitiesAndRoots base).1.keys with hbaseKeys
  set finalKeys := (canonicalEntitiesAndRoots final).1.keys with hfinalKeys
  have hinBase : ∀ key, key ∈ baseKeys ↔ base.definition? key ≠ none := fun key =>
    mem_keys_canonicalEntities
  have hinFinal : ∀ key, key ∈ finalKeys ↔ final.definition? key ≠ none := fun key =>
    mem_keys_canonicalEntities
  set added := sortedBy refKey (finalKeys.filter fun key => key ∉ baseKeys) with hadded
  set common := sortedBy refKey (baseKeys.filter fun key => key ∈ finalKeys) with hcommon
  set removed := sortedBy refKey (baseKeys.filter fun key => key ∉ finalKeys) with hremoved
  have hmemAdded : ∀ key, key ∈ added ↔
      base.definition? key = none ∧ final.definition? key ≠ none := by
    intro key
    rw [hadded, mem_sortedBy, List.mem_filter, decide_eq_true_iff, hinBase, hinFinal, not_not]
    tauto
  have hmemCommon : ∀ key, key ∈ common ↔
      base.definition? key ≠ none ∧ final.definition? key ≠ none := by
    intro key
    rw [hcommon, mem_sortedBy, List.mem_filter, decide_eq_true_iff, hinBase, hinFinal]
  have hmemRemoved : ∀ key, key ∈ removed ↔
      base.definition? key ≠ none ∧ final.definition? key = none := by
    intro key
    rw [hremoved, mem_sortedBy, List.mem_filter, decide_eq_true_iff, hinBase, hinFinal, not_not]
  obtain ⟨modified, hcollect, hmodified⟩ := exists_collect fun key (_ : key ∈ common) =>
    exists_modifiedEntries hbase hfinal key
  have hsublist := map_subjectKey_sublist (hmodified.imp fun key entries h =>
    h.imp (fun h => h.2.2) fun h => h.2)
  have hmemModified : ∀ entry, .modified entry ∈ modified.flatten ↔
      ∃ key, Changed base final key ∧ Modifies base final key entry := by
    intro entry
    rw [List.mem_flatten]
    constructor
    · rintro ⟨entries, hentries, hmem⟩
      obtain ⟨key, hkey, h⟩ := (mem_of_collect hcollect entries).mp hentries
      obtain ⟨entries', hentries', hcases⟩ := exists_modifiedEntries hbase hfinal key
      cases h.symm.trans hentries'
      rcases hcases with ⟨-, -, rfl⟩ | ⟨hdiffers, entry', rfl, hmodifies⟩
      · cases hmem
      · cases List.mem_singleton.mp hmem
        have hin := (hmemCommon key).mp hkey
        exact ⟨key, ⟨hin.1, hin.2, hdiffers⟩, hmodifies⟩
    · rintro ⟨key, hchanged, hmodifies⟩
      obtain ⟨entries, hentries, hcases⟩ := exists_modifiedEntries hbase hfinal key
      refine ⟨entries, (mem_of_collect hcollect entries).mpr
        ⟨key, (hmemCommon key).mpr ⟨hchanged.inBase, hchanged.inFinal⟩, hentries⟩, ?_⟩
      rcases hcases with ⟨hsame, hroots, -⟩ | ⟨-, entry', rfl, hmodifies'⟩
      · exact absurd hchanged.differs (by tauto)
      · rw [hmodifies.unique hmodifies']
        exact List.mem_singleton_self _
  have hkindModified : ∀ entry ∈ modified.flatten, ∃ e, entry = .modified e := by
    intro entry hentry
    obtain ⟨entries, hentries, hmem⟩ := List.mem_flatten.mp hentry
    obtain ⟨key, -, h⟩ := (mem_of_collect hcollect entries).mp hentries
    obtain ⟨entries', hentries', hcases⟩ := exists_modifiedEntries hbase hfinal key
    cases h.symm.trans hentries'
    rcases hcases with ⟨-, -, rfl⟩ | ⟨-, e, rfl, -⟩
    · cases hmem
    · exact ⟨e, List.mem_singleton.mp hmem⟩
  have hderive : deriveEntries base final = .ok (sortedBy BehaviorDeltaEntry.key
      (added.map (fun key => .added ⟨final.subject key, decide (key ∈ final.canonical.roots)⟩) ++
        modified.flatten ++
        removed.map fun key =>
          .removed ⟨base.subject key, decide (key ∈ base.canonical.roots)⟩)) := by
    unfold deriveEntries
    exact (bind_eq_ok.mpr ⟨modified, hcollect, rfl⟩)
  have hnodup : ((added.map (fun key =>
        BehaviorDeltaEntry.added ⟨final.subject key, decide (key ∈ final.canonical.roots)⟩) ++
        modified.flatten ++ removed.map fun key =>
          BehaviorDeltaEntry.removed ⟨base.subject key, decide (key ∈ base.canonical.roots)⟩).map
      BehaviorDeltaEntry.subjectKey).Nodup := by
    have hkeys : ∀ (d : BehaviorIR) (p : EntityRef → Bool),
        (sortedBy refKey ((canonicalEntitiesAndRoots d).1.keys.filter p)).Nodup := fun d p =>
      ((sortedBy_perm _ _).nodup_iff).mpr ((canonicalEntitiesAndRoots d).1.nodup.filter p)
    have hall : (added ++ common ++ removed).Nodup := by
      refine List.Nodup.append (List.Nodup.append (hkeys _ _) (hkeys _ _) ?_) (hkeys _ _) ?_
      · intro key hkey hkey'
        exact ((hmemCommon key).mp hkey').1 ((hmemAdded key).mp hkey).1
      · intro key hkey hkey'
        rcases List.mem_append.mp hkey with hkey | hkey
        · exact ((hmemRemoved key).mp hkey').1 ((hmemAdded key).mp hkey).1
        · exact ((hmemCommon key).mp hkey).2 ((hmemRemoved key).mp hkey').2
    rw [List.map_append, List.map_append, List.map_map, List.map_map]
    refine hall.sublist (((List.Sublist.refl _).append hsublist).append (List.Sublist.refl _) |>.trans ?_)
    simp [Function.comp_def, BehaviorIR.subject, subjectKey_added, subjectKey_removed]
  refine ⟨_, hderive, ?_, ?_, ?_, ?_, ?_⟩
  · intro entry
    rw [mem_sortedBy, List.mem_append, List.mem_append, List.mem_map, List.mem_map]
    constructor
    · rintro ((⟨key, hkey, heq⟩ | hmem) | ⟨_, _, heq⟩)
      · cases heq
        exact ⟨key, ((hmemAdded key).mp hkey).1, ((hmemAdded key).mp hkey).2,
          congrArg _ (decide_eq_decide.mpr BehaviorIR.mem_canonical_roots)⟩
      · obtain ⟨_, heq⟩ := hkindModified _ hmem
        cases heq
      · cases heq
    · rintro ⟨key, hnone, hsome, rfl⟩
      exact .inl (.inl ⟨key, (hmemAdded key).mpr ⟨hnone, hsome⟩, congrArg (fun isRoot =>
        BehaviorDeltaEntry.added ⟨final.subject key, isRoot⟩)
        (decide_eq_decide.mpr BehaviorIR.mem_canonical_roots)⟩)
  · intro entry
    rw [mem_sortedBy, List.mem_append, List.mem_append, List.mem_map, List.mem_map,
      ← hmemModified]
    constructor
    · rintro ((⟨_, _, heq⟩ | hmem) | ⟨_, _, heq⟩)
      · cases heq
      · exact hmem
      · cases heq
    · exact fun hmem => .inl (.inr hmem)
  · intro entry
    rw [mem_sortedBy, List.mem_append, List.mem_append, List.mem_map, List.mem_map]
    constructor
    · rintro ((⟨_, _, heq⟩ | hmem) | ⟨key, hkey, heq⟩)
      · cases heq
      · obtain ⟨_, heq⟩ := hkindModified _ hmem
        cases heq
      · cases heq
        exact ⟨key, ((hmemRemoved key).mp hkey).1, ((hmemRemoved key).mp hkey).2,
          congrArg _ (decide_eq_decide.mpr BehaviorIR.mem_canonical_roots)⟩
    · rintro ⟨key, hsome, hnone, rfl⟩
      exact .inr ⟨key, (hmemRemoved key).mpr ⟨hsome, hnone⟩, congrArg (fun isRoot =>
        BehaviorDeltaEntry.removed ⟨base.subject key, isRoot⟩)
        (decide_eq_decide.mpr BehaviorIR.mem_canonical_roots)⟩
  · exact (((sortedBy_perm _ _).map _).nodup_iff).mpr hnodup
  · refine sortedKeys_sortedBy (List.Nodup.of_map (fun key => (ofLex key).2) ?_)
    rw [List.map_map]
    have hrefs := hnodup.map refKey_injective
    rwa [List.map_map] at hrefs

/-- Two differences of the same documents are the same. -/
theorem IsDifference.unique {entries entries' : List BehaviorDeltaEntry}
    (h : IsDifference base final entries) (h' : IsDifference base final entries') :
    entries = entries' := by
  refine h.ordered.eq_of_mem_iff h'.ordered fun entry => ?_
  cases entry with
  | added entry => rw [h.added, h'.added]
  | modified entry => rw [h.modified, h'.modified]
  | removed entry => rw [h.removed, h'.removed]

/-- The difference is empty when the documents have the same canonical form. -/
theorem IsDifference.eq_nil_iff (hbase : base.WellFormed) (hfinal : final.WellFormed)
    (hid : base.documentId = final.documentId) {entries : List BehaviorDeltaEntry}
    (h : IsDifference base final entries) : entries = [] ↔ base.canonical = final.canonical := by
  constructor
  · rintro rfl
    have hadded : ∀ key, base.definition? key = none → final.definition? key = none := by
      intro key hnone
      by_contra hsome
      exact absurd ((h.added _).mpr ⟨key, hnone, hsome, rfl⟩) (by simp)
    have hremoved : ∀ key, final.definition? key = none → base.definition? key = none := by
      intro key hnone
      by_contra hsome
      exact absurd ((h.removed _).mpr ⟨key, hsome, hnone, rfl⟩) (by simp)
    have hsame : ∀ key, base.definition? key ≠ none →
        base.definition? key = final.definition? key ∧ (key ∈ base.roots ↔ key ∈ final.roots) := by
      intro key hsome
      by_contra hdiffers
      have hchanged : Changed base final key :=
        ⟨hsome, fun hnone => hsome (hremoved key hnone), by tauto⟩
      obtain ⟨entries, _, ⟨hdefinition, hroots, -⟩ | ⟨-, entry, -, hmodifies⟩⟩ :=
        exists_modifiedEntries hbase hfinal key
      · exact hdiffers ⟨hdefinition, hroots⟩
      · exact absurd ((h.modified entry).mpr ⟨key, hchanged, hmodifies⟩) (by simp)
    refine BehaviorIR.canonical_eq_of_definitions hbase hfinal hid (fun key => ?_) fun key => ?_
    · by_cases hsome : base.definition? key = none
      · rw [hsome, hadded key hsome]
      · exact (hsame key hsome).1
    · by_cases hsome : base.definition? key = none
      · exact iff_of_false (fun hroot => hbase.definition?_of_root hroot hsome)
          fun hroot => hfinal.definition?_of_root hroot (hadded key hsome)
      · exact (hsame key hsome).2
  · intro heq
    have hdefinition : ∀ key, base.definition? key = final.definition? key := fun _ =>
      BehaviorIR.definition?_eq_of_canonical_eq heq
    have hroots : ∀ key, key ∈ base.roots ↔ key ∈ final.roots := by
      intro key
      rw [← BehaviorIR.mem_canonical_roots, heq, BehaviorIR.mem_canonical_roots]
    refine List.eq_nil_iff_forall_not_mem.mpr fun entry hentry => ?_
    cases entry with
    | added entry =>
      obtain ⟨key, hnone, hsome, -⟩ := (h.added entry).mp hentry
      exact hsome (hdefinition key ▸ hnone)
    | modified entry =>
      obtain ⟨key, hchanged, -⟩ := (h.modified entry).mp hentry
      exact hchanged.differs.elim (fun hne => hne (hdefinition key)) fun hne => hne (hroots key)
    | removed entry =>
      obtain ⟨key, hsome, hnone, -⟩ := (h.removed entry).mp hentry
      exact hsome (hdefinition key ▸ hnone)

end Delta

end Ucf
