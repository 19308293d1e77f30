import Ucf.Governance.Compatibility
import Ucf.Library.Collect

/-! When the classification of two well-formed documents returns, and what a compatible verdict
says about the environments that run them. -/

namespace Ucf

/-! ### Loops over sorted items -/

theorem SortedKeys.pairwise_iff {α κ : Type} [LinearOrder κ] {key : α → κ} {items : List α}
    (h : SortedKeys key items) {r : α → α → Prop} :
    items.Pairwise r ↔ ∀ a ∈ items, ∀ b ∈ items, key a < key b → r a b := by
  constructor
  · intro hr a ha b hb hlt
    obtain ⟨i, hi, rfl⟩ := List.mem_iff_getElem.mp ha
    obtain ⟨j, hj, rfl⟩ := List.mem_iff_getElem.mp hb
    rcases lt_trichotomy i j with hij | rfl | hij
    · exact List.pairwise_iff_getElem.mp hr i j hi hj hij
    · exact absurd hlt (lt_irrefl _)
    · exact absurd (hlt.trans (List.pairwise_iff_getElem.mp h j i hj hi hij)) (lt_irrefl _)
  · intro hall
    exact List.Pairwise.imp_of_mem (fun ha hb hlt => hall _ ha _ hb hlt) h

section Breaks

variable {base final : BehaviorIR} {c previous : CapabilityRequirement}

/-! ### Breaks -/

/-- The base document requires a capability under the same entity id. -/
structure RequiredBefore (base : BehaviorIR) (c previous : CapabilityRequirement) : Prop where
  mem : previous ∈ base.capabilities
  id_eq : previous.id = c.id
  required : previous.required = true

/-- The final document requires a capability that the base document does not require under its
entity id, or in a lower version only. -/
structure Breaks (base final : BehaviorIR) (c : CapabilityRequirement) : Prop where
  mem : c ∈ final.capabilities
  required : c.required = true
  stricter : ∀ previous, RequiredBefore base c previous →
    versionNumbers previous.minimumVersion.val < versionNumbers c.minimumVersion.val

/-- `previous`, where it is required -/
def BehaviorIR.requiredBefore? (base : BehaviorIR) (c : CapabilityRequirement) :
    Option CapabilityRequirement :=
  ((Dict.ofList (base.capabilities.map fun entity => (entity.id, entity))).get? c.id).filter
    (·.required)

/-- The reason that the loop of `_required_capability_breaks` appends, if any. -/
def breakReason (base : BehaviorIR) (c : CapabilityRequirement) : Option String :=
  if c.required then
    match base.requiredBefore? c with
    | none => some (introducedReason c)
    | some previous =>
      if versionNumbers previous.minimumVersion.val < versionNumbers c.minimumVersion.val then
        some (increasedReason c previous)
      else none
  else none

/-- The reasons of `_required_capability_breaks`. -/
def breakReasons (base final : BehaviorIR) : List String :=
  (sortedBy (fun c => c.id.val) final.capabilities).filterMap (breakReason base)

theorem BehaviorIR.WellFormed.capability_pairs (h : base.WellFormed) :
    ((base.capabilities.map fun entity => (entity.id, entity)).map Prod.fst).Nodup := by
  rw [List.map_map]
  exact h.capability_ids

theorem requiredBefore?_eq_some (h : base.WellFormed) :
    base.requiredBefore? c = some previous ↔ RequiredBefore base c previous := by
  rw [BehaviorIR.requiredBefore?, Option.filter_eq_some_iff, Dict.get?_ofList h.capability_pairs,
    List.mem_map]
  constructor
  · rintro ⟨⟨entity, hmem, heq⟩, hrequired⟩
    obtain ⟨hid, rfl⟩ := Prod.mk.inj heq
    exact ⟨hmem, hid, hrequired⟩
  · rintro ⟨hmem, hid, hrequired⟩
    exact ⟨⟨previous, hmem, by rw [hid]⟩, hrequired⟩

/-- `int` reads the versions that the loop compares. -/
def VersionsReadable (base final : BehaviorIR) : Prop :=
  ∀ c ∈ final.capabilities, c.required = true → ∀ previous, RequiredBefore base c previous →
    Readable c.minimumVersion.val ∧ Readable previous.minimumVersion.val

theorem capabilityBreak_eq_ok (h : base.WellFormed) {reason : Option String} :
    capabilityBreak (Dict.ofList (base.capabilities.map fun entity => (entity.id, entity)))
        (c.id, c) = .ok reason ↔
      (c.required = true → ∀ previous, RequiredBefore base c previous →
        Readable c.minimumVersion.val ∧ Readable previous.minimumVersion.val) ∧
      reason = breakReason base c := by
  have hprevious : ((Dict.ofList (base.capabilities.map fun entity =>
      (entity.id, entity))).get? c.id).filter (·.required) = base.requiredBefore? c := rfl
  simp only [capabilityBreak, breakReason, hprevious]
  cases hrequired : c.required with
  | false => simp [eq_comm]
  | true =>
    cases hbefore : base.requiredBefore? c with
    | none =>
      have hnone : ∀ previous, ¬RequiredBefore base c previous := by
        intro previous hprevious
        rw [← requiredBefore?_eq_some h, hbefore] at hprevious
        cases hprevious
      simp [hnone, eq_comm]
    | some previous =>
      have hsome : ∀ p, RequiredBefore base c p ↔ p = previous := by
        intro p
        rw [← requiredBefore?_eq_some h, hbefore, Option.some.injEq, eq_comm]
      simp only [not_true_eq_false, if_false, if_true, bind_eq_ok,
        splitVersion_eq_ok c.minimumVersion.matches,
        splitVersion_eq_ok previous.minimumVersion.matches, hsome, forall_eq, forall_const]
      constructor
      · rintro ⟨_, ⟨hreadable, rfl⟩, _, ⟨hreadable', rfl⟩, h⟩
        refine ⟨⟨hreadable, hreadable'⟩, ?_⟩
        split
        · rw [if_pos ‹_›] at h
          exact (Except.ok.inj h).symm
        · rw [if_neg ‹_›] at h
          exact (Except.ok.inj h).symm
      · rintro ⟨⟨hreadable, hreadable'⟩, rfl⟩
        refine ⟨_, ⟨hreadable, rfl⟩, _, ⟨hreadable', rfl⟩, ?_⟩
        split <;> rfl

/-- What the loop of `_required_capability_breaks` returns. -/
theorem requiredCapabilityBreaks_eq_ok (hbase : base.WellFormed) (hfinal : final.WellFormed)
    {reasons : List String} : requiredCapabilityBreaks base final = .ok reasons ↔
      VersionsReadable base final ∧ reasons = breakReasons base final := by
  have hitems : (Dict.ofList (final.capabilities.map fun entity => (entity.id, entity))).items =
      final.capabilities.map fun entity => (entity.id, entity) :=
    Dict.items_ofList hfinal.capability_pairs
  have hcollect : ∀ {rs : List (Option String)},
      collect (capabilityBreak
          (Dict.ofList (base.capabilities.map fun entity => (entity.id, entity))))
        ((sortedBy (fun c : CapabilityRequirement => c.id.val) final.capabilities).map
          fun entity => (entity.id, entity)) = .ok rs ↔
      VersionsReadable base final ∧
        rs = (sortedBy (fun c => c.id.val) final.capabilities).map (breakReason base) := by
    intro rs
    rw [collect_map]
    rw [collect_eq_ok_of_iff fun c _ reason => capabilityBreak_eq_ok hbase]
    simp only [mem_sortedBy, VersionsReadable]
  simp only [requiredCapabilityBreaks, bind_eq_ok, hitems, sortedBy_map, hcollect, pure_eq_ok,
    Except.ok.injEq]
  constructor
  · rintro ⟨_, ⟨hreadable, rfl⟩, rfl⟩
    exact ⟨hreadable, by rw [List.filterMap_map]; rfl⟩
  · rintro ⟨hreadable, rfl⟩
    exact ⟨_, ⟨hreadable, rfl⟩, by rw [List.filterMap_map]; rfl⟩

/-! ### Reasons -/

theorem breakReason_isSome (h : base.WellFormed) (hc : c ∈ final.capabilities) :
    (∃ reason, breakReason base c = some reason) ↔ Breaks base final c := by
  rw [breakReason]
  cases hrequired : c.required with
  | false =>
    simp only [Bool.false_eq_true, if_false, reduceCtorEq, exists_const, false_iff]
    intro hbreaks
    rw [hbreaks.required] at hrequired
    cases hrequired
  | true =>
    cases hbefore : base.requiredBefore? c with
    | none =>
      refine iff_of_true ⟨_, rfl⟩ ⟨hc, hrequired, fun previous hprevious => ?_⟩
      rw [← requiredBefore?_eq_some h, hbefore] at hprevious
      cases hprevious
    | some previous =>
      have hprevious := (requiredBefore?_eq_some h).mp hbefore
      simp only [if_true]
      split
      · rename_i hlt
        refine iff_of_true ⟨_, rfl⟩ ⟨hc, hrequired, fun p hp => ?_⟩
        rw [← requiredBefore?_eq_some h, hbefore, Option.some.injEq] at hp
        rwa [← hp]
      · rename_i hlt
        refine iff_of_false (by simp) fun hbreaks => hlt (hbreaks.stricter previous hprevious)

/-- A reason starts with the name of its capability and goes on after a blank. -/
theorem reason_of_breakReason {reason : String} (h : breakReason base c = some reason) :
    ∃ rest cs, reason = "required capability " ++ c.name.val ++ rest ∧ rest.toList = ' ' :: cs := by
  rw [breakReason] at h
  split at h
  · split at h
    · cases h
      exact ⟨" was introduced", _, rfl, rfl⟩
    · split at h
      · cases h
        exact ⟨_, _, rfl, by rw [String.toList_append, String.toList_append, String.toList_append]; rfl⟩
      · cases h
  · cases h

theorem breakReason_lt_iff {c' : CapabilityRequirement} {reason reason' : String}
    (h : breakReason base c = some reason) (h' : breakReason base c' = some reason')
    (hne : c.name ≠ c'.name) : reason < reason' ↔ c.name.val < c'.name.val := by
  obtain ⟨rest, cs, rfl, hrest⟩ := reason_of_breakReason h
  obtain ⟨rest', cs', rfl, hrest'⟩ := reason_of_breakReason h'
  exact sentence_lt_iff c.name.wordAfter c'.name.wordAfter (fun heq => hne (Subtype.ext heq))
    hrest hrest'

/-- The breaks come in one order by entity id and by capability name. -/
def BreaksOrdered (base final : BehaviorIR) : Prop :=
  ∀ c c', Breaks base final c → Breaks base final c' → c.id.val < c'.id.val →
    c.name.val < c'.name.val

/-- The name and the versions of a capability whose version is raised fit a reason. -/
def IncreasesFit (base final : BehaviorIR) : Prop :=
  ∀ c previous, Breaks base final c → RequiredBefore base c previous →
    c.name.val.length + previous.minimumVersion.val.length + c.minimumVersion.val.length ≤ 1992

theorem breakReasons_pairwise_iff (hbase : base.WellFormed) (hfinal : final.WellFormed) :
    (breakReasons base final).Pairwise (· < ·) ↔ BreaksOrdered base final := by
  have hids : (final.capabilities.map fun c => c.id.val).Nodup := by
    have h := hfinal.capability_ids.map Subtype.val_injective
    rwa [List.map_map] at h
  have hsorted := sortedKeys_sortedBy hids
  rw [breakReasons, List.pairwise_filterMap, hsorted.pairwise_iff]
  simp only [mem_sortedBy]
  have hnames : ∀ c ∈ final.capabilities, ∀ c' ∈ final.capabilities, c.id.val < c'.id.val →
      c.name ≠ c'.name := by
    intro c hc c' hc' hlt heq
    rw [List.inj_on_of_nodup_map hfinal.capability_names hc hc' heq] at hlt
    exact lt_irrefl _ hlt
  constructor
  · intro h c c' hbreaks hbreaks' hlt
    obtain ⟨reason, hreason⟩ := (breakReason_isSome hbase hbreaks.mem).mpr hbreaks
    obtain ⟨reason', hreason'⟩ := (breakReason_isSome hbase hbreaks'.mem).mpr hbreaks'
    rw [← breakReason_lt_iff hreason hreason' (hnames c hbreaks.mem c' hbreaks'.mem hlt)]
    exact h c hbreaks.mem c' hbreaks'.mem hlt _ hreason _ hreason'
  · intro h c hc c' hc' hlt reason hreason reason' hreason'
    rw [breakReason_lt_iff hreason hreason' (hnames c hc c' hc' hlt)]
    exact h c c' ((breakReason_isSome hbase hc).mp ⟨_, hreason⟩)
      ((breakReason_isSome hbase hc').mp ⟨_, hreason'⟩) hlt

theorem QualifiedName.length_le (name : QualifiedName) : name.val.length ≤ 255 := by
  have h := length_of_stringConstraints name.property
  rwa [String.length_toList] at h

theorem length_between {start stop s : String} {m n : Nat} (hstart : start.length = m)
    (hstop : stop.length = n) : (start ++ s ++ stop).length = s.length + (m + n) := by
  rw [String.length_append, String.length_append, hstart, hstop]
  omega

theorem length_introducedReason : (introducedReason c).length = c.name.val.length + 35 :=
  length_between rfl rfl

theorem length_increasedReason : (increasedReason c previous).length =
    c.name.val.length + previous.minimumVersion.val.length + c.minimumVersion.val.length + 56 := by
  have hversions : (" minimum version increased from " ++ previous.minimumVersion.val ++ " to " ++
      c.minimumVersion.val).length =
        previous.minimumVersion.val.length + (32 + 4) + c.minimumVersion.val.length := by
    rw [String.length_append,
      @length_between " minimum version increased from " " to " _ 32 4 rfl rfl]
  have hlength := @length_between "required capability " _ c.name.val 20 _ rfl hversions
  refine hlength.trans ?_
  clear hversions hlength
  omega

theorem breakReasons_fit_iff (hbase : base.WellFormed) :
    (∀ reason ∈ breakReasons base final,
      1 ≤ reason.toList.length ∧ reason.toList.length ≤ 2048) ↔ IncreasesFit base final := by
  simp only [breakReasons, List.mem_filterMap, mem_sortedBy, String.length_toList]
  constructor
  · intro h c previous hbreaks hprevious
    have hreason : breakReason base c = some (increasedReason c previous) := by
      simp [breakReason, hbreaks.required, (requiredBefore?_eq_some hbase).mpr hprevious,
        hbreaks.stricter previous hprevious]
    have hle := (h _ ⟨c, hbreaks.mem, hreason⟩).2
    rw [length_increasedReason] at hle
    omega
  · rintro h reason ⟨c, hc, hreason⟩
    have hbreaks := (breakReason_isSome hbase hc).mp ⟨_, hreason⟩
    rw [breakReason, if_pos hbreaks.required] at hreason
    have hname := c.name.length_le
    split at hreason
    · cases hreason
      rw [length_introducedReason]
      omega
    · rename_i previous hbefore
      split at hreason
      · cases hreason
        have hfit := h c previous hbreaks ((requiredBefore?_eq_some hbase).mp hbefore)
        rw [length_increasedReason]
        omega
      · cases hreason

/-! ### Lost roots -/

theorem refKey_lt_iff {root root' : EntityRef} : refKey root < refKey root' ↔
    root.targetKind.value < root'.targetKind.value ∨
      root.targetKind.value = root'.targetKind.value ∧ root.targetId.val < root'.targetId.val := by
  rw [refKey, refKey, Prod.Lex.toLex_lt_toLex]

/-- The order of kinds and ids is that of the texts with a colon between them. -/
theorem lostRootReason_lt {root root' : EntityRef} (h : refKey root < refKey root') :
    lostRootReason root < lostRootReason root' := by
  have hassoc : ∀ root : EntityRef, lostRootReason root =
      "base root " ++ root.targetKind.value ++
        (":" ++ root.targetId.val ++ " is not a final root") := by
    intro root
    simp only [lostRootReason, String.append_assoc]
  rw [hassoc, hassoc]
  rcases refKey_lt_iff.mp h with hkind | ⟨hkind, hid⟩
  · have hcolon : ∀ s : String, (":" ++ s ++ " is not a final root").toList =
        ':' :: (s ++ " is not a final root").toList := by
      intro s
      rw [String.append_assoc, String.toList_append]
      rfl
    exact (sentence_lt_iff root.targetKind.wordAfter root'.targetKind.wordAfter hkind.ne
      (hcolon _) (hcolon _)).mpr hkind
  · rw [hkind, prefix_lt_prefix_iff]
    exact (sentence_lt_iff root.targetId.wordAfter root'.targetId.wordAfter hid.ne rfl rfl).mpr hid

/-- The roots of the base document that the final one lacks. -/
def lostRoots (base final : BehaviorIR) : List EntityRef :=
  sortedBy refKey (base.canonical.roots.dedup.filter fun root => root ∉ final.canonical.roots)

theorem mem_lostRoots {root : EntityRef} :
    root ∈ lostRoots base final ↔ root ∈ base.roots ∧ root ∉ final.roots := by
  simp [lostRoots, BehaviorIR.mem_canonical_roots]

theorem lostRootReasons_sorted :
    ((lostRoots base final).map lostRootReason).Pairwise (· < ·) := by
  have hnodup : ((base.canonical.roots.dedup.filter fun root =>
      root ∉ final.canonical.roots).map refKey).Nodup :=
    ((List.nodup_dedup _).filter _).map refKey_injective
  exact List.pairwise_map.mpr ((sortedKeys_sortedBy hnodup).imp lostRootReason_lt)

theorem lostRootReason_fits (root : EntityRef) :
    1 ≤ (lostRootReason root).toList.length ∧ (lostRootReason root).toList.length ≤ 2048 := by
  have hkind : root.targetKind.value.length ≤ 32 := by cases root.targetKind <;> decide
  have hid := length_of_stringConstraints root.targetId.property
  have hroot : (root.targetKind.value ++ ":" ++ root.targetId.val).length =
      root.targetKind.value.length + 1 + root.targetId.val.length := by
    rw [String.length_append, String.length_append]
    rfl
  rw [String.length_toList] at hid
  rw [String.length_toList, lostRootReason, length_between (m := 10) (n := 20) rfl rfl, hroot]
  omega

/-! ### The classification -/

theorem breakReasons_ne_nil_iff (hbase : base.WellFormed) :
    breakReasons base final ≠ [] ↔ ∃ c, Breaks base final c := by
  rw [breakReasons, Ne, List.filterMap_eq_nil_iff]
  simp only [mem_sortedBy, not_forall, exists_prop]
  constructor
  · rintro ⟨c, hc, hne⟩
    exact ⟨c, (breakReason_isSome hbase hc).mp (Option.ne_none_iff_exists'.mp hne)⟩
  · rintro ⟨c, hbreaks⟩
    exact ⟨c, hbreaks.mem,
      Option.ne_none_iff_exists'.mpr ((breakReason_isSome hbase hbreaks.mem).mpr hbreaks)⟩

/-- Every definition of the base document is one of the final document. -/
def DefinitionsKept (base final : BehaviorIR) : Prop :=
  ∀ key entity, base.definition? key = some entity → final.definition? key = some entity

/-- The base document has no root that the final one lacks. -/
def RootsKept (base final : BehaviorIR) : Prop := ∀ root ∈ base.roots, root ∈ final.roots

theorem definitionsKept_iff (hbase : base.WellFormed) (hfinal : final.WellFormed) :
    ((canonicalEntitiesAndRoots base).1.items.all fun item =>
      (canonicalEntitiesAndRoots final).1.get? item.1 = some item.2) = true ↔
      DefinitionsKept base final := by
  rw [List.all_eq_true]
  simp only [decide_eq_true_eq, Prod.forall, ← Dict.get?_eq_some, hbase.get?_canonicalEntities,
    hfinal.get?_canonicalEntities]
  constructor
  · intro h key entity hentity
    have hdump := h key (modelDump entity) (by rw [hentity, Option.map_some])
    rw [← Option.map_some (f := modelDump) (a := entity), map_modelDump_inj] at hdump
    exact hdump
  · intro h key value hvalue
    obtain ⟨entity, hentity, rfl⟩ := Option.map_eq_some_iff.mp hvalue
    rw [h key entity hentity, Option.map_some]

/-- The ways in which the classification returns. -/
inductive Verdict (base final : BehaviorIR) (a : CompatibilityAssessment) : Prop
  | lostRoot (hlost : ¬RootsKept base final) (houtcome : a.outcome = .breaking)
      (hprofile : a.profile = .breakingBaseRootContract)
      (htexts : a.texts = (lostRoots base final).map lostRootReason)
  | breaks (hkept : RootsKept base final) (hreadable : VersionsReadable base final)
      (hbreaks : breakReasons base final ≠ []) (houtcome : a.outcome = .breaking)
      (hprofile : a.profile = .breakingRequiredCapability)
      (htexts : a.texts = breakReasons base final)
  | compatible (hkept : RootsKept base final) (hreadable : VersionsReadable base final)
      (hbreaks : breakReasons base final = []) (hdefinitions : DefinitionsKept base final)
      (houtcome : a.outcome = .compatible) (hprofile : a.profile = .backwardCompatibleGraphExtension)
      (htexts : a.texts = ["every base entity and root remains byte-exact"])
  | unresolved (hkept : RootsKept base final) (hreadable : VersionsReadable base final)
      (hbreaks : breakReasons base final = []) (hdefinitions : ¬DefinitionsKept base final)
      (houtcome : a.outcome = .unresolved) (hprofile : a.profile = .compatibilityUnresolved)
      (htexts : a.texts = ["existing behavior changed outside the narrow structural profile"])

theorem lostRoots_eq_nil_iff : lostRoots base final = [] ↔ RootsKept base final := by
  rw [List.eq_nil_iff_forall_not_mem]
  simp only [mem_lostRoots, not_and, not_not, RootsKept]

theorem compatibilityOf_of_lost (h : ¬RootsKept base final) :
    compatibilityOf base final = CompatibilityAssessment.make .breaking .breakingBaseRootContract
      ((lostRoots base final).map lostRootReason) := by
  rw [← lostRoots_eq_nil_iff] at h
  exact if_pos h

theorem compatibilityOf_of_kept (h : RootsKept base final) :
    compatibilityOf base final =
      (requiredCapabilityBreaks base final).mapError ClassifyError.version >>= fun breaks =>
        if breaks ≠ [] then
          CompatibilityAssessment.make .breaking .breakingRequiredCapability breaks
        else if (canonicalEntitiesAndRoots base).1.items.all fun item =>
            (canonicalEntitiesAndRoots final).1.get? item.1 = some item.2 then
          CompatibilityAssessment.make .compatible .backwardCompatibleGraphExtension
            ["every base entity and root remains byte-exact"]
        else CompatibilityAssessment.make .unresolved .compatibilityUnresolved
          ["existing behavior changed outside the narrow structural profile"] := by
  rw [← lostRoots_eq_nil_iff] at h
  exact if_neg (not_not.mpr h)

theorem compatibilityOf_eq_ok (hbase : base.WellFormed) (hfinal : final.WellFormed)
    {a : CompatibilityAssessment} : compatibilityOf base final = .ok a ↔ Verdict base final a := by
  constructor
  · intro h
    by_cases hkept : RootsKept base final
    · simp only [compatibilityOf_of_kept hkept, bind_eq_ok, mapError_eq_ok,
        requiredCapabilityBreaks_eq_ok hbase hfinal] at h
      obtain ⟨_, ⟨hreadable, rfl⟩, h⟩ := h
      split at h
      · obtain ⟨houtcome, hprofile, htexts⟩ := CompatibilityAssessment.make_eq_ok.mp h
        exact .breaks hkept hreadable ‹_› houtcome hprofile htexts
      · rename_i hbreaks
        split at h
        · obtain ⟨houtcome, hprofile, htexts⟩ := CompatibilityAssessment.make_eq_ok.mp h
          exact .compatible hkept hreadable (not_not.mp hbreaks)
            ((definitionsKept_iff hbase hfinal).mp ‹_›) houtcome hprofile htexts
        · obtain ⟨houtcome, hprofile, htexts⟩ := CompatibilityAssessment.make_eq_ok.mp h
          exact .unresolved hkept hreadable (not_not.mp hbreaks)
            (fun hdefinitions => ‹¬_› ((definitionsKept_iff hbase hfinal).mpr hdefinitions))
            houtcome hprofile htexts
    · rw [compatibilityOf_of_lost hkept, CompatibilityAssessment.make_eq_ok] at h
      exact .lostRoot hkept h.1 h.2.1 h.2.2
  · rintro (⟨hlost, houtcome, hprofile, htexts⟩ | ⟨hkept, hreadable, hbreaks, houtcome, hprofile, htexts⟩ |
      ⟨hkept, hreadable, hbreaks, hdefinitions, houtcome, hprofile, htexts⟩ |
      ⟨hkept, hreadable, hbreaks, hdefinitions, houtcome, hprofile, htexts⟩)
    · rw [compatibilityOf_of_lost hlost, CompatibilityAssessment.make_eq_ok]
      exact ⟨houtcome, hprofile, htexts⟩
    all_goals
      have hmade := CompatibilityAssessment.make_eq_ok.mpr ⟨houtcome, hprofile, htexts⟩
      simp only [compatibilityOf_of_kept hkept, bind_eq_ok, mapError_eq_ok,
        requiredCapabilityBreaks_eq_ok hbase hfinal]
      refine ⟨_, ⟨hreadable, rfl⟩, ?_⟩
    · exact (if_pos hbreaks).trans hmade
    · have hall := (definitionsKept_iff hbase hfinal).mpr hdefinitions
      exact (if_neg (not_not.mpr hbreaks)).trans ((if_pos hall).trans hmade)
    · have hall := (definitionsKept_iff hbase hfinal).not.mpr hdefinitions
      exact (if_neg (not_not.mpr hbreaks)).trans ((if_neg hall).trans hmade)

end Breaks

end Ucf
