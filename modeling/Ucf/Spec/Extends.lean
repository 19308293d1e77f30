import Mathlib.Logic.Relation
import Ucf.Spec.Validator

/-! Validation against composition: what the validator reports about an `extends` chain, and what
flattening raises on it. -/

namespace Ucf.Spec

open Relation

variable {r : SpecRegistry} {uc parent : UseCaseSpec} {ancestors : List UseCaseSpec}

/-! ### Faults of a chain -/

/-- `extends` names no use case. -/
def Unresolved (r : SpecRegistry) (uc : UseCaseSpec) : Prop :=
  ∃ ref, uc.extends_ = some ref ∧ ref ≠ "" ∧
    ∀ parent, r.resolveRef (parentRef ref) ≠ some (.usecase parent)

/-- The chain runs into a cycle, which may leave out the use case itself. -/
def Circular (r : SpecRegistry) (uc : UseCaseSpec) : Prop :=
  ∃ ancestor, ReflTransGen (Extends r) uc ancestor ∧ TransGen (Extends r) ancestor ancestor

/-- The use case shares a step id with its direct parent. -/
def Clashing (r : SpecRegistry) (uc : UseCaseSpec) : Prop :=
  ∃ parent, Extends r uc parent ∧ ∃ id ∈ parent.stepIds, id ∈ uc.stepIds

/-- The use case shares a step id with an ancestor beyond its parent. -/
def ClashingAbove (r : SpecRegistry) (uc : UseCaseSpec) : Prop :=
  ∃ parent ancestor, Extends r uc parent ∧ TransGen (Extends r) parent ancestor ∧
    ∃ id ∈ ancestor.stepIds, id ∈ uc.stepIds

/-- A fault that both sides look for. -/
def Faulty (r : SpecRegistry) : Prop :=
  ∃ uc ∈ r.usecases, Unresolved r uc ∨ Circular r uc ∨ Clashing r uc

/-- A fault that only flattening meets: an empty `extends`, or a step id of a farther ancestor. -/
def HiddenFault (r : SpecRegistry) : Prop :=
  ∃ uc ∈ r.usecases, uc.extends_ = some "" ∨ ClashingAbove r uc

theorem Extends.unique {parent' : UseCaseSpec} (h : Extends r uc parent) (h' : Extends r uc parent') :
    parent = parent' := by
  obtain ⟨ref, href, hres⟩ := h
  obtain ⟨ref', href', hres'⟩ := h'
  rw [href, Option.some.injEq] at href'
  subst href'
  rw [hres, Option.some.injEq, AnySpec.usecase.injEq] at hres'
  exact hres'

theorem Extends.mem_usecases (h : Extends r uc parent) : parent ∈ r.usecases := by
  obtain ⟨ref, -, hres⟩ := h
  exact mem_usecases_of_resolveParent (resolveParent_eq_ok.mpr hres)

theorem parentRef_empty : r.resolveRef (parentRef "") = none :=
  SpecRegistry.resolveRef_of_no_slash (by decide)

theorem Extends.ref_ne_empty {ref : String} (h : Extends r uc parent) (href : uc.extends_ = some ref) :
    ref ≠ "" := by
  obtain ⟨ref', href', hres⟩ := h
  rw [href, Option.some.injEq] at href'
  subst href'
  rintro rfl
  rw [parentRef_empty] at hres
  cases hres

theorem mem_usecases_of_transGen {ancestor : UseCaseSpec} (h : TransGen (Extends r) uc ancestor) :
    ancestor ∈ r.usecases := by
  cases h with
  | single h => exact h.mem_usecases
  | tail _ h => exact h.mem_usecases

/-- A cycle above a use case is a cycle above its parent. -/
theorem Circular.above (h : Circular r uc) (hext : Extends r uc parent) : Circular r parent := by
  obtain ⟨ancestor, hreach, hcycle⟩ := h
  rcases ReflTransGen.cases_head hreach with rfl | ⟨parent', hext', hreach⟩
  · obtain ⟨parent', hext', hback⟩ := TransGen.head'_iff.mp hcycle
    obtain rfl := hext.unique hext'
    exact ⟨parent, .refl, TransGen.tail' hback hext⟩
  · obtain rfl := hext.unique hext'
    exact ⟨ancestor, hreach, hcycle⟩

theorem Circular.exists_parent (h : Circular r uc) : ∃ parent, Extends r uc parent := by
  obtain ⟨ancestor, hreach, hcycle⟩ := h
  rcases ReflTransGen.cases_head hreach with rfl | ⟨parent, hext, -⟩
  · obtain ⟨parent, hext, -⟩ := TransGen.head'_iff.mp hcycle
    exact ⟨parent, hext⟩
  · exact ⟨parent, hext⟩

/-! ### The chain of a use case -/

theorem ExtendsChain.mem_iff (h : ExtendsChain r uc ancestors) {ancestor : UseCaseSpec} :
    ancestor ∈ ancestors ↔ TransGen (Extends r) uc ancestor := by
  induction h with
  | root hroot =>
    simp only [List.not_mem_nil, false_iff]
    intro hreach
    obtain ⟨_, ⟨ref, href, -⟩, -⟩ := TransGen.head'_iff.mp hreach
    rw [hroot] at href
    cases href
  | @extend uc parent ancestors hext hchain ih =>
    rw [List.mem_cons, ih]
    constructor
    · rintro (rfl | hreach)
      · exact .single hext
      · exact .head hext hreach
    · intro hreach
      obtain ⟨parent', hext', hreach⟩ := TransGen.head'_iff.mp hreach
      obtain rfl := hext.unique hext'
      rcases reflTransGen_iff_eq_or_transGen.mp hreach with rfl | hreach
      · exact Or.inl rfl
      · exact Or.inr hreach

theorem ExtendsChain.not_circular (h : ExtendsChain r uc ancestors) : ¬Circular r uc := by
  induction h with
  | root hroot =>
    intro hcircular
    obtain ⟨_, ref, href, -⟩ := hcircular.exists_parent
    rw [hroot] at href
    cases href
  | extend hext _ ih => exact fun hcircular => ih (hcircular.above hext)

theorem ExtendsChain.nodup (h : ExtendsChain r uc ancestors) (huc : uc ∈ r.usecases) :
    ((uc :: ancestors).map UseCaseSpec.name).Nodup := by
  induction h with
  | root => simp
  | @extend uc parent ancestors hext hchain ih =>
    rw [List.map_cons, List.nodup_cons]
    refine ⟨?_, ih hext.mem_usecases⟩
    intro hmem
    obtain ⟨ancestor, hancestor, hname⟩ := List.mem_map.mp hmem
    have hreach := (ExtendsChain.extend hext hchain).mem_iff.mp hancestor
    obtain rfl := SpecRegistry.usecase_eq_of_name (mem_usecases_of_transGen hreach) huc hname
    exact (ExtendsChain.extend hext hchain).not_circular ⟨ancestor, .refl, hreach⟩

theorem ExtendsChain.stepsApart_iff (h : ExtendsChain r uc ancestors) :
    StepsApart (uc :: ancestors) ↔
      ∀ member ∈ uc :: ancestors, ¬Clashing r member ∧ ¬ClashingAbove r member := by
  induction h with
  | root hroot =>
    refine ⟨fun _ => ?_, fun _ => by simp [StepsApart]⟩
    simp [Clashing, ClashingAbove, Extends, hroot]
  | @extend uc parent ancestors hext hchain ih =>
    have hfull := ExtendsChain.extend hext hchain
    rw [StepsApart, List.pairwise_cons, ← StepsApart, ih, List.forall_mem_cons (a := uc)]
    refine and_congr_left fun _ => ?_
    simp only [hfull.mem_iff]
    constructor
    · intro hapart
      constructor
      · rintro ⟨parent', hext', id, hid, hin⟩
        exact hapart parent' (.single hext') id hid hin
      · rintro ⟨parent', ancestor, hext', hreach, id, hid, hin⟩
        exact hapart ancestor (.head hext' hreach) id hid hin
    · rintro ⟨hclash, habove⟩ ancestor hreach id hid hin
      obtain ⟨parent', hext', hreach⟩ := TransGen.head'_iff.mp hreach
      rcases reflTransGen_iff_eq_or_transGen.mp hreach with rfl | hreach
      · exact hclash ⟨ancestor, hext', id, hid, hin⟩
      · exact habove ⟨parent', ancestor, hext', hreach, id, hid, hin⟩

/-! ### The validator -/

section Validator

variable [ReprStrings] [SetOrder]

omit [ReprStrings] [SetOrder] in
/-- Where the walk finds no name twice, the chain comes to an end or to a reference that resolves to
no use case. -/
theorem not_circular_of_walkExtends {visited : List String}
    {current : {uc : UseCaseSpec // uc ∈ r.usecases}} (h : walkExtends r visited current = none) :
    ¬Circular r current.val := by
  induction visited, current using walkExtends.induct r with
  | case1 visited current hroot =>
    intro hcircular
    obtain ⟨_, ref, href, -⟩ := hcircular.exists_parent
    rw [hroot] at href
    cases href
  | case2 visited current hempty =>
    intro hcircular
    obtain ⟨_, hext⟩ := hcircular.exists_parent
    exact hext.ref_ne_empty hempty rfl
  | case3 visited current ref href hne hname =>
    rw [walkExtends, href] at h
    simp [hne, hname] at h
  | case4 visited current ref href hne hname next hnext ih =>
    rw [walkExtends, href] at h
    simp only [hne, hname, if_false, dite_false] at h
    split at h
    · rename_i next' hnext'
      rw [hnext, Except.ok.injEq] at hnext'
      subst hnext'
      exact fun hcircular => ih h (hcircular.above ⟨ref, href, resolveParent_eq_ok.mp hnext⟩)
    · rename_i e he
      rw [hnext] at he
      cases he
  | case5 visited current ref href hne hname e he =>
    rintro hcircular
    obtain ⟨parent, ref', href', hres⟩ := hcircular.exists_parent
    rw [href, Option.some.injEq] at href'
    subst href'
    rw [resolveParent_eq_ok.mpr hres] at he
    cases he

omit [ReprStrings] [SetOrder] in
/-- A name that the walk finds twice is that of a use case which extends itself: each visited name
is of a use case from which the current one is reached. -/
theorem circular_of_walkExtends {visited : List String}
    {current : {uc : UseCaseSpec // uc ∈ r.usecases}} {found : List String × String}
    (h : walkExtends r visited current = some found)
    (hvisited : ∀ name ∈ visited, ∃ uc ∈ r.usecases, uc.name = name ∧
      TransGen (Extends r) uc current.val) : Circular r current.val := by
  induction visited, current using walkExtends.induct r with
  | case1 visited current hroot =>
    rw [walkExtends, hroot] at h
    cases h
  | case2 visited current hempty =>
    rw [walkExtends, hempty] at h
    simp at h
  | case3 visited current ref href hne hname =>
    obtain ⟨uc, huc, heq, hreach⟩ := hvisited _ hname
    obtain rfl := SpecRegistry.usecase_eq_of_name huc current.property heq
    exact ⟨_, .refl, hreach⟩
  | case4 visited current ref href hne hname next hnext ih =>
    have hext : Extends r current.val next := ⟨ref, href, resolveParent_eq_ok.mp hnext⟩
    rw [walkExtends, href] at h
    simp only [hne, hname, if_false, dite_false] at h
    split at h
    · rename_i next' hnext'
      rw [hnext, Except.ok.injEq] at hnext'
      subst hnext'
      obtain ⟨ancestor, hreach, hcycle⟩ := ih h (by
        intro name hmem
        rw [List.mem_append, List.mem_singleton] at hmem
        rcases hmem with hmem | rfl
        · obtain ⟨uc, huc, heq, hreach⟩ := hvisited name hmem
          exact ⟨uc, huc, heq, hreach.tail hext⟩
        · exact ⟨current.val, current.property, rfl, .single hext⟩)
      exact ⟨ancestor, .head hext hreach, hcycle⟩
    · cases h
  | case5 visited current ref href hne hname e he =>
    rw [walkExtends, href] at h
    simp only [hne, hname, if_false, dite_false] at h
    split at h
    · rename_i next hnext
      rw [he] at hnext
      cases hnext
    · cases h

theorem validateExtends_ne_nil_of_parent {ref : String} (href : uc.extends_ = some ref)
    (hext : Extends r uc parent) (huc : uc ∈ r.usecases) : validateExtends r uc ≠ [] ↔
      Circular r uc ∨ Clashing r uc := by
  have hclash : Clashing r uc ↔ stepClash parent uc ≠ [] := by
    rw [Ne, stepClash_eq_nil]
    push Not
    constructor
    · rintro ⟨parent', hext', hid⟩
      obtain rfl := hext.unique hext'
      exact hid
    · exact fun hid => ⟨parent, hext, hid⟩
  have hresolved : resolveParent r ref = .ok parent := by
    obtain ⟨ref', href', hres⟩ := hext
    rw [href, Option.some.injEq] at href'
    exact href' ▸ resolveParent_eq_ok.mpr hres
  rw [validateExtends, href]
  simp only [hext.ref_ne_empty href, if_false, resolveParent_eq_ok.mp hresolved]
  split
  · rename_i e he
    rw [hresolved] at he
    cases he
  · rename_i parent' hparent'
    obtain rfl : parent = parent' := Except.ok.inj (hresolved.symm.trans hparent')
    split
    · rename_i visited name hwalk
      obtain ⟨ancestor, hreach, hcycle⟩ := circular_of_walkExtends hwalk (by
        intro name hmem
        rw [List.mem_singleton] at hmem
        exact ⟨uc, huc, hmem.symm, .single hext⟩)
      simp only [ne_eq, List.cons_ne_nil, not_false_eq_true, true_iff]
      exact Or.inl ⟨ancestor, .head hext hreach, hcycle⟩
    · rename_i hwalk
      have hnot : ¬Circular r uc := fun hcircular =>
        not_circular_of_walkExtends hwalk (hcircular.above hext)
      rw [hclash]
      simp [hnot]

/-- `_validate_extends` reports something exactly on a chain with a fault that it looks for. -/
theorem validateExtends_ne_nil (huc : uc ∈ r.usecases) : validateExtends r uc ≠ [] ↔
    Unresolved r uc ∨ Circular r uc ∨ Clashing r uc := by
  by_cases hext : ∃ parent, Extends r uc parent
  · obtain ⟨parent, ref, href, hres⟩ := hext
    rw [validateExtends_ne_nil_of_parent href ⟨ref, href, hres⟩ huc]
    have hresolves : ¬Unresolved r uc := by
      rintro ⟨ref', href', -, hnone⟩
      rw [href, Option.some.injEq] at href'
      exact hnone parent (href' ▸ hres)
    simp [hresolves]
  · have hcircular : ¬Circular r uc := fun h => hext h.exists_parent
    have hclash : ¬Clashing r uc := fun ⟨parent, h, _⟩ => hext ⟨parent, h⟩
    rw [or_iff_left hclash, or_iff_left hcircular, validateExtends]
    cases href : uc.extends_ with
    | none => simp [Unresolved, href]
    | some ref =>
      have hnone : ∀ parent, r.resolveRef (parentRef ref) ≠ some (.usecase parent) :=
        fun parent hres => hext ⟨parent, ref, href, hres⟩
      by_cases hempty : ref = ""
      · simp [Unresolved, href, hempty]
      · have hunresolved : Unresolved r uc := ⟨ref, href, hempty, hnone⟩
        simp only [hempty, if_false, iff_true_intro hunresolved, iff_true]
        split
        · simp
        · split
          · simp
          · rename_i parent hparent
            exact absurd (resolveParent_eq_ok.mp hparent) (hnone parent)

/-! ### Issues about `extends` -/

/-- How the messages of `_validate_extends` begin. -/
def extendsMessages : List String :=
  ["extends reference '", "circular extends chain detected: ", "step IDs conflict with parent: "]

/-- An error about some use case's `extends`. -/
def ValidationIssue.IsExtendsError (issue : ValidationIssue) : Prop :=
  issue.severity = .error ∧ ∃ text ∈ extendsMessages, text.toList <+: issue.message.toList

/-- No issue of the list is about `extends`. -/
def NoneAboutExtends (issues : List ValidationIssue) : Prop :=
  ∀ issue ∈ issues, ¬issue.IsExtendsError

omit [ReprStrings] [SetOrder] in
theorem noneAboutExtends_append {xs ys : List ValidationIssue} :
    NoneAboutExtends (xs ++ ys) ↔ NoneAboutExtends xs ∧ NoneAboutExtends ys := by
  simp only [NoneAboutExtends, List.forall_mem_append]

omit [ReprStrings] [SetOrder] in
theorem noneAboutExtends_flatMap {α : Type} {xs : List α} {f : α → List ValidationIssue}
    (h : ∀ a, NoneAboutExtends (f a)) : NoneAboutExtends (xs.flatMap f) := by
  intro issue hissue
  obtain ⟨a, -, ha⟩ := List.mem_flatMap.mp hissue
  exact h a issue ha

omit [ReprStrings] [SetOrder] in
theorem noneAboutExtends_nil : NoneAboutExtends [] := by
  simp [NoneAboutExtends]

theorem isExtendsError_of_mem_validateExtends {issue : ValidationIssue}
    (h : issue ∈ validateExtends r uc) : issue.IsExtendsError := by
  rw [validateExtends] at h
  repeat' split at h
  all_goals
    simp only [List.mem_singleton, List.not_mem_nil] at h
    try subst h
    try simp [ValidationIssue.IsExtendsError, extendsMessages]

omit [ReprStrings] [SetOrder] in
/-- The relationships that references are checked under. -/
theorem noneAboutExtends_identityRef {ref specName relationship : String} {expected : List Kind}
    (h : relationship ∈ ["step", "trigger", "requires", "invariant", "emits", "implementation",
      "applies_to.action", "applies_to.usecase"]) :
    NoneAboutExtends (validateIdentityRef r ref specName relationship expected) := by
  intro issue hissue
  rw [validateIdentityRef] at hissue
  simp only [List.mem_cons, List.not_mem_nil, or_false] at h
  split at hissue
  · rw [List.mem_singleton] at hissue
    subst hissue
    rcases h with rfl | rfl | rfl | rfl | rfl | rfl | rfl | rfl
    all_goals simp [ValidationIssue.IsExtendsError, extendsMessages]
  · split at hissue
    · cases hissue
    · rw [List.mem_singleton] at hissue
      subst hissue
      rcases h with rfl | rfl | rfl | rfl | rfl | rfl | rfl | rfl
      all_goals simp [ValidationIssue.IsExtendsError, extendsMessages]

omit [ReprStrings] [SetOrder] in
theorem noneAboutExtends_stepRef {use specName : String} :
    NoneAboutExtends (validateStepRef r use specName) := by
  rw [validateStepRef]
  split
  · simp [NoneAboutExtends, ValidationIssue.IsExtendsError, extendsMessages]
  · exact noneAboutExtends_identityRef (by simp)

omit [ReprStrings] [SetOrder] in
theorem noneAboutExtends_dependsOn {step : StepDef} {ids : List String} {specName text : String} :
    NoneAboutExtends (validateDependsOn step ids specName text) := by
  intro issue hissue
  obtain ⟨dep, -, rfl⟩ := List.mem_map.mp hissue
  simp [ValidationIssue.IsExtendsError, extendsMessages]

omit [ReprStrings] [SetOrder] in
theorem noneAboutExtends_duplicateStepIds {specName : String} {seen : List String}
    {steps : List StepDef} : NoneAboutExtends (duplicateStepIds specName seen steps) := by
  induction steps generalizing seen with
  | nil => exact noneAboutExtends_nil
  | cons step steps ih =>
    rw [duplicateStepIds, noneAboutExtends_append]
    refine ⟨?_, ih⟩
    split
    · simp [NoneAboutExtends, ValidationIssue.IsExtendsError, extendsMessages]
    · exact noneAboutExtends_nil

omit [ReprStrings] [SetOrder] in
theorem noneAboutExtends_ite {p : Prop} [Decidable p] {issue : ValidationIssue}
    (h : ¬issue.IsExtendsError) : NoneAboutExtends (if p then [issue] else []) := by
  split
  · simpa [NoneAboutExtends] using h
  · exact noneAboutExtends_nil

/-- Of the issues of a use case, those about `extends` are those of `_validate_extends`. -/
theorem mem_validateExtends_of_validateUsecase {issue : ValidationIssue}
    (h : issue ∈ validateUsecase r uc) (habout : issue.IsExtendsError) :
    issue ∈ validateExtends r uc := by
  have hsteps : NoneAboutExtends (uc.steps.flatMap fun step =>
      validateStepRef r step.use uc.name ++ validateDependsOn step uc.stepIds uc.name "") :=
    noneAboutExtends_flatMap fun step =>
      noneAboutExtends_append.mpr ⟨noneAboutExtends_stepRef, noneAboutExtends_dependsOn⟩
  have hrequires : NoneAboutExtends (uc.requires.flatMap fun requirement =>
      validateIdentityRef r requirement.ref uc.name "requires" [.component]) :=
    noneAboutExtends_flatMap fun requirement => noneAboutExtends_identityRef (by simp)
  have hflows : NoneAboutExtends (uc.alternativeFlows.flatMap fun alt =>
      alt.steps.flatMap fun step => validateStepRef r step.use uc.name ++
        validateDependsOn step (uc.stepIds ++ alt.steps.map StepDef.id) uc.name
          (" in alternative flow '" ++ alt.name ++ "'")) :=
    noneAboutExtends_flatMap fun alt => noneAboutExtends_flatMap fun step =>
      noneAboutExtends_append.mpr ⟨noneAboutExtends_stepRef, noneAboutExtends_dependsOn⟩
  have hinvariants : NoneAboutExtends (uc.invariants.flatMap fun binding =>
      validateIdentityRef r (invariantReference binding) uc.name "invariant" [.invariant]) :=
    noneAboutExtends_flatMap fun binding => noneAboutExtends_identityRef (by simp)
  simp only [validateUsecase, List.mem_append] at h
  rcases h with (((((((h | h) | h) | h) | h) | h) | h) | h) | h
  · exact h
  · split at h
    · split at h
      · exact absurd habout (noneAboutExtends_identityRef (by simp) issue h)
      · cases h
    · cases h
  · exact absurd habout (noneAboutExtends_ite
      (by simp [ValidationIssue.IsExtendsError, extendsMessages]) issue h)
  · exact absurd habout (noneAboutExtends_ite
      (by simp [ValidationIssue.IsExtendsError, extendsMessages]) issue h)
  · exact absurd habout (noneAboutExtends_duplicateStepIds issue h)
  · exact absurd habout (hsteps issue h)
  · exact absurd habout (hrequires issue h)
  · exact absurd habout (hflows issue h)
  · exact absurd habout (hinvariants issue h)

omit [ReprStrings] [SetOrder] in
theorem noneAboutExtends_naming (spec : AnySpec) : NoneAboutExtends (validateNaming spec) := by
  rw [validateNaming]
  split
  · simp [NoneAboutExtends, ValidationIssue.IsExtendsError, extendsMessages]
  · split
    · exact noneAboutExtends_nil
    · simp [NoneAboutExtends, ValidationIssue.IsExtendsError, extendsMessages]

omit [ReprStrings] [SetOrder] in
theorem noneAboutExtends_action (action : ActionSpec) : NoneAboutExtends (validateAction r action) :=
  noneAboutExtends_flatMap fun _ => noneAboutExtends_identityRef (by simp)

omit [ReprStrings] [SetOrder] in
theorem noneAboutExtends_component (comp : ComponentSpec) :
    NoneAboutExtends (validateComponent r comp) := by
  refine noneAboutExtends_append.mpr ⟨noneAboutExtends_ite ?_, noneAboutExtends_flatMap fun step =>
    noneAboutExtends_append.mpr ⟨noneAboutExtends_stepRef, noneAboutExtends_dependsOn⟩⟩
  simp [ValidationIssue.IsExtendsError, extendsMessages]

omit [ReprStrings] [SetOrder] in
theorem noneAboutExtends_protocol (proto : ProtocolSpec) :
    NoneAboutExtends (validateProtocol r proto) := by
  refine noneAboutExtends_append.mpr ⟨noneAboutExtends_ite ?_, noneAboutExtends_flatMap fun _ =>
    noneAboutExtends_identityRef (by simp)⟩
  simp [ValidationIssue.IsExtendsError, extendsMessages]

omit [ReprStrings] [SetOrder] in
theorem noneAboutExtends_event (event : EventSpec) : NoneAboutExtends (validateEvent r event) := by
  rw [validateEvent]
  split
  · exact noneAboutExtends_identityRef (by simp)
  · exact noneAboutExtends_nil

omit [ReprStrings] [SetOrder] in
theorem noneAboutExtends_invariant (inv : InvariantSpec) :
    NoneAboutExtends (validateInvariant r inv) := by
  refine noneAboutExtends_append.mpr ⟨noneAboutExtends_ite ?_, noneAboutExtends_flatMap fun _ =>
    noneAboutExtends_append.mpr ⟨?_, ?_⟩⟩
  · simp [ValidationIssue.IsExtendsError, extendsMessages]
  · split
    · exact noneAboutExtends_identityRef (by simp)
    · exact noneAboutExtends_nil
  · split
    · exact noneAboutExtends_identityRef (by simp)
    · exact noneAboutExtends_nil

omit [ReprStrings] [SetOrder] in
theorem noneAboutExtends_orphans : NoneAboutExtends (checkOrphans r) := by
  intro issue hissue
  rintro ⟨herror, -⟩
  simp only [checkOrphans, orphansOf, List.mem_append, List.mem_map] at hissue
  rcases hissue with (⟨_, -, rfl⟩ | ⟨_, -, rfl⟩) | ⟨_, -, rfl⟩
  all_goals cases herror

/-- `validate_all` reports an error about `extends` exactly where `_validate_extends` does. -/
theorem exists_isExtendsError_iff : (∃ issue ∈ validateAll r, issue.IsExtendsError) ↔
    ∃ uc ∈ r.usecases, validateExtends r uc ≠ [] := by
  constructor
  · rintro ⟨issue, hissue, habout⟩
    simp only [validateAll, List.mem_append] at hissue
    rcases hissue with ((((((h | h) | h) | h) | h) | h) | h) | h
    · exact absurd habout (noneAboutExtends_flatMap noneAboutExtends_naming issue h)
    · exact absurd habout (noneAboutExtends_flatMap noneAboutExtends_action issue h)
    · obtain ⟨uc, huc, hmem⟩ := List.mem_flatMap.mp h
      exact ⟨uc, huc, List.ne_nil_of_mem (mem_validateExtends_of_validateUsecase hmem habout)⟩
    · exact absurd habout (noneAboutExtends_flatMap noneAboutExtends_component issue h)
    · exact absurd habout (noneAboutExtends_flatMap noneAboutExtends_protocol issue h)
    · exact absurd habout (noneAboutExtends_flatMap noneAboutExtends_event issue h)
    · exact absurd habout (noneAboutExtends_flatMap noneAboutExtends_invariant issue h)
    · exact absurd habout (noneAboutExtends_orphans issue h)
  · rintro ⟨uc, huc, hne⟩
    obtain ⟨issue, hissue⟩ := List.exists_mem_of_ne_nil _ hne
    refine ⟨issue, ?_, isExtendsError_of_mem_validateExtends hissue⟩
    have hmem : issue ∈ r.usecases.flatMap (validateUsecase r) := by
      refine List.mem_flatMap.mpr ⟨uc, huc, ?_⟩
      simp only [validateUsecase, List.mem_append]
      tauto
    simp only [validateAll, List.mem_append]
    tauto

theorem reports_iff_faulty : (∃ issue ∈ validateAll r, issue.IsExtendsError) ↔ Faulty r := by
  rw [exists_isExtendsError_iff]
  exact exists_congr fun uc => and_congr_right fun huc => validateExtends_ne_nil huc

end Validator

/-! ### Composition -/

section Composition

variable [ReprStrings]

omit [ReprStrings] in
/-- Without a fault, the walk from a use case gives its whole chain. -/
theorem exists_extendsChain {visited : List String}
    {current : {uc : UseCaseSpec // uc ∈ r.usecases}}
    (hunresolved : ∀ uc ∈ r.usecases, ¬Unresolved r uc)
    (hempty : ∀ uc ∈ r.usecases, uc.extends_ ≠ some "")
    (h : walkExtends r visited current = none) :
    ∃ ancestors, ExtendsChain r current.val ancestors := by
  induction visited, current using walkExtends.induct r with
  | case1 visited current hroot => exact ⟨[], .root hroot⟩
  | case2 visited current href => exact absurd href (hempty _ current.property)
  | case3 visited current ref href hne hname =>
    rw [walkExtends, href] at h
    simp [hne, hname] at h
  | case4 visited current ref href hne hname next hnext ih =>
    rw [walkExtends, href] at h
    simp only [hne, hname, if_false, dite_false] at h
    split at h
    · rename_i next' hnext'
      rw [hnext, Except.ok.injEq] at hnext'
      subst hnext'
      obtain ⟨ancestors, hchain⟩ := ih h
      exact ⟨next :: ancestors, .extend ⟨ref, href, resolveParent_eq_ok.mp hnext⟩ hchain⟩
    · rename_i e he
      rw [hnext] at he
      cases he
  | case5 visited current ref href hne hname e he =>
    refine absurd ⟨ref, href, hne, fun parent hres => ?_⟩ (hunresolved _ current.property)
    rw [resolveParent_eq_ok.mpr hres] at he
    cases he

omit [ReprStrings] in
theorem exists_follows (hfaulty : ¬Faulty r) (hhidden : ¬HiddenFault r) (huc : uc ∈ r.usecases) :
    ∃ ancestors, Follows r uc [uc.name] ancestors := by
  simp only [Faulty, HiddenFault, not_exists, not_and, not_or] at hfaulty hhidden
  have hwalk : walkExtends r [] ⟨uc, huc⟩ = none := by
    cases hwalk : walkExtends r [] ⟨uc, huc⟩ with
    | none => rfl
    | some found =>
      have hcircular := circular_of_walkExtends hwalk (by simp)
      exact absurd hcircular (hfaulty uc huc).2.1
  obtain ⟨ancestors, hchain⟩ := exists_extendsChain (fun uc huc => (hfaulty uc huc).1)
    (fun uc huc => (hhidden uc huc).1) hwalk
  refine ⟨ancestors, follows_iff.mpr ⟨hchain, hchain.nodup huc, hchain.stepsApart_iff.mpr ?_⟩⟩
  intro member hmember
  have hregistered : member ∈ r.usecases := by
    rcases List.mem_cons.mp hmember with rfl | hmem
    · exact huc
    · exact mem_usecases_of_transGen (hchain.mem_iff.mp hmem)
  exact ⟨(hfaulty member hregistered).2.2, (hhidden member hregistered).2⟩

/-- Flattening raises for some use case exactly on a fault that the validator looks for or on one
that only flattening meets. -/
theorem raises_iff : (∃ uc ∈ r.usecases, ∃ e, resolveExtends r uc = .error e) ↔
    Faulty r ∨ HiddenFault r := by
  have hraises : ∀ uc, (∃ e, resolveExtends r uc = .error e) ↔
      ¬∃ ancestors, Follows r uc [uc.name] ancestors := by
    intro uc
    rw [← resolveExtends_returns]
    cases resolveExtends r uc <;> simp
  simp only [hraises]
  constructor
  · rintro ⟨uc, huc, hnot⟩
    by_contra h
    rw [not_or] at h
    exact hnot (exists_follows h.1 h.2 huc)
  · rintro (⟨uc, huc, hfault⟩ | ⟨uc, huc, hfault⟩)
    all_goals
      refine ⟨uc, huc, ?_⟩
      rintro ⟨ancestors, hfollows⟩
      obtain ⟨hchain, -, hapart⟩ := follows_iff.mp hfollows
      have hmember := hchain.stepsApart_iff.mp hapart uc List.mem_cons_self
    · rcases hfault with ⟨ref, href, -, hnone⟩ | hcircular | hclash
      · cases hchain with
        | root hroot =>
          rw [hroot] at href
          cases href
        | extend hext =>
          obtain ⟨ref', href', hres⟩ := hext
          rw [href, Option.some.injEq] at href'
          exact hnone _ (href' ▸ hres)
      · exact hchain.not_circular hcircular
      · exact hmember.1 hclash
    · rcases hfault with hempty | habove
      · cases hchain with
        | root hroot =>
          rw [hroot] at hempty
          cases hempty
        | extend hext => exact hext.ref_ne_empty hempty rfl
      · exact hmember.2 habove

/-- The validator reports an error about some `extends` exactly when flattening some use case
raises, on the registries that either have a fault which the validator looks for or none at all. -/
theorem validation_agrees_iff [SetOrder] (r : SpecRegistry) :
    ((∃ issue ∈ validateAll r, issue.IsExtendsError) ↔
      ∃ uc ∈ r.usecases, ∃ e, resolveExtends r uc = .error e) ↔ (HiddenFault r → Faulty r) := by
  rw [reports_iff_faulty, raises_iff]
  tauto

end Composition

namespace Sample

scoped instance : SetOrder := ⟨id⟩

/-- Extends the gift order, and pays with the step id that the order has. -/
def rushOrder : UseCaseSpec :=
  { metadata := { name := "rush-order" }, extends_ := some "$ref:use-cases/gift-order",
    steps := [emptyStep "pay" "actions/rush"], postconditions := ["sent"] }

/-- The registry of the three use cases. -/
def rushOrders : SpecRegistry :=
  match orders.register (.usecase rushOrder) with
  | .ok r => r
  | .error _ => .empty

theorem usecases_rushOrders : rushOrders.usecases = [order, giftOrder, rushOrder] := rfl

theorem resolveParent_rushOrder :
    resolveParent rushOrders "$ref:use-cases/gift-order" = .ok giftOrder := rfl

theorem resolveParent_giftOrder : resolveParent rushOrders "$ref:use-cases/order" = .ok order := rfl

/-- The child and its grandparent have a step id in common: flattening raises, and the validator
reports nothing about `extends`. -/
theorem rushOrders_not_reported : (∀ issue ∈ validateAll rushOrders, ¬issue.IsExtendsError) ∧
    ∃ uc ∈ rushOrders.usecases, ∃ e, resolveExtends rushOrders uc = .error e := by
  have hrush : Extends rushOrders rushOrder giftOrder :=
    ⟨_, rfl, resolveParent_eq_ok.mp resolveParent_rushOrder⟩
  have hgift : Extends rushOrders giftOrder order :=
    ⟨_, rfl, resolveParent_eq_ok.mp resolveParent_giftOrder⟩
  constructor
  · by_contra h
    push Not at h
    obtain ⟨uc, huc, hne⟩ := exists_isExtendsError_iff.mp h
    rw [usecases_rushOrders] at huc
    simp only [List.mem_cons, List.not_mem_nil, or_false] at huc
    have hchain : ExtendsChain rushOrders rushOrder [giftOrder, order] :=
      .extend hrush (.extend hgift (.root rfl))
    have hmem : ∀ member ∈ [order, giftOrder, rushOrder], member ∈ rushOrders.usecases := by
      rw [usecases_rushOrders]
      exact fun member h => h
    rcases huc with rfl | rfl | rfl
    · exact hne rfl
    · rw [validateExtends_ne_nil_of_parent rfl hgift (hmem _ (by simp))] at hne
      rcases hne with hcircular | ⟨parent, hext, hclash⟩
      · exact (ExtendsChain.extend hgift (.root rfl)).not_circular hcircular
      · obtain rfl := hext.unique hgift
        revert hclash
        decide +kernel
    · rw [validateExtends_ne_nil_of_parent rfl hrush (hmem _ (by simp))] at hne
      rcases hne with hcircular | ⟨parent, hext, hclash⟩
      · exact hchain.not_circular hcircular
      · obtain rfl := hext.unique hrush
        revert hclash
        decide +kernel
  · refine raises_iff.mpr (Or.inr ⟨rushOrder, by simp [usecases_rushOrders], Or.inr ?_⟩)
    exact ⟨giftOrder, order, hrush, .single hgift, "pay", by decide +kernel, by decide +kernel⟩

end Sample

end Ucf.Spec
