import Ucf.Generator.Rendering
import Ucf.Library.PostOrder
import Ucf.Library.Sorted
import Ucf.Library.UniqueKeys
import Ucf.Spec.Registry

/-! The order in which the pytest plugin sets up the components that a use case requires: the ones that
the parameters of a component refer to come first. -/

namespace Ucf.Spec

open Relation

/-- An entry of `requirements` -/
structure Requirement where
  index : Nat
  alias_ : String
  component : ComponentSpec
  params : Dict String Json

/-- `_to_snake(alias)` -/
def Requirement.key (requirement : Requirement) : String := toSnake requirement.alias_

/-- The `ValueError`s of `_order_requirements` -/
inductive OrderError where
  | sameName (previous alias_ : String)
  | circular (chain : List String)

/-- The text of an error -/
def OrderError.message : OrderError → String
  | .sameName previous alias_ => "Component aliases '" ++ previous ++ "' and '" ++ alias_ ++
      "' normalize to the same Python name"
  | .circular chain => "Circular component requirement bindings: " ++ " -> ".intercalate chain

/-- The first loop of `_order_requirements` -/
def byAliasOf (requirements : List Requirement) : Except OrderError (Dict String Requirement) :=
  (indexUnique Requirement.key .empty requirements).mapError fun (previous, requirement) =>
    .sameName previous.alias_ requirement.alias_

/-- What `dependency_aliases` adds for a text -/
def dependencyAlias (text : String) : Option String :=
  if isReference text then
    match referenceParts text with
    | "requires" :: name :: _ => some (toSnake name)
    | first :: _ => some (toSnake first)
    | [] => none
  else none

/-- `dependency_aliases` -/
def dependencyAliases (value : Json) : List String :=
  value.leaves.filterMap fun leaf =>
    match leaf with
    | .str text => dependencyAlias text
    | _ => none

/-- `dependencies[alias]` in the order of the requirements -/
def dependencyOrder (byAlias : Dict String Requirement) (alias_ : String) : List String :=
  match byAlias.get? alias_ with
  | some requirement =>
    (sortedBy (fun item => item.2.index) (byAlias.items.filter fun item =>
      item.1 ∈ dependencyAliases (.obj requirement.params.items))).map Prod.fst
  | none => []

/-- `_order_requirements`. An alias is `done` when it is ordered, and `visiting` when it is in the chain
of a visit. -/
def orderRequirements (requirements : List Requirement) : Except OrderError (List Requirement) := do
  let byAlias ← byAliasOf requirements
  let aliases := (sortedBy (fun item => item.2.index) byAlias.items).map Prod.fst
  let ordered ← (PostOrder.order aliases (dependencyOrder byAlias)).mapError .circular
  pure (ordered.filterMap byAlias.get?)

/-- The requirements that `_build_context` orders -/
def requirementsOf (registry : SpecRegistry) (uc : UseCaseSpec) : List Requirement :=
  uc.requires.zipIdx.filterMap fun (req, index) =>
    ((registry.resolveRef req.ref).bind AnySpec.component?).map fun comp =>
      { index, alias_ := if req.as_ = "" then comp.metadata.name else req.as_, component := comp,
        params := req.params }

/-! ### What the order has to satisfy -/

/-- The parameters of one requirement refer to another. -/
def References (a b : Requirement) : Prop := b.key ∈ dependencyAliases (.obj a.params.items)

/-- The same among the requirements of a list. -/
def Binds (requirements : List Requirement) (a b : Requirement) : Prop :=
  a ∈ requirements ∧ b ∈ requirements ∧ References a b

/-- Each requirement of an order comes after the ones that its parameters refer to. -/
def DependenciesFirst (requirements order : List Requirement) : Prop :=
  ∀ before a after, order = before ++ a :: after → ∀ b ∈ requirements, References a b → b ∈ before

/-- Requirements in the order of their indices. -/
abbrev Requirements : Type := { items : List Requirement // SortedKeys Requirement.index items }

theorem sortedKeys_requirementsOf (registry : SpecRegistry) (uc : UseCaseSpec) :
    SortedKeys Requirement.index (requirementsOf registry uc) := by
  have hpositions : uc.requires.zipIdx.Pairwise fun a b => a.2 < b.2 := by
    rw [← List.pairwise_map (f := Prod.snd), List.zipIdx_map_snd]
    exact List.pairwise_lt_range'
  refine List.pairwise_filterMap.mpr (hpositions.imp ?_)
  intro a b hlt c hc d hd
  obtain ⟨_, -, rfl⟩ := Option.map_eq_some_iff.mp hc
  obtain ⟨_, -, rfl⟩ := Option.map_eq_some_iff.mp hd
  exact hlt

/-- The requirements that `_build_context` orders, numbered by their positions in the use case. -/
def numberedRequirements (registry : SpecRegistry) (uc : UseCaseSpec) : Requirements :=
  ⟨requirementsOf registry uc, sortedKeys_requirementsOf registry uc⟩

section Order

variable {requirements : List Requirement}
  (hnodup : (requirements.map Requirement.key).Nodup)

/-! ### Dependencies -/

/-- `dependencies`, by alias -/
def edgesOf (requirements : List Requirement) : String → List String :=
  dependencyOrder (Dict.index Requirement.key requirements)

include hnodup

theorem mem_edgesOf {key other : String} : other ∈ edgesOf requirements key ↔
    ∃ a b, Binds requirements a b ∧ a.key = key ∧ b.key = other := by
  rw [edgesOf, dependencyOrder]
  cases hget : (Dict.index Requirement.key requirements).get? key with
  | none =>
    have hnone := Dict.get?_index_eq_none.mp hget
    refine iff_of_false List.not_mem_nil ?_
    rintro ⟨a, b, hbinds, hkey, -⟩
    exact hnone a hbinds.1 hkey
  | some a =>
    obtain ⟨ha, rfl⟩ := (Dict.get?_index hnodup).mp hget
    simp only [List.mem_map, mem_sortedBy, List.mem_filter, decide_eq_true_eq,
      Dict.index_items hnodup]
    constructor
    · rintro ⟨item, ⟨⟨b, hb, rfl⟩, hreferences⟩, rfl⟩
      exact ⟨a, b, ⟨ha, hb, hreferences⟩, rfl, rfl⟩
    · rintro ⟨a', b, ⟨ha', hb, hreferences⟩, hkey, rfl⟩
      rw [List.inj_on_of_nodup_map hnodup ha' ha hkey] at hreferences
      exact ⟨(b.key, b), ⟨⟨b, hb, rfl⟩, hreferences⟩, rfl⟩

theorem edgesOf_subset (key : String) :
    edgesOf requirements key ⊆ requirements.map Requirement.key := by
  intro other hother
  obtain ⟨_, b, hbinds, -, rfl⟩ := (mem_edgesOf hnodup).mp hother
  exact List.mem_map_of_mem hbinds.2.1

/-- A cycle among the names is one among the requirements. -/
theorem acyclic_iff :
    (∀ key ∈ requirements.map Requirement.key,
        ¬TransGen (fun a b => b ∈ edgesOf requirements a) key key) ↔
      ∀ a, ¬TransGen (Binds requirements) a a := by
  have hlift : ∀ {key other}, TransGen (fun a b => b ∈ edgesOf requirements a) key other →
      ∃ a b, a ∈ requirements ∧ b ∈ requirements ∧ a.key = key ∧ b.key = other ∧
        TransGen (Binds requirements) a b := by
    intro key other h
    induction h with
    | single hedge =>
      obtain ⟨a, b, hbinds, hkey, hother⟩ := (mem_edgesOf hnodup).mp hedge
      exact ⟨a, b, hbinds.1, hbinds.2.1, hkey, hother, .single hbinds⟩
    | tail _ hedge ih =>
      obtain ⟨a, b, ha, hb, hkey, hother, hpath⟩ := ih
      obtain ⟨b', c, hbinds, hkey', hother'⟩ := (mem_edgesOf hnodup).mp hedge
      rw [List.inj_on_of_nodup_map hnodup hbinds.1 hb (hkey'.trans hother.symm)] at hbinds
      exact ⟨a, c, ha, hbinds.2.1, hkey, hother', hpath.tail hbinds⟩
  constructor
  · intro h a hcycle
    obtain ⟨_, hbinds, -⟩ := TransGen.head'_iff.mp hcycle
    refine h a.key (List.mem_map_of_mem hbinds.1) (TransGen.lift Requirement.key ?_ _ _ hcycle)
    intro b c hbc
    exact (mem_edgesOf hnodup).mpr ⟨b, c, hbc, rfl, rfl⟩
  · intro h key _ hcycle
    obtain ⟨a, b, ha, hb, hkey, hother, hpath⟩ := hlift hcycle
    rw [List.inj_on_of_nodup_map hnodup hb ha (hother.trans hkey.symm)] at hpath
    exact h a hpath

/-- The requirements of a list of names -/
theorem filterMap_get? {order : List Requirement} (horder : ∀ a ∈ order, a ∈ requirements) :
    (order.map Requirement.key).filterMap (Dict.index Requirement.key requirements).get? =
      order := by
  induction order with
  | nil => rfl
  | cons a order ih =>
    rw [List.forall_mem_cons] at horder
    have hget := (Dict.get?_index hnodup).mpr ⟨horder.1, rfl⟩
    rw [List.map_cons, List.filterMap_cons_some hget, ih horder.2]

omit hnodup in
theorem exists_map_key {names : List String}
    (h : ∀ name ∈ names, name ∈ requirements.map Requirement.key) :
    ∃ order : List Requirement, names = order.map Requirement.key ∧
      ∀ a ∈ order, a ∈ requirements := by
  induction names with
  | nil => exact ⟨[], rfl, by simp⟩
  | cons name names ih =>
    rw [List.forall_mem_cons] at h
    obtain ⟨order, rfl, horder⟩ := ih h.2
    obtain ⟨a, ha, rfl⟩ := List.mem_map.mp h.1
    exact ⟨a :: order, rfl, List.forall_mem_cons.mpr ⟨ha, horder⟩⟩

/-- Names are listed after their dependencies exactly when the requirements are. -/
theorem listed_requirements_iff {order : List Requirement} (hperm : order.Perm requirements) :
    PostOrder.Listed (edgesOf requirements) (order.map Requirement.key) ↔
      DependenciesFirst requirements order := by
  have hmem : ∀ a ∈ order, a ∈ requirements := fun a ha => hperm.mem_iff.mp ha
  constructor
  · intro hlisted before a after hsplit b hb hreferences
    have hle : before.map Requirement.key ++ [a.key] <+: order.map Requirement.key := by
      refine ⟨after.map Requirement.key, ?_⟩
      rw [hsplit, List.map_append, List.map_cons, List.append_assoc]
      rfl
    obtain ⟨-, hedges⟩ := (hlisted.of_isPrefix hle).of_concat
    have ha : a ∈ requirements := hmem a (by simp [hsplit])
    have hkey := hedges ((mem_edgesOf hnodup).mpr ⟨a, b, ⟨ha, hb, hreferences⟩, rfl, rfl⟩)
    obtain ⟨b', hb', heq⟩ := List.mem_map.mp hkey
    rwa [← List.inj_on_of_nodup_map hnodup (hmem b' (by simp [hsplit, hb'])) hb heq]
  · intro hfirst
    refine .of_forall ((hperm.map _).nodup_iff.mpr hnodup) fun before key after hsplit => ?_
    obtain ⟨first, rest, rfl, rfl, hrest⟩ := List.map_eq_append_iff.mp hsplit
    obtain ⟨a, last, rfl, rfl, rfl⟩ := List.map_eq_cons_iff.mp hrest
    intro other hother
    obtain ⟨a', b, hbinds, hkey, rfl⟩ := (mem_edgesOf hnodup).mp hother
    rw [List.inj_on_of_nodup_map hnodup hbinds.1 (hmem a (by simp)) hkey] at hbinds
    exact List.mem_map_of_mem (hfirst first a last rfl b hbinds.2.1 hbinds.2.2)

/-- The search on the names, where they are different and the requirements numbered in order. -/
theorem orderRequirements_eq (hsorted : SortedKeys Requirement.index requirements) :
    orderRequirements requirements =
      ((PostOrder.order (requirements.map Requirement.key) (edgesOf requirements)).mapError
        OrderError.circular).map fun names =>
          names.filterMap (Dict.index Requirement.key requirements).get? := by
  have hbyAlias : byAliasOf requirements = .ok (Dict.index Requirement.key requirements) := by
    rw [byAliasOf, indexUnique_eq_ok.mpr ⟨hnodup, rfl⟩]
    rfl
  have hpairs : SortedKeys (fun item : String × Requirement => item.2.index)
      (requirements.map fun requirement => (requirement.key, requirement)) := by
    rw [sortedKeys_iff, List.map_map]
    exact sortedKeys_iff.mp hsorted
  have haliases : (sortedBy (fun item => item.2.index)
      (Dict.index Requirement.key requirements).items).map Prod.fst =
        requirements.map Requirement.key := by
    rw [Dict.index_items hnodup, hpairs.sortedBy_eq, List.map_map]
    rfl
  rw [orderRequirements, hbyAlias, ok_bind]
  simp only [haliases]
  rw [← edgesOf]
  cases (PostOrder.order (requirements.map Requirement.key) (edgesOf requirements)) with
  | error cycle => rfl
  | ok names => rfl

end Order

/-! ### The result -/

/-- What `_order_requirements` does with requirements. -/
structure OrdersRequirements (requirements : List Requirement) : Prop where
  raises_iff : (∃ error, orderRequirements requirements = .error error) ↔
    ¬(requirements.map Requirement.key).Nodup ∨ ∃ a, TransGen (Binds requirements) a a
  perm : ∀ order, orderRequirements requirements = .ok order → order.Perm requirements
  dependenciesFirst : ∀ order, orderRequirements requirements = .ok order →
    DependenciesFirst requirements order
  stable : ∀ order, orderRequirements requirements = .ok order →
    DependenciesFirst requirements requirements → order = requirements

theorem ordersRequirements_of_nodup {requirements : List Requirement}
    (hnodup : (requirements.map Requirement.key).Nodup)
    (hsorted : SortedKeys Requirement.index requirements) : OrdersRequirements requirements := by
  have hclosed : ∀ key ∈ requirements.map Requirement.key,
      edgesOf requirements key ⊆ requirements.map Requirement.key :=
    fun key _ => edgesOf_subset hnodup key
  have heq := orderRequirements_eq hnodup hsorted
  have horder : ∀ order, orderRequirements requirements = .ok order →
      order.Perm requirements ∧
        PostOrder.order (requirements.map Requirement.key) (edgesOf requirements) =
          .ok (order.map Requirement.key) := by
    intro order h
    rw [heq] at h
    cases hnames : PostOrder.order (requirements.map Requirement.key) (edgesOf requirements) with
    | error cycle => rw [hnames] at h; cases h
    | ok names =>
      rw [hnames] at h
      obtain ⟨hlisted, hmem⟩ := PostOrder.listed_of_order hclosed hnames
      obtain ⟨order', rfl, horder'⟩ := exists_map_key fun name hname => (hmem name).mp hname
      have hresult : order' = order := by
        have hfilter : (order'.map Requirement.key).filterMap
            (Dict.index Requirement.key requirements).get? = order := Except.ok.inj h
        rwa [filterMap_get? hnodup horder'] at hfilter
      subst hresult
      refine ⟨?_, rfl⟩
      refine (List.perm_ext_iff_of_nodup hlisted.nodup.of_map hnodup.of_map).mpr fun a => ?_
      refine ⟨horder' a, fun ha => ?_⟩
      obtain ⟨b, hb, hkey⟩ := List.mem_map.mp ((hmem a.key).mpr (List.mem_map_of_mem ha))
      rwa [← List.inj_on_of_nodup_map hnodup (horder' b hb) ha hkey]
  refine ⟨?_, fun order h => (horder order h).1, fun order h => ?_, fun order h hfirst => ?_⟩
  · have hexists := PostOrder.exists_order_iff hclosed
    rw [acyclic_iff hnodup] at hexists
    rw [heq]
    cases hnames : PostOrder.order (requirements.map Requirement.key) (edgesOf requirements) with
    | error cycle =>
      rw [hnames] at hexists
      have hcycle : ∃ a, TransGen (Binds requirements) a a := by
        by_contra hnone
        push Not at hnone
        obtain ⟨_, hok⟩ := hexists.mpr hnone
        cases hok
      exact iff_of_true ⟨_, rfl⟩ (.inr hcycle)
    | ok names =>
      have hacyclic := hexists.mp ⟨names, hnames⟩
      refine iff_of_false (by rintro ⟨_, h⟩; cases h) ?_
      rintro (hdup | ⟨a, hcycle⟩)
      · exact hdup hnodup
      · exact hacyclic a hcycle
  · obtain ⟨hperm, hnames⟩ := horder order h
    exact (listed_requirements_iff hnodup hperm).mp (PostOrder.listed_of_order hclosed hnames).1
  · obtain ⟨hperm, hnames⟩ := horder order h
    have hlisted := (listed_requirements_iff hnodup (.refl _)).mpr hfirst
    rw [PostOrder.order_eq_of_listed hlisted] at hnames
    have hkeys : requirements.map Requirement.key = order.map Requirement.key :=
      Except.ok.inj hnames
    calc order
        = (order.map Requirement.key).filterMap (Dict.index Requirement.key requirements).get? :=
          (filterMap_get? hnodup fun a ha => hperm.mem_iff.mp ha).symm
      _ = (requirements.map Requirement.key).filterMap
            (Dict.index Requirement.key requirements).get? := by rw [hkeys]
      _ = requirements := filterMap_get? hnodup fun _ ha => ha

/-- Two requirements with one name are refused. -/
theorem orderRequirements_eq_error {requirements : List Requirement}
    (h : ¬(requirements.map Requirement.key).Nodup) :
    ∃ error, orderRequirements requirements = .error error := by
  obtain ⟨⟨previous, requirement⟩, herror⟩ :=
    @indexUnique_error _ _ _ Requirement.key [] requirements (by simp) h
  refine ⟨.sameName previous.alias_ requirement.alias_, ?_⟩
  rw [orderRequirements, byAliasOf,
    show Dict.empty = Dict.index Requirement.key [] from rfl, herror]
  rfl

/-- The requirements are ordered after their dependencies, unless two names are the same or there is a
cycle, and an order that respects the dependencies is kept. -/
theorem orderRequirements_stable (requirements : Requirements) :
    OrdersRequirements requirements.val := by
  by_cases hnodup : (requirements.val.map Requirement.key).Nodup
  · exact ordersRequirements_of_nodup hnodup requirements.property
  · obtain ⟨error, hraise⟩ := orderRequirements_eq_error hnodup
    refine ⟨iff_of_true ⟨_, hraise⟩ (.inl hnodup), ?_, ?_, ?_⟩
    all_goals
      intro order h
      rw [hraise] at h
      cases h

end Ucf.Spec
