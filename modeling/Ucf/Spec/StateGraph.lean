import Ucf.Spec.Extends
import Ucf.Spec.StateCoverage

/-! The graph of the state coverage against the sets of conditions that its states stand for. -/

namespace Ucf.Spec

namespace StateCoverageAnalyzer

open Relation

/-! ### The sets of conditions -/

/-- The set of conditions after a use case: without postconditions, the set before it. -/
def conditionsAfter (uc : UseCaseSpec) : Finset String :=
  if post uc = ∅ then nonAssumedPre uc else post uc

/-- The empty set, and the sets before and after a use case. -/
def Occurs (usecases : List UseCaseSpec) (conditions : Finset String) : Prop :=
  conditions = ∅ ∨ ∃ uc ∈ usecases, conditions = nonAssumedPre uc ∨ conditions = conditionsAfter uc

/-- Some use case leads from the one set to the other. -/
def LeadsTo (r : SpecRegistry) (before after : Finset String) : Prop :=
  ∃ uc ∈ r.usecases, nonAssumedPre uc = before ∧ conditionsAfter uc = after

variable {r : SpecRegistry} {uc : UseCaseSpec} {usecases : List UseCaseSpec} {graph : StateGraph}
  {conditions : Finset String}

theorem Occurs.before (h : uc ∈ usecases) : Occurs usecases (nonAssumedPre uc) :=
  Or.inr ⟨uc, h, Or.inl rfl⟩

theorem Occurs.after (h : uc ∈ usecases) : Occurs usecases (conditionsAfter uc) :=
  Or.inr ⟨uc, h, Or.inr rfl⟩

theorem occurs_append : Occurs (usecases ++ [uc]) conditions ↔ Occurs usecases conditions ∨
    conditions = nonAssumedPre uc ∨ conditions = conditionsAfter uc := by
  simp only [Occurs, List.mem_append, List.mem_singleton, or_and_right, exists_or, exists_eq_left,
    or_assoc]

section Names

variable [Lowercase]

theorem fromState_eq : fromState uc = stateNameFor (nonAssumedPre uc) := by
  rw [fromState]
  split
  · rename_i h
    rw [stateNameFor, if_pos h]
  · rfl

theorem toState_eq : toState uc = stateNameFor (conditionsAfter uc) := by
  rw [toState, conditionsAfter]
  split
  · exact fromState_eq
  · rfl

/-! ### The graph -/

/-- What the loop over the use cases keeps true of the graph. -/
structure Built (usecases : List UseCaseSpec) (graph : StateGraph) : Prop where
  edges : graph.transitions = usecases.map fun uc =>
    ⟨stateNameFor (nonAssumedPre uc), stateNameFor (conditionsAfter uc), uc.name⟩
  keys : ∀ name, name ∈ graph.states.keys ↔
    ∃ conditions, Occurs usecases conditions ∧ stateNameFor conditions = name
  sets : ∀ name node, graph.states.get? name = some node →
    ∃ conditions, Occurs usecases conditions ∧ stateNameFor conditions = name ∧
      node.preconditions ∪ node.postconditions = conditions
  terminal : ∀ name node, graph.states.get? name = some node →
    (node.terminal = true ↔
      ∃ uc ∈ usecases, stateNameFor (conditionsAfter uc) = name ∧ uc.terminal = true)

theorem built_initialGraph : Built [] initialGraph where
  edges := rfl
  keys := by
    intro name
    simp [initialGraph, Occurs, stateNameFor, Dict.keys, eq_comm, Dict.insert, Dict.assign, Dict.empty]
  sets := by
    intro name node h
    rw [initialGraph, Dict.get?_insert] at h
    split at h
    · rename_i hname
      obtain rfl := Option.some.inj h
      exact ⟨∅, Or.inl rfl, by rw [stateNameFor, if_pos rfl, hname], by simp⟩
    · simp at h
  terminal := by
    intro name node h
    rw [initialGraph, Dict.get?_insert] at h
    split at h
    · obtain rfl := Option.some.inj h
      simp
    · simp at h

/-- The states after the first half of a turn: the state before the use case is among them. -/
structure HalfBuilt (usecases : List UseCaseSpec) (uc : UseCaseSpec)
    (states : Dict String StateNode) : Prop where
  keys : ∀ name, name ∈ states.keys ↔ name = stateNameFor (nonAssumedPre uc) ∨
    ∃ conditions, Occurs usecases conditions ∧ stateNameFor conditions = name
  sets : ∀ name node, states.get? name = some node →
    ∃ conditions, Occurs (usecases ++ [uc]) conditions ∧ stateNameFor conditions = name ∧
      node.preconditions ∪ node.postconditions = conditions
  terminal : ∀ name node, states.get? name = some node →
    (node.terminal = true ↔
      ∃ uc ∈ usecases, stateNameFor (conditionsAfter uc) = name ∧ uc.terminal = true)

theorem Built.addFromState (h : Built usecases graph) :
    HalfBuilt usecases uc (addFromState uc graph.states) := by
  have hsets : ∀ name node, graph.states.get? name = some node →
      ∃ conditions, Occurs (usecases ++ [uc]) conditions ∧ stateNameFor conditions = name ∧
        node.preconditions ∪ node.postconditions = conditions := by
    intro name node hget
    obtain ⟨conditions, hoccurs, hname, hset⟩ := h.sets name node hget
    exact ⟨conditions, occurs_append.mpr (Or.inl hoccurs), hname, hset⟩
  rw [StateCoverageAnalyzer.addFromState, fromState_eq]
  split
  · rename_i hmem
    refine ⟨fun name => ?_, hsets, h.terminal⟩
    rw [h.keys]
    constructor
    · exact Or.inr
    · rintro (rfl | hoccurs)
      · exact (h.keys _).mp hmem
      · exact hoccurs
  · rename_i hnew
    refine ⟨fun name => ?_, fun name node hget => ?_, fun name node hget => ?_⟩
    · rw [Dict.mem_keys_insert, h.keys]
    · rw [Dict.get?_insert] at hget
      split at hget
      · rename_i hname
        obtain rfl := Option.some.inj hget
        exact ⟨nonAssumedPre uc, occurs_append.mpr (Or.inr (Or.inl rfl)), hname.symm, by simp⟩
      · exact hsets name node hget
    · rw [Dict.get?_insert] at hget
      split at hget
      · rename_i hname
        obtain rfl := Option.some.inj hget
        simp only [Bool.false_eq_true, false_iff, not_exists, not_and]
        rintro uc' huc' hafter -
        refine hnew ((h.keys _).mpr ⟨conditionsAfter uc', Occurs.after huc', ?_⟩)
        rw [hafter, hname]
      · exact h.terminal name node hget

theorem exists_terminal_append {name : String} :
    (∃ uc' ∈ usecases ++ [uc], stateNameFor (conditionsAfter uc') = name ∧ uc'.terminal = true) ↔
      (∃ uc' ∈ usecases, stateNameFor (conditionsAfter uc') = name ∧ uc'.terminal = true) ∨
        (stateNameFor (conditionsAfter uc) = name ∧ uc.terminal = true) := by
  simp only [List.mem_append, List.mem_singleton, or_and_right, exists_or, exists_eq_left]

/-- The second half of a turn. -/
theorem HalfBuilt.addToState {states : Dict String StateNode} (h : HalfBuilt usecases uc states) :
    (∀ name, name ∈ (addToState uc states).keys ↔
      ∃ conditions, Occurs (usecases ++ [uc]) conditions ∧ stateNameFor conditions = name) ∧
    (∀ name node, (addToState uc states).get? name = some node →
      ∃ conditions, Occurs (usecases ++ [uc]) conditions ∧ stateNameFor conditions = name ∧
        node.preconditions ∪ node.postconditions = conditions) ∧
    ∀ name node, (addToState uc states).get? name = some node →
      (node.terminal = true ↔
        ∃ uc' ∈ usecases ++ [uc], stateNameFor (conditionsAfter uc') = name ∧ uc'.terminal = true) := by
  have hkeys : ∀ name, (name = toState uc ∨ name ∈ states.keys) ↔
      ∃ conditions, Occurs (usecases ++ [uc]) conditions ∧ stateNameFor conditions = name := by
    intro name
    rw [h.keys, toState_eq]
    simp only [occurs_append, or_and_right, exists_or, exists_eq_left]
    rw [eq_comm (a := name), eq_comm (a := name)]
    constructor
    · rintro (hafter | hbefore | hoccurs)
      · exact Or.inr (Or.inr hafter)
      · exact Or.inr (Or.inl hbefore)
      · exact Or.inl hoccurs
    · rintro (hoccurs | hbefore | hafter)
      · exact Or.inr (Or.inr hoccurs)
      · exact Or.inr (Or.inl hbefore)
      · exact Or.inl hafter
  have hother : ∀ name node, name ≠ toState uc → states.get? name = some node →
      (node.terminal = true ↔
        ∃ uc' ∈ usecases ++ [uc], stateNameFor (conditionsAfter uc') = name ∧ uc'.terminal = true) := by
    intro name node hname hget
    rw [h.terminal name node hget, exists_terminal_append]
    rw [toState_eq, ne_comm] at hname
    simp [hname]
  have hhere : ∀ name, name = toState uc →
      ((∃ uc' ∈ usecases ++ [uc], stateNameFor (conditionsAfter uc') = name ∧ uc'.terminal = true) ↔
        (∃ uc' ∈ usecases, stateNameFor (conditionsAfter uc') = name ∧ uc'.terminal = true) ∨
          uc.terminal = true) := by
    intro name hname
    rw [exists_terminal_append, hname, toState_eq]
    simp
  cases hget : states.get? (toState uc) with
  | none =>
    have hnew : toState uc ∉ states.keys := Dict.get?_eq_none.mp hget
    have hpost : post uc ≠ ∅ := by
      intro hempty
      rw [toState, if_pos hempty, fromState_eq] at hnew
      exact hnew ((h.keys _).mpr (Or.inl rfl))
    simp only [StateCoverageAnalyzer.addToState, hget, Dict.mem_keys_insert, Dict.get?_insert]
    refine ⟨hkeys, fun name node hnode => ?_, fun name node hnode => ?_⟩
    · split at hnode
      · rename_i hname
        obtain rfl := Option.some.inj hnode
        refine ⟨conditionsAfter uc, occurs_append.mpr (Or.inr (Or.inr rfl)), ?_, ?_⟩
        · rw [hname, toState_eq]
        · rw [conditionsAfter, if_neg hpost, Finset.empty_union]
      · exact h.sets name node hnode
    · split at hnode
      · rename_i hname
        obtain rfl := Option.some.inj hnode
        rw [hhere name hname]
        refine ⟨Or.inr, fun hterminal => hterminal.resolve_left ?_⟩
        rintro ⟨uc', huc', hafter, -⟩
        refine hnew ((h.keys _).mpr (Or.inr ⟨conditionsAfter uc', Occurs.after huc', ?_⟩))
        rw [hafter, hname]
      · rename_i hname
        exact hother name node hname hnode
  | some old =>
    have hmem : toState uc ∈ states.keys := Dict.mem_keys.mpr ⟨old, hget⟩
    simp only [StateCoverageAnalyzer.addToState, hget, Dict.mem_keys_insert, Dict.get?_insert]
    refine ⟨hkeys, fun name node hnode => ?_, fun name node hnode => ?_⟩
    · split at hnode
      · rename_i hname
        obtain rfl := Option.some.inj hnode
        rw [hname]
        exact h.sets _ old hget
      · exact h.sets name node hnode
    · split at hnode
      · rename_i hname
        obtain rfl := Option.some.inj hnode
        rw [hhere name hname, hname, ← h.terminal _ old hget, Bool.or_eq_true]
      · rename_i hname
        exact hother name node hname hnode

/-- One turn of the loop. -/
theorem Built.addUsecase (h : Built usecases graph) :
    Built (usecases ++ [uc]) (addUsecase graph uc) := by
  obtain ⟨hstates, hsets, hterminal⟩ := HalfBuilt.addToState (h.addFromState : HalfBuilt usecases uc _)
  refine ⟨?_, hstates, hsets, hterminal⟩
  show graph.transitions ++ _ = _
  rw [h.edges, List.map_append, List.map_singleton, fromState_eq, toState_eq]

theorem built_foldl : Built usecases (usecases.foldl addUsecase initialGraph) := by
  induction usecases using List.reverseRecOn with
  | nil => exact built_initialGraph
  | append_singleton usecases uc ih =>
    rw [List.foldl_append]
    exact ih.addUsecase

theorem initialState_foldl {start : StateGraph} :
    (usecases.foldl addUsecase start).initialState = start.initialState := by
  induction usecases generalizing start with
  | nil => rfl
  | cons uc usecases ih =>
    rw [List.foldl_cons, ih]
    rfl

theorem initialState_buildStateGraph : (buildStateGraph r).initialState = "initial" :=
  initialState_foldl

theorem built_buildStateGraph : Built r.usecases (buildStateGraph r) := built_foldl

/-! ### Reachability -/

theorem initial_mem : "initial" ∈ (buildStateGraph r).states.keys :=
  (built_buildStateGraph.keys _).mpr ⟨∅, Or.inl rfl, by rw [stateNameFor, if_pos rfl]⟩

theorem step_iff {a b : String} : Reach.Step (buildStateGraph r).states.keys
    (fun state => (((buildStateGraph r).outgoing state).map StateTransition.toState).reverse) a b ↔
      ∃ uc ∈ r.usecases, stateNameFor (nonAssumedPre uc) = a ∧
        stateNameFor (conditionsAfter uc) = b := by
  simp only [Reach.Step, List.mem_reverse, List.mem_map, StateGraph.outgoing, List.mem_filter,
    decide_eq_true_iff, built_buildStateGraph.edges]
  constructor
  · rintro ⟨⟨t, ⟨⟨uc, huc, rfl⟩, hfrom⟩, hto⟩, -⟩
    exact ⟨uc, huc, hfrom, hto⟩
  · rintro ⟨uc, huc, hfrom, hto⟩
    exact ⟨⟨_, ⟨⟨uc, huc, rfl⟩, hfrom⟩, hto⟩,
      (built_buildStateGraph.keys b).mpr ⟨_, Occurs.after huc, hto⟩⟩

/-- The names of the sets that occur are different. -/
def NamedApart (r : SpecRegistry) : Prop :=
  ∀ s t, Occurs r.usecases s → Occurs r.usecases t → stateNameFor s = stateNameFor t → s = t

/-- The leading words of the sets of conditions tell them apart: no two of the sets have the same
slug, and none has that of the initial state. -/
structure ToldApart (r : SpecRegistry) : Prop where
  apart : ∀ s t, Occurs r.usecases s → Occurs r.usecases t → s ≠ ∅ → t ≠ ∅ → slug s = slug t → s = t
  notInitial : ∀ s, Occurs r.usecases s → s ≠ ∅ → slug s ≠ "initial"

theorem toldApart_iff : ToldApart r ↔ NamedApart r := by
  constructor
  · intro h s t hs ht hname
    rw [stateNameFor, stateNameFor] at hname
    split_ifs at hname with hempty hempty' hempty'
    · rw [hempty, hempty']
    · exact absurd hname.symm (h.notInitial t ht hempty')
    · exact absurd hname (h.notInitial s hs hempty)
    · exact h.apart s t hs ht hempty hempty' hname
  · intro h
    refine ⟨fun s t hs ht hempty hempty' hslug => h s t hs ht ?_, fun s hs hempty hslug => ?_⟩
    · rw [stateNameFor, stateNameFor, if_neg hempty, if_neg hempty', hslug]
    · refine hempty (h s ∅ hs (Or.inl rfl) ?_)
      rw [stateNameFor, stateNameFor, if_neg hempty, if_pos rfl, hslug]

theorem outgoing_eq_nil (hnames : NamedApart r) (h : Occurs r.usecases conditions) :
    (buildStateGraph r).outgoing (stateNameFor conditions) = [] ↔
      ∀ uc ∈ r.usecases, nonAssumedPre uc ≠ conditions := by
  rw [StateGraph.outgoing, List.filter_eq_nil_iff, built_buildStateGraph.edges]
  simp only [List.mem_map, decide_eq_true_iff, forall_exists_index, and_imp,
    forall_apply_eq_imp_iff₂]
  constructor
  · intro hnone uc huc hbefore
    exact hnone uc huc (by rw [hbefore])
  · intro hnone uc huc hname
    exact hnone uc huc (hnames _ _ (Occurs.before huc) h hname)

/-- Where different sets have different names, a state is reachable when the use cases lead to its
set. -/
theorem mem_reachableFrom (hnames : NamedApart r) (h : Occurs r.usecases conditions) :
    stateNameFor conditions ∈ (buildStateGraph r).reachableFrom "initial" ↔
      ReflTransGen (LeadsTo r) ∅ conditions := by
  have hinitial : stateNameFor ∅ = "initial" := by rw [stateNameFor, if_pos rfl]
  rw [StateGraph.reachableFrom, Reach.mem_closure]
  simp only [List.mem_singleton, exists_eq_left, initial_mem, true_and]
  constructor
  · -- the set behind a name is found along the path, one use case after another
    intro hreach
    have hset : ∀ name, ReflTransGen (Reach.Step (buildStateGraph r).states.keys fun state =>
        (((buildStateGraph r).outgoing state).map StateTransition.toState).reverse) "initial" name →
        ∃ s, Occurs r.usecases s ∧ stateNameFor s = name ∧ ReflTransGen (LeadsTo r) ∅ s := by
      intro name hreach
      induction hreach with
      | refl => exact ⟨∅, Or.inl rfl, hinitial, .refl⟩
      | tail _ hstep ih =>
        obtain ⟨s, hs, hname, hleads⟩ := ih
        obtain ⟨uc, huc, hfrom, hto⟩ := step_iff.mp hstep
        obtain rfl := hnames _ _ (Occurs.before huc) hs (hfrom.trans hname.symm)
        exact ⟨_, Occurs.after huc, hto, hleads.tail ⟨uc, huc, rfl, rfl⟩⟩
    obtain ⟨s, hs, hname, hleads⟩ := hset _ hreach
    obtain rfl := hnames _ _ hs h hname
    exact hleads
  · intro hleads
    rw [← hinitial]
    clear h
    induction hleads with
    | refl => exact .refl
    | tail _ hstep ih =>
      obtain ⟨uc, huc, rfl, rfl⟩ := hstep
      exact ih.tail (step_iff.mpr ⟨uc, huc, rfl, rfl⟩)

theorem name_ne_initial (hnames : NamedApart r) (h : Occurs r.usecases conditions)
    (hne : conditions ≠ ∅) : stateNameFor conditions ≠ "initial" := by
  intro hname
  refine hne (hnames _ _ h (Or.inl rfl) ?_)
  rw [hname, stateNameFor, if_pos rfl]

/-- The node of a set, where different sets have different names. -/
theorem exists_node (hnames : NamedApart r) (h : Occurs r.usecases conditions) :
    ∃ node, (buildStateGraph r).states.get? (stateNameFor conditions) = some node ∧
      node.preconditions ∪ node.postconditions = conditions ∧
      (node.terminal = true ↔
        ∃ uc ∈ r.usecases, conditionsAfter uc = conditions ∧ uc.terminal = true) := by
  obtain ⟨node, hget⟩ := Dict.mem_keys.mp ((built_buildStateGraph.keys _).mpr ⟨_, h, rfl⟩)
  obtain ⟨s, hs, hname, hset⟩ := built_buildStateGraph.sets _ node hget
  refine ⟨node, hget, hset.trans (hnames _ _ hs h hname), ?_⟩
  rw [built_buildStateGraph.terminal _ node hget]
  constructor
  · rintro ⟨uc, huc, hafter, hterminal⟩
    exact ⟨uc, huc, hnames _ _ (Occurs.after huc) h hafter, hterminal⟩
  · rintro ⟨uc, huc, rfl, hterminal⟩
    exact ⟨uc, huc, rfl, hterminal⟩

end Names

/-! ### Findings -/

/-- The order in which a set is iterated lists its members. -/
class LawfulSetOrder [SetOrder] : Prop where
  mem_iterate : ∀ (items : List String) (item : String), item ∈ SetOrder.iterate items ↔ item ∈ items

/-- Some finding about the state of the name has the category. -/
def Reported (findings : List Finding) (category : FindingCategory) (name : String) : Prop :=
  ∃ f ∈ findings, f.category = category ∧ f.stepId = "state:" ++ name

section Findings

variable [ReprStrings] [SetOrder] {name : String}

omit [ReprStrings] [SetOrder] in
theorem stepId_orphanPrecondition (condition : String) :
    (orphanPrecondition condition).stepId ≠ "state:" ++ name := by
  intro h
  have hhead := congrArg (fun text => text.toList.head?) h
  simp [orphanPrecondition] at hhead

omit [SetOrder] in
theorem reported_unreachableStates :
    Reported (unreachableStates graph) .unreachableState name ↔
      name ∈ graph.states.keys ∧ name ≠ "initial" ∧ name ∉ graph.reachableFrom "initial" := by
  simp only [Reported, unreachableStates, List.mem_flatMap]
  constructor
  · rintro ⟨f, ⟨⟨key, node⟩, hitem, hf⟩, -, hstep⟩
    dsimp only at hf
    split_ifs at hf with hreached
    · cases hf
    · rw [List.mem_singleton] at hf
      subst hf
      obtain rfl := String.append_right_inj _ |>.mp hstep
      rw [not_or] at hreached
      exact ⟨List.mem_map_of_mem hitem, hreached⟩
  · rintro ⟨hkey, hreached⟩
    obtain ⟨node, hget⟩ := Dict.mem_keys.mp hkey
    refine ⟨unreachableState name node, ⟨(name, node), Dict.get?_eq_some.mp hget, ?_⟩, rfl, rfl⟩
    rw [← not_or] at hreached
    simp [hreached]

theorem category_deadEndStates {f : Finding} (h : f ∈ deadEndStates graph) :
    f.category = .deadEndState := by
  obtain ⟨key, -, hf⟩ := List.mem_flatMap.mp h
  split_ifs at hf
  · cases hf
  · split at hf
    · split_ifs at hf
      · rw [List.mem_singleton] at hf
        subst hf
        rfl
      · cases hf
    · cases hf

theorem reported_deadEndStates [LawfulSetOrder] :
    Reported (deadEndStates graph) .deadEndState name ↔
      name ∈ graph.reachableFrom "initial" ∧ name ≠ "initial" ∧
        ∃ node, graph.states.get? name = some node ∧ graph.outgoing name = [] ∧
          node.terminal = false := by
  simp only [Reported, deadEndStates, List.mem_flatMap, LawfulSetOrder.mem_iterate]
  constructor
  · rintro ⟨f, ⟨key, hreached, hf⟩, -, hstep⟩
    split_ifs at hf with hinitial
    · cases hf
    · split at hf
      · rename_i node hget
        split_ifs at hf with hend
        · rw [List.mem_singleton] at hf
          subst hf
          obtain rfl := String.append_right_inj _ |>.mp hstep
          exact ⟨hreached, hinitial, node, hget, hend⟩
        · cases hf
      · cases hf
  · rintro ⟨hreached, hinitial, node, hget, hend⟩
    refine ⟨deadEndState name node, ⟨name, hreached, ?_⟩, rfl, rfl⟩
    simp [hinitial, hget, hend]

theorem reported_unreachable_iff :
    Reported (checkCoverage r graph) .unreachableState name ↔
      Reported (unreachableStates graph) .unreachableState name := by
  simp only [Reported, checkCoverage, List.mem_append]
  constructor
  · rintro ⟨f, (hf | hf) | hf, hcategory, hstep⟩
    · exact ⟨f, hf, hcategory, hstep⟩
    · rw [category_deadEndStates hf] at hcategory
      cases hcategory
    · obtain ⟨condition, -, rfl⟩ := List.mem_map.mp hf
      exact absurd hstep (stepId_orphanPrecondition condition)
  · rintro ⟨f, hf, hfinding⟩
    exact ⟨f, Or.inl (Or.inl hf), hfinding⟩

theorem reported_deadEnd_iff :
    Reported (checkCoverage r graph) .deadEndState name ↔
      Reported (deadEndStates graph) .deadEndState name := by
  simp only [Reported, checkCoverage, List.mem_append]
  constructor
  · rintro ⟨f, (hf | hf) | hf, hcategory, hstep⟩
    · obtain ⟨item, -, hf⟩ := List.mem_flatMap.mp hf
      dsimp only at hf
      split_ifs at hf
      · cases hf
      · rw [List.mem_singleton] at hf
        subst hf
        cases hcategory
    · exact ⟨f, hf, hcategory, hstep⟩
    · obtain ⟨condition, -, rfl⟩ := List.mem_map.mp hf
      exact absurd hstep (stepId_orphanPrecondition condition)
  · rintro ⟨f, hf, hfinding⟩
    exact ⟨f, Or.inl (Or.inr hf), hfinding⟩

variable [Lowercase]

/-- The graph and its findings say of the states, under the names that `state` gives to the sets of
conditions, what the use cases say of the sets. -/
structure Represents (r : SpecRegistry) (graph : StateGraph) (findings : List Finding)
    (state : Finset String → String) : Prop where
  initial : state ∅ = graph.initialState
  injective : ∀ s t, Occurs r.usecases s → Occurs r.usecases t → state s = state t → s = t
  nodes : ∀ name, name ∈ graph.states.keys ↔ ∃ s, Occurs r.usecases s ∧ state s = name
  sets : ∀ s, Occurs r.usecases s → ∃ node, graph.states.get? (state s) = some node ∧
    node.preconditions ∪ node.postconditions = s
  edges : graph.transitions = r.usecases.map fun uc =>
    ⟨state (nonAssumedPre uc), state (conditionsAfter uc), uc.name⟩
  unreachable : ∀ s, Occurs r.usecases s → s ≠ ∅ →
    (Reported findings .unreachableState (state s) ↔ ¬ReflTransGen (LeadsTo r) ∅ s)
  deadEnd : ∀ s, Occurs r.usecases s → s ≠ ∅ →
    (Reported findings .deadEndState (state s) ↔ ReflTransGen (LeadsTo r) ∅ s ∧
      (∀ uc ∈ r.usecases, nonAssumedPre uc ≠ s) ∧
      ∀ uc ∈ r.usecases, conditionsAfter uc = s → uc.terminal = false)

/-- The graph and the findings of the analysis are those of the sets of conditions. -/
def IsFaithful (r : SpecRegistry) : Prop :=
  ∃ state, Represents r (analyze r).1 (analyze r).2 state

theorem represents_names {state : Finset String → String}
    (h : Represents r (analyze r).1 (analyze r).2 state) {s : Finset String}
    (hs : Occurs r.usecases s) : state s = stateNameFor s := by
  rcases hs with rfl | ⟨uc, huc, hside⟩
  · rw [h.initial, stateNameFor, if_pos rfl]
    exact initialState_buildStateGraph
  · have hedges := h.edges.symm.trans built_buildStateGraph.edges
    have hedge := List.map_inj_left.mp hedges uc huc
    simp only [StateTransition.mk.injEq] at hedge
    rcases hside with rfl | rfl
    · exact hedge.1
    · exact hedge.2.1

/-- The analysis is faithful to the sets of conditions when their leading words tell them apart, and
only then. -/
theorem isFaithful_iff [LawfulSetOrder] (r : SpecRegistry) : IsFaithful r ↔ ToldApart r := by
  rw [toldApart_iff]
  constructor
  · rintro ⟨state, h⟩ s t hs ht hname
    refine h.injective s t hs ht ?_
    rw [represents_names h hs, represents_names h ht, hname]
  · intro hnames
    refine ⟨stateNameFor, ?_, hnames, built_buildStateGraph.keys, fun s hs => ?_,
      built_buildStateGraph.edges, fun s hs hne => ?_, fun s hs hne => ?_⟩
    · rw [stateNameFor, if_pos rfl]
      exact initialState_buildStateGraph.symm
    · obtain ⟨node, hget, hset, -⟩ := exists_node hnames hs
      exact ⟨node, hget, hset⟩
    · show Reported (checkCoverage r (buildStateGraph r)) _ _ ↔ _
      rw [reported_unreachable_iff, reported_unreachableStates, mem_reachableFrom hnames hs]
      have hkey := (built_buildStateGraph (r := r).keys _).mpr ⟨s, hs, rfl⟩
      simp only [hkey, name_ne_initial hnames hs hne, ne_eq, not_false_eq_true, true_and]
    · show Reported (checkCoverage r (buildStateGraph r)) _ _ ↔ _
      rw [reported_deadEnd_iff, reported_deadEndStates, mem_reachableFrom hnames hs,
        outgoing_eq_nil hnames hs]
      obtain ⟨node, hget, -, hterminal⟩ := exists_node hnames hs
      have hnonterminal : node.terminal = false ↔
          ∀ uc ∈ r.usecases, conditionsAfter uc = s → uc.terminal = false := by
        rw [← Bool.not_eq_true, hterminal]
        simp only [not_exists, not_and, Bool.not_eq_true]
      simp only [hget, name_ne_initial hnames hs hne, ne_eq, not_false_eq_true, true_and,
        Option.some.injEq, exists_eq_left', hnonterminal]

end Findings

namespace StateGraphSample

/-- Two use cases whose results differ in the fifth word only. -/
def signInAsUser : UseCaseSpec where
  metadata := { name := "sign-in-as-user" }
  postconditions := ["person is signed in as user"]

def signInAsAdmin : UseCaseSpec where
  metadata := { name := "sign-in-as-admin" }
  postconditions := ["person is signed in as admin"]

def accounts : SpecRegistry :=
  match SpecRegistry.registerAll [.usecase signInAsUser, .usecase signInAsAdmin] with
  | .ok r => r
  | .error _ => .empty

open Ucf.Spec.Sample

theorem usecases_accounts : accounts.usecases = [signInAsUser, signInAsAdmin] := rfl

/-- `str.lower` for text in lower case -/
scoped instance : Lowercase := ⟨id⟩

theorem lawful_sample : LawfulSetOrder := ⟨fun _ _ => Iff.rfl⟩

theorem isFaithful_iff_accounts : IsFaithful accounts ↔ ToldApart accounts :=
  have := lawful_sample
  isFaithful_iff accounts

/-- The states after the two use cases are one state of the graph. -/
theorem accounts_not_isFaithful : ¬IsFaithful accounts := by
  rintro ⟨state, h⟩
  have huser : Occurs accounts.usecases {"person is signed in as user"} :=
    Or.inr ⟨signInAsUser, by simp [usecases_accounts], Or.inr rfl⟩
  have hadmin : Occurs accounts.usecases {"person is signed in as admin"} :=
    Or.inr ⟨signInAsAdmin, by simp [usecases_accounts], Or.inr rfl⟩
  have hslug : ∀ text, text ∈ ["person is signed in as user", "person is signed in as admin"] →
      stateNameFor {text} = "person-is-signed-in" := by
    intro text htext
    rw [stateNameFor, if_neg (Finset.singleton_ne_empty text), slug, Finset.sort_singleton]
    revert text
    decide +kernel
  have hname : stateNameFor {"person is signed in as user"} =
      stateNameFor {"person is signed in as admin"} :=
    (hslug _ (by simp)).trans (hslug _ (by simp)).symm
  rw [← represents_names h huser, ← represents_names h hadmin] at hname
  have heq := h.injective _ _ huser hadmin hname
  rw [Finset.singleton_inj] at heq
  exact absurd heq (by decide)

end StateGraphSample

end StateCoverageAnalyzer

end Ucf.Spec
