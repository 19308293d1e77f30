import Ucf.Change.TaskPlan
import Ucf.Library.CycleExact

/-! The search for a cycle among tasks, on any map of tasks whose dependencies are in the map. -/

namespace Ucf

open Relation

section Cycles

variable (tasksById : Dict Identifier ChangeTask)

/-- One task depends on another. -/
def DependsOn (id targetId : Identifier) : Prop :=
  ∃ task, tasksById.get? id = some task ∧ targetId ∈ task.dependencyIds

/-- Every dependency is a task of the map. -/
def DependenciesResolve : Prop :=
  ∀ id task, tasksById.get? id = some task → ∀ targetId ∈ task.dependencyIds,
    targetId ∈ tasksById.keys

/-- A cycle as the search returns it. -/
structure DependencyCycle (cycle : List Identifier) : Prop where
  two_le_length : 2 ≤ cycle.length
  closed : cycle.head? = cycle.getLast?
  edges : cycle.IsChain (DependsOn tasksById)
  nodup : cycle.dropLast.Nodup
  self : ∀ id, [id, id] <:+: cycle → cycle = [id, id]

variable {tasksById}

/-- The ids that the search follows from a task. -/
def targetIds (tasksById : Dict Identifier ChangeTask) (id : Identifier) : List Identifier :=
  ((tasksById.get? id).map ChangeTask.dependencyIds).getD []

theorem mem_targetIds {id targetId : Identifier} :
    targetId ∈ targetIds tasksById id ↔ DependsOn tasksById id targetId := by
  rw [targetIds, DependsOn]
  cases tasksById.get? id with
  | none => simp
  | some task => simp

theorem DependenciesResolve.targetIds_subset (h : DependenciesResolve tasksById) (id : Identifier) :
    targetIds tasksById id ⊆ tasksById.keys := by
  intro targetId htarget
  obtain ⟨task, htask, hmem⟩ := mem_targetIds.mp htarget
  exact h id task htask targetId hmem

/-- Two equal neighbours of a closed walk without repetition are the whole walk. -/
theorem eq_of_infix_of_nodup_dropLast {α : Type} {cycle : List α} {a : α}
    (hnodup : cycle.dropLast.Nodup) (hclosed : cycle.head? = cycle.getLast?)
    (h : [a, a] <:+: cycle) : cycle = [a, a] := by
  obtain ⟨before, after, rfl⟩ := h
  rcases List.eq_nil_or_concat after with rfl | ⟨middle, last, rfl⟩
  · cases before with
    | nil => rfl
    | cons b before =>
      -- the walk starts at its last node, which the next to last repeats
      have hsplit : b :: before ++ [a, a] ++ [] = b :: (before ++ [a]) ++ [a] := by simp
      rw [hsplit, List.getLast?_concat, List.cons_append, List.head?_cons, Option.some.injEq]
        at hclosed
      rw [hsplit, List.dropLast_concat, hclosed] at hnodup
      simp at hnodup
  · have hdrop : (before ++ [a, a] ++ middle.concat last).dropLast =
        before ++ [a, a] ++ middle := by
      rw [List.concat_eq_append, ← List.append_assoc, List.dropLast_concat]
    rw [hdrop] at hnodup
    have hpair := (List.nodup_append.mp (List.nodup_append.mp hnodup).1).2.1
    simp at hpair

theorem DependencyCycle.of_isCycle {cycle : List Identifier}
    (h : CycleSearch.IsCycle tasksById.keys (targetIds tasksById) cycle) :
    DependencyCycle tasksById cycle where
  two_le_length := h.two_le_length
  closed := h.closed
  edges := h.edges.imp fun _ _ hedge => mem_targetIds.mp hedge
  nodup := h.nodup
  self _ hself := eq_of_infix_of_nodup_dropLast h.nodup h.closed hself

/-- Only the tasks of the map lie on cycles. -/
theorem mem_keys_of_transGen {id targetId : Identifier}
    (h : TransGen (DependsOn tasksById) id targetId) : id ∈ tasksById.keys := by
  obtain ⟨_, ⟨task, htask, -⟩, -⟩ := TransGen.head'_iff.mp h
  exact Dict.mem_keys.mpr ⟨task, htask⟩

/-- The search returns nothing exactly when no task depends on itself, directly or through others, and
what it returns otherwise is a cycle. -/
theorem findTaskCycle_exact (h : DependenciesResolve tasksById) :
    (findTaskCycle tasksById = none ↔ ∀ id, ¬TransGen (DependsOn tasksById) id id) ∧
      ∀ cycle, findTaskCycle tasksById = some cycle → DependencyCycle tasksById cycle := by
  have hclosed : ∀ id ∈ tasksById.keys, targetIds tasksById id ⊆ tasksById.keys :=
    fun id _ => h.targetIds_subset id
  have hedges : (fun id targetId => targetId ∈ targetIds tasksById id) = DependsOn tasksById := by
    funext id targetId
    exact propext mem_targetIds
  constructor
  · have hnone := CycleSearch.find_eq_none_iff hclosed
    rw [hedges] at hnone
    refine hnone.trans ⟨fun hacyclic id hcycle => ?_, fun hacyclic id _ => hacyclic id⟩
    exact hacyclic id (mem_keys_of_transGen hcycle) hcycle
  · intro cycle hfind
    exact .of_isCycle (CycleSearch.isCycle_of_find hclosed hfind)

end Cycles

end Ucf

namespace Ucf.TaskSample

/-- The two tasks of the plan, the second of which depends on itself. -/
def selfDependent : Dict Identifier ChangeTask :=
  Dict.index ChangeTask.id [task, { task with
    id := ⟨"task.2", by decide +kernel⟩
    dependsOn := [⟨⟨"task.1", firstTask_valid⟩⟩, ⟨⟨"task.2", by decide +kernel⟩⟩] }]

theorem findTaskCycle_exact_selfDependent :
    (findTaskCycle selfDependent = none ↔
        ∀ id, ¬Relation.TransGen (DependsOn selfDependent) id id) ∧
      ∀ cycle, findTaskCycle selfDependent = some cycle → DependencyCycle selfDependent cycle := by
  refine findTaskCycle_exact fun id other hother targetId htarget => ?_
  have hitem := Dict.get?_eq_some.mp hother
  have hall : ∀ item ∈ selfDependent.items, ∀ targetId ∈ item.2.dependencyIds,
      targetId ∈ selfDependent.keys := by decide +kernel
  exact hall _ hitem targetId htarget

end Ucf.TaskSample
