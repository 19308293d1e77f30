import Ucf.Change.TaskPlan
import Ucf.Ir.Capabilities

/-! Completing the tasks of a change one by one: every order of completions leads to one graph, and
an accepted graph is never stuck. -/

namespace Ucf

/-! ### Completing a task -/

/-- `tasks_by_id.get(task_id)`, for a task id that need not be an identifier. -/
def TaskGraph.find? (graph : TaskGraph) (taskId : String) : Option ChangeTask :=
  (graph.tasksById.items.find? fun item => item.1.val = taskId).map Prod.snd

/-- `incomplete_predecessors` -/
def TaskGraph.incompletePredecessors (graph : TaskGraph) (task : ChangeTask) : List Identifier :=
  task.dependencyIds.filter fun id =>
    (graph.tasksById.get? id).all fun target => target.status ≠ .completed

/-- `task.model_copy(update={"status": TaskStatus.COMPLETED})` -/
def ChangeTask.complete (task : ChangeTask) : ChangeTask := { task with status := .completed }

/-- The tasks, of which the one with the id is complete. -/
def completeIn (taskId : String) (tasks : List ChangeTask) : List ChangeTask :=
  tasks.map fun task => if task.id.val = taskId then task.complete else task

section Complete

variable [HashlibBytes] [Hashlib] [PyYaml] [ReprText]

/-- `complete_change_task` -/
def completeChangeTask (graph : TaskGraph) (taskId : String) (delta : BehaviorDelta)
    (proposal : ChangeProposal) (baseBehavior finalBehavior : BehaviorIR) :
    Except ChangeError TaskGraph := do
  validateTaskGraph graph delta proposal baseBehavior finalBehavior
  let task ← raising (orRaise (graph.find? taskId)
    ⟨.brokenReference, "task " ++ reprText taskId ++ " does not exist", "$.tasks"⟩)
  let incomplete := graph.incompletePredecessors task
  raising (require (incomplete = []) ⟨.invalidTransition,
    "task completion requires completed predecessors: " ++ pyTuple (incomplete.map Subtype.val),
    "$.tasks"⟩)
  if task.status = .completed then pure graph
  else
    let successor ← (TaskGraph.make graph.changeId graph.delta
      (completeIn taskId graph.tasks.items)).mapError .validation
    validateTaskGraph successor delta proposal baseBehavior finalBehavior
    pure successor

end Complete

/-! ### The completed graph -/

section Completed

variable {graph : TaskGraph} {task : ChangeTask} {taskId : String}

/-- What the graph becomes, in which only the status of one task may differ. -/
structure TaskGraph.Completes (graph : TaskGraph) (taskId : String) (successor : TaskGraph) :
    Prop where
  changeId : successor.changeId = graph.changeId
  delta : successor.delta = graph.delta
  tasks : successor.tasks.items = completeIn taskId graph.tasks.items

theorem TaskGraph.ext_fields {g h : TaskGraph} (hchange : g.changeId = h.changeId)
    (hdelta : g.delta = h.delta) (htasks : g.tasks.items = h.tasks.items) : g = h := by
  cases g
  cases h
  obtain rfl : _ = _ := hchange
  obtain rfl : _ = _ := hdelta
  obtain rfl := Tuple.ext htasks
  rfl

theorem TaskGraph.Completes.unique {g h : TaskGraph} (hg : graph.Completes taskId g)
    (hh : graph.Completes taskId h) : g = h :=
  TaskGraph.ext_fields (hg.changeId.trans hh.changeId.symm) (hg.delta.trans hh.delta.symm)
    (hg.tasks.trans hh.tasks.symm)

theorem map_completeIn {α : Type} {f : ChangeTask → α} (hf : ∀ task, f task.complete = f task)
    (tasks : List ChangeTask) : (completeIn taskId tasks).map f = tasks.map f := by
  rw [completeIn, List.map_map]
  refine List.map_congr_left fun task _ => ?_
  by_cases hid : task.id.val = taskId
  · simp [hid, hf]
  · simp [hid]

@[simp] theorem length_completeIn (tasks : List ChangeTask) :
    (completeIn taskId tasks).length = tasks.length := by
  simp [completeIn]

theorem mem_completeIn {tasks : List ChangeTask} : task ∈ completeIn taskId tasks ↔
    ∃ old ∈ tasks, task = if old.id.val = taskId then old.complete else old := by
  simp only [completeIn, List.mem_map]
  exact exists_congr fun old => and_congr_right fun _ => eq_comm

/-- Completing a task is possible as far as the shape of the graph goes. -/
theorem exists_make (graph : TaskGraph) (taskId : String) : ∃ successor,
    TaskGraph.make graph.changeId graph.delta (completeIn taskId graph.tasks.items) =
      .ok successor ∧ graph.Completes taskId successor := by
  have hlower : 1 ≤ (completeIn taskId graph.tasks.items).length := by
    rw [length_completeIn]
    exact graph.tasks.lower_le
  have hupper : (completeIn taskId graph.tasks.items).length ≤ maxChangeTasks := by
    rw [length_completeIn]
    exact graph.tasks.le_upper
  have hshape : validateGraphShape graph.changeId graph.delta
      (completeIn taskId graph.tasks.items) = .ok () := by
    have h := graph.valid
    rw [validateGraphShape] at h ⊢
    rw [map_completeIn (fun _ => rfl), map_completeIn (f := fun task => task.order.val)
      (fun _ => rfl), length_completeIn]
    exact h
  refine ⟨⟨graph.changeId, graph.delta, ⟨_, hlower, hupper⟩, hshape⟩, ?_, rfl, rfl, rfl⟩
  rw [TaskGraph.make, Tuple.ofList_of_le hlower hupper]
  simp only [ok_bind, hshape, dite_true, pure_eq_ok]

theorem TaskGraph.find?_eq_some : graph.find? taskId = some task ↔
    task ∈ graph.tasks.items ∧ task.id.val = taskId := by
  have hitems : graph.tasksById.items = graph.tasks.items.map fun task => (task.id, task) :=
    Dict.index_items graph.ids_nodup
  rw [TaskGraph.find?, hitems, List.find?_map, Option.map_map]
  constructor
  · intro h
    obtain ⟨found, hfound, rfl⟩ := Option.map_eq_some_iff.mp h
    exact ⟨List.mem_of_find?_eq_some hfound, by simpa using List.find?_some hfound⟩
  · rintro ⟨hmem, hid⟩
    cases hfind : graph.tasks.items.find? ((fun item => decide (item.1.val = taskId)) ∘
        fun task => (task.id, task)) with
    | none =>
      have hnone := List.find?_eq_none.mp hfind task hmem
      simp [hid] at hnone
    | some found =>
      have hfoundId : found.id.val = taskId := by simpa using List.find?_some hfind
      have hsame : found.id = task.id := Subtype.ext (hfoundId.trans hid.symm)
      rw [List.inj_on_of_nodup_map graph.ids_nodup (List.mem_of_find?_eq_some hfind) hmem hsame]
      rfl

/-- All dependencies of the task are complete. -/
def TaskGraph.Ready (graph : TaskGraph) (task : ChangeTask) : Prop :=
  ∀ id ∈ task.dependencyIds, ∃ target ∈ graph.tasks.items, target.id = id ∧
    target.status = .completed

theorem TaskGraph.incompletePredecessors_eq_nil :
    graph.incompletePredecessors task = [] ↔ graph.Ready task := by
  rw [TaskGraph.incompletePredecessors, List.filter_eq_nil_iff]
  refine forall₂_congr fun id _ => ?_
  cases hget : graph.tasksById.get? id with
  | none =>
    simp only [Option.all_none, not_true_eq_false, false_iff]
    rintro ⟨target, hmem, hid, -⟩
    rw [graph.get?_tasksById.mpr ⟨hmem, hid⟩] at hget
    cases hget
  | some target =>
    obtain ⟨hmem, hid⟩ := graph.get?_tasksById.mp hget
    simp only [Option.all_some, decide_eq_true_eq, not_not]
    constructor
    · exact fun hstatus => ⟨target, hmem, hid, hstatus⟩
    · rintro ⟨other, hother, hotherId, hstatus⟩
      rwa [List.inj_on_of_nodup_map graph.ids_nodup hmem hother (hid.trans hotherId.symm)]

/-- A task that is complete already leaves the graph as it is. -/
theorem TaskGraph.completes_self (hmem : task ∈ graph.tasks.items) (hstatus : task.status = .completed) :
    graph.Completes task.id.val graph := by
  refine ⟨rfl, rfl, ?_⟩
  rw [completeIn]
  symm
  refine (List.map_congr_left (g := id) fun other hother => ?_).trans (List.map_id _)
  split
  · rename_i hid
    obtain rfl := List.inj_on_of_nodup_map graph.ids_nodup hother hmem (Subtype.ext hid)
    rw [ChangeTask.complete, ← hstatus, id]
  · rfl

theorem Precedes.complete {target : ChangeTask} (h : Precedes target task)
    (hready : task.id.val = taskId → target.status = .completed) :
    Precedes (if target.id.val = taskId then target.complete else target)
      (if task.id.val = taskId then task.complete else task) := by
  constructor
  · have horder := h.order
    split <;> split <;> exact horder
  · intro hstatus
    have htarget : target.status = .completed := by
      by_cases hid : task.id.val = taskId
      · exact hready hid
      · rw [if_neg hid] at hstatus
        exact h.status hstatus
    split
    · rfl
    · exact htarget

theorem Topology.complete (h : Topology graph) {successor : TaskGraph}
    (hcompletes : graph.Completes taskId successor)
    (hready : ∀ task ∈ graph.tasks.items, task.id.val = taskId → graph.Ready task) :
    Topology successor := by
  constructor
  · rw [hcompletes.tasks]
    intro i hi
    have hi' : i < graph.tasks.items.length := by simpa using hi
    rw [← h.tasks i hi']
    simp only [validateTaskIn, completeIn, ← List.map_take, List.getElem_map]
    have hids : (completeIn taskId (graph.tasks.items.take i)).map ChangeTask.id =
        (graph.tasks.items.take i).map ChangeTask.id := map_completeIn (fun _ => rfl) _
    have hcoordinates :
        (completeIn taskId (graph.tasks.items.take i)).map ChangeTask.coordinate =
          (graph.tasks.items.take i).map ChangeTask.coordinate := map_completeIn (fun _ => rfl) _
    rw [completeIn] at hids hcoordinates
    rw [hids, hcoordinates]
    split <;> rfl
  · rw [hcompletes.tasks]
    intro task htask id hid
    obtain ⟨old, hold, rfl⟩ := mem_completeIn.mp htask
    have hdependency : id ∈ old.dependencyIds := by
      split at hid <;> exact hid
    obtain ⟨target, htarget, htargetId, hprecedes⟩ := h.dependencies old hold id hdependency
    refine ⟨_, mem_completeIn.mpr ⟨target, htarget, rfl⟩, ?_, hprecedes.complete fun hcurrent => ?_⟩
    · split <;> exact htargetId
    · obtain ⟨other, hother, hotherId, hstatus⟩ := hready old hold hcurrent id hdependency
      rwa [List.inj_on_of_nodup_map graph.ids_nodup htarget hother
        (htargetId.trans hotherId.symm)]

end Completed

/-! ### Accepted graphs -/

section Accepted

variable [HashlibBytes] [Hashlib] [PyYaml] {graph successor : TaskGraph} {delta : BehaviorDelta}
  {proposal : ChangeProposal} {base final : BehaviorIR} {taskId : String}

theorem validateTaskGraph_of_completes
    (h : validateTaskGraph graph delta proposal base final = .ok ())
    (hcompletes : graph.Completes taskId successor)
    (hready : ∀ task ∈ graph.tasks.items, task.id.val = taskId → graph.Ready task) :
    validateTaskGraph successor delta proposal base final = .ok () := by
  obtain ⟨hdelta, hfits, hsources⟩ := validateTaskGraph_eq_ok.mp h
  refine validateTaskGraph_eq_ok.mpr ⟨hdelta, ⟨?_, ?_, ?_, ?_⟩, ?_⟩
  · exact hcompletes.changeId.trans hfits.changeId
  · exact hcompletes.delta.trans hfits.deltaRef
  · exact hfits.topology.complete hcompletes hready
  · intro subject
    rw [hfits.subjects subject, hcompletes.tasks]
    simp only [mem_completeIn]
    constructor
    · rintro ⟨task, htask, hsubject⟩
      refine ⟨_, ⟨task, htask, rfl⟩, ?_⟩
      split <;> exact hsubject
    · rintro ⟨_, ⟨task, htask, rfl⟩, hsubject⟩
      refine ⟨task, htask, ?_⟩
      split at hsubject <;> exact hsubject
  · rw [hcompletes.tasks]
    intro i hi
    have hi' : i < graph.tasks.items.length := by simpa using hi
    rw [← hsources i hi']
    simp only [completeIn, List.getElem_map]
    split <;> rfl

variable [ReprText]

/-- What completing a task of an accepted graph comes to. -/
theorem completeChangeTask_eq_ok (h : validateTaskGraph graph delta proposal base final = .ok ()) :
    completeChangeTask graph taskId delta proposal base final = .ok successor ↔
      graph.Completes taskId successor ∧
        ∃ task ∈ graph.tasks.items, task.id.val = taskId ∧ graph.Ready task := by
  have hready : ∀ task ∈ graph.tasks.items, task.id.val = taskId → graph.Ready task →
      ∀ other ∈ graph.tasks.items, other.id.val = taskId → graph.Ready other := by
    intro task htask hid hready other hother hotherId
    rwa [List.inj_on_of_nodup_map graph.ids_nodup hother htask
      (Subtype.ext (hotherId.trans hid.symm))]
  simp only [completeChangeTask, h, ok_bind, bind_eq_ok, raising_eq_ok, orRaise_eq_ok,
    require_eq_ok, exists_const, TaskGraph.find?_eq_some, TaskGraph.incompletePredecessors_eq_nil]
  constructor
  · rintro ⟨task, ⟨hmem, rfl⟩, htask, hresult⟩
    refine ⟨?_, task, hmem, rfl, htask⟩
    split at hresult
    · rename_i hstatus
      cases hresult
      exact graph.completes_self hmem hstatus
    · obtain ⟨made, hmake, hcompletes⟩ := exists_make graph task.id.val
      simp only [hmake, Except.mapError, ok_bind, bind_eq_ok, pure_eq_ok] at hresult
      obtain ⟨_, -, hresult⟩ := hresult
      cases hresult
      exact hcompletes
  · rintro ⟨hcompletes, task, hmem, rfl, htask⟩
    refine ⟨task, ⟨hmem, rfl⟩, htask, ?_⟩
    split
    · rename_i hstatus
      rw [hcompletes.unique (graph.completes_self hmem hstatus)]
      rfl
    · obtain ⟨made, hmake, hmade⟩ := exists_make graph task.id.val
      have hvalid := validateTaskGraph_of_completes h hmade (hready task hmem rfl htask)
      simp only [hmake, Except.mapError, ok_bind, hvalid, pure_eq_ok]
      rw [hcompletes.unique hmade]

/-- Completing the tasks with these ids, one after another. -/
def completeAll (graph : TaskGraph) (delta : BehaviorDelta) (proposal : ChangeProposal)
    (base final : BehaviorIR) : List String → Except ChangeError TaskGraph
  | [] => pure graph
  | taskId :: taskIds => do
    let successor ← completeChangeTask graph taskId delta proposal base final
    completeAll successor delta proposal base final taskIds

/-- A completion keeps the graph accepted. -/
theorem validateTaskGraph_of_completeChangeTask
    (h : validateTaskGraph graph delta proposal base final = .ok ())
    (hcomplete : completeChangeTask graph taskId delta proposal base final = .ok successor) :
    validateTaskGraph successor delta proposal base final = .ok () := by
  obtain ⟨hcompletes, task, hmem, hid, hready⟩ := (completeChangeTask_eq_ok h).mp hcomplete
  refine validateTaskGraph_of_completes h hcompletes fun other hother hotherId => ?_
  rwa [List.inj_on_of_nodup_map graph.ids_nodup hother hmem
    (Subtype.ext (hotherId.trans hid.symm))]

/-- What a run of completions comes to depends only on which tasks it completes. -/
theorem completeAll_tasks {taskIds : List String}
    (h : validateTaskGraph graph delta proposal base final = .ok ())
    (hrun : completeAll graph delta proposal base final taskIds = .ok successor) :
    successor.changeId = graph.changeId ∧ successor.delta = graph.delta ∧
      successor.tasks.items = graph.tasks.items.map fun task =>
        if task.id.val ∈ taskIds then task.complete else task := by
  induction taskIds generalizing graph with
  | nil =>
    cases hrun
    simp
  | cons taskId taskIds ih =>
    simp only [completeAll, bind_eq_ok] at hrun
    obtain ⟨middle, hcomplete, hrun⟩ := hrun
    obtain ⟨hcompletes, -⟩ := (completeChangeTask_eq_ok h).mp hcomplete
    obtain ⟨hchange, hdelta, htasks⟩ :=
      ih (validateTaskGraph_of_completeChangeTask h hcomplete) hrun
    refine ⟨hchange.trans hcompletes.changeId, hdelta.trans hcompletes.delta, ?_⟩
    rw [htasks, hcompletes.tasks, completeIn, List.map_map]
    refine List.map_congr_left fun task _ => ?_
    by_cases hid : task.id.val = taskId
    · simp [hid, ChangeTask.complete]
    · simp [hid]

omit [ReprText] in
/-- The first pending task in the order of the graph can be completed. -/
theorem exists_ready (h : validateTaskGraph graph delta proposal base final = .ok ())
    (hpending : ∃ task ∈ graph.tasks.items, task.status = .pending) :
    ∃ task ∈ graph.tasks.items, task.status = .pending ∧ graph.Ready task := by
  classical
  have hexists : ∃ n, ∃ task ∈ graph.tasks.items, task.status = .pending ∧ task.order.val = n := by
    obtain ⟨task, hmem, hstatus⟩ := hpending
    exact ⟨_, task, hmem, hstatus, rfl⟩
  obtain ⟨task, hmem, hstatus, horder⟩ := Nat.find_spec hexists
  refine ⟨task, hmem, hstatus, fun id hid => ?_⟩
  obtain ⟨target, htarget, htargetId, hprecedes⟩ :=
    (validateTaskGraph_eq_ok.mp h).2.1.topology.dependencies task hmem id hid
  refine ⟨target, htarget, htargetId, ?_⟩
  cases hcompleted : target.status with
  | completed => rfl
  | pending =>
    have hlt := hprecedes.order
    rw [horder] at hlt
    exact absurd ⟨target, htarget, hcompleted, rfl⟩ (Nat.find_min hexists hlt)

/-- How many tasks are pending. -/
def TaskGraph.pendingCount (graph : TaskGraph) : Nat :=
  graph.tasks.items.countP fun task => task.status = .pending

omit [HashlibBytes] [Hashlib] [PyYaml] [ReprText] in
theorem TaskGraph.Completes.pendingCount {task : ChangeTask}
    (h : graph.Completes task.id.val successor) (hmem : task ∈ graph.tasks.items)
    (hstatus : task.status = .pending) : successor.pendingCount + 1 = graph.pendingCount := by
  have hnodup := graph.ids_nodup
  rw [TaskGraph.pendingCount, TaskGraph.pendingCount, h.tasks]
  obtain ⟨before, after, hsplit⟩ := List.append_of_mem hmem
  rw [hsplit, List.map_append, List.map_cons, List.nodup_middle, List.nodup_cons,
    List.mem_append, not_or] at hnodup
  have hother : ∀ tasks : List ChangeTask, task.id ∉ tasks.map ChangeTask.id →
      completeIn task.id.val tasks = tasks := by
    intro tasks hnot
    refine (List.map_congr_left (g := id) fun other hother => if_neg fun hid => hnot ?_).trans
      (List.map_id _)
    exact Subtype.ext hid ▸ List.mem_map_of_mem hother
  have hcompleted : completeIn task.id.val (before ++ task :: after) =
      before ++ task.complete :: after := by
    rw [completeIn, List.map_append, List.map_cons, if_pos rfl, ← completeIn, ← completeIn,
      hother before hnodup.1.1, hother after hnodup.1.2]
  rw [hsplit, hcompleted, List.countP_append, List.countP_append, List.countP_cons,
    List.countP_cons]
  simp only [ChangeTask.complete, hstatus]
  simp
  omega

/-- An accepted graph can be driven to completion, with one step for each pending task. -/
theorem exists_completeAll (h : validateTaskGraph graph delta proposal base final = .ok ()) :
    ∃ taskIds successor, taskIds.length = graph.pendingCount ∧
      completeAll graph delta proposal base final taskIds = .ok successor ∧
      ∀ task ∈ successor.tasks.items, task.status = .completed := by
  induction hcount : graph.pendingCount generalizing graph with
  | zero =>
    refine ⟨[], graph, rfl, rfl, fun task hmem => ?_⟩
    have hnot := List.countP_eq_zero.mp hcount task hmem
    cases hstatus : task.status with
    | completed => rfl
    | pending => simp [hstatus] at hnot
  | succ n ih =>
    have hpending : ∃ task ∈ graph.tasks.items, task.status = .pending := by
      have hpos : 0 < graph.tasks.items.countP fun task => task.status = .pending := by
        rw [← TaskGraph.pendingCount, hcount]
        omega
      obtain ⟨task, hmem, hstatus⟩ := List.countP_pos_iff.mp hpos
      exact ⟨task, hmem, of_decide_eq_true hstatus⟩
    obtain ⟨task, hmem, hstatus, hready⟩ := exists_ready h hpending
    obtain ⟨middle, -, hcompletes⟩ := exists_make graph task.id.val
    have hcomplete := (completeChangeTask_eq_ok h).mpr ⟨hcompletes, task, hmem, rfl, hready⟩
    have hless := hcompletes.pendingCount hmem hstatus
    obtain ⟨taskIds, successor, hlength, hrun, hall⟩ :=
      ih (validateTaskGraph_of_completeChangeTask h hcomplete) (by omega)
    refine ⟨task.id.val :: taskIds, successor, by simp [hlength], ?_, hall⟩
    rw [completeAll, hcomplete, ok_bind, hrun]

end Accepted

end Ucf

/-! ### A sample

The plan of two tasks, with its first task pending in the graph. -/

namespace Ucf.TaskSample

open Ucf.Sample (behavior)
open Ucf.DeltaSample (final)
open scoped Ucf.OpenSpecSample Ucf.DeltaSample

/-- `repr` of a text that needs no escape -/
scoped instance : ReprText := ⟨fun text => "'" ++ text ++ "'"⟩

def pendingGraph : TaskGraph where
  changeId := proposal.changeId
  delta := delta.ref
  tasks := ⟨[{ task with status := .pending }], by decide, by decide⟩
  valid := by decide +kernel

theorem validateTaskGraph_pendingGraph :
    validateTaskGraph pendingGraph delta proposal behavior final = .ok () := by
  refine validateTaskGraph_eq_ok.mpr ⟨validateBehaviorDelta_delta, ⟨rfl, rfl, ⟨?_, ?_⟩, ?_⟩, ?_⟩
  · decide +kernel
  · rintro other hother id hid
    cases List.mem_singleton.mp hother
    cases hid
  · intro subject
    simp [pendingGraph, delta, task, entries]
  · decide +kernel

end Ucf.TaskSample
