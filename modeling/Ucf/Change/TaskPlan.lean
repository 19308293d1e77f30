import Ucf.Change.TasksCovered

/-! Which accepted graphs are derived ones, up to the status of their tasks. -/

namespace Ucf

/-! ### The plan of a proposal -/

section Plan

variable [HashlibBytes] [PyYaml]

omit [HashlibBytes] [PyYaml] in
theorem segments_of_role_tasks {path : Path} {id : List Char}
    (h : (artifactMetadata path (changePath id)).1 = .tasks) :
    path = changePath id ++ ["tasks.md".toList] := by
  simp only [artifactMetadata] at h
  split_ifs at h with _ _ _ _ htasks
  exact htasks

/-- A proposal has at most one tasks artifact. -/
theorem ChangeProposal.taskArtifacts_eq {proposal : ChangeProposal} {artifact : OpenSpecArtifact}
    (hmem : artifact ∈ proposal.openspec.artifacts.items) (hrole : artifact.role = .tasks) :
    taskArtifacts proposal.openspec.artifacts.items = [artifact] := by
  have hplace : ∀ other ∈ taskArtifacts proposal.openspec.artifacts.items,
      other.segments = artifact.segments := by
    intro other hother
    obtain ⟨hotherMem, hotherRole⟩ := List.mem_filter.mp hother
    have hother' := (proposal.validIdentity.placed other hotherMem).role
    have hartifact' := (proposal.validIdentity.placed artifact hmem).role
    rw [hrole] at hartifact'
    rw [of_decide_eq_true hotherRole] at hother'
    rw [segments_of_role_tasks hother'.symm, segments_of_role_tasks hartifact'.symm]
  have hnodup : (taskArtifacts proposal.openspec.artifacts.items).map
      OpenSpecArtifact.segments |>.Nodup :=
    (nodup_segments proposal).sublist (List.filter_sublist.map _)
  have hin : artifact ∈ taskArtifacts proposal.openspec.artifacts.items :=
    List.mem_filter.mpr ⟨hmem, by simpa using hrole⟩
  match hlist : taskArtifacts proposal.openspec.artifacts.items with
  | [] =>
    rw [hlist] at hin
    cases hin
  | [only] =>
    rw [hlist] at hin
    rw [List.mem_singleton.mp hin]
  | first :: second :: rest =>
    rw [hlist] at hplace hnodup
    have hfirst := hplace first (by simp)
    have hsecond := hplace second (by simp)
    rw [List.map_cons, List.map_cons, List.nodup_cons] at hnodup
    exact absurd (by simp [hfirst, hsecond]) hnodup.1

/-- The text of the tasks artifact. -/
def ChangeProposal.plan (proposal : ChangeProposal) : List Char :=
  (taskArtifacts proposal.openspec.artifacts.items).flatMap OpenSpecArtifact.text

end Plan

/-- The status that the plan gives to the task of a line. -/
def planStatus (content : List Char) (line : Nat) : TaskStatus :=
  (((parseTasks content).find? fun parsed => parsed.line = line).map ParsedTask.status).getD .pending

theorem planStatus_of_mem {content : List Char} {parsed : ParsedTask}
    (h : parsed ∈ parseTasks content) : planStatus content parsed.line = parsed.status := by
  have hnodup := (sortedKeys_parseTasks content).nodup
  cases hfind : (parseTasks content).find? fun other => other.line = parsed.line with
  | none =>
    have hnone := List.find?_eq_none.mp hfind parsed h
    simp at hnone
  | some found =>
    have hline : found.line = parsed.line := by simpa using List.find?_some hfind
    have heq := List.inj_on_of_nodup_map hnodup (List.mem_of_find?_eq_some hfind) h hline
    rw [planStatus, hfind, heq]
    rfl

/-- No checked task of the plan depends on an unchecked one. -/
def CheckedInOrder (graph : TaskGraph) (content : List Char) : Prop :=
  ∀ task ∈ graph.tasks.items, ∀ id ∈ task.dependencyIds, ∀ target ∈ graph.tasks.items,
    target.id = id → planStatus content task.source.line.val = .completed →
      planStatus content target.source.line.val = .completed

/-! ### Graphs with other statuses -/

/-- The task with the status that the plan gives it. -/
def ChangeTask.asPlanned (content : List Char) (task : ChangeTask) : ChangeTask :=
  { task with status := planStatus content task.source.line.val }

/-- The task apart from its status. -/
def ChangeTask.withoutStatus (task : ChangeTask) : ChangeTask := { task with status := .pending }

theorem withoutStatus_asPlanned {content : List Char} {task : ChangeTask} :
    (task.asPlanned content).withoutStatus = task.withoutStatus := by
  rw [ChangeTask.asPlanned, ChangeTask.withoutStatus, ChangeTask.withoutStatus]

theorem validateTaskIn_asPlanned {content : List Char} {tasks : List ChangeTask} {i : Nat}
    {task : ChangeTask} : validateTaskIn (tasks.map (ChangeTask.asPlanned content)) i
      (task.asPlanned content) = validateTaskIn tasks i task := by
  have hids : ((tasks.map (ChangeTask.asPlanned content)).take i).map ChangeTask.id =
      (tasks.take i).map ChangeTask.id := by
    rw [← List.map_take, List.map_map]
    rfl
  have hcoordinates : ((tasks.map (ChangeTask.asPlanned content)).take i).map
      ChangeTask.coordinate = (tasks.take i).map ChangeTask.coordinate := by
    rw [← List.map_take, List.map_map]
    rfl
  unfold validateTaskIn
  rw [hids, hcoordinates]
  rfl

/-- The graph with the statuses of the plan. -/
def TaskGraph.asPlanned (graph : TaskGraph) (content : List Char) : TaskGraph where
  changeId := graph.changeId
  delta := graph.delta
  tasks := ⟨graph.tasks.items.map (ChangeTask.asPlanned content), by
    rw [List.length_map]
    exact graph.tasks.lower_le, by
    rw [List.length_map]
    exact graph.tasks.le_upper⟩
  valid := by
    have h := graph.valid
    simp only [validateGraphShape, bind_eq_ok, require_eq_ok, exists_const, List.map_map,
      List.length_map] at h ⊢
    exact h

theorem topology_asPlanned {graph : TaskGraph} {content : List Char} (h : Topology graph) :
    Topology (graph.asPlanned content) ↔ CheckedInOrder graph content := by
  constructor
  · intro hplanned task htask id hid target htarget hidEq hchecked
    obtain ⟨target', htarget', hidEq', hprecedes⟩ :=
      hplanned.dependencies (task.asPlanned content) (List.mem_map_of_mem htask) id hid
    obtain ⟨original, horiginal, rfl⟩ := List.mem_map.mp htarget'
    have hsame : original = target := List.inj_on_of_nodup_map graph.ids_nodup horiginal htarget
      (hidEq'.trans hidEq.symm)
    subst hsame
    exact hprecedes.status hchecked
  · intro hchecked
    refine ⟨fun i hi => ?_, fun task htask id hid => ?_⟩
    · have hi' : i < graph.tasks.items.length := by
        rw [TaskGraph.asPlanned, List.length_map] at hi
        exact hi
      have hget : (graph.asPlanned content).tasks.items[i] =
          graph.tasks.items[i].asPlanned content := List.getElem_map _
      rw [hget]
      exact validateTaskIn_asPlanned.trans (h.tasks i hi')
    · obtain ⟨original, horiginal, rfl⟩ := List.mem_map.mp htask
      obtain ⟨target, htarget, hidEq, hprecedes⟩ := h.dependencies original horiginal id hid
      exact ⟨_, List.mem_map_of_mem htarget, hidEq, hprecedes.order,
        hchecked original horiginal id hid target htarget hidEq⟩

section Derive

variable [HashlibBytes]

omit [HashlibBytes] in
theorem Identifier.ofChars_eq_ok {cs : List Char} {id : Identifier} :
    Identifier.ofChars cs = .ok id ↔ id.val.toList = cs := by
  unfold Identifier.ofChars
  split
  · rename_i h
    simp only [Except.ok.injEq]
    constructor
    · rintro rfl
      rw [String.toList_ofList]
    · rintro rfl
      exact Subtype.ext (String.ofList_toList)
  · rename_i h
    simp only [reduceCtorEq, false_iff]
    rintro rfl
    rw [String.ofList_toList, id.property] at h
    cases h

/-- The task that a numbered checkbox becomes. -/
structure IsTaskOf (artifact : OpenSpecArtifact)
    (assignments : Dict (List Char) (List DeltaSubjectRef))
    (dependencies : Dict (List Char) (List Identifier)) (parsed : ParsedTask) (order : Nat)
    (task : ChangeTask) : Prop where
  id : task.id.val.toList = parsed.id
  order : task.order.val = order
  dependsOn : task.dependsOn =
    (sortedBy Subtype.val ((dependencies.get? parsed.id).getD [])).map TaskRef.mk
  subjects : task.subjects.val =
    sortedBy DeltaSubjectRef.key ((assignments.get? parsed.id).getD [])
  status : task.status = parsed.status
  line : task.source.line.val = parsed.line
  artifactPath : task.source.artifactPath = artifact.path
  artifactDigest : task.source.artifactDigest = artifact.byteDigest

theorem changeTaskOf_eq_ok {artifact : OpenSpecArtifact}
    {assignments : Dict (List Char) (List DeltaSubjectRef)}
    {dependencies : Dict (List Char) (List Identifier)} {parsed : ParsedTask} {order : Nat}
    {task : ChangeTask} : changeTaskOf artifact assignments dependencies (parsed, order) = .ok task ↔
      IsTaskOf artifact assignments dependencies parsed order task := by
  simp only [changeTaskOf, bind_eq_ok, Identifier.ofChars_eq_ok, SafeNat.ofNat_eq_ok]
  constructor
  · rintro ⟨id, hid, order, horder, line, hline, h⟩
    split_ifs at h
    cases h
    exact ⟨hid, horder, rfl, rfl, rfl, hline, rfl, rfl⟩
  · intro h
    obtain ⟨id, order, dependsOn, ⟨subjects, hsubjects⟩, status, ⟨path, digest, line⟩⟩ := task
    obtain ⟨hid, horder, hdependsOn, hsubjectsEq, hstatus, hline, hpath, hdigest⟩ := h
    simp only at hdependsOn hsubjectsEq hstatus hpath hdigest
    subst hdependsOn hsubjectsEq hstatus hpath hdigest
    exact ⟨id, hid, order, horder, line, hline, by rw [dif_pos hsubjects]; rfl⟩

/-- A derived task is that of a checkbox, up to its status. -/
theorem IsTaskOf.asPlanned {artifact : OpenSpecArtifact} {proposal : List OpenSpecArtifact}
    {task : ChangeTask} {line : List Char} {parsed : ParsedTask} {order : Nat}
    {assignments : Dict (List Char) (List DeltaSubjectRef)}
    {dependencies : Dict (List Char) (List Identifier)}
    (hsource : SourceFits proposal task artifact line)
    (hparsed : parsed ∈ parseTasks artifact.text) (hline : task.source.line.val = parsed.line)
    (hid : task.id.val.toList = parsed.id) (horder : task.order.val = order)
    (hassigned : assignments.get? parsed.id = some task.subjects.val)
    (hdepends : dependencies.get? parsed.id = some task.dependencyIds)
    (hsorted : SortedKeys Subtype.val task.dependencyIds ∧
      SortedKeys DeltaSubjectRef.key task.subjects.val) :
    IsTaskOf artifact assignments dependencies parsed order (task.asPlanned artifact.text) where
  id := by rw [ChangeTask.asPlanned]; exact hid
  order := by rw [ChangeTask.asPlanned]; exact horder
  dependsOn := by
    rw [hdepends, Option.getD_some, hsorted.1.sortedBy_eq, ChangeTask.dependencyIds, List.map_map,
      ChangeTask.asPlanned]
    exact (List.map_id task.dependsOn).symm
  subjects := by rw [hassigned, Option.getD_some, hsorted.2.sortedBy_eq, ChangeTask.asPlanned]
  status := by rw [ChangeTask.asPlanned, ← planStatus_of_mem hparsed, ← hline]
  line := by rw [ChangeTask.asPlanned]; exact hline
  artifactPath := by rw [ChangeTask.asPlanned]; exact hsource.path.symm
  artifactDigest := by rw [ChangeTask.asPlanned]; exact hsource.digest.symm

variable [Hashlib] [PyYaml] {proposal : ChangeProposal} {delta : BehaviorDelta}
  {base final : BehaviorIR} {graph : TaskGraph}

theorem validateTaskGraph_eq_ok : validateTaskGraph graph delta proposal base final = .ok () ↔
    validateBehaviorDelta delta proposal base final = .ok () ∧ GraphFits graph delta ∧
    ∀ i (h : i < graph.tasks.items.length), validateTaskSource graph.tasks.items[i]
      proposal.openspec.artifacts.items (at_ "$.tasks" i) = .ok () := by
  simp only [validateTaskGraph, bind_eq_ok, raising_eq_ok, checkEach_eq_ok]
  constructor
  · rintro ⟨_, hdelta, _, hfits, hsources⟩
    exact ⟨hdelta, validateTaskGraphAgainstDelta_eq_ok.mp hfits, hsources⟩
  · rintro ⟨hdelta, hfits, hsources⟩
    exact ⟨(), hdelta, (), validateTaskGraphAgainstDelta_eq_ok.mpr hfits, hsources⟩

/-- An accepted graph names the one tasks artifact of the proposal in each of its tasks. -/
theorem exists_plan (h : validateTaskGraph graph delta proposal base final = .ok ()) :
    ∃ artifact, taskArtifacts proposal.openspec.artifacts.items = [artifact] ∧
      ∀ task ∈ graph.tasks.items, ∃ line,
        SourceFits proposal.openspec.artifacts.items task artifact line := by
  have hsources : ∀ task ∈ graph.tasks.items, ∃ artifact line,
      SourceFits proposal.openspec.artifacts.items task artifact line := by
    intro task htask
    obtain ⟨i, hi, rfl⟩ := List.mem_iff_getElem.mp htask
    exact sourceFits_of_validateTaskSource ((validateTaskGraph_eq_ok.mp h).2.2 i hi)
  have hlength := graph.tasks.lower_le
  obtain ⟨artifact, _, hfirst⟩ := hsources _ (List.getElem_mem hlength)
  have honly := ChangeProposal.taskArtifacts_eq hfirst.mem hfirst.role
  refine ⟨artifact, honly, fun task htask => ?_⟩
  obtain ⟨artifact', line, hfits⟩ := hsources task htask
  have hmem := List.mem_singleton_self artifact'
  rw [← ChangeProposal.taskArtifacts_eq hfits.mem hfits.role, honly] at hmem
  rw [List.mem_singleton.mp hmem] at hfits
  exact ⟨line, hfits⟩

/-- The graph is, up to the status of its tasks, the result of `derive_task_graph` for some
assignment of subjects and some dependencies. -/
def IsDerived (graph : TaskGraph) (delta : BehaviorDelta) (proposal : ChangeProposal)
    (base final : BehaviorIR) : Prop :=
  ∃ assignments dependencies derived,
    deriveTaskGraph proposal delta base final assignments dependencies = .ok derived ∧
    derived.changeId = graph.changeId ∧ derived.delta = graph.delta ∧
    derived.tasks.items.map ChangeTask.withoutStatus =
      graph.tasks.items.map ChangeTask.withoutStatus

/-- A derived graph covers its plan and has its statuses. -/
theorem planned_of_deriveTaskGraph {artifact : OpenSpecArtifact}
    (honly : taskArtifacts proposal.openspec.artifacts.items = [artifact])
    {assignments : Dict (List Char) (List DeltaSubjectRef)}
    {dependencies : Dict (List Char) (List Identifier)} {derived : TaskGraph}
    (h : deriveTaskGraph proposal delta base final assignments dependencies = .ok derived) :
    validateTaskGraph derived delta proposal base final = .ok () ∧
      CoversPlan derived artifact.text ∧
      ∀ task ∈ derived.tasks.items,
        task.status = planStatus artifact.text task.source.line.val := by
  rw [deriveTaskGraph, honly] at h
  simp only [bind_eq_ok, raising_eq_ok, structured, mapError_eq_ok, require_eq_ok,
    exists_const, TaskGraph.make, Tuple.ofList_eq_ok] at h
  obtain ⟨_, -, _, -, _, -, -, -, -, -, -, tasks, hcollect, _, -, _, ⟨tuple, htuple, hmake⟩, _,
    hvalid, hderived⟩ := h
  split_ifs at hmake
  cases hmake
  cases hderived
  have hall := collect_eq_ok.mp hcollect
  have hpairs : List.Forall₂ (fun (parsed : ParsedTask × Nat) (task : ChangeTask) =>
      IsTaskOf artifact assignments dependencies parsed.1 parsed.2 task)
      ((parseTasks artifact.text).zipIdx 1) tasks :=
    hall.imp fun parsed task htask => changeTaskOf_eq_ok.mp htask
  have hcovers : ((parseTasks artifact.text).zipIdx 1).map (fun parsed =>
      (parsed.1.line, parsed.1.id)) =
      tuple.items.map fun task => (task.source.line.val, task.id.val.toList) := by
    rw [htuple]
    refine map_eq_map_of_forall₂ hpairs fun parsed _ task htask => ?_
    rw [htask.line, htask.id]
  refine ⟨hvalid, ?_, fun task htask => ?_⟩
  · have hfst := List.zipIdx_map_fst 1 (parseTasks artifact.text)
    rw [CoversPlan, ← hcovers]
    conv_rhs => rw [← hfst, List.map_map]
    rfl
  · rw [htuple] at htask
    obtain ⟨parsed, hparsed, hof⟩ := (mem_of_collect hcollect task).mp htask
    have hof := changeTaskOf_eq_ok.mp hof
    have hmem : parsed.1 ∈ parseTasks artifact.text := by
      obtain ⟨_, hget⟩ := List.mk_mem_zipIdx_iff_le_and_getElem?_sub.mp hparsed
      exact List.mem_of_getElem? hget
    rw [hof.status, hof.line, planStatus_of_mem hmem]

theorem changeId_of_validateBehaviorDelta
    (h : validateBehaviorDelta delta proposal base final = .ok ()) :
    delta.changeId = proposal.changeId := by
  simp only [validateBehaviorDelta, bind_eq_ok, raising_eq_ok, require_eq_ok, exists_const] at h
  obtain ⟨_, -, _, -, _, -, hchange, -⟩ := h
  exact hchange

omit [Hashlib] in
theorem canonicalChangeLifecycleJson_eq_ok (proposal : ChangeProposal) :
    canonicalChangeLifecycleJson proposal = .ok (modelDump proposal).canonicalLine := by
  rw [canonicalChangeLifecycleJson, parseChangeProposalJson_canonical]
  rfl

omit [Hashlib] [PyYaml] in
theorem validateTaskSource_asPlanned {content : List Char} {task : ChangeTask}
    {artifacts : List OpenSpecArtifact} {location : String} :
    validateTaskSource (task.asPlanned content) artifacts location =
      validateTaskSource task artifacts location := by
  rw [ChangeTask.asPlanned, validateTaskSource, validateTaskSource]

omit [Hashlib] [PyYaml] in
/-- The tasks that are made of the checkboxes of a plan that the graph covers are those of the
graph, with the statuses of the plan. -/
theorem collect_changeTaskOf {artifact : OpenSpecArtifact} {proposal : List OpenSpecArtifact}
    {parsedTasks : List ParsedTask} {assignments : Dict (List Char) (List DeltaSubjectRef)}
    {dependencies : Dict (List Char) (List Identifier)}
    (hparsed : ∀ parsed ∈ parsedTasks, parsed ∈ parseTasks artifact.text)
    (hcovers : graph.tasks.items.map (fun task =>
      (task.source.line.val, task.id.val.toList)) =
        parsedTasks.map fun parsed => (parsed.line, parsed.id))
    (hfits : ∀ task ∈ graph.tasks.items, ∃ line, SourceFits proposal task artifact line)
    (hassigned : ∀ task ∈ graph.tasks.items,
      assignments.get? task.id.val.toList = some task.subjects.val)
    (hdepends : ∀ task ∈ graph.tasks.items,
      dependencies.get? task.id.val.toList = some task.dependencyIds)
    (htopology : Topology graph) :
    collect (changeTaskOf artifact assignments dependencies) (parsedTasks.zipIdx 1) =
      .ok (graph.tasks.items.map (ChangeTask.asPlanned artifact.text)) := by
  have hlength : parsedTasks.length = graph.tasks.items.length := by
    simpa using (congrArg List.length hcovers).symm
  refine collect_eq_ok.mpr (List.forall₂_iff_get.mpr ⟨by simp [hlength], fun i hi hi' => ?_⟩)
  have hi : i < parsedTasks.length := by simpa using hi
  have htask : i < graph.tasks.items.length := by omega
  have hpair : (graph.tasks.items[i].source.line.val, graph.tasks.items[i].id.val.toList) =
      (parsedTasks[i].line, parsedTasks[i].id) := by
    have hget := congrArg (fun pairs => pairs[i]?) hcovers
    simpa [List.getElem?_map, List.getElem?_eq_getElem htask,
      List.getElem?_eq_getElem hi] using hget
  have hid : graph.tasks.items[i].id.val.toList = parsedTasks[i].id := congrArg Prod.snd hpair
  have hmem := List.getElem_mem htask
  obtain ⟨line, hsource⟩ := hfits _ hmem
  have horder : graph.tasks.items[i].order.val = i + 1 := by
    have hget := congrArg (fun orders => orders[i]?) graph.orders
    simp only [List.getElem?_map, List.getElem?_eq_getElem htask, Option.map_some,
      List.getElem?_range' htask, Option.some.injEq] at hget
    omega
  simp only [List.get_eq_getElem, List.getElem_zipIdx, List.getElem_map]
  refine changeTaskOf_eq_ok.mpr (IsTaskOf.asPlanned hsource (hparsed _ (List.getElem_mem hi))
    (congrArg Prod.fst hpair) hid (horder.trans (Nat.add_comm i 1)) ?_ ?_
    (nodup_and_sorted_ids htask (htopology.tasks i htask)))
  · rw [← hid]
    exact hassigned _ hmem
  · rw [← hid]
    exact hdepends _ hmem

/-- A graph that covers its plan, in which no checked task depends on an unchecked one, is derived
from its own subjects and dependencies. -/
theorem isDerived_of_coversPlan {artifact : OpenSpecArtifact}
    (h : validateTaskGraph graph delta proposal base final = .ok ())
    (honly : taskArtifacts proposal.openspec.artifacts.items = [artifact])
    (hfits : ∀ task ∈ graph.tasks.items, ∃ line,
      SourceFits proposal.openspec.artifacts.items task artifact line)
    (hcovers : CoversPlan graph artifact.text) (hchecked : CheckedInOrder graph artifact.text) :
    IsDerived graph delta proposal base final := by
  obtain ⟨hdelta, hgraph, hsources⟩ := validateTaskGraph_eq_ok.mp h
  let assignments : Dict (List Char) (List DeltaSubjectRef) :=
    .ofList (graph.tasks.items.map fun task => (task.id.val.toList, task.subjects.val))
  let dependencies : Dict (List Char) (List Identifier) :=
    .ofList (graph.tasks.items.map fun task => (task.id.val.toList, task.dependencyIds))
  have hids : (graph.tasks.items.map fun task => task.id.val.toList).Nodup := by
    have hnodup := graph.ids_nodup.map (f := fun id : Identifier => id.val.toList)
      fun a b hab => Subtype.ext (String.toList_injective hab)
    rwa [List.map_map] at hnodup
  have hassigned : ∀ task ∈ graph.tasks.items,
      assignments.get? task.id.val.toList = some task.subjects.val := by
    intro task htask
    exact (Dict.get?_ofList (by rwa [List.map_map])).mpr (List.mem_map_of_mem htask)
  have hdepends : ∀ task ∈ graph.tasks.items,
      dependencies.get? task.id.val.toList = some task.dependencyIds := by
    intro task htask
    exact (Dict.get?_ofList (by rwa [List.map_map])).mpr (List.mem_map_of_mem htask)
  have htaskIds : (parseTasks artifact.text).map ParsedTask.id =
      graph.tasks.items.map fun task => task.id.val.toList := by
    have hsnd := congrArg (List.map Prod.snd) hcovers
    rw [List.map_map, List.map_map] at hsnd
    exact hsnd.symm
  have hlength : (parseTasks artifact.text).length = graph.tasks.items.length := by
    simpa using (congrArg List.length hcovers).symm
  have hkeys : ∀ {ν : Type} (value : ChangeTask → ν), (Dict.ofList (graph.tasks.items.map
      fun task => (task.id.val.toList, value task))).keys =
      graph.tasks.items.map fun task => task.id.val.toList := by
    intro ν value
    rw [Dict.keys, Dict.items_ofList (by rwa [List.map_map]), List.map_map]
    rfl
  have hcollect := collect_changeTaskOf (fun _ hparsed => hparsed) hcovers hfits hassigned hdepends
    hgraph.topology
  have hplanned : validateTaskGraph (graph.asPlanned artifact.text) delta proposal base final =
      .ok () := by
    refine validateTaskGraph_eq_ok.mpr ⟨hdelta, ⟨hgraph.changeId, hgraph.deltaRef,
      (topology_asPlanned hgraph.topology).mpr hchecked, fun subject => ?_⟩, fun i hi => ?_⟩
    · rw [hgraph.subjects]
      constructor
      · rintro ⟨task, htask, hsubject⟩
        exact ⟨_, List.mem_map_of_mem htask, hsubject⟩
      · rintro ⟨task, htask, hsubject⟩
        obtain ⟨original, horiginal, rfl⟩ := List.mem_map.mp htask
        exact ⟨original, horiginal, hsubject⟩
    · have hi' : i < graph.tasks.items.length := by
        rw [TaskGraph.asPlanned, List.length_map] at hi
        exact hi
      have hget : (graph.asPlanned artifact.text).tasks.items[i] =
          graph.tasks.items[i].asPlanned artifact.text := List.getElem_map _
      rw [hget, validateTaskSource_asPlanned]
      exact hsources i hi'
  refine ⟨assignments, dependencies, graph.asPlanned artifact.text, ?_, rfl, rfl, ?_⟩
  · have hdeltaRef := hgraph.deltaRef
    have hchangeId := hgraph.changeId.trans (changeId_of_validateBehaviorDelta hdelta)
    have hshape : validateGraphShape proposal.changeId delta.ref
        (graph.asPlanned artifact.text).tasks.items = .ok () := by
      rw [← hchangeId, ← hdeltaRef]
      exact (graph.asPlanned artifact.text).valid
    have hsame : (⟨proposal.changeId, delta.ref, (graph.asPlanned artifact.text).tasks, hshape⟩ :
        TaskGraph) = graph.asPlanned artifact.text := by
      simp only [TaskGraph.asPlanned, TaskGraph.mk.injEq]
      exact ⟨hchangeId.symm, hdeltaRef.symm, trivial⟩
    have hmapping : validateSubjectAssignmentMapping assignments = .ok () := by
      refine (checkEach_eq_ok_of_mem
        (P := fun item : List Char × List DeltaSubjectRef => 1 ≤ item.2.length)
        fun _ _ _ => require_eq_ok).mpr fun item hitem => ?_
      have hitems : assignments.items = graph.tasks.items.map fun task =>
          (task.id.val.toList, task.subjects.val) := Dict.items_ofList (by rwa [List.map_map])
      rw [hitems] at hitem
      obtain ⟨task, -, rfl⟩ := List.mem_map.mp hitem
      exact task.subjects.property
    have hne : parseTasks artifact.text ≠ [] := by
      intro hnil
      have hlower := graph.tasks.lower_le
      rw [← hlength, hnil] at hlower
      exact absurd hlower (by decide)
    have hjson : canonicalLifecycleJson delta = .ok (modelDump delta).canonicalLine :=
      canonicalLifecycleJson_eq_ok rfl rfl (by decide)
    rw [deriveTaskGraph, honly]
    simp only [bind_eq_ok, raising_eq_ok, structured, mapError_eq_ok, require_eq_ok,
      exists_const, TaskGraph.make, Tuple.ofList_eq_ok]
    refine ⟨(), hmapping, _, canonicalChangeLifecycleJson_eq_ok proposal, _,
      hjson, hlength.trans_le graph.tasks.le_upper, hne, ?_, ?_, ?_, _, hcollect, _,
      behaviorDeltaRef_eq_ok delta, graph.asPlanned artifact.text,
      ⟨(graph.asPlanned artifact.text).tasks, rfl, ?_⟩, (), hplanned, rfl⟩
    · rwa [htaskIds]
    · rw [htaskIds, show assignments.keys = _ from hkeys _]
      exact ⟨fun _ h => h, fun _ h => h⟩
    · rw [htaskIds, show dependencies.keys = _ from hkeys _]
      exact fun _ h => h
    · rw [dif_pos hshape, hsame]
      rfl
  · rw [TaskGraph.asPlanned, List.map_map]
    exact List.map_congr_left fun _ _ => withoutStatus_asPlanned

/-- A derived graph of the same tasks has the statuses of the plan. -/
theorem covers_of_isDerived {artifact : OpenSpecArtifact}
    (honly : taskArtifacts proposal.openspec.artifacts.items = [artifact])
    (h : IsDerived graph delta proposal base final) :
    CoversPlan graph artifact.text ∧ CheckedInOrder graph artifact.text := by
  obtain ⟨assignments, dependencies, derived, hderive, -, -, hsame⟩ := h
  obtain ⟨hvalid, hcovers, hstatuses⟩ := planned_of_deriveTaskGraph honly hderive
  have htopology := (validateTaskGraph_eq_ok.mp hvalid).2.1.topology
  have htwin : ∀ task ∈ graph.tasks.items, ∃ twin ∈ derived.tasks.items,
      twin.withoutStatus = task.withoutStatus := by
    intro task htask
    have hmem : task.withoutStatus ∈ derived.tasks.items.map ChangeTask.withoutStatus := by
      rw [hsame]
      exact List.mem_map_of_mem htask
    exact List.mem_map.mp hmem
  have hback : ∀ twin ∈ derived.tasks.items, ∃ task ∈ graph.tasks.items,
      task.withoutStatus = twin.withoutStatus := by
    intro twin htwin
    have hmem : twin.withoutStatus ∈ graph.tasks.items.map ChangeTask.withoutStatus := by
      rw [← hsame]
      exact List.mem_map_of_mem htwin
    exact List.mem_map.mp hmem
  refine ⟨?_, fun task htask id hid target htarget hidEq hchecked => ?_⟩
  · have hpairs := congrArg (List.map fun task : ChangeTask =>
      (task.source.line.val, task.id.val.toList)) hsame
    rw [List.map_map, List.map_map] at hpairs
    exact hpairs.symm.trans hcovers
  · obtain ⟨twin, htwinMem, htwinEq⟩ := htwin task htask
    have hdependencies : twin.dependencyIds = task.dependencyIds :=
      (congrArg ChangeTask.dependencyIds htwinEq :)
    have hline : twin.source.line.val = task.source.line.val :=
      (congrArg (fun task : ChangeTask => task.source.line.val) htwinEq :)
    obtain ⟨target', htarget', hidEq', hprecedes⟩ :=
      htopology.dependencies twin htwinMem id (hdependencies ▸ hid)
    obtain ⟨original, horiginal, horiginalEq⟩ := hback target' htarget'
    have horiginalId : original.id = target.id :=
      (congrArg ChangeTask.id horiginalEq).trans (hidEq'.trans hidEq.symm)
    have hsameTarget := List.inj_on_of_nodup_map graph.ids_nodup horiginal htarget horiginalId
    have htargetLine : original.source.line.val = target'.source.line.val :=
      (congrArg (fun task : ChangeTask => task.source.line.val) horiginalEq :)
    rw [← hsameTarget, htargetLine, ← hstatuses target' htarget']
    refine hprecedes.status ?_
    rw [hstatuses twin htwinMem, hline]
    exact hchecked

/-- An accepted graph has all the numbered tasks of its plan when it has as many, in the order of
their lines and with ids spelled as derived ones; and it is a derived graph when moreover no checked
task of the plan depends on an unchecked one. -/
theorem taskGraph_covers_iff (h : validateTaskGraph graph delta proposal base final = .ok ()) :
    (CoversPlan graph proposal.plan ↔
      graph.tasks.items.length = (parseTasks proposal.plan).length ∧
      SortedKeys (fun task : ChangeTask => task.source.line.val) graph.tasks.items ∧
      ∀ task ∈ graph.tasks.items, task.IsSpelled) ∧
    (IsDerived graph delta proposal base final ↔
      (graph.tasks.items.length = (parseTasks proposal.plan).length ∧
        SortedKeys (fun task : ChangeTask => task.source.line.val) graph.tasks.items ∧
        ∀ task ∈ graph.tasks.items, task.IsSpelled) ∧
      CheckedInOrder graph proposal.plan) := by
  obtain ⟨artifact, honly, hfits⟩ := exists_plan h
  have hplan : proposal.plan = artifact.text := by
    rw [ChangeProposal.plan, honly, List.flatMap_singleton]
  have hcovers := @coversPlan_iff graph artifact.text fun task htask => by
    obtain ⟨_, hsource⟩ := hfits task htask
    exact hsource.exists_parsed
  rw [hplan]
  refine ⟨hcovers, ?_⟩
  rw [← hcovers]
  exact ⟨covers_of_isDerived honly, fun ⟨hcovered, hchecked⟩ =>
    isDerived_of_coversPlan h honly hfits hcovered hchecked⟩

end Derive

end Ucf

/-! ### A sample

A plan of two tasks, and a graph that has only the first of them. -/

namespace Ucf.TaskSample

open Ucf.Sample (behavior digest)
open Ucf.DeltaSample (final)
open scoped Ucf.OpenSpecSample Ucf.DeltaSample

def tasksArtifact : OpenSpecArtifact where
  path := ⟨"changes/a/tasks.md", by decide +kernel⟩
  role := .tasks
  mediaType := .markdown
  contentBase64 := ⟨"LSBbIF0gMSBhCi0gWyBdIDIgYgo=", by decide +kernel⟩
  byteDigest := digest
  valid := by decide +kernel

theorem changeId_valid : stringConstraints 1 (some 255) matchChangeId "a" = none := by
  decide +kernel

theorem changePath_valid : (andThenString (stringConstraints 1 (some 1024) fun _ => true) fun s =>
    isRelativePath s.toList) "changes/a" = none := by decide +kernel

def proposal : ChangeProposal where
  changeId := ⟨"a", changeId_valid⟩
  baseBehavior := behaviorDocumentRef behavior
  openspec := ⟨⟨"changes/a", changePath_valid⟩,
    ⟨[OpenSpecSample.metadataArtifact, OpenSpecSample.proposalArtifact, tasksArtifact], by decide,
      by decide⟩, by decide +kernel⟩
  valid := by decide +kernel

/-- What the final behavior has no more. -/
def removed : List EntityRef :=
  [⟨.capabilityRequirement, Sample.capability.id⟩, ⟨.effect, Sample.effect.id⟩,
    ⟨.verificationEvidence, Sample.evidence.id⟩]

def entries : List BehaviorDeltaEntry :=
  removed.map fun key => .removed ⟨behavior.subject key, false⟩

def delta : BehaviorDelta where
  changeId := proposal.changeId
  proposal := proposal.ref
  baseBehavior := behaviorDocumentRef behavior
  finalBehavior := behaviorDocumentRef final
  entries := ⟨entries, by decide⟩
  valid := by decide +kernel

theorem firstTask_valid : stringConstraints 1 (some 255) (matchName fun c => c ∈ ['.', '_', '-'])
    "task.1" = none := by decide +kernel

def task : ChangeTask where
  id := ⟨"task.1", firstTask_valid⟩
  order := ⟨1, by decide, by decide⟩
  dependsOn := []
  subjects := ⟨entries.map BehaviorDeltaEntry.subjectRef, by decide⟩
  status := .completed
  source := ⟨tasksArtifact.path, digest, ⟨1, by decide, by decide⟩⟩

def graph : TaskGraph where
  changeId := proposal.changeId
  delta := delta.ref
  tasks := ⟨[task], by decide, by decide⟩
  valid := by decide +kernel

theorem validateChangeProposal_proposal : validateChangeProposal proposal behavior = .ok () := by
  simp only [validateChangeProposal, canonicalChangeLifecycleJson_eq_ok,
    DeltaSample.validateBehaviorDocument_behavior, ok_bind, require_eq_ok]
  rfl

theorem deriveEntries_eq : (deriveEntries behavior final).toOption = some entries := by
  decide +kernel

theorem validateBehaviorDelta_delta :
    validateBehaviorDelta delta proposal behavior final = .ok () := by
  refine (validateBehaviorDelta_eq_ok validateChangeProposal_proposal
    (DeltaSample.validateBehaviorDocument_final _) rfl).mpr ⟨⟨rfl, rfl, rfl, rfl⟩, ?_⟩
  obtain ⟨derived, hderive, hdifference⟩ := @exists_deriveEntries _ behavior final
    (validateBehaviorDocument_eq_ok.mp (DeltaSample.validateBehaviorDocument_behavior "")).2
    (validateBehaviorDocument_eq_ok.mp (DeltaSample.validateBehaviorDocument_final "")).2
  have hentries := deriveEntries_eq
  rw [hderive] at hentries
  cases hentries
  exact hdifference

theorem validateTaskGraph_graph :
    validateTaskGraph graph delta proposal behavior final = .ok () := by
  refine validateTaskGraph_eq_ok.mpr ⟨validateBehaviorDelta_delta, ⟨rfl, rfl, ⟨?_, ?_⟩, ?_⟩, ?_⟩
  · decide +kernel
  · rintro other hother id hid
    cases List.mem_singleton.mp hother
    cases hid
  · intro subject
    simp [graph, delta, task, entries]
  · decide +kernel

theorem length_plan : (parseTasks proposal.plan).length = 2 := by decide +kernel

/-- The second task of the plan is left out. -/
theorem plan_not_covered : ¬ ∀ (graph : TaskGraph) (delta : BehaviorDelta)
    (proposal : ChangeProposal) (base final : BehaviorIR),
    validateTaskGraph graph delta proposal base final = .ok () →
      CoversPlan graph proposal.plan := by
  intro h
  have hlength := congrArg List.length (h graph delta proposal behavior final
    validateTaskGraph_graph)
  rw [List.length_map, List.length_map, length_plan] at hlength
  exact absurd hlength (by decide)

theorem taskGraph_covers_iff_graph : ¬ CoversPlan graph proposal.plan ∧
    ¬ IsDerived graph delta proposal behavior final := by
  obtain ⟨hcovers, hderived⟩ := taskGraph_covers_iff validateTaskGraph_graph
  have hlength : graph.tasks.items.length ≠ (parseTasks proposal.plan).length := by
    rw [length_plan]
    decide
  exact ⟨fun h => hlength (hcovers.mp h).1, fun h => hlength (hderived.mp h).1.1⟩

end Ucf.TaskSample
