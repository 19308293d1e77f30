import Ucf.Change.DeltaApplied
import Ucf.Change.Tasks

/-! When an accepted task graph covers its plan: the tasks are checked one by one against the lines
that they name, so a graph may leave a numbered task out, list tasks in another order than that of
their lines, or spell an id in another way than its derivation does. -/

namespace Ucf

/-! ### The numbered tasks of a plan -/

theorem replaceChar_replaceChar {old new : Char} {cs : List Char} (h : new ∉ cs) :
    replaceChar new old (replaceChar old new cs) = cs := by
  rw [replaceChar, replaceChar, List.map_map]
  refine (List.map_congr_left fun c hc => ?_).trans (List.map_id cs)
  have hne : c ≠ new := fun heq => h (heq ▸ hc)
  by_cases hold : c = old
  · simp [hold]
  · simp [hold, hne]

theorem notMem_replaceChar {old new : Char} (hne : old ≠ new) (cs : List Char) :
    old ∉ replaceChar old new cs := by
  rw [replaceChar, List.mem_map]
  rintro ⟨c, -, hc⟩
  split_ifs at hc with hold
  · exact hne hc.symm
  · exact hold hc

/-- The line of a numbered task. -/
structure IsTaskLine (content : List Char) (parsed : ParsedTask) (mark : Char)
    (label : List Char) : Prop where
  line : ∃ line, (splitlines content)[parsed.line - 1]? = some line ∧
    matchTask line = some (mark, label)
  positive : 1 ≤ parsed.line
  id : parsed.id = taskIdOf label
  status : parsed.status = taskStatusOf mark

theorem mem_parseTasks {content : List Char} {parsed : ParsedTask} :
    parsed ∈ parseTasks content ↔ ∃ mark label, IsTaskLine content parsed mark label := by
  simp only [parseTasks, List.mem_filterMap, Option.map_eq_some_iff, Prod.exists,
    List.mk_mem_zipIdx_iff_le_and_getElem?_sub]
  constructor
  · rintro ⟨line, number, ⟨hle, hline⟩, mark, label, hmatch, rfl⟩
    exact ⟨mark, label, ⟨line, hline, hmatch⟩, hle, rfl, rfl⟩
  · rintro ⟨mark, label, ⟨line, hline, hmatch⟩, hpositive, hid, hstatus⟩
    refine ⟨line, parsed.line, ⟨hpositive, hline⟩, mark, label, hmatch, ?_⟩
    rw [← hid, ← hstatus]

theorem sortedKeys_parseTasks (content : List Char) :
    SortedKeys ParsedTask.line (parseTasks content) := by
  rw [SortedKeys, parseTasks, List.pairwise_filterMap]
  have hlines : ((splitlines content).zipIdx 1).Pairwise fun a b => a.2 < b.2 := by
    rw [← List.pairwise_map (f := Prod.snd), List.zipIdx_map_snd]
    exact List.pairwise_lt_range'
  refine hlines.imp fun {a b} hlt parsed hparsed parsed' hparsed' => ?_
  obtain ⟨_, -, rfl⟩ := Option.map_eq_some_iff.mp hparsed
  obtain ⟨_, -, rfl⟩ := Option.map_eq_some_iff.mp hparsed'
  exact hlt

/-- The id of a task is spelled as ids are derived: no dot after `task.` -/
def ChangeTask.IsSpelled (task : ChangeTask) : Prop :=
  ∃ rest, task.id.val.toList = "task.".toList ++ rest ∧ '.' ∉ rest

/-- The graph has exactly the numbered tasks of the plan, in the order of their lines. -/
def CoversPlan (graph : TaskGraph) (content : List Char) : Prop :=
  (graph.tasks.items.map fun task => (task.source.line.val, task.id.val.toList)) =
    (parseTasks content).map fun parsed => (parsed.line, parsed.id)

section Sources

variable [HashlibBytes]

/-- What the check of a task against its line says. -/
structure SourceFits (artifacts : List OpenSpecArtifact) (task : ChangeTask)
    (artifact : OpenSpecArtifact) (text : List Char) : Prop where
  mem : artifact ∈ artifacts
  path : artifact.path = task.source.artifactPath
  role : artifact.role = .tasks
  digest : artifact.byteDigest = task.source.artifactDigest
  line : (splitlines artifact.text)[task.source.line.val - 1]? = some text
  label : (matchTask text).map Prod.snd = some (replaceChar '-' '.'
    (if "task.".toList.isPrefixOf task.id.val.toList then task.id.val.toList.drop 5
      else task.id.val.toList))

theorem sourceFits_of_validateTaskSource {artifacts : List OpenSpecArtifact} {task : ChangeTask}
    {location : String} (h : validateTaskSource task artifacts location = .ok ()) :
    ∃ artifact line, SourceFits artifacts task artifact line := by
  simp only [validateTaskSource, bind_eq_ok, orRaise_eq_ok, require_eq_ok, exists_const] at h
  obtain ⟨artifact, hfind, ⟨hrole, hdigest⟩, line, hline, hlabel⟩ := h
  exact ⟨artifact, line, List.mem_of_find?_eq_some hfind, by simpa using List.find?_some hfind,
    hrole, hdigest, hline, hlabel⟩

namespace SourceFits

variable {artifacts : List OpenSpecArtifact} {task : ChangeTask} {artifact : OpenSpecArtifact}
  {line : List Char}

/-- The task is a numbered task of the plan. -/
theorem exists_parsed (h : SourceFits artifacts task artifact line) :
    ∃ parsed ∈ parseTasks artifact.text, parsed.line = task.source.line.val ∧
      (task.IsSpelled → parsed.id = task.id.val.toList) := by
  obtain ⟨⟨mark, label⟩, hmatch, hlabel⟩ := Option.map_eq_some_iff.mp h.label
  refine ⟨⟨taskIdOf label, task.source.line.val, taskStatusOf mark⟩, ?_, rfl, ?_⟩
  · exact mem_parseTasks.mpr ⟨mark, label, ⟨line, h.line, hmatch⟩, task.source.line.property.1,
      rfl, rfl⟩
  · rintro ⟨rest, hrest, hdot⟩
    have hstarts : "task.".toList.isPrefixOf task.id.val.toList = true := by
      rw [hrest, List.isPrefixOf_iff_prefix]
      exact List.prefix_append _ _
    have hdrop : task.id.val.toList.drop 5 = rest := by
      rw [hrest]
      exact @List.drop_left _ "task.".toList rest
    rw [if_pos hstarts, hdrop] at hlabel
    simp only at hlabel ⊢
    rw [taskIdOf, hlabel, replaceChar_replaceChar hdot, hrest]

end SourceFits

end Sources

theorem isSpelled_of_taskIdOf {task : ChangeTask} {label : List Char}
    (h : task.id.val.toList = taskIdOf label) : task.IsSpelled :=
  ⟨_, h, notMem_replaceChar (by decide) label⟩

/-- The tasks are those of the plan when there are as many, in the order of their lines, and their
ids are spelled as ids are derived. -/
theorem coversPlan_iff {graph : TaskGraph} {content : List Char}
    (hfits : ∀ task ∈ graph.tasks.items, ∃ parsed ∈ parseTasks content,
      parsed.line = task.source.line.val ∧ (task.IsSpelled → parsed.id = task.id.val.toList)) :
    CoversPlan graph content ↔
      graph.tasks.items.length = (parseTasks content).length ∧
      SortedKeys (fun task : ChangeTask => task.source.line.val) graph.tasks.items ∧
      ∀ task ∈ graph.tasks.items, task.IsSpelled := by
  have hplan : SortedKeys Prod.fst ((parseTasks content).map fun parsed =>
      (parsed.line, parsed.id)) := by
    rw [SortedKeys, List.pairwise_map]
    exact sortedKeys_parseTasks content
  constructor
  · intro h
    refine ⟨by simpa using congrArg List.length h, ?_, fun task htask => ?_⟩
    · rw [← h, SortedKeys, List.pairwise_map] at hplan
      exact hplan
    · have hmem : (task.source.line.val, task.id.val.toList) ∈
          (parseTasks content).map fun parsed => (parsed.line, parsed.id) := by
        rw [← h]
        exact List.mem_map_of_mem htask
      obtain ⟨parsed, hparsed, heq⟩ := List.mem_map.mp hmem
      obtain ⟨_, label, hline⟩ := mem_parseTasks.mp hparsed
      exact isSpelled_of_taskIdOf ((congrArg Prod.snd heq).symm.trans hline.id)
  · rintro ⟨hlength, hordered, hspelled⟩
    have htasks : SortedKeys Prod.fst (graph.tasks.items.map fun task =>
        (task.source.line.val, task.id.val.toList)) := by
      rw [SortedKeys, List.pairwise_map]
      exact hordered
    have hsub : (graph.tasks.items.map fun task => (task.source.line.val, task.id.val.toList)) ⊆
        (parseTasks content).map fun parsed => (parsed.line, parsed.id) := by
      intro pair hpair
      obtain ⟨task, htask, rfl⟩ := List.mem_map.mp hpair
      obtain ⟨parsed, hparsed, hline, hid⟩ := hfits task htask
      exact List.mem_map.mpr ⟨parsed, hparsed, by rw [hline, hid (hspelled task htask)]⟩
    have hperm := (htasks.items_nodup.subperm hsub).perm_of_length_le (by
      rw [List.length_map, List.length_map, hlength])
    exact htasks.eq_of_mem_iff hplan fun _ => hperm.mem_iff

/-! ### What an accepted graph says -/

theorem nodup_and_sorted_ids {tasks : List ChangeTask} {i : Nat} (hi : i < tasks.length)
    (h : validateTaskIn tasks i tasks[i] = .ok ()) :
    SortedKeys Subtype.val tasks[i].dependencyIds ∧
      SortedKeys DeltaSubjectRef.key tasks[i].subjects.val := by
  simp only [validateTaskIn, bind_eq_ok, require_eq_ok, exists_const] at h
  obtain ⟨-, -, hdependencies, hsubjects, -⟩ := h
  exact ⟨sortedKeys_iff.mpr (nodup_and_eq_sortedBy_iff.mp hdependencies),
    sortedKeys_iff.mpr (nodup_and_eq_sortedBy_iff.mp hsubjects)⟩

namespace TaskGraph

variable (graph : TaskGraph)

theorem ids_nodup : (graph.tasks.items.map ChangeTask.id).Nodup := by
  have h := graph.valid
  simp only [validateGraphShape, bind_eq_ok, require_eq_ok, exists_const] at h
  exact h.2.1

theorem orders : (graph.tasks.items.map fun task => task.order.val) =
    List.range' 1 graph.tasks.items.length := by
  have h := graph.valid
  simp only [validateGraphShape, bind_eq_ok, require_eq_ok, exists_const] at h
  exact h.2.2

theorem get?_tasksById {id : Identifier} {task : ChangeTask} :
    graph.tasksById.get? id = some task ↔ task ∈ graph.tasks.items ∧ task.id = id :=
  Dict.get?_index graph.ids_nodup

end TaskGraph

/-- A dependency comes before the task, and is complete when the task is. -/
structure Precedes (target task : ChangeTask) : Prop where
  order : target.order.val < task.order.val
  status : task.status = .completed → target.status = .completed

/-- The tasks are in order, and all their dependencies precede them. -/
structure Topology (graph : TaskGraph) : Prop where
  tasks : ∀ i (h : i < graph.tasks.items.length),
    validateTaskIn graph.tasks.items i graph.tasks.items[i] = .ok ()
  dependencies : ∀ task ∈ graph.tasks.items, ∀ id ∈ task.dependencyIds,
    ∃ target ∈ graph.tasks.items, target.id = id ∧ Precedes target task

theorem validateTaskStatusDependencies_eq_ok {graph : TaskGraph} {u : Unit} :
    validateTaskStatusDependencies graph = .ok u ↔
      ∀ task ∈ graph.tasks.items, ∀ id ∈ task.dependencyIds, ∃ target ∈ graph.tasks.items,
        target.id = id ∧ (task.status = .completed → target.status = .completed) := by
  refine checkEach_eq_ok_of_iff fun index task => ?_
  simp only [bind_eq_ok, require_eq_ok, exists_const, List.filter_eq_nil_iff, TaskGraph.incomplete,
    decide_eq_true_eq]
  constructor
  · rintro ⟨hresolved, hstatus⟩ id hid
    obtain ⟨target, htarget⟩ := Option.ne_none_iff_exists'.mp (hresolved id hid)
    obtain ⟨hmem, hidEq⟩ := graph.get?_tasksById.mp htarget
    refine ⟨target, hmem, hidEq, fun hcompleted => ?_⟩
    have hnot := hstatus hcompleted id hid
    rw [htarget] at hnot
    simpa using hnot
  · intro h
    refine ⟨fun id hid hnone => ?_, fun hcompleted id hid hany => ?_⟩
    · obtain ⟨target, hmem, hidEq, -⟩ := h id hid
      rw [graph.get?_tasksById.mpr ⟨hmem, hidEq⟩] at hnone
      cases hnone
    · obtain ⟨target, hmem, hidEq, hstatus⟩ := h id hid
      rw [graph.get?_tasksById.mpr ⟨hmem, hidEq⟩] at hany
      simp [hstatus hcompleted] at hany

/-- Where all dependencies precede their tasks there is no cycle to find. -/
theorem findTaskCycle_eq_none {graph : TaskGraph}
    (h : ∀ task ∈ graph.tasks.items, ∀ id ∈ task.dependencyIds, ∃ target ∈ graph.tasks.items,
      target.id = id ∧ target.order.val < task.order.val) :
    findTaskCycle graph.tasksById = none := by
  let rank : Identifier → Nat := fun id =>
    ((graph.tasksById.get? id).map fun task => task.order.val).getD 0
  refine @CycleSearch.find_eq_none _ _ _ _ rank fun id hid targetId htarget => ?_
  obtain ⟨task, htask⟩ := Dict.mem_keys.mp hid
  rw [htask] at htarget
  obtain ⟨target, hmem, hidEq, hlt⟩ :=
    h task (graph.get?_tasksById.mp htask).1 targetId htarget
  have hget := graph.get?_tasksById.mpr ⟨hmem, hidEq⟩
  simpa [rank, htask, hget] using hlt

theorem validateTaskGraphTopology_eq_ok {graph : TaskGraph} {u : Unit} :
    validateTaskGraphTopology graph = .ok u ↔ Topology graph := by
  have hjson : canonicalLifecycleJson graph = .ok (modelDump graph).canonicalLine :=
    canonicalLifecycleJson_eq_ok rfl rfl (by decide)
  have horder : ∀ task : ChangeTask, (∀ id ∈ task.dependencyIds,
      (graph.tasksById.get? id).all (fun target => target.order.val < task.order.val) = true) ↔
      ∀ id ∈ task.dependencyIds, ∀ target ∈ graph.tasks.items, target.id = id →
        target.order.val < task.order.val := by
    intro task
    refine forall₂_congr fun id _ => ?_
    simp only [Option.all_eq_true, decide_eq_true_eq, graph.get?_tasksById, and_imp]
  simp only [validateTaskGraphTopology, hjson, ok_bind, bind_eq_ok, checkEach_eq_ok,
    validateTaskStatusDependencies_eq_ok]
  constructor
  · rintro ⟨_, htasks, _, hstatus, hrest⟩
    split at hrest
    · cases hrest
    · refine ⟨htasks, fun task htask id hid => ?_⟩
      obtain ⟨target, hmem, hidEq, hcompleted⟩ := hstatus task htask id hid
      have hall := (checkEach_eq_ok_of_iff (P := fun task : ChangeTask => ∀ id ∈ task.dependencyIds,
        ∀ target ∈ graph.tasks.items, target.id = id → target.order.val < task.order.val)
        fun _ task => by rw [require_eq_ok]; exact horder task).mp hrest
      exact ⟨target, hmem, hidEq, hall task htask id hid target hmem hidEq, hcompleted⟩
  · intro h
    refine ⟨(), h.tasks, (), fun task htask id hid => ?_, ?_⟩
    · obtain ⟨target, hmem, hidEq, hprecedes⟩ := h.dependencies task htask id hid
      exact ⟨target, hmem, hidEq, hprecedes.status⟩
    · rw [findTaskCycle_eq_none fun task htask id hid => by
        obtain ⟨target, hmem, hidEq, hprecedes⟩ := h.dependencies task htask id hid
        exact ⟨target, hmem, hidEq, hprecedes.order⟩]
      refine (checkEach_eq_ok_of_mem (P := fun task : ChangeTask => ∀ id ∈ task.dependencyIds,
        ∀ target ∈ graph.tasks.items, target.id = id → target.order.val < task.order.val)
        fun _ task _ => by rw [require_eq_ok]; exact horder task).mpr ?_
      intro task htask id hid target hmem hidEq
      obtain ⟨target', hmem', hidEq', hprecedes⟩ := h.dependencies task htask id hid
      rw [List.inj_on_of_nodup_map graph.ids_nodup hmem hmem' (hidEq.trans hidEq'.symm)]
      exact hprecedes.order

section Graph

variable [Hashlib]

/-- The reference to a delta. -/
def BehaviorDelta.ref (delta : BehaviorDelta) : BehaviorDeltaRef :=
  ⟨delta.changeId, ⟨identityDigest (modelDump delta)⟩⟩

theorem behaviorDeltaRef_eq_ok (delta : BehaviorDelta) :
    behaviorDeltaRef delta = .ok delta.ref := by
  rw [behaviorDeltaRef, canonicalLifecycleDigest, canonicalLifecycleJson_eq_ok rfl rfl (by decide)]
  rfl

/-- The graph is about the subjects of the delta. -/
structure GraphFits (graph : TaskGraph) (delta : BehaviorDelta) : Prop where
  changeId : graph.changeId = delta.changeId
  deltaRef : graph.delta = delta.ref
  topology : Topology graph
  subjects : ∀ subject, subject ∈ delta.entries.val.map BehaviorDeltaEntry.subjectRef ↔
    ∃ task ∈ graph.tasks.items, subject ∈ task.subjects.val

theorem validateTaskGraphAgainstDelta_eq_ok {graph : TaskGraph} {delta : BehaviorDelta} :
    validateTaskGraphAgainstDelta graph delta = .ok () ↔ GraphFits graph delta := by
  have hgraph : canonicalLifecycleJson graph = .ok (modelDump graph).canonicalLine :=
    canonicalLifecycleJson_eq_ok rfl rfl (by decide)
  have hdelta : canonicalLifecycleJson delta = .ok (modelDump delta).canonicalLine :=
    canonicalLifecycleJson_eq_ok rfl rfl (by decide)
  simp only [validateTaskGraphAgainstDelta, hgraph, hdelta, behaviorDeltaRef_eq_ok, ok_bind,
    bind_eq_ok, require_eq_ok, exists_const, validateTaskGraphTopology_eq_ok,
    List.filter_eq_nil_iff, List.mem_dedup, List.mem_flatMap, decide_eq_true_eq, not_not]
  constructor
  · rintro ⟨hchange, href, htopology, hmissing, hextra⟩
    exact ⟨hchange, href, htopology, fun subject => ⟨hmissing subject, hextra subject⟩⟩
  · intro h
    exact ⟨h.changeId, h.deltaRef, h.topology, fun subject => (h.subjects subject).mp,
      fun subject => (h.subjects subject).mpr⟩

end Graph

end Ucf
