import Ucf.Change.Delta
import Ucf.Library.CycleSearch

/-! The tasks of a change: derived from the numbered checkboxes of its tasks artifact, and checked
against the artifact, the delta and each other. -/

namespace Ucf

def taskGraphSchemaUri : String := "urn:ucf:change-lifecycle:task-graph:1.0.0"

def maxChangeTasks : Nat := 1024

/-! ### Models -/

structure BehaviorDeltaRef where
  changeId : OpenSpecChangeId
  canonicalDigest : Digest
deriving DecidableEq

instance : Model BehaviorDeltaRef :=
  .record (.lit "kind" "behavior_delta_ref" <|
      .lit "change_lifecycle_version" changeLifecycleVersion <|
      .lit "schema_uri" behaviorDeltaSchemaUri <| .required "change_id" <|
      .required "canonical_digest" .nil)
    (fun r => (r.changeId, r.canonicalDigest, ())) (fun (id, digest, ()) => ⟨id, digest⟩)

inductive DeltaOperation where
  | added
  | modified
  | removed
deriving DecidableEq, Repr

def DeltaOperation.value : DeltaOperation → String
  | added => "added"
  | modified => "modified"
  | removed => "removed"

instance : Model DeltaOperation := .enum [.added, .modified, .removed] DeltaOperation.value

structure DeltaSubjectRef where
  operation : DeltaOperation
  targetKind : EntityKind
  targetId : Identifier
deriving DecidableEq

instance : Model DeltaSubjectRef :=
  .record (.lit "kind" "delta_subject_ref" <| .required "operation" <| .required "target_kind" <|
      .required "target_id" .nil)
    (fun r => (r.operation, r.targetKind, r.targetId, ()))
    (fun (operation, kind, id, ()) => ⟨operation, kind, id⟩)

/-- `_delta_subject_key` -/
def DeltaSubjectRef.key (subject : DeltaSubjectRef) : String ×ₗ String ×ₗ String :=
  toLex (subject.operation.value, toLex (subject.targetKind.value, subject.targetId.val))

/-- `delta_subject_ref` -/
def BehaviorDeltaEntry.subjectRef : BehaviorDeltaEntry → DeltaSubjectRef
  | added e => ⟨.added, e.finalSubject.targetKind, e.finalSubject.targetId⟩
  | modified e => ⟨.modified, e.finalSubject.targetKind, e.finalSubject.targetId⟩
  | removed e => ⟨.removed, e.baseSubject.targetKind, e.baseSubject.targetId⟩

structure TaskRef where
  targetId : Identifier
deriving DecidableEq

instance : Model TaskRef :=
  .record (.lit "kind" "task_ref" <| .required "target_id" .nil) (fun r => (r.targetId, ()))
    (fun (id, ()) => ⟨id⟩)

structure TaskSource where
  artifactPath : RelativeArtifactPath
  artifactDigest : Digest
  line : SafeNat 1
deriving DecidableEq

instance : Model TaskSource :=
  .record (.lit "kind" "task_source" <| .required "artifact_path" <|
      .required "artifact_digest" <| .required "line" .nil)
    (fun s => (s.artifactPath, s.artifactDigest, s.line, ()))
    (fun (path, digest, line, ()) => ⟨path, digest, line⟩)

inductive TaskStatus where
  | pending
  | completed
deriving DecidableEq, Repr

def TaskStatus.value : TaskStatus → String
  | pending => "pending"
  | completed => "completed"

instance : Model TaskStatus := .enum [.pending, .completed] TaskStatus.value

/-- `tuple[DeltaSubjectRef, ...]` with at least one element. -/
abbrev TaskSubjects : Type := { subjects : List DeltaSubjectRef // 1 ≤ subjects.length }

instance : Model TaskSubjects :=
  .refine "too_short" fun subjects : List DeltaSubjectRef => 1 ≤ subjects.length

structure ChangeTask where
  id : Identifier
  order : SafeNat 1
  dependsOn : List TaskRef
  subjects : TaskSubjects
  status : TaskStatus
  source : TaskSource
deriving DecidableEq

instance : Model ChangeTask :=
  .record (.lit "kind" "change_task" <| .required "id" <| .required "order" <|
      .required "depends_on" <| .required "subjects" <| .required "status" <|
      .required "source" .nil)
    (fun t => (t.id, t.order, t.dependsOn, t.subjects, t.status, t.source, ()))
    (fun (id, order, dependsOn, subjects, status, source, ()) =>
      ⟨id, order, dependsOn, subjects, status, source⟩)

/-- `TaskGraph.validate_shape` -/
def validateGraphShape (changeId : OpenSpecChangeId) (delta : BehaviorDeltaRef)
    (tasks : List ChangeTask) : Except String Unit := do
  require (delta.changeId = changeId) "task graph change ID differs from its delta"
  require (tasks.map ChangeTask.id).Nodup "task graph contains duplicate task IDs"
  require ((tasks.map fun task => task.order.val) = List.range' 1 tasks.length)
    "task graph order is not canonical and contiguous"

structure TaskGraph where
  changeId : OpenSpecChangeId
  delta : BehaviorDeltaRef
  tasks : Tuple 1 maxChangeTasks ChangeTask
  valid : validateGraphShape changeId delta tasks.items = .ok ()
deriving DecidableEq

instance : Model TaskGraph :=
  .recordWhere (.lit "kind" "task_graph" <|
      .lit "change_lifecycle_version" changeLifecycleVersion <|
      .lit "schema_uri" taskGraphSchemaUri <| .required "change_id" <| .required "delta" <|
      .required "tasks" .nil)
    (fun (changeId, delta, tasks, ()) => validateGraphShape changeId delta tasks.items = .ok ())
    (fun g => ⟨(g.changeId, g.delta, g.tasks, ()), g.valid⟩)
    (fun ⟨(changeId, delta, tasks, ()), h⟩ => ⟨changeId, delta, tasks, h⟩)

/-- `TaskGraph(...)` -/
def TaskGraph.make (changeId : OpenSpecChangeId) (delta : BehaviorDeltaRef)
    (tasks : List ChangeTask) : Except (List Issue) TaskGraph := do
  let tasks ← Tuple.ofList tasks
  if h : validateGraphShape changeId delta tasks.items = .ok () then
    pure ⟨changeId, delta, tasks, h⟩
  else throw [⟨"value_error", []⟩]

/-! ### The tasks artifact -/

/-- The characters at which `str.splitlines` ends a line. -/
def isLineBreak (c : Char) : Bool :=
  let n := c.toNat
  (0xa ≤ n && n ≤ 0xd) || (0x1c ≤ n && n ≤ 0x1e) || n = 0x85 || n = 0x2028 || n = 0x2029

/-- The lines of a text, of which the first begins with `line`. -/
def splitlinesFrom (line : List Char) : List Char → List (List Char)
  | [] => if line = [] then [] else [line]
  | '\r' :: '\n' :: rest => line :: splitlinesFrom [] rest
  | c :: rest =>
    if isLineBreak c then line :: splitlinesFrom [] rest else splitlinesFrom (line ++ [c]) rest

/-- `content.splitlines()` -/
def splitlines (content : List Char) : List (List Char) := splitlinesFrom [] content

/-- `\s` of Python's `re` on text: `str.isspace`. -/
def isPySpace (c : Char) : Bool := isSpace c || (0x1c ≤ c.toNat && c.toNat ≤ 0x1f)

/-- `\s+`: what follows at least one space. -/
def skipSpaces : List Char → Option (List Char)
  | [] => none
  | c :: rest => if isPySpace c then some (rest.dropWhile isPySpace) else none

/-- `[0-9]+(?:\.[0-9]+)*` -/
def isTaskNumber (cs : List Char) : Bool :=
  (splitOn '.' cs).all fun part => part ≠ [] && part.all isDigit

/-- What follows `[-*]\s+\[([ xX])\]\s+`, with the mark. -/
def matchCheckbox : List Char → Option (Char × List Char)
  | [] => none
  | bullet :: rest =>
    if bullet ∈ ['-', '*'] then do
      match ← skipSpaces rest with
      | '[' :: mark :: ']' :: rest =>
        if mark ∈ [' ', 'x', 'X'] then (skipSpaces rest).map fun rest => (mark, rest) else none
      | _ => none
    else none

/-- `_OPENSPEC_TASK.match`: the mark and the number -/
def matchTask (line : List Char) : Option (Char × List Char) := do
  let (mark, rest) ← matchCheckbox line
  let number := rest.takeWhile fun c => isDigit c || c = '.'
  if isTaskNumber number ∧ (rest.drop number.length).head?.any isPySpace then some (mark, number)
  else none

/-- `value.replace(old, new)` of single characters -/
def replaceChar (old new : Char) (cs : List Char) : List Char :=
  cs.map fun c => if c = old then new else c

/-- `"task." + number.replace(".", "-")` -/
def taskIdOf (number : List Char) : List Char := "task.".toList ++ replaceChar '.' '-' number

/-- `TaskStatus.PENDING if mark == " " else TaskStatus.COMPLETED` -/
def taskStatusOf (mark : Char) : TaskStatus := if mark = ' ' then .pending else .completed

/-- A numbered checkbox: its task id, its line and its status. -/
structure ParsedTask where
  id : List Char
  line : Nat
  status : TaskStatus
deriving DecidableEq

/-- The loop of `derive_task_graph` over the lines. -/
def parseTasks (content : List Char) : List ParsedTask :=
  ((splitlines content).zipIdx 1).filterMap fun (line, number) =>
    (matchTask line).map fun (mark, label) => ⟨taskIdOf label, number, taskStatusOf mark⟩

section Graph

variable [HashlibBytes]

/-- `base64.b64decode(artifact.content_base64).decode("utf-8")` of a text artifact -/
def OpenSpecArtifact.text (artifact : OpenSpecArtifact) : List Char :=
  (utf8Decode artifact.content).getD []

variable [Hashlib]

omit [HashlibBytes] in
/-- `behavior_delta_ref` -/
def behaviorDeltaRef (delta : BehaviorDelta) : Except ChangeLifecycleError BehaviorDeltaRef := do
  pure ⟨delta.changeId, ← canonicalLifecycleDigest delta⟩

/-! ### Validating a graph -/

/-- `repr` of a tuple of strings -/
def pyTuple : List String → String
  | [item] => "('" ++ item ++ "',)"
  | items => "(" ++ ", ".intercalate (items.map fun item => "'" ++ item ++ "'") ++ ")"

omit [HashlibBytes] [Hashlib] in
/-- `repr` of a sorted list of subject keys -/
def pySubjects (subjects : List DeltaSubjectRef) : String :=
  "[" ++ ", ".intercalate ((sortedBy DeltaSubjectRef.key subjects).map fun subject =>
    pyTuple [subject.operation.value, subject.targetKind.value, subject.targetId.val]) ++ "]"

omit [HashlibBytes] [Hashlib] in
/-- `{task.id: task for task in graph.tasks}` -/
def TaskGraph.tasksById (graph : TaskGraph) : Dict Identifier ChangeTask :=
  Dict.index ChangeTask.id graph.tasks.items

/-- The ids that a task depends on. -/
def ChangeTask.dependencyIds (task : ChangeTask) : List Identifier := task.dependsOn.map TaskRef.targetId

/-- The place of a task in the artifacts. -/
def ChangeTask.coordinate (task : ChangeTask) : RelativeArtifactPath × Nat :=
  (task.source.artifactPath, task.source.line.val)

omit [HashlibBytes] [Hashlib] in
/-- The dependencies of a task that are not complete. -/
def TaskGraph.incomplete (graph : TaskGraph) (task : ChangeTask) : List Identifier :=
  task.dependencyIds.filter fun id =>
    (graph.tasksById.get? id).any fun target => target.status ≠ .completed

omit [HashlibBytes] [Hashlib] in
/-- `_validate_task_status_dependencies` -/
def validateTaskStatusDependencies (graph : TaskGraph) : Except ChangeLifecycleError Unit :=
  checkEach (fun (index : Nat) (task : ChangeTask) => do
    let missing := task.dependencyIds.filter fun id => graph.tasksById.get? id = none
    require (missing = []) ⟨.brokenReference,
      "task dependencies do not resolve: " ++ pyTuple (missing.map Subtype.val),
      at_ "$.tasks" index ++ ".depends_on"⟩
    require (task.status = .completed → graph.incomplete task = []) ⟨.invalidTransition,
      "completed task has pending predecessors: " ++
        pyTuple ((graph.incomplete task).map Subtype.val),
      at_ "$.tasks" index ++ ".status"⟩) graph.tasks.items

omit [HashlibBytes] [Hashlib] in
/-- `_find_task_cycle` -/
def findTaskCycle (tasksById : Dict Identifier ChangeTask) : Option (List Identifier) :=
  CycleSearch.find tasksById.keys fun id =>
    ((tasksById.get? id).map ChangeTask.dependencyIds).getD []

omit [HashlibBytes] [Hashlib] in
/-- The body of the first loop of `_validate_task_graph_topology`. -/
def validateTaskIn (tasks : List ChangeTask) (index : Nat) (task : ChangeTask) :
    Except ChangeLifecycleError Unit := do
  let location := at_ "$.tasks" index
  require (task.id ∉ (tasks.take index).map ChangeTask.id) ⟨.duplicateIdentity,
    "duplicate task ID '" ++ task.id.val ++ "'", location ++ ".id"⟩
  require (task.order.val = index + 1) ⟨.nonCanonicalOrder,
    "task order is not canonical and contiguous", location ++ ".order"⟩
  let dependencyIds : List String := task.dependencyIds.map Subtype.val
  require (dependencyIds.Nodup ∧ dependencyIds = sortedBy id dependencyIds) ⟨.nonCanonicalOrder,
    "task dependencies are duplicated or non-canonical", location ++ ".depends_on"⟩
  let subjectKeys := task.subjects.val.map DeltaSubjectRef.key
  require (subjectKeys.Nodup ∧ subjectKeys = sortedBy id subjectKeys) ⟨.nonCanonicalOrder,
    "task subjects are duplicated or non-canonical", location ++ ".subjects"⟩
  require (task.coordinate ∉ (tasks.take index).map ChangeTask.coordinate) ⟨.duplicateIdentity,
    "tasks share one source coordinate", location ++ ".source"⟩

omit [HashlibBytes] [Hashlib] in
/-- `_validate_task_graph_topology` -/
def validateTaskGraphTopology (graph : TaskGraph) : Except ChangeLifecycleError Unit := do
  let _ ← canonicalLifecycleJson graph
  checkEach (validateTaskIn graph.tasks.items) graph.tasks.items
  validateTaskStatusDependencies graph
  match findTaskCycle graph.tasksById with
  | some cycle =>
    throw ⟨.cyclicDependency, "task dependency cycle detected: " ++
      " -> ".intercalate (cycle.map Subtype.val), "$.tasks"⟩
  | none =>
    checkEach (fun index task =>
      require (∀ id ∈ task.dependencyIds, (graph.tasksById.get? id).all fun target =>
          target.order.val < task.order.val)
        ⟨.nonCanonicalOrder, "task dependency must precede the dependent task",
          at_ "$.tasks" index ++ ".depends_on"⟩) graph.tasks.items

omit [HashlibBytes] in
/-- `_validate_task_graph_against_delta` -/
def validateTaskGraphAgainstDelta (graph : TaskGraph) (delta : BehaviorDelta) :
    Except ChangeLifecycleError Unit := do
  let _ ← canonicalLifecycleJson graph
  let _ ← canonicalLifecycleJson delta
  require (graph.changeId = delta.changeId)
    ⟨.brokenReference, "task graph change ID differs from the delta", "$.change_id"⟩
  let deltaRef ← behaviorDeltaRef delta
  require (graph.delta = deltaRef) ⟨.contentIdentityMismatch,
    "task graph delta reference is stale or fabricated", "$.delta"⟩
  validateTaskGraphTopology graph
  let expected := (delta.entries.val.map BehaviorDeltaEntry.subjectRef).dedup
  let actual := (graph.tasks.items.flatMap fun task => task.subjects.val).dedup
  let missing := expected.filter fun subject => subject ∉ actual
  let extra := actual.filter fun subject => subject ∉ expected
  require (missing = [] ∧ extra = [])
    ⟨if extra ≠ [] then .brokenReference else .incompleteCoverage,
      "task subject coverage differs from the delta; missing=" ++ pySubjects missing ++
        ", extra=" ++ pySubjects extra, "$.tasks"⟩

omit [Hashlib] in
/-- `_validate_task_source` -/
def validateTaskSource (task : ChangeTask) (proposal : List OpenSpecArtifact) (location : String) :
    Except ChangeLifecycleError Unit := do
  let artifact ← orRaise
    (proposal.find? fun candidate => candidate.path = task.source.artifactPath)
    ⟨.brokenReference, "task source artifact does not resolve", location ++ ".source.artifact_path"⟩
  require (artifact.role = .tasks ∧ artifact.byteDigest = task.source.artifactDigest)
    ⟨.contentIdentityMismatch, "task source artifact identity does not match the proposal",
      location ++ ".source"⟩
  let lines := splitlines artifact.text
  let line ← orRaise lines[task.source.line.val - 1]?
    ⟨.brokenReference, "task source line does not exist", location ++ ".source.line"⟩
  let expectedId := replaceChar '-' '.' (if "task.".toList.isPrefixOf task.id.val.toList then
    task.id.val.toList.drop 5 else task.id.val.toList)
  require ((matchTask line).map Prod.snd = some expectedId) ⟨.contentIdentityMismatch,
    "task ID does not match its OpenSpec checkbox coordinate", location ++ ".source.line"⟩

variable [PyYaml]

/-- `validate_task_graph` -/
def validateTaskGraph (graph : TaskGraph) (delta : BehaviorDelta) (proposal : ChangeProposal)
    (baseBehavior finalBehavior : BehaviorIR) : Except ChangeError Unit := do
  validateBehaviorDelta delta proposal baseBehavior finalBehavior
  raising (validateTaskGraphAgainstDelta graph delta)
  raising (checkEach (fun index task =>
    validateTaskSource task proposal.openspec.artifacts.items (at_ "$.tasks" index))
    graph.tasks.items)

/-! ### Deriving a graph -/

omit [HashlibBytes] [Hashlib] [PyYaml] in
/-- `_raise_pydantic_structure` -/
def structured {α : Type} (location : String) (x : Except (List Issue) α) :
    Except ChangeLifecycleError α :=
  x.mapError fun
    | issue :: _ => ⟨.invalidStructure, issue.type,
        location ++ String.ofList ((formatLocation issue.loc).toList.drop 1)⟩
    | [] => ⟨.invalidStructure, "", location⟩

omit [HashlibBytes] [Hashlib] [PyYaml] in
/-- An identifier from a text, or the error type of one that is none. -/
def Identifier.ofChars (cs : List Char) : Except (List Issue) Identifier :=
  match h : stringConstraints 1 (some 255) (matchName fun c => c ∈ ['.', '_', '-'])
      (String.ofList cs) with
  | none => .ok ⟨String.ofList cs, h⟩
  | some type => .error [⟨type, [.name "id"]⟩]

omit [HashlibBytes] [Hashlib] [PyYaml] in
/-- `_validate_subject_assignment_mapping` -/
def validateSubjectAssignmentMapping (assignments : Dict (List Char) (List DeltaSubjectRef)) :
    Except ChangeLifecycleError Unit :=
  checkEach (fun _ item => require (1 ≤ item.2.length) ⟨.invalidStructure, "too_short",
    "$.subject_assignments['" ++ String.ofList item.1 ++ "']"⟩) assignments.items

/-- The task of a numbered checkbox. -/
def changeTaskOf (artifact : OpenSpecArtifact)
    (assignments : Dict (List Char) (List DeltaSubjectRef))
    (dependencies : Dict (List Char) (List Identifier)) (parsed : ParsedTask × Nat) :
    Except (List Issue) ChangeTask := do
  let id ← Identifier.ofChars parsed.1.id
  let order ← SafeNat.ofNat 1 parsed.2
  let dependsOn := (sortedBy Subtype.val ((dependencies.get? parsed.1.id).getD [])).map TaskRef.mk
  let subjects := sortedBy DeltaSubjectRef.key ((assignments.get? parsed.1.id).getD [])
  let line ← SafeNat.ofNat 1 parsed.1.line
  if h : 1 ≤ subjects.length then
    pure ⟨id, order, dependsOn, ⟨subjects, h⟩, parsed.1.status,
      ⟨artifact.path, artifact.byteDigest, line⟩⟩
  else throw [⟨"too_short", [.name "subjects"]⟩]

omit [Hashlib] [PyYaml] in
/-- The artifacts of the tasks. -/
def taskArtifacts (proposal : List OpenSpecArtifact) : List OpenSpecArtifact :=
  proposal.filter fun artifact => artifact.role = .tasks

/-- `derive_task_graph` -/
def deriveTaskGraph (proposal : ChangeProposal) (delta : BehaviorDelta)
    (baseBehavior finalBehavior : BehaviorIR)
    (assignments : Dict (List Char) (List DeltaSubjectRef))
    (dependencies : Dict (List Char) (List Identifier)) : Except ChangeError TaskGraph := do
  raising (validateSubjectAssignmentMapping assignments)
  let _ ← raising (canonicalChangeLifecycleJson proposal)
  let _ ← raising (canonicalLifecycleJson delta)
  match taskArtifacts proposal.openspec.artifacts.items with
  | [artifact] =>
    let parsed := parseTasks artifact.text
    raising (require (parsed.length ≤ maxChangeTasks) ⟨.invalidStructure,
      "OpenSpec tasks artifact exceeds the 1024-task limit", "$.openspec.artifacts"⟩)
    raising (require (parsed ≠ []) ⟨.invalidStructure,
      "OpenSpec tasks artifact has no numbered checkbox tasks", "$.openspec.artifacts"⟩)
    let taskIds := parsed.map ParsedTask.id
    raising (require taskIds.Nodup ⟨.duplicateIdentity,
      "OpenSpec tasks artifact contains duplicate task IDs", "$.openspec.artifacts"⟩)
    raising (require (assignments.keys ⊆ taskIds ∧ taskIds ⊆ assignments.keys)
      ⟨.incompleteCoverage, "subject assignments must name every and only parsed task",
        "$.subject_assignments"⟩)
    raising (require (dependencies.keys ⊆ taskIds) ⟨.brokenReference,
      "dependency assignments name an unknown task", "$.dependencies"⟩)
    let tasks ← raising (structured "$.tasks"
      (collect (changeTaskOf artifact assignments dependencies) (parsed.zipIdx 1)))
    let deltaRef ← raising (behaviorDeltaRef delta)
    let graph ← raising (structured "$.tasks" (TaskGraph.make proposal.changeId deltaRef tasks))
    validateTaskGraph graph delta proposal baseBehavior finalBehavior
    pure graph
  | _ =>
    throw (.lifecycle ⟨.invalidStructure,
      "task derivation requires exactly one OpenSpec tasks artifact", "$.openspec.artifacts"⟩)

end Graph

end Ucf
