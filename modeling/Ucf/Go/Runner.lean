import Ucf.Library.Dict
import Ucf.Library.Json
import Ucf.Library.Runs

/-! The operation runner of the Go adapter: a reader that accepts and cancels operations and a
goroutine that runs them one after another. Each event is a section of the source that holds
`operationMu`, or the end of what the goroutine does between two such sections. -/

namespace Ucf.Go

/-- `maxPending` -/
def maxPending : Nat := 64

/-- `operationOutcome` -/
structure OperationOutcome where
  result : Option Json := none
  code : String := ""
  message : String := ""
  cancellationCleanupFailed : Bool := false

/-- `operationJob`: `done` says that its context is cancelled. -/
structure OperationJob where
  id : String
  method : String
  payload : Json
  block : Bool
  started : Bool := false
  cancelled : Bool := false
  done : Bool := false

/-- A response with an id: the code of an error, or the result. -/
structure OperationResponse where
  id : String
  content : String ⊕ Json

/-- `writeError(id, code, _)` -/
def errorResponse (id code : String) : OperationResponse := ⟨id, .inl code⟩

/-- `writeOperationOutcome` -/
def outcomeResponse (id : String) (outcome : OperationOutcome) : OperationResponse :=
  if outcome.code ≠ "" then errorResponse id outcome.code
  else
    match outcome.result with
    | none => errorResponse id "internal_error"
    | some result => ⟨id, .inr result⟩

/-- `write`: a response that is too large for a frame is replaced. -/
def write (fits : OperationResponse → Bool) (response : OperationResponse) : OperationResponse :=
  if fits response then response else errorResponse response.id "operation_failed"

/-- Where `runOperationLoop` stands. -/
inductive LoopState where
  | waiting
  | running (job : Nat)
  | completing (job : Nat) (outcome : OperationOutcome)
  | exited

/-- The part of `server` that the runner works on. A job is the position of its record in `heap`,
which holds the records of all jobs that were accepted. -/
structure Runner where
  heap : List OperationJob := []
  operationJobs : Dict String Nat := .empty
  operationQueue : List Nat := []
  operationStopping : Bool := false
  loop : LoopState := .waiting

inductive RunnerEvent where
  | enqueueOperation (id method : String) (payload : Json) (block : Bool)
  | cancelOperation (id : String)
  | stopOperationRunner
  /-- The loop's first section, up to where the job is run. -/
  | takeJob
  /-- `runProductOperation` returns, or a blocking job sees that its context is cancelled. -/
  | finishJob (outcome : OperationOutcome)
  | completeOperation

inductive Observation where
  | accepted (job : Nat)
  | refused (id : String)
  /-- `cancelOperation` for an active job. -/
  | cancelling (id : String)
  | started (job : Nat)
  | returned (job : Nat)
  | response (response : OperationResponse)

namespace Runner

variable (fits : OperationResponse → Bool) (s : Runner)

/-- `operationJobs[job.id] == job` -/
def isActive (job : Nat) : Bool :=
  s.heap[job]?.any fun record => s.operationJobs.get? record.id = some job

/-- `enqueueOperation`. The reader uses a new id for each request. -/
def enqueueOperation (id method : String) (payload : Json) (block : Bool) :
    Runner × List Observation :=
  if id ∈ s.heap.map OperationJob.id then (s, [])
  else if s.operationStopping ∨ s.operationJobs.size ≥ maxPending then (s, [.refused id])
  else
    ({ s with
      heap := s.heap ++ [{ id, method, payload, block }]
      operationJobs := s.operationJobs.insert id s.heap.length
      operationQueue := s.operationQueue ++ [s.heap.length] }, [.accepted s.heap.length])

/-- `job.cancelled = true; job.cancel()` -/
def markCancelled (record : OperationJob) : OperationJob :=
  { record with cancelled := true, done := true }

/-- `cancelOperation` -/
def cancelOperation (id : String) : Runner × List Observation :=
  match s.operationJobs.get? id with
  | none => (s, [])
  | some job =>
    let started := s.heap[job]?.any OperationJob.started
    let block := s.heap[job]?.any OperationJob.block
    let s := { s with heap := s.heap.modify job markCancelled }
    if started ∧ ¬block then (s, [.cancelling id])
    else
      ({ s with
        operationQueue := if started then s.operationQueue else s.operationQueue.erase job
        operationJobs := s.operationJobs.erase id },
        [.cancelling id, .response (write fits (errorResponse id "request_cancelled"))])

/-- `stopOperationRunner`, up to the wait for the loop's end. -/
def stopOperationRunner : Runner × List Observation :=
  if s.operationStopping then (s, [])
  else
    ({ s with
      heap := s.heap.mapIdx fun job record =>
        if s.operationJobs.get? record.id = some job then markCancelled record else record
      operationJobs := ⟨s.operationJobs.items.filter fun item =>
          s.heap[item.2]?.any OperationJob.started,
        s.operationJobs.nodup.sublist (List.filter_sublist.map _)⟩
      operationQueue := []
      operationStopping := true }, [])

/-- The first section of a round of `runOperationLoop`. Without a job it waits, or ends when the
runner is stopping. -/
def takeJob : Runner × List Observation :=
  match s.loop, s.operationQueue with
  | .waiting, [] => if s.operationStopping then ({ s with loop := .exited }, []) else (s, [])
  | .waiting, job :: queue =>
    let s := { s with operationQueue := queue }
    if s.isActive job then
      ({ s with
        heap := s.heap.modify job fun record => { record with started := true }
        loop := .running job }, [.started job])
    else (s, [])
  | _, _ => (s, [])

/-- What running a job can end with: a blocking job waits for its context and gives no outcome, and
a product operation says that it was cancelled only when its context is. -/
def mayFinish (record : OperationJob) (outcome : OperationOutcome) : Prop :=
  if record.block then record.done ∧ outcome.code = "" ∧ outcome.result = none ∧
    outcome.cancellationCleanupFailed = false
  else outcome.code = "request_cancelled" → record.done

instance (record : OperationJob) (outcome : OperationOutcome) :
    Decidable (mayFinish record outcome) := by
  unfold mayFinish
  infer_instance

/-- The job that is running ends with an outcome. -/
def finishJob (outcome : OperationOutcome) : Runner × List Observation :=
  match s.loop with
  | .running job =>
    match s.heap[job]? with
    | some record =>
      if mayFinish record outcome then ({ s with loop := .completing job outcome }, [.returned job])
      else (s, [])
    | none => (s, [])
  | _ => (s, [])

/-- `completeOperation` -/
def completeOperation : Runner × List Observation :=
  match s.loop with
  | .completing job outcome =>
    match s.heap[job]? with
    | some record =>
      if s.operationJobs.get? record.id = some job then
        ({ s with
          heap := s.heap.modify job fun record => { record with done := true }
          operationJobs := s.operationJobs.erase record.id
          loop := .waiting },
          if s.operationStopping then []
          else if record.cancelled ∧ ¬outcome.cancellationCleanupFailed then
            [.response (write fits (errorResponse record.id "request_cancelled"))]
          else [.response (write fits (outcomeResponse record.id outcome))])
      else ({ s with loop := .waiting }, [])
    | none => (s, [])
  | _ => (s, [])

/-- `operationCount` -/
def operationCount : Nat := s.operationJobs.size

def step : RunnerEvent → Runner × List Observation
  | .enqueueOperation id method payload block => s.enqueueOperation id method payload block
  | .cancelOperation id => s.cancelOperation fits id
  | .stopOperationRunner => s.stopOperationRunner
  | .takeJob => s.takeJob
  | .finishJob outcome => s.finishJob outcome
  | .completeOperation => s.completeOperation fits

end Runner

/-- The runner with its reader, as a machine. -/
def operationRunner (fits : OperationResponse → Bool) : Machine Runner RunnerEvent Observation where
  start := {}
  step := Runner.step fits

end Ucf.Go
