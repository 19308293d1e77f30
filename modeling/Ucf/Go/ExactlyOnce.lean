import Ucf.Go.Runner

/-! Every operation that the Go adapter accepts is answered exactly once, whatever the order in
which its reader and its operation loop take their sections. -/

namespace Ucf.Go

/-- The responses of a trace. -/
def responses (trace : List Observation) : List OperationResponse :=
  trace.filterMap fun
    | .response response => some response
    | _ => none

/-- The jobs that were started, in order. -/
def startedJobs (trace : List Observation) : List Nat :=
  trace.filterMap fun
    | .started job => some job
    | _ => none

/-- The jobs whose run ended, in order. -/
def returnedJobs (trace : List Observation) : List Nat :=
  trace.filterMap fun
    | .returned job => some job
    | _ => none

/-- The number of responses with an id. -/
def answers (trace : List Observation) (id : String) : Nat :=
  ((responses trace).map OperationResponse.id).count id

/-- The job that the loop has taken and not completed. -/
def LoopState.job? : LoopState → Option Nat
  | running job => some job
  | completing job _ => some job
  | _ => none

/-- The job that is being run. -/
def LoopState.current : LoopState → List Nat
  | running job => [job]
  | _ => []

namespace Runner

variable {fits : OperationResponse → Bool} {s : Runner} {event : RunnerEvent}

@[simp] theorem write_id (response : OperationResponse) : (write fits response).id = response.id := by
  unfold write
  split <;> rfl

@[simp] theorem outcomeResponse_id (id : String) (outcome : OperationOutcome) :
    (outcomeResponse id outcome).id = id := by
  unfold outcomeResponse
  split
  · rfl
  · cases outcome.result <;> rfl

/-- The response to a job that was completed. -/
def completion (fits : OperationResponse → Bool) (record : OperationJob)
    (outcome : OperationOutcome) : OperationResponse :=
  if record.cancelled ∧ ¬outcome.cancellationCleanupFailed then
    write fits (errorResponse record.id "request_cancelled")
  else write fits (outcomeResponse record.id outcome)

@[simp] theorem completion_id (record : OperationJob) (outcome : OperationOutcome) :
    (completion fits record outcome).id = record.id := by
  unfold completion
  split <;> simp [errorResponse]

/-- What a step can do to the runner. -/
inductive Change (fits : OperationResponse → Bool) (s : Runner) : Runner → List Observation → Prop
  | none : Change fits s s []
  | refused (id : String) : Change fits s s [.refused id]
  | accepted {id method : String} {payload : Json} {block : Bool}
      (hfresh : id ∉ s.heap.map OperationJob.id) (hstop : s.operationStopping = false)
      (hsize : s.operationJobs.size < maxPending) :
      Change fits s { s with
        heap := s.heap ++ [{ id, method, payload, block }]
        operationJobs := s.operationJobs.insert id s.heap.length
        operationQueue := s.operationQueue ++ [s.heap.length] } [.accepted s.heap.length]
  | signalled {job : Nat} {record : OperationJob} (hrecord : s.heap[job]? = some record)
      (hjob : s.operationJobs.get? record.id = some job) (hstarted : record.started = true) :
      Change fits s { s with heap := s.heap.modify job markCancelled } [.cancelling record.id]
  | cancelled {job : Nat} {record : OperationJob} (hrecord : s.heap[job]? = some record)
      (hjob : s.operationJobs.get? record.id = some job) :
      Change fits s { s with
        heap := s.heap.modify job markCancelled
        operationQueue := if record.started then s.operationQueue else s.operationQueue.erase job
        operationJobs := s.operationJobs.erase record.id }
        [.cancelling record.id,
          .response (write fits (errorResponse record.id "request_cancelled"))]
  | stopped (hstop : s.operationStopping = false) : Change fits s s.stopOperationRunner.1 []
  | exited (hstop : s.operationStopping = true) (hloop : s.loop = .waiting)
      (hqueue : s.operationQueue = []) : Change fits s { s with loop := .exited } []
  | skipped {job : Nat} {queue : List Nat} (hloop : s.loop = .waiting)
      (hqueue : s.operationQueue = job :: queue)
      (hinactive : ∀ record, s.heap[job]? = some record →
        s.operationJobs.get? record.id ≠ some job) :
      Change fits s { s with operationQueue := queue } []
  | started {job : Nat} {queue : List Nat} {record : OperationJob} (hloop : s.loop = .waiting)
      (hqueue : s.operationQueue = job :: queue) (hrecord : s.heap[job]? = some record)
      (hjob : s.operationJobs.get? record.id = some job) :
      Change fits s { s with
        operationQueue := queue
        heap := s.heap.modify job fun record => { record with started := true }
        loop := .running job } [.started job]
  | returned {job : Nat} {record : OperationJob} {outcome : OperationOutcome}
      (hloop : s.loop = .running job) (hrecord : s.heap[job]? = some record)
      (hmay : mayFinish record outcome) :
      Change fits s { s with loop := .completing job outcome } [.returned job]
  | completed {job : Nat} {record : OperationJob} {outcome : OperationOutcome}
      (hloop : s.loop = .completing job outcome) (hrecord : s.heap[job]? = some record)
      (hjob : s.operationJobs.get? record.id = some job) :
      Change fits s { s with
        heap := s.heap.modify job fun record => { record with done := true }
        operationJobs := s.operationJobs.erase record.id
        loop := .waiting }
        (if s.operationStopping then [] else [.response (completion fits record outcome)])
  | dropped {job : Nat} {outcome : OperationOutcome} (hloop : s.loop = .completing job outcome) :
      Change fits s { s with loop := .waiting } []

/-- The records that `operationJobs` points to have the ids that it is keyed by. -/
def PointsToIds (s : Runner) : Prop :=
  ∀ id job, s.operationJobs.get? id = some job → ∃ record, s.heap[job]? = some record ∧ record.id = id

theorem isActive_iff {job : Nat} : s.isActive job = true ↔ ∃ record, s.heap[job]? = some record ∧
    s.operationJobs.get? record.id = some job := by
  rw [isActive]
  cases s.heap[job]? <;> simp

theorem change_step (hpoints : s.PointsToIds) (event : RunnerEvent) :
    Change fits s (s.step fits event).1 (s.step fits event).2 := by
  cases event with
  | enqueueOperation id method payload block =>
    simp only [step, enqueueOperation]
    split
    · exact .none
    · rename_i hfresh
      split
      · exact .refused id
      · rename_i hopen
        rw [not_or, not_le, Bool.not_eq_true] at hopen
        exact .accepted hfresh hopen.1 hopen.2
  | cancelOperation id =>
    simp only [step, cancelOperation]
    split
    · exact .none
    · rename_i job hget
      obtain ⟨record, hrecord, rfl⟩ := hpoints id job hget
      simp only [hrecord, Option.any_some]
      split
      · rename_i hrunning
        exact .signalled hrecord hget hrunning.1
      · exact .cancelled hrecord hget
  | stopOperationRunner =>
    cases hstop : s.operationStopping with
    | true =>
      have hsame : s.step fits .stopOperationRunner = (s, []) := by
        simp [step, stopOperationRunner, hstop]
      rw [hsame]
      exact .none
    | false =>
      have hnone : (s.step fits .stopOperationRunner).2 = [] := by
        simp [step, stopOperationRunner, hstop]
      rw [hnone]
      exact .stopped hstop
  | takeJob =>
    simp only [step, takeJob]
    split
    · rename_i hloop hqueue
      split
      · rename_i hstop
        exact .exited hstop hloop hqueue
      · exact .none
    · rename_i job queue hloop hqueue
      split
      · rename_i hactive
        obtain ⟨record, hrecord, hjob⟩ := isActive_iff.mp hactive
        exact .started hloop hqueue hrecord hjob
      · rename_i hinactive
        refine .skipped hloop hqueue fun record hrecord hjob => hinactive ?_
        exact isActive_iff.mpr ⟨record, hrecord, hjob⟩
    · exact .none
  | finishJob outcome =>
    simp only [step, finishJob]
    split
    · rename_i job hloop
      split
      · rename_i record hrecord
        split
        · rename_i hmay
          exact .returned hloop hrecord hmay
        · exact .none
      · exact .none
    · exact .none
  | completeOperation =>
    simp only [step, completeOperation]
    split
    · rename_i job outcome hloop
      split
      · rename_i record hrecord
        split
        · rename_i hjob
          have hobserved : (if s.operationStopping then []
              else if record.cancelled ∧ ¬outcome.cancellationCleanupFailed then
                [Observation.response (write fits (errorResponse record.id "request_cancelled"))]
              else [Observation.response (write fits (outcomeResponse record.id outcome))]) =
              if s.operationStopping then [] else [.response (completion fits record outcome)] := by
            unfold completion
            split
            · rfl
            · split <;> rfl
          rw [hobserved]
          exact .completed hloop hrecord hjob
        · exact .dropped hloop
      · exact .none
    · exact .none

/-! ### The records, the jobs and the queue -/

/-- The job is active: `operationJobs` has it under its record's id. -/
def HasJob (s : Runner) (job : Nat) (record : OperationJob) : Prop :=
  s.heap[job]? = some record ∧ s.operationJobs.get? record.id = some job

/-- The queue holds exactly the active jobs that are not started, in the order of their acceptance,
and at most `maxPending` jobs are active. -/
structure Shape (s : Runner) : Prop where
  ids : ∀ (job other : Nat) (record record' : OperationJob), s.heap[job]? = some record → s.heap[other]? = some record' →
    record.id = record'.id → job = other
  points : s.PointsToIds
  queued : ∀ job, job ∈ s.operationQueue ↔ ∃ record, s.HasJob job record ∧ record.started = false
  sorted : s.operationQueue.Pairwise (· < ·)
  size : s.operationJobs.size ≤ maxPending
  stopped : s.operationStopping = true → s.operationQueue = []
  taken : ∀ job, s.loop.job? = some job → ∃ record, s.heap[job]? = some record ∧
    record.started = true

theorem shape_start : Shape {} := by
  constructor <;> simp [PointsToIds, HasJob, Dict.size, Dict.empty, Dict.get?, LoopState.job?]

variable {s' : Runner} {observed : List Observation}

theorem fresh_iff {id : String} : id ∉ s.heap.map OperationJob.id ↔
    ∀ (job : Nat) (record : OperationJob), s.heap[job]? = some record → record.id ≠ id := by
  rw [List.mem_map]
  push Not
  constructor
  · intro h job record hrecord
    exact h record (List.mem_of_getElem? hrecord)
  · intro h record hrecord
    obtain ⟨job, hjob, rfl⟩ := List.mem_iff_getElem.mp hrecord
    exact h job _ (List.getElem?_eq_getElem hjob)

theorem getElem?_snoc {job : Nat} {record new : OperationJob} :
    (s.heap ++ [new])[job]? = some record ↔
      s.heap[job]? = some record ∨ (job = s.heap.length ∧ record = new) := by
  rw [List.getElem?_append]
  split
  · rename_i hlt
    exact ⟨Or.inl, fun h => h.resolve_right fun h => by omega⟩
  · rename_i hge
    rw [List.getElem?_eq_none (by omega : s.heap.length ≤ job), List.getElem?_singleton]
    split
    · rename_i hzero
      simp only [Option.some.injEq, reduceCtorEq, false_or]
      constructor
      · rintro rfl
        exact ⟨by omega, rfl⟩
      · rintro ⟨-, rfl⟩
        rfl
    · rename_i hne
      simp only [reduceCtorEq, false_or, false_iff, not_and]
      intro heq
      omega

theorem lt_of_getElem? {job : Nat} {record : OperationJob} (h : s.heap[job]? = some record) :
    job < s.heap.length := by
  obtain ⟨hlt, -⟩ := List.getElem?_eq_some_iff.mp h
  exact hlt

theorem heap_stopped (hstop : s.operationStopping = false) (job : Nat) :
    s.stopOperationRunner.1.heap[job]? = s.heap[job]?.map fun old =>
      if s.operationJobs.get? old.id = some job then markCancelled old else old := by
  simp [stopOperationRunner, hstop]

theorem jobs_stopped (hstop : s.operationStopping = false) {id : String} {job : Nat} :
    s.stopOperationRunner.1.operationJobs.get? id = some job ↔
      s.operationJobs.get? id = some job ∧
        ∃ record, s.heap[job]? = some record ∧ record.started = true := by
  simp only [stopOperationRunner, hstop, Bool.false_eq_true, if_false, Dict.get?_eq_some,
    List.mem_filter, Option.any_eq_true]

@[simp] theorem markCancelled_id (record : OperationJob) : (markCancelled record).id = record.id := rfl

@[simp] theorem markCancelled_started (record : OperationJob) :
    (markCancelled record).started = record.started := rfl

theorem stopped_fields (hstop : s.operationStopping = false) :
    s.stopOperationRunner.1.operationQueue = [] ∧
      s.stopOperationRunner.1.operationStopping = true ∧
      s.stopOperationRunner.1.loop = s.loop := by
  simp [stopOperationRunner, hstop]

theorem exists_of_modify {f : OperationJob → OperationJob} (hf : ∀ record, (f record).id = record.id)
    {heap : List OperationJob} {i job : Nat} {record' : OperationJob}
    (h : (heap.modify i f)[job]? = some record') :
    ∃ record, heap[job]? = some record ∧ record.id = record'.id := by
  rw [List.getElem?_modify, Option.map_eq_map, Option.map_eq_some_iff] at h
  obtain ⟨record, hrecord, heq⟩ := h
  refine ⟨record, hrecord, ?_⟩
  rw [← heq]
  split
  · exact (hf record).symm
  · rfl

/-- A record keeps its place and its id; a new one has a new id. -/
theorem id_change (hchange : Change fits s s' observed) {job : Nat} {record' : OperationJob}
    (h : s'.heap[job]? = some record') :
    (∃ record, s.heap[job]? = some record ∧ record.id = record'.id) ∨
      job = s.heap.length ∧ record'.id ∉ s.heap.map OperationJob.id := by
  cases hchange with
  | accepted hfresh =>
    rcases getElem?_snoc.mp h with hold | ⟨hjob, rfl⟩
    · exact Or.inl ⟨record', hold, rfl⟩
    · exact Or.inr ⟨hjob, hfresh⟩
  | stopped hstop =>
    rw [heap_stopped hstop, Option.map_eq_some_iff] at h
    obtain ⟨record, hrecord, heq⟩ := h
    refine Or.inl ⟨record, hrecord, ?_⟩
    rw [← heq]
    split <;> simp
  | signalled => exact Or.inl (exists_of_modify markCancelled_id h)
  | cancelled => exact Or.inl (exists_of_modify markCancelled_id h)
  | started =>
    refine Or.inl (exists_of_modify ?_ h)
    exact fun _ => rfl
  | completed =>
    refine Or.inl (exists_of_modify ?_ h)
    exact fun _ => rfl
  | _ => exact Or.inl ⟨record', h, rfl⟩

theorem Shape.ids_change (h : s.Shape) (hchange : Change fits s s' observed) :
    ∀ (job other : Nat) (record record' : OperationJob), s'.heap[job]? = some record →
      s'.heap[other]? = some record' → record.id = record'.id → job = other := by
  intro job other record record' hjob hother hid
  rcases id_change hchange hjob with ⟨old, hold, heq⟩ | ⟨hnew, hfresh⟩
  · rcases id_change hchange hother with ⟨old', hold', heq'⟩ | ⟨_, hfresh⟩
    · exact h.ids job other old old' hold hold' (heq.trans (hid.trans heq'.symm))
    · exact absurd (heq.trans hid) (fresh_iff.mp hfresh job old hold)
  · rcases id_change hchange hother with ⟨old', hold', heq'⟩ | ⟨hnew', _⟩
    · exact absurd (heq'.trans hid.symm) (fresh_iff.mp hfresh other old' hold')
    · exact hnew.trans hnew'.symm

theorem Shape.points_change (h : s.Shape) (hchange : Change fits s s' observed) :
    s'.PointsToIds := by
  have hpoints := h.points
  have hids := h.ids
  unfold PointsToIds at *
  cases hchange with
  | accepted hfresh =>
    intro other job hget
    simp only [Dict.get?_insert] at hget
    split at hget
    · rename_i hid
      rw [Option.some.injEq] at hget
      exact ⟨_, getElem?_snoc.mpr (Or.inr ⟨hget.symm, rfl⟩), hid.symm⟩
    · obtain ⟨record, hrecord, hid⟩ := hpoints other job hget
      exact ⟨record, getElem?_snoc.mpr (Or.inl hrecord), hid⟩
  | stopped hstop => grind [heap_stopped hstop, jobs_stopped hstop, stopped_fields hstop, markCancelled]
  | _ => grind [markCancelled, Dict.get?_erase]

theorem hasJob_accepted {id method : String} {payload : Json} {block : Bool}
    (hfresh : id ∉ s.heap.map OperationJob.id) {job : Nat} {record : OperationJob} :
    HasJob { s with
      heap := s.heap ++ [{ id, method, payload, block }]
      operationJobs := s.operationJobs.insert id s.heap.length
      operationQueue := s.operationQueue ++ [s.heap.length] } job record ↔
    s.HasJob job record ∨ (job = s.heap.length ∧ record = { id, method, payload, block }) := by
  have hfresh := fresh_iff.mp hfresh
  simp only [HasJob, getElem?_snoc, Dict.get?_insert]
  constructor
  · rintro ⟨hrecord | hnew, hjob⟩
    · rw [if_neg (hfresh job record hrecord)] at hjob
      exact Or.inl ⟨hrecord, hjob⟩
    · exact Or.inr hnew
  · rintro (⟨hrecord, hjob⟩ | ⟨rfl, rfl⟩)
    · exact ⟨Or.inl hrecord, by rw [if_neg (hfresh job record hrecord), hjob]⟩
    · exact ⟨Or.inr ⟨rfl, rfl⟩, by simp⟩

theorem Shape.queued_change (h : s.Shape) (hchange : Change fits s s' observed) :
    ∀ job, job ∈ s'.operationQueue ↔
      ∃ record, s'.HasJob job record ∧ record.started = false := by
  have hpoints := h.points
  have hids := h.ids
  have hqueued := h.queued
  have hsorted := h.sorted
  cases hchange with
  | accepted hfresh =>
    intro job
    simp only [hasJob_accepted hfresh, List.mem_append, List.mem_singleton, hqueued]
    constructor
    · rintro (⟨record, hjob, hstarted⟩ | rfl)
      · exact ⟨record, Or.inl hjob, hstarted⟩
      · exact ⟨_, Or.inr ⟨rfl, rfl⟩, rfl⟩
    · rintro ⟨record, hjob | ⟨rfl, rfl⟩, hstarted⟩
      · exact Or.inl ⟨record, hjob, hstarted⟩
      · exact Or.inr rfl
  | stopped hstop =>
    unfold PointsToIds HasJob at *
    grind [heap_stopped hstop, jobs_stopped hstop, stopped_fields hstop, markCancelled]
  | cancelled hrecord hjob =>
    have hnodup : s.operationQueue.Nodup := hsorted.imp Nat.ne_of_lt
    unfold PointsToIds HasJob at *
    grind [markCancelled, Dict.get?_erase, List.Nodup.mem_erase_iff]
  | @started job queue _ _ hqueue =>
    have hnot : job ∉ queue := by
      rw [hqueue] at hsorted
      exact fun hmem => Nat.lt_irrefl _ ((List.pairwise_cons.mp hsorted).1 job hmem)
    unfold PointsToIds HasJob at *
    grind
  | completed hloop =>
    have htaken := h.taken _ (by rw [hloop]; rfl)
    unfold PointsToIds HasJob at *
    grind [Dict.get?_erase]
  | _ =>
    unfold PointsToIds HasJob at *
    grind [markCancelled]

theorem Shape.sorted_change (h : s.Shape) (hchange : Change fits s s' observed) :
    s'.operationQueue.Pairwise (· < ·) := by
  have hsorted := h.sorted
  have hqueued := h.queued
  unfold HasJob at hqueued
  cases hchange with
  | accepted hfresh => grind
  | stopped hstop => simp [stopped_fields hstop]
  | cancelled =>
    simp only
    split
    · exact hsorted
    · exact hsorted.sublist List.erase_sublist
  | _ => grind

theorem Shape.size_change (h : s.Shape) (hchange : Change fits s s' observed) :
    s'.operationJobs.size ≤ maxPending := by
  have hsize := h.size
  cases hchange with
  | accepted hfresh hstop hlt =>
    rename_i id _ _ _
    have hnone : s.operationJobs.get? id = none := by
      have hpoints := h.points
      have hfresh := fresh_iff.mp hfresh
      rw [Option.eq_none_iff_forall_ne_some]
      intro job hjob
      obtain ⟨record, hrecord, hid⟩ := hpoints id job hjob
      exact hfresh job record hrecord hid
    simp only [Dict.size_insert hnone]
    omega
  | stopped hstop =>
    simp only [stopOperationRunner, hstop, Bool.false_eq_true, if_false, Dict.size]
    exact le_trans (List.length_filter_le _ _) hsize
  | cancelled => exact le_trans Dict.size_erase_le hsize
  | completed => exact le_trans Dict.size_erase_le hsize
  | _ => exact hsize

theorem Shape.stopped_change (h : s.Shape) (hchange : Change fits s s' observed)
    (hstop' : s'.operationStopping = true) : s'.operationQueue = [] := by
  have hstopped := h.stopped
  cases hchange with
  | stopped hstop => simp [stopped_fields hstop]
  | _ => grind

theorem Shape.taken_change (h : s.Shape) (hchange : Change fits s s' observed) :
    ∀ job, s'.loop.job? = some job → ∃ record, s'.heap[job]? = some record ∧
      record.started = true := by
  have htaken := h.taken
  cases hchange with
  | accepted =>
    intro job hjob
    obtain ⟨record, hrecord, hstarted⟩ := htaken job hjob
    exact ⟨record, getElem?_snoc.mpr (Or.inl hrecord), hstarted⟩
  | stopped hstop => grind [heap_stopped hstop, stopped_fields hstop, markCancelled]
  | _ => grind [LoopState.job?, markCancelled]

theorem Shape.change (h : s.Shape) (hchange : Change fits s s' observed) : s'.Shape :=
  ⟨h.ids_change hchange, h.points_change hchange, h.queued_change hchange, h.sorted_change hchange,
    h.size_change hchange, h.stopped_change hchange, h.taken_change hchange⟩

/-! ### The trace -/

variable {trace : List Observation}

@[simp] theorem responses_append (t u : List Observation) :
    responses (t ++ u) = responses t ++ responses u := List.filterMap_append

@[simp] theorem startedJobs_append (t u : List Observation) :
    startedJobs (t ++ u) = startedJobs t ++ startedJobs u := List.filterMap_append

@[simp] theorem returnedJobs_append (t u : List Observation) :
    returnedJobs (t ++ u) = returnedJobs t ++ returnedJobs u := List.filterMap_append

@[simp] theorem answers_append (t u : List Observation) (id : String) :
    answers (t ++ u) id = answers t id + answers u id := by
  simp [answers]

/-- The jobs are started one after another in the order of their acceptance, each when the run of
the one before has ended. -/
structure InOrder (s : Runner) (trace : List Observation) : Prop where
  one : startedJobs trace = returnedJobs trace ++ s.loop.current
  increasing : (startedJobs trace).Pairwise (· < ·)
  before : ∀ job ∈ startedJobs trace, ∀ later ∈ s.operationQueue, job < later
  started : ∀ job, job ∈ startedJobs trace ↔
    ∃ record, s.heap[job]? = some record ∧ record.started = true

theorem inOrder_start : InOrder {} [] := by
  constructor <;> simp [startedJobs, returnedJobs, LoopState.current]

theorem InOrder.job_lt (h : InOrder s trace) {job : Nat} (hjob : job ∈ startedJobs trace) :
    job < s.heap.length := by
  obtain ⟨record, hrecord, -⟩ := (h.started job).mp hjob
  exact lt_of_getElem? hrecord

/-- A step that starts no job and ends no run keeps the order. -/
theorem InOrder.quiet (h : InOrder s trace) (hs : startedJobs observed = [])
    (hr : returnedJobs observed = []) (hloop : s'.loop.current = s.loop.current)
    (hqueue : ∀ job ∈ s'.operationQueue, job ∈ s.operationQueue ∨ job = s.heap.length)
    (hstarted : ∀ job : Nat, (∃ record : OperationJob, s'.heap[job]? = some record ∧
      record.started = true) ↔ ∃ record : OperationJob, s.heap[job]? = some record ∧
      record.started = true) :
    InOrder s' (trace ++ observed) := by
  have hsame : startedJobs (trace ++ observed) = startedJobs trace := by
    rw [startedJobs_append, hs, List.append_nil]
  constructor
  · rw [hsame, returnedJobs_append, hr, List.append_nil, hloop]
    exact h.one
  · rw [hsame]
    exact h.increasing
  · rw [hsame]
    intro job hjob later hlater
    cases hqueue later hlater with
    | inl hmem => exact h.before job hjob later hmem
    | inr hnew => rw [hnew]; exact h.job_lt hjob
  · rw [hsame]
    intro job
    rw [hstarted]
    exact h.started job

theorem InOrder.change (h : InOrder s trace) (hshape : s.Shape)
    (hchange : Change fits s s' observed) : InOrder s' (trace ++ observed) := by
  cases hchange with
  | accepted =>
    refine h.quiet rfl rfl rfl (by simp) fun job => ?_
    simp only [getElem?_snoc]
    grind
  | stopped hstop =>
    refine h.quiet rfl rfl ?_ ?_ fun job => ?_
    · rw [(stopped_fields hstop).2.2]
    · simp [stopped_fields hstop]
    · grind [heap_stopped hstop, markCancelled_started]
  | cancelled =>
    refine h.quiet rfl rfl rfl (fun job hjob => Or.inl ?_) fun job => ?_
    · simp only at hjob
      split at hjob
      · exact hjob
      · exact List.mem_of_mem_erase hjob
    · grind [markCancelled]
  | exited hstop hloop =>
    exact h.quiet rfl rfl (by rw [hloop]; rfl) (fun job hjob => Or.inl hjob) fun job => Iff.rfl
  | skipped hloop hqueue =>
    refine h.quiet rfl rfl rfl (fun job hjob => Or.inl ?_) fun job => Iff.rfl
    rw [hqueue]
    exact List.mem_cons_of_mem _ hjob
  | @started job queue record hloop hqueue hrecord hjob =>
    obtain ⟨hone, hincreasing, hbefore, hstarted⟩ := h
    have hsorted := hshape.sorted
    rw [hqueue] at hsorted hbefore
    have hs : startedJobs (trace ++ [.started job]) = startedJobs trace ++ [job] := by
      simp [startedJobs]
    have hr : returnedJobs (trace ++ [.started job]) = returnedJobs trace := by
      simp [returnedJobs]
    constructor
    · rw [hs, hr, hone, hloop]
      simp [LoopState.current]
    · rw [hs]
      grind
    · rw [hs]
      intro earlier hearlier later hlater
      cases List.mem_append.mp hearlier with
      | inl hmem => exact hbefore earlier hmem later (List.mem_cons_of_mem _ hlater)
      | inr hnew =>
        rw [List.mem_singleton.mp hnew]
        exact (List.pairwise_cons.mp hsorted).1 later hlater
    · rw [hs]
      intro other
      rw [List.mem_append, List.mem_singleton, hstarted]
      grind
  | @returned job record outcome hloop =>
    obtain ⟨hone, hincreasing, hbefore, hstarted⟩ := h
    have hs : startedJobs (trace ++ [.returned job]) = startedJobs trace := by
      simp [startedJobs]
    have hr : returnedJobs (trace ++ [.returned job]) = returnedJobs trace ++ [job] := by
      simp [returnedJobs]
    refine ⟨?_, by rwa [hs], by rwa [hs], by rwa [hs]⟩
    rw [hs, hr, hone, hloop]
    simp [LoopState.current]
  | completed hloop =>
    refine h.quiet ?_ ?_ (by rw [hloop]; rfl) (fun job hjob => Or.inl hjob) fun job => ?_
    · split <;> rfl
    · split <;> rfl
    · grind
  | dropped hloop =>
    exact h.quiet rfl rfl (by rw [hloop]; rfl) (fun job hjob => Or.inl hjob) fun job => Iff.rfl
  | _ =>
    refine h.quiet rfl rfl rfl (fun job hjob => Or.inl hjob) fun job => ?_
    grind [markCancelled]

/-! ### The answers -/

@[simp] theorem answers_nil (id : String) : answers [] id = 0 := rfl

theorem answers_cancelled (r : OperationResponse) (id : String) :
    answers [.cancelling r.id, .response r] id = if r.id = id then 1 else 0 := by
  simp [answers, responses, List.count_singleton]

theorem answers_response (r : OperationResponse) (id : String) :
    answers [.response r] id = if r.id = id then 1 else 0 := by
  simp [answers, responses, List.count_singleton]

/-- An active job is not answered, and until the runner is stopped every other accepted job is. -/
structure Answered (s : Runner) (trace : List Observation) : Prop where
  pending : ∀ (job : Nat) (record : OperationJob), s.HasJob job record →
    answers trace record.id = 0
  atMost : ∀ id, answers trace id ≤ 1
  answered : s.operationStopping = false → ∀ (job : Nat) (record : OperationJob),
    s.heap[job]? = some record → ¬s.HasJob job record → answers trace record.id = 1
  foreign : ∀ id, id ∉ s.heap.map OperationJob.id → answers trace id = 0

theorem answered_start : Answered {} [] := by
  constructor <;> simp

/-- A job that is answered while it is active and no longer is afterwards. -/
theorem Answered.settle (h : Answered s trace) (hids : s.Shape) {job : Nat} {record : OperationJob}
    (hjob : s.HasJob job record)
    (hobserved : ∀ id, answers observed id = if record.id = id then 1 else 0)
    (hstop : s'.operationStopping = s.operationStopping)
    (hheap : ∀ (other : Nat) (old' : OperationJob), s'.heap[other]? = some old' →
      ∃ old, s.heap[other]? = some old ∧ old.id = old'.id)
    (hkept : ∀ id, id ∈ s.heap.map OperationJob.id → id ∈ s'.heap.map OperationJob.id)
    (hjobs : s'.operationJobs = s.operationJobs.erase record.id) :
    Answered s' (trace ++ observed) := by
  have hunique := hids.ids
  obtain ⟨hpending, hatMost, hanswered, hforeign⟩ := h
  have hzero := hpending job record hjob
  constructor
  · intro other old' hother
    simp only [HasJob, hjobs, Dict.get?_erase] at hother
    obtain ⟨old, hold, hid⟩ := hheap other old' hother.1
    rw [answers_append, hobserved]
    unfold HasJob at hpending
    grind
  · intro id
    rw [answers_append, hobserved]
    grind
  · intro hrunning other old' hother hinactive
    obtain ⟨old, hold, hid⟩ := hheap other old' hother
    simp only [HasJob, hjobs, Dict.get?_erase] at hinactive
    rw [answers_append, hobserved]
    unfold HasJob at hpending hanswered
    grind
  · intro id hid
    rw [answers_append, hobserved, hforeign id fun hmem => hid (hkept id hmem)]
    have hne : record.id ≠ id := by
      intro heq
      exact hid (hkept id (List.mem_map.mpr ⟨record, List.mem_of_getElem? hjob.1, heq⟩))
    rw [if_neg hne]

/-- A step without a response that keeps the accepted jobs. -/
theorem Answered.quiet (h : Answered s trace) (hr : ∀ id, answers observed id = 0)
    (hactive : ∀ (job : Nat) (record' : OperationJob), s'.HasJob job record' →
      ∃ record, s.HasJob job record ∧ record.id = record'.id)
    (hkept : s'.operationStopping = false → s.operationStopping = false ∧
      ∀ (job : Nat) (record' : OperationJob), s'.heap[job]? = some record' →
        ∃ record, s.heap[job]? = some record ∧ record.id = record'.id ∧
          (s.HasJob job record → s'.HasJob job record'))
    (hids : ∀ id, id ∈ s.heap.map OperationJob.id → id ∈ s'.heap.map OperationJob.id) :
    Answered s' (trace ++ observed) := by
  have hsame : ∀ id, answers (trace ++ observed) id = answers trace id := by
    intro id
    rw [answers_append, hr, Nat.add_zero]
  constructor
  · intro job record' hjob
    obtain ⟨record, hrecord, hid⟩ := hactive job record' hjob
    rw [hsame, ← hid]
    exact h.pending job record hrecord
  · intro id
    rw [hsame]
    exact h.atMost id
  · intro hrunning job record' hjob hinactive
    obtain ⟨hbefore, hheap⟩ := hkept hrunning
    obtain ⟨record, hrecord, hid, himp⟩ := hheap job record' hjob
    rw [hsame, ← hid]
    exact h.answered hbefore job record hrecord fun hold => hinactive (himp hold)
  · intro id hid
    rw [hsame]
    exact h.foreign id fun hmem => hid (hids id hmem)

/-- A step without a response that changes no record and no active job. -/
theorem Answered.same (h : Answered s trace) (hr : ∀ id, answers observed id = 0)
    (hheap : s'.heap = s.heap) (hjobs : s'.operationJobs = s.operationJobs)
    (hstop : s'.operationStopping = s.operationStopping) : Answered s' (trace ++ observed) := by
  refine h.quiet hr (fun job record hjob => ⟨record, ?_, rfl⟩)
    (fun hrunning => ⟨hstop.symm.trans hrunning, fun job record hjob => ⟨record, ?_, rfl, ?_⟩⟩) ?_
  · rwa [HasJob, hheap, hjobs] at hjob
  · rwa [hheap] at hjob
  · rw [HasJob, HasJob, hheap, hjobs]
    exact fun hold => hold
  · rw [hheap]
    exact fun id hid => hid

theorem mem_ids_modify {job : Nat} {f : OperationJob → OperationJob}
    (hf : ∀ record, (f record).id = record.id) (id : String) :
    id ∈ (s.heap.modify job f).map OperationJob.id ↔ id ∈ s.heap.map OperationJob.id := by
  have hsame : (s.heap.modify job f).map OperationJob.id = s.heap.map OperationJob.id := by
    apply List.ext_getElem?
    intro other
    grind
  rw [hsame]

theorem Answered.change (h : Answered s trace) (hshape : s.Shape)
    (hchange : Change fits s s' observed) : Answered s' (trace ++ observed) := by
  have hids := hshape.ids
  cases hchange with
  | none => simpa using h
  | refused => exact h.same (fun _ => rfl) rfl rfl rfl
  | @accepted id method payload block hfresh =>
    have hsame : ∀ other, answers (trace ++ [.accepted s.heap.length]) other =
        answers trace other := fun other => by rw [answers_append]; rfl
    obtain ⟨hpending, hatMost, hanswered, hforeign⟩ := h
    constructor
    · intro job record hjob
      rw [hsame]
      cases (hasJob_accepted hfresh).mp hjob with
      | inl hold => exact hpending job record hold
      | inr hnew => rw [hnew.2]; exact hforeign id hfresh
    · intro other
      rw [hsame]
      exact hatMost other
    · intro hrunning job record hjob hinactive
      rw [hsame]
      rw [hasJob_accepted hfresh, not_or] at hinactive
      have hold := (getElem?_snoc.mp hjob).resolve_right hinactive.2
      exact hanswered hrunning job record hold hinactive.1
    · intro other hother
      rw [hsame]
      rw [List.map_append, List.mem_append, not_or] at hother
      exact hforeign other hother.1
  | signalled hrecord hjob hstarted =>
    refine h.quiet (fun _ => rfl) ?_ (fun hstop => ⟨hstop, ?_⟩)
      fun id => (mem_ids_modify markCancelled_id id).mpr
    · unfold HasJob
      grind [markCancelled]
    · unfold HasJob
      grind [markCancelled]
  | cancelled hrecord hjob =>
    refine h.settle hshape ⟨hrecord, hjob⟩ (fun id => ?_) rfl ?_
      (fun id => (mem_ids_modify markCancelled_id id).mpr) rfl
    · simpa [errorResponse] using
        answers_cancelled (write fits (errorResponse _ "request_cancelled")) id
    · grind [markCancelled]
  | stopped hstop =>
    refine h.quiet (fun _ => rfl) ?_ (fun hrunning => ?_) fun id hid => ?_
    · unfold HasJob
      grind [heap_stopped hstop, jobs_stopped hstop, markCancelled]
    · rw [(stopped_fields hstop).2.1] at hrunning
      exact absurd hrunning (by decide)
    · rw [List.mem_map] at hid ⊢
      obtain ⟨record, hrecord, rfl⟩ := hid
      obtain ⟨job, hjob⟩ := List.mem_iff_getElem?.mp hrecord
      have hjob' := heap_stopped hstop job
      rw [hjob, Option.map_some] at hjob'
      refine ⟨_, List.mem_of_getElem? hjob', ?_⟩
      split <;> rfl
  | exited => exact h.same (fun _ => rfl) rfl rfl rfl
  | skipped => exact h.same (fun _ => rfl) rfl rfl rfl
  | started hloop hqueue hrecord hjob =>
    refine h.quiet (fun _ => rfl) ?_ (fun hstop => ⟨hstop, ?_⟩)
      fun id => (mem_ids_modify (by simp) id).mpr
    · unfold HasJob
      grind
    · unfold HasJob
      grind
  | returned => exact h.same (fun _ => rfl) rfl rfl rfl
  | @completed job record outcome hloop hrecord hjob =>
    cases hstop : s.operationStopping with
    | true =>
      refine h.quiet (fun _ => rfl) ?_ (fun hrunning => ?_)
        fun id => (mem_ids_modify (by simp) id).mpr
      · unfold HasJob
        grind [Dict.get?_erase]
      · cases hrunning
    | false =>
      refine h.settle hshape ⟨hrecord, hjob⟩ (fun id => ?_) hstop.symm ?_
        (fun id => (mem_ids_modify (by simp) id).mpr) rfl
      · simpa using answers_response (completion fits record outcome) id
      · grind
  | dropped => exact h.same (fun _ => rfl) rfl rfl rfl

/-! ### Cancellation -/

/-- What the flags of the records and the cancelled responses say about the cancellations that were
processed. -/
structure Cancellation (s : Runner) (trace : List Observation) : Prop where
  startedFirst : ∀ (job : Nat) (record : OperationJob), s.HasJob job record →
    record.cancelled = true → record.started = true
  signalled : s.operationStopping = false → ∀ (job : Nat) (record : OperationJob),
    s.heap[job]? = some record → record.cancelled = true → .cancelling record.id ∈ trace
  cause : ∀ (job : Nat) (record : OperationJob), s.HasJob job record → record.done = true →
    record.cancelled = true
  outcome : ∀ (job : Nat) (record : OperationJob) (outcome : OperationOutcome),
    s.loop = .completing job outcome → s.HasJob job record →
    outcome.code = "request_cancelled" → record.cancelled = true
  named : ∀ response ∈ responses trace, response.content = .inl "request_cancelled" →
    .cancelling response.id ∈ trace

theorem cancellation_start : Cancellation {} [] := by
  constructor <;> simp [responses, HasJob]

theorem write_cancelled {response : OperationResponse}
    (h : (write fits response).content = .inl "request_cancelled") :
    response.content = .inl "request_cancelled" := by
  unfold write at h
  split at h
  · exact h
  · simp [errorResponse] at h

theorem outcomeResponse_cancelled {id : String} {outcome : OperationOutcome}
    (h : (outcomeResponse id outcome).content = .inl "request_cancelled") :
    outcome.code = "request_cancelled" := by
  unfold outcomeResponse at h
  split at h
  · simpa [errorResponse] using h
  · cases hresult : outcome.result <;> simp [hresult, errorResponse] at h

theorem completion_cancelled {record : OperationJob} {outcome : OperationOutcome}
    (h : (completion fits record outcome).content = .inl "request_cancelled") :
    record.cancelled = true ∨ outcome.code = "request_cancelled" := by
  unfold completion at h
  split at h
  · rename_i hcancelled
    exact Or.inl hcancelled.1
  · exact Or.inr (outcomeResponse_cancelled (write_cancelled h))

/-- Without a new response the cancelled responses stay named. -/
theorem named_append (h : Cancellation s trace) (hr : responses observed = []) :
    ∀ response ∈ responses (trace ++ observed), response.content = .inl "request_cancelled" →
      .cancelling response.id ∈ trace ++ observed := by
  intro response hresponse hcancelled
  rw [responses_append, hr, List.append_nil] at hresponse
  exact List.mem_append_left _ (h.named response hresponse hcancelled)

theorem mayFinish_cancelled {record : OperationJob} {outcome : OperationOutcome}
    (h : mayFinish record outcome) (hcode : outcome.code = "request_cancelled") :
    record.done = true := by
  unfold mayFinish at h
  split at h
  · exact h.1
  · exact h hcode

theorem Cancellation.same (h : Cancellation s trace) (hr : responses observed = [])
    (hheap : s'.heap = s.heap) (hjobs : s'.operationJobs = s.operationJobs)
    (hstop : s'.operationStopping = s.operationStopping)
    (hloop : ∀ job outcome, s'.loop = .completing job outcome → s.loop = .completing job outcome) :
    Cancellation s' (trace ++ observed) := by
  have hsame : ∀ job record, s'.HasJob job record ↔ s.HasJob job record := by
    intro job record
    rw [HasJob, HasJob, hheap, hjobs]
  refine ⟨?_, ?_, ?_, ?_, named_append h hr⟩
  · intro job record hjob
    exact h.startedFirst job record ((hsame job record).mp hjob)
  · intro hrunning job record hrecord hcancelled
    rw [hstop] at hrunning
    rw [hheap] at hrecord
    exact List.mem_append_left _ (h.signalled hrunning job record hrecord hcancelled)
  · intro job record hjob
    exact h.cause job record ((hsame job record).mp hjob)
  · intro job record outcome hcompleting hjob
    exact h.outcome job record outcome (hloop job outcome hcompleting) ((hsame job record).mp hjob)

theorem Cancellation.accepted {id method : String} {payload : Json} {block : Bool}
    (h : Cancellation s trace) (hshape : s.Shape) (hfresh : id ∉ s.heap.map OperationJob.id) :
    Cancellation { s with
      heap := s.heap ++ [{ id, method, payload, block }]
      operationJobs := s.operationJobs.insert id s.heap.length
      operationQueue := s.operationQueue ++ [s.heap.length] }
      (trace ++ [.accepted s.heap.length]) := by
  refine ⟨?_, ?_, ?_, ?_, named_append h rfl⟩
  · intro job record hjob hcancelled
    rw [hasJob_accepted hfresh] at hjob
    rcases hjob with hold | ⟨-, rfl⟩
    · exact h.startedFirst job record hold hcancelled
    · cases hcancelled
  · intro hrunning job record hjob hcancelled
    rw [getElem?_snoc] at hjob
    rcases hjob with hold | ⟨-, rfl⟩
    · exact List.mem_append_left _ (h.signalled hrunning job record hold hcancelled)
    · cases hcancelled
  · intro job record hjob hdone
    rw [hasJob_accepted hfresh] at hjob
    rcases hjob with hold | ⟨-, rfl⟩
    · exact h.cause job record hold hdone
    · cases hdone
  · intro job record outcome hloop hjob
    rw [hasJob_accepted hfresh] at hjob
    have htaken := hshape.taken job (by rw [show s.loop = _ from hloop]; rfl)
    cases hjob with
    | inl hold => exact h.outcome job record outcome hloop hold
    | inr hnew =>
      obtain ⟨old, hold, -⟩ := htaken
      exact absurd (lt_of_getElem? hold) (by omega)

theorem Cancellation.stopped (h : Cancellation s trace) (hstop : s.operationStopping = false) :
    Cancellation s.stopOperationRunner.1 (trace ++ []) := by
  obtain ⟨hstartedFirst, hsignalled, hcause, houtcome, hold⟩ := h
  refine ⟨?_, ?_, ?_, ?_, named_append ⟨hstartedFirst, hsignalled, hcause, houtcome, hold⟩ rfl⟩
  · unfold HasJob at *
    grind [heap_stopped hstop, jobs_stopped hstop, markCancelled_started]
  · rw [(stopped_fields hstop).2.1]
    simp
  · unfold HasJob at *
    grind [heap_stopped hstop, jobs_stopped hstop, markCancelled]
  · rw [(stopped_fields hstop).2.2]
    unfold HasJob at *
    grind [heap_stopped hstop, jobs_stopped hstop, markCancelled]

theorem Cancellation.signalling {job : Nat} {record : OperationJob} (h : Cancellation s trace)
    (hshape : s.Shape) (hrecord : s.heap[job]? = some record)
    (hjob : s.operationJobs.get? record.id = some job) (hstarted : record.started = true) :
    Cancellation { s with heap := s.heap.modify job markCancelled }
      (trace ++ [.cancelling record.id]) := by
  have hids := hshape.ids
  obtain ⟨hstartedFirst, hsignalled, hcause, houtcome, hold⟩ := h
  refine ⟨?_, ?_, ?_, ?_, named_append ⟨hstartedFirst, hsignalled, hcause, houtcome, hold⟩ rfl⟩
  all_goals
    unfold HasJob at *
    grind [markCancelled]

theorem Cancellation.cancelled {job : Nat} {record : OperationJob} (h : Cancellation s trace)
    (hshape : s.Shape) (hrecord : s.heap[job]? = some record)
    (hjob : s.operationJobs.get? record.id = some job) :
    Cancellation { s with
      heap := s.heap.modify job markCancelled
      operationQueue := if record.started then s.operationQueue else s.operationQueue.erase job
      operationJobs := s.operationJobs.erase record.id }
      (trace ++ [.cancelling record.id,
        .response (write fits (errorResponse record.id "request_cancelled"))]) := by
  have hids := hshape.ids
  obtain ⟨hstartedFirst, hsignalled, hcause, houtcome, hold⟩ := h
  refine ⟨?_, ?_, ?_, ?_, ?_⟩
  · unfold HasJob at *
    grind [markCancelled, Dict.get?_erase]
  · grind [markCancelled]
  · unfold HasJob at *
    grind [markCancelled, Dict.get?_erase]
  · unfold HasJob at *
    grind [markCancelled, Dict.get?_erase]
  · intro response hresponse hcancelled
    rw [responses_append, List.mem_append] at hresponse
    cases hresponse with
    | inl hmem => exact List.mem_append_left _ (hold response hmem hcancelled)
    | inr hnew =>
      have hthis : response = write fits (errorResponse record.id "request_cancelled") := by
        simpa [responses] using hnew
      rw [hthis, write_id]
      exact List.mem_append_right _ List.mem_cons_self

theorem Cancellation.starting {job : Nat} {queue : List Nat} {record : OperationJob}
    (h : Cancellation s trace) (hloop : s.loop = .waiting) (hrecord : s.heap[job]? = some record) :
    Cancellation { s with
      operationQueue := queue
      heap := s.heap.modify job fun record => { record with started := true }
      loop := .running job } (trace ++ [.started job]) := by
  obtain ⟨hstartedFirst, hsignalled, hcause, houtcome, hold⟩ := h
  refine ⟨?_, ?_, ?_, ?_, named_append ⟨hstartedFirst, hsignalled, hcause, houtcome, hold⟩ rfl⟩
  all_goals
    unfold HasJob at *
    grind

theorem Cancellation.returned {job : Nat} {record : OperationJob} {outcome : OperationOutcome}
    (h : Cancellation s trace) (hrecord : s.heap[job]? = some record)
    (hmay : mayFinish record outcome) :
    Cancellation { s with loop := .completing job outcome } (trace ++ [.returned job]) := by
  refine ⟨h.startedFirst, ?_, h.cause, ?_, named_append h rfl⟩
  · intro hrunning other record hother hcancelled
    exact List.mem_append_left _ (h.signalled hrunning other record hother hcancelled)
  · have hmark := mayFinish_cancelled hmay
    have hcause := h.cause
    unfold HasJob at *
    grind

theorem Cancellation.completed {job : Nat} {record : OperationJob} {outcome : OperationOutcome}
    (h : Cancellation s trace) (hshape : s.Shape) (hloop : s.loop = .completing job outcome)
    (hrecord : s.heap[job]? = some record)
    (hjob : s.operationJobs.get? record.id = some job) :
    Cancellation { s with
      heap := s.heap.modify job fun record => { record with done := true }
      operationJobs := s.operationJobs.erase record.id
      loop := .waiting }
      (trace ++ if s.operationStopping then [] else [.response (completion fits record outcome)]) := by
  have hids := hshape.ids
  have hall := h
  obtain ⟨hstartedFirst, hsignalled, hcause, houtcome, hold⟩ := h
  refine ⟨?_, ?_, ?_, ?_, ?_⟩
  · unfold HasJob at *
    grind [Dict.get?_erase]
  · grind
  · unfold HasJob at *
    grind [Dict.get?_erase]
  · simp
  · by_cases hstop : s.operationStopping = true
    · exact named_append hall (by rw [if_pos hstop]; rfl)
    · rw [if_neg hstop]
      intro response hresponse hcancelled
      rw [responses_append, List.mem_append] at hresponse
      cases hresponse with
      | inl hmem => exact List.mem_append_left _ (hold response hmem hcancelled)
      | inr hnew =>
        have hthis : response = completion fits record outcome := by
          simpa [responses] using hnew
        subst hthis
        have hmarked : record.cancelled = true := by
          cases completion_cancelled hcancelled with
          | inl hmarked => exact hmarked
          | inr hcode => exact houtcome job record outcome hloop ⟨hrecord, hjob⟩ hcode
        rw [completion_id]
        exact List.mem_append_left _ (hsignalled (by simpa using hstop) job record hrecord hmarked)

theorem Cancellation.change (h : Cancellation s trace) (hshape : s.Shape)
    (hchange : Change fits s s' observed) : Cancellation s' (trace ++ observed) := by
  cases hchange with
  | none => exact h.same rfl rfl rfl rfl fun _ _ hloop => hloop
  | refused => exact h.same rfl rfl rfl rfl fun _ _ hloop => hloop
  | accepted hfresh => exact h.accepted hshape hfresh
  | signalled hrecord hjob hstarted => exact h.signalling hshape hrecord hjob hstarted
  | cancelled hrecord hjob => exact h.cancelled hshape hrecord hjob
  | stopped hstop => exact h.stopped hstop
  | exited => exact h.same rfl rfl rfl rfl fun _ _ hloop => by cases hloop
  | skipped => exact h.same rfl rfl rfl rfl fun _ _ hloop => hloop
  | started hloop _ hrecord => exact h.starting hloop hrecord
  | returned _ hrecord hmay => exact h.returned hrecord hmay
  | completed hloop hrecord hjob => exact h.completed hshape hloop hrecord hjob
  | dropped => exact h.same rfl rfl rfl rfl fun _ _ hloop => by cases hloop

/-! ### Jobs that left before they were started -/

/-- A job that is neither started nor cancelled is active. -/
def Waits (s : Runner) : Prop :=
  ∀ (job : Nat) (record : OperationJob), s.heap[job]? = some record → record.started = false →
    record.cancelled = false → s.HasJob job record

theorem waits_change (h : s.Waits) (hshape : s.Shape) (hchange : Change fits s s' observed) :
    s'.Waits := by
  have hids := hshape.ids
  have htaken := hshape.taken
  unfold Waits at *
  cases hchange with
  | accepted hfresh =>
    intro job record hjob hstarted hcancelled
    rw [hasJob_accepted hfresh]
    cases getElem?_snoc.mp hjob with
    | inl hold => exact Or.inl (h job record hold hstarted hcancelled)
    | inr hnew => exact Or.inr hnew
  | stopped hstop =>
    unfold HasJob at *
    grind [heap_stopped hstop, markCancelled]
  | completed hloop =>
    have htaken := htaken _ (by rw [hloop]; rfl)
    unfold HasJob at *
    grind [Dict.get?_erase]
  | _ =>
    unfold HasJob at *
    grind [markCancelled, Dict.get?_erase]

/-- The job was accepted and is no longer active, but it was never started. -/
def Gone (s : Runner) (job : Nat) : Prop :=
  ∃ record, s.heap[job]? = some record ∧ record.started = false ∧
    s.operationJobs.get? record.id ≠ some job

theorem Gone.change {job : Nat} (h : s.Gone job) (hchange : Change fits s s' observed) :
    s'.Gone job := by
  obtain ⟨record, hrecord, hstarted, hjob⟩ := h
  have hlt := lt_of_getElem? hrecord
  unfold Gone
  cases hchange with
  | accepted =>
    refine ⟨record, getElem?_snoc.mpr (Or.inl hrecord), hstarted, ?_⟩
    rw [Dict.get?_insert]
    grind
  | stopped hstop =>
    refine ⟨record, ?_, hstarted, ?_⟩
    · rw [heap_stopped hstop, hrecord, Option.map_some, if_neg hjob]
    · rw [Ne, jobs_stopped hstop]
      exact fun h => hjob h.1
  | _ => grind [markCancelled, Dict.get?_erase]

/-! ### After the stop -/

/-- What the loop waits for at the end is at hand: the context of a job that it has taken is
cancelled once the job is no longer active, and with the stop those of the others are too. -/
structure Released (s : Runner) : Prop where
  left : ∀ (job : Nat) (record : OperationJob), s.loop.job? = some job →
    s.heap[job]? = some record → s.HasJob job record ∨ record.done = true
  signalled : s.operationStopping = true → ∀ (job : Nat) (record : OperationJob),
    s.HasJob job record → record.done = true

theorem released_start : Released {} := by
  constructor <;> simp [LoopState.job?]

theorem Released.change (h : s.Released) (hshape : s.Shape)
    (hchange : Change fits s s' observed) : s'.Released := by
  have hids := hshape.ids
  have htaken := hshape.taken
  obtain ⟨hleft, hsignalled⟩ := h
  cases hchange with
  | accepted hfresh hstop =>
    constructor
    · intro job record hloop hjob
      rw [hasJob_accepted hfresh]
      cases getElem?_snoc.mp hjob with
      | inl hold =>
        cases hleft job record hloop hold with
        | inl hactive => exact Or.inl (Or.inl hactive)
        | inr hdone => exact Or.inr hdone
      | inr hnew => exact Or.inl (Or.inr hnew)
    · simp [hstop]
  | stopped hstop =>
    constructor
    · rw [(stopped_fields hstop).2.2]
      unfold HasJob at *
      grind [heap_stopped hstop, markCancelled]
    · unfold HasJob at *
      grind [heap_stopped hstop, jobs_stopped hstop, markCancelled]
  | _ =>
    constructor <;> unfold HasJob at * <;> grind [LoopState.job?, markCancelled, Dict.get?_erase]

theorem stopping_change (hstop : s.operationStopping = true)
    (hchange : Change fits s s' observed) : s'.operationStopping = true := by
  cases hchange with
  | stopped hnot => exact absurd (hstop.symm.trans hnot) (by decide)
  | _ => exact hstop

/-! ### Runs -/

/-- All that a run of the runner keeps. -/
structure Invariant (s : Runner) (trace : List Observation) : Prop where
  shape : s.Shape
  inOrder : InOrder s trace
  answered : Answered s trace
  cancellation : Cancellation s trace
  waits : s.Waits
  released : s.Released

theorem invariant_start : Invariant {} [] :=
  ⟨shape_start, inOrder_start, answered_start, cancellation_start, by simp [Waits],
    released_start⟩

theorem Invariant.step (h : Invariant s trace) (event : RunnerEvent) :
    Invariant (s.step fits event).1 (trace ++ (s.step fits event).2) := by
  have hchange : Change fits s _ _ := change_step h.shape.points event
  exact ⟨h.shape.change hchange, h.inOrder.change h.shape hchange,
    h.answered.change h.shape hchange, h.cancellation.change h.shape hchange,
    waits_change h.waits h.shape hchange, h.released.change h.shape hchange⟩

theorem invariant_run (fits : OperationResponse → Bool) (events : List RunnerEvent) :
    Invariant ((operationRunner fits).run events).1 ((operationRunner fits).run events).2 :=
  Machine.run_induction invariant_start (fun _ _ event h => h.step event) events

theorem cancelling_step {id : String} (h : .cancelling id ∈ (s.step fits event).2) :
    event = .cancelOperation id ∧ (s.operationJobs.get? id).isSome = true := by
  cases event with
  | enqueueOperation =>
    simp only [step, enqueueOperation] at h
    grind
  | cancelOperation other =>
    simp only [step, cancelOperation] at h
    grind
  | stopOperationRunner =>
    simp only [step, stopOperationRunner] at h
    grind
  | takeJob =>
    simp only [step, takeJob] at h
    grind
  | finishJob =>
    simp only [step, finishJob] at h
    grind
  | completeOperation =>
    simp only [step, completeOperation] at h
    grind

/-- A cancellation that was observed names a job that was active when it was processed. -/
theorem cancelling_run {id : String} (events : List RunnerEvent)
    (h : .cancelling id ∈ ((operationRunner fits).run events).2) :
    ∃ earlier later, events = earlier ++ .cancelOperation id :: later ∧
      (((operationRunner fits).run earlier).1.operationJobs.get? id).isSome := by
  induction events using List.reverseRecOn with
  | nil => simp [Machine.run, Machine.runFrom] at h
  | append_singleton events event ih =>
    rw [Machine.run_snoc, List.mem_append] at h
    cases h with
    | inl hold =>
      obtain ⟨earlier, later, rfl, hactive⟩ := ih hold
      exact ⟨earlier, later ++ [event], by simp, hactive⟩
    | inr hnew =>
      obtain ⟨rfl, hactive⟩ := cancelling_step hnew
      exact ⟨events, [], rfl, hactive⟩

theorem gone_run {job : Nat} {trace : List Observation} (hinv : Invariant s trace)
    (hgone : s.Gone job) (events : List RunnerEvent) :
    ((operationRunner fits).runFrom s trace events).1.Gone job := by
  have hboth := Machine.runFrom_induction (m := operationRunner fits)
    (P := fun s trace => Invariant s trace ∧ s.Gone job) ⟨hinv, hgone⟩
    (fun s trace event h => ⟨h.1.step event, h.2.change (change_step h.1.shape.points event)⟩)
    events
  exact hboth.2

/-- A job that is gone is in no queue and was never started. -/
theorem Invariant.not_run {job : Nat} (h : Invariant s trace) (hgone : s.Gone job) :
    job ∉ s.operationQueue ∧ job ∉ startedJobs trace := by
  obtain ⟨record, hrecord, hstarted, hjob⟩ := hgone
  constructor
  · rw [h.shape.queued]
    rintro ⟨record', ⟨hrecord', hjob'⟩, -⟩
    rw [hrecord, Option.some.injEq] at hrecord'
    exact hjob (by rw [hrecord']; exact hjob')
  · rw [h.inOrder.started]
    rintro ⟨record', hrecord', hstarted'⟩
    rw [hrecord, Option.some.injEq] at hrecord'
    rw [hrecord', hstarted'] at hstarted
    exact absurd hstarted (by decide)

theorem silent_step (hstop : s.operationStopping = true) (hqueue : s.operationQueue = []) :
    startedJobs (s.step fits event).2 = [] ∧
      ((∀ id, event ≠ .cancelOperation id) → responses (s.step fits event).2 = []) := by
  cases event with
  | enqueueOperation =>
    simp only [step, enqueueOperation, hstop]
    split <;> simp [startedJobs, responses]
  | cancelOperation id =>
    simp only [step, cancelOperation]
    constructor
    · split
      · rfl
      · split <;> rfl
    · intro h
      exact absurd rfl (h id)
  | stopOperationRunner => simp [step, stopOperationRunner, hstop, startedJobs, responses]
  | takeJob =>
    simp only [step, takeJob, hqueue, hstop]
    split <;> simp_all [startedJobs, responses]
  | finishJob =>
    simp only [step, finishJob]
    split
    · split
      · split <;> simp [startedJobs, responses]
      · simp [startedJobs, responses]
    · simp [startedJobs, responses]
  | completeOperation =>
    simp only [step, completeOperation, hstop]
    split
    · split
      · split <;> simp [startedJobs, responses]
      · simp [startedJobs, responses]
    · simp [startedJobs, responses]

/-- Once the runner is stopped no job is started, and without another cancellation nothing is
answered. -/
theorem silent_run {s : Runner} {trace : List Observation} (hinv : Invariant s trace)
    (hstop : s.operationStopping = true) (events : List RunnerEvent) :
    startedJobs ((operationRunner fits).runFrom s trace events).2 = startedJobs trace ∧
      ((∀ id, .cancelOperation id ∉ events) →
        responses ((operationRunner fits).runFrom s trace events).2 = responses trace) := by
  induction events generalizing s trace with
  | nil => exact ⟨rfl, fun _ => rfl⟩
  | cons event events ih =>
    have hchange : Change fits s _ _ := change_step hinv.shape.points event
    obtain ⟨hstarted, hresponses⟩ := ih (@Invariant.step fits _ _ hinv event)
      (stopping_change hstop hchange)
    obtain ⟨hnew, hquiet⟩ := @silent_step fits s event hstop
      (hinv.shape.stopped hstop)
    constructor
    · exact hstarted.trans (by rw [startedJobs_append, hnew, List.append_nil])
    · intro hcancel
      have hevent := hquiet fun id heq => hcancel id (heq ▸ List.mem_cons_self)
      have hlater := hresponses fun id hid => hcancel id (List.mem_cons_of_mem _ hid)
      exact hlater.trans (by rw [responses_append, hevent, List.append_nil])

theorem exits_waiting (hinv : Invariant s trace) (hstop : s.operationStopping = true)
    (hloop : s.loop = .waiting) : (s.step fits .takeJob).1.loop = .exited := by
  simp [step, takeJob, hloop, hinv.shape.stopped hstop, hstop]

theorem exits_completing (hinv : Invariant s trace) (hstop : s.operationStopping = true)
    {job : Nat} {outcome : OperationOutcome} (hloop : s.loop = .completing job outcome) :
    ((s.step fits .completeOperation).1.step fits .takeJob).1.loop = .exited := by
  have hchange : Change fits s _ _ := change_step hinv.shape.points .completeOperation
  refine exits_waiting (hinv.step .completeOperation) (stopping_change hstop hchange) ?_
  obtain ⟨record, hrecord, -⟩ := hinv.shape.taken job (by rw [hloop]; rfl)
  simp only [step, completeOperation, hloop, hrecord]
  split <;> rfl

theorem exits_running (hinv : Invariant s trace) (hstop : s.operationStopping = true) {job : Nat}
    {record : OperationJob} {outcome : OperationOutcome} (hloop : s.loop = .running job)
    (hrecord : s.heap[job]? = some record) (hmay : mayFinish record outcome) :
    (((s.step fits (.finishJob outcome)).1.step fits .completeOperation).1.step fits
      .takeJob).1.loop = .exited := by
  have hchange : Change fits s _ _ := change_step hinv.shape.points (.finishJob outcome)
  refine exits_completing (hinv.step (.finishJob outcome)) (stopping_change hstop hchange)
    (?_ : _ = LoopState.completing job outcome)
  simp [step, finishJob, hloop, hrecord, hmay]

/-- A job whose context is cancelled can end. -/
theorem mayFinish_of_done {record : OperationJob} (h : record.done = true) :
    mayFinish record {} := by
  unfold mayFinish
  split
  · exact ⟨h, rfl, rfl, rfl⟩
  · simp

end Runner

open Runner

/-- What a run of the operation runner shows of its jobs and its answers. -/
structure AnswersOnce (fits : OperationResponse → Bool) (events : List RunnerEvent) (s : Runner)
    (trace : List Observation) : Prop where
  atMost : ∀ id, answers trace id ≤ 1
  answered : s.operationStopping = false → ∀ (job : Nat) (record : OperationJob),
    s.heap[job]? = some record → ¬s.HasJob job record → answers trace record.id = 1
  idle : s.operationStopping = false → s.operationCount = 0 →
    ∀ record ∈ s.heap, answers trace record.id = 1
  cancelled : ∀ response ∈ responses trace, response.content = .inl "request_cancelled" →
    ∃ earlier later, events = earlier ++ .cancelOperation response.id :: later ∧
      (((operationRunner fits).run earlier).1.operationJobs.get? response.id).isSome
  neverRun : ∀ earlier later (job : Nat) (record : OperationJob), events = earlier ++ later →
    ((operationRunner fits).run earlier).1.heap[job]? = some record →
    record.cancelled = true → record.started = false →
    job ∉ s.operationQueue ∧ job ∉ startedJobs trace
  oneAtATime : startedJobs trace = returnedJobs trace ++ s.loop.current
  inOrder : (startedJobs trace).Pairwise (· < ·)
  queue : ∀ job, job ∈ s.operationQueue ↔ ∃ record, s.heap[job]? = some record ∧
    record.started = false ∧ record.cancelled = false
  limit : s.operationCount ≤ maxPending

/-- What holds of the runner once it is stopped: nothing more is run or, while its reader waits,
answered, and the loop ends with what the job that it has taken is bound to return. -/
structure StopsSilently (fits : OperationResponse → Bool) (events : List RunnerEvent) (s : Runner)
    (trace : List Observation) : Prop where
  started : ∀ more, startedJobs ((operationRunner fits).run (events ++ more)).2 =
    startedJobs trace
  responses : ∀ more, (∀ id, .cancelOperation id ∉ more) →
    responses ((operationRunner fits).run (events ++ more)).2 = responses trace
  waiting : s.loop = .waiting →
    ((operationRunner fits).run (events ++ [.takeJob])).1.loop = .exited
  completing : ∀ job outcome, s.loop = .completing job outcome →
    ((operationRunner fits).run (events ++ [.completeOperation, .takeJob])).1.loop = .exited
  running : ∀ job, s.loop = .running job → ∃ record, s.heap[job]? = some record ∧
    mayFinish record {} ∧ ∀ outcome, mayFinish record outcome →
      ((operationRunner fits).run
        (events ++ [.finishJob outcome, .completeOperation, .takeJob])).1.loop = .exited

/-- In every interleaving of the reader's and the loop's sections each accepted operation is answered
at most once, and exactly once when it is no longer active, until the runner is stopped. -/
theorem operationRunner_answers_once (fits : OperationResponse → Bool)
    (events : List RunnerEvent) :
    let s := ((operationRunner fits).run events).1
    let trace := ((operationRunner fits).run events).2
    AnswersOnce fits events s trace ∧
      (s.operationStopping = true → StopsSilently fits events s trace) := by
  intro s trace
  have hinv : Invariant s trace := invariant_run fits events
  have hrun : ∀ more, (operationRunner fits).run (events ++ more) =
      (operationRunner fits).runFrom s trace more := (operationRunner fits).run_append events
  refine ⟨?_, fun hstop => ?_⟩
  · constructor
    case atMost => exact hinv.answered.atMost
    case answered => exact hinv.answered.answered
    case idle =>
      intro hstop hcount record hrecord
      obtain ⟨job, hjob⟩ := List.mem_iff_getElem?.mp hrecord
      refine hinv.answered.answered hstop job record hjob fun hactive => ?_
      have hitem := Dict.get?_eq_some.mp hactive.2
      rw [List.eq_nil_of_length_eq_zero hcount] at hitem
      exact absurd hitem List.not_mem_nil
    case cancelled =>
      intro response hresponse hcode
      exact cancelling_run events (hinv.cancellation.named response hresponse hcode)
    case neverRun =>
      intro earlier later job record hevents hrecord hcancelled hstarted
      have hbefore := invariant_run fits earlier
      have hgone : ((operationRunner fits).run earlier).1.Gone job := by
        refine ⟨record, hrecord, hstarted, fun hjob => ?_⟩
        have hran := hbefore.cancellation.startedFirst job record ⟨hrecord, hjob⟩ hcancelled
        rw [hstarted] at hran
        exact absurd hran (by decide)
      have hgone' := @gone_run fits _ _ _ hbefore hgone later
      rw [← Machine.run_append, ← hevents] at hgone'
      exact hinv.not_run hgone'
    case oneAtATime => exact hinv.inOrder.one
    case inOrder => exact hinv.inOrder.increasing
    case queue =>
      intro job
      rw [hinv.shape.queued]
      constructor
      · rintro ⟨record, hjob, hstarted⟩
        refine ⟨record, hjob.1, hstarted, ?_⟩
        rw [← Bool.not_eq_true]
        intro hcancelled
        rw [hinv.cancellation.startedFirst job record hjob hcancelled] at hstarted
        exact absurd hstarted (by decide)
      · rintro ⟨record, hrecord, hstarted, hcancelled⟩
        exact ⟨record, hinv.waits job record hrecord hstarted hcancelled, hstarted⟩
    case limit => exact hinv.shape.size
  · constructor
    case started =>
      intro more
      rw [hrun]
      exact (silent_run hinv hstop more).1
    case responses =>
      intro more hmore
      rw [hrun]
      exact (silent_run hinv hstop more).2 hmore
    case waiting =>
      intro hloop
      rw [hrun]
      exact exits_waiting hinv hstop hloop
    case completing =>
      intro job outcome hloop
      rw [hrun]
      exact exits_completing hinv hstop hloop
    case running =>
      intro job hloop
      obtain ⟨record, hrecord, -⟩ := hinv.shape.taken job (by rw [hloop]; rfl)
      have hdone : record.done = true := by
        cases hinv.released.left job record (by rw [hloop]; rfl) hrecord with
        | inl hactive => exact hinv.released.signalled hstop job record hactive
        | inr hdone => exact hdone
      refine ⟨record, hrecord, mayFinish_of_done hdone, fun outcome hmay => ?_⟩
      rw [hrun]
      exact exits_running hinv hstop hloop hrecord hmay

end Ucf.Go
