import Ucf.Adapter.Safety

/-! The request slot that is kept for `ucf.shutdown`, and the shutdown that uses it up in vain. -/

namespace Ucf.Adapter

/-! ### Calls that run up to their next wait -/

/-- No lock section waits for anything, so a call runs until it returns or waits in its handler. -/
inductive Turn where
  | dispatch (message : ClientMessage)
  | complete (call : Nat) (completion : Completion)

/-- The steps of a turn. -/
def Turn.events (s : Session) : Turn → List SessionEvent
  | dispatch message =>
    let k := s.calls.length
    [.receive message, .advance k, .advance k, .advance k]
  | complete k completion =>
    if s.calls[k]?.any fun call => call.phase matches .handling then
      [.complete k completion, .advance k]
    else []

/-- A dispatcher whose calls run up to their next wait. -/
def turnMachine (settings : Settings) : Machine Session Turn Observation where
  start := (session settings).start
  step s turn := (session settings).runFrom s [] (turn.events s)

/-- Dispatching a request returns a success response and closes the session. -/
def Closes (settings : Settings) (s : Session) (request : Request) : Prop :=
  let k := s.calls.length
  let s' := ((session settings).runFrom s []
    [.receive (.request request), .advance k, .advance k]).1
  s'.dispatcher.state = .closed ∧ s'.result? k =
    some (.request request, .ok (some (.success ⟨request.id, .shutdownResult ⟨⟩⟩)))

section

variable {settings : Settings} {s : Session} {k : Nat} {call : Call} {request : Request}
  {message : ClientMessage}

/-- The lock sections after the first admit no request. -/
theorem seenRequestIds_advance (hcall : s.calls[k]? = some call)
    (hphase : call.phase ≠ .submitted ∨ ∃ notification, call.message = .cancel notification) :
    (s.step settings (.advance k)).1.dispatcher.seenRequestIds = s.dispatcher.seenRequestIds := by
  simp only [Session.step, hcall]
  cases hmessage : call.message with
  | cancel notification =>
    cases hp : call.phase <;> simp only [Session.advance, hmessage, hp]
    cases s.dispatcher.active.get? notification.params.requestId <;> rfl
  | request request =>
    cases hp : call.phase with
    | submitted =>
      rcases hphase with hphase | ⟨notification, hcancel⟩
      · exact absurd hp hphase
      · rw [hmessage] at hcancel
        cases hcancel
    | accepted =>
      obtain ⟨d, response, heq, hproceeds⟩ :=
        AdapterDispatcher.proceed_eq_ok settings s.dispatcher k request
      have hseen : d.seenRequestIds = s.dispatcher.seenRequestIds := by cases hproceeds <;> rfl
      cases response <;> simp only [Session.advance, hmessage, hp, heq] <;> exact hseen
    | _ => simp only [Session.advance, hmessage, hp] <;> rfl

/-- A shutdown of a ready session without active requests closes it. -/
theorem shutdown_of_ready {d : AdapterDispatcher} (hstate : d.state = .ready)
    (hactive : d.active.isEmpty = true) : d.shutdown request =
      ({ d with state := .closed }, .success ⟨request.id, .shutdownResult ⟨⟩⟩) := by
  rw [AdapterDispatcher.shutdown, if_neg]
  simp [hstate, hactive]

theorem proceed_shutdown {d : AdapterDispatcher} (hmethod : request.method = .shutdown)
    (hstate : d.state = .ready) (hactive : d.active.isEmpty = true) :
    d.proceed settings k request =
      .ok ({ d with state := .closed }, some (.success ⟨request.id, .shutdownResult ⟨⟩⟩)) := by
  rw [AdapterDispatcher.proceed, if_neg (by rw [hmethod]; decide), if_pos hmethod,
    shutdown_of_ready hstate hactive]

/-- The session after a request is received. -/
def Session.received (s : Session) (message : ClientMessage) : Session :=
  ⟨s.dispatcher, s.calls ++ [⟨message, .submitted, false⟩]⟩

theorem getElem?_received (s : Session) (message : ClientMessage) :
    (s.received message).calls[s.calls.length]? = some ⟨message, .submitted, false⟩ := by
  simp [Session.received]

/-- The session after a request is admitted. -/
def Session.admitted (s : Session) (request : Request) : Session :=
  Session.setPhase ⟨{ s.dispatcher with
    seenRequestIds := insert request.id s.dispatcher.seenRequestIds },
      (s.received (.request request)).calls⟩ s.calls.length .accepted

theorem getElem?_admitted (s : Session) (request : Request) :
    (s.admitted request).calls[s.calls.length]? = some ⟨.request request, .accepted, false⟩ := by
  rw [Session.admitted, getElem?_setPhase, if_pos rfl, getElem?_received, Option.map_some]

theorem step_received (hadmits : s.dispatcher.Admits settings request) :
    ((s.received (.request request)).step settings (.advance s.calls.length)).1 =
      s.admitted request := by
  simp only [Session.step, getElem?_received, Session.advance]
  rw [show (s.received (.request request)).dispatcher = s.dispatcher from rfl,
    AdapterDispatcher.admit_of_admits hadmits]
  rfl

/-- A request that is not admitted is answered and changes no field of the dispatcher. -/
theorem step_received_of_not_admits (hadmits : ¬s.dispatcher.Admits settings request) :
    ∃ response, ((s.received (.request request)).step settings (.advance s.calls.length)).1 =
      (s.received (.request request)).setPhase s.calls.length (.finished (.ok (some response))) := by
  obtain ⟨response, heq, -⟩ := AdapterDispatcher.admit_of_not_admits hadmits
  refine ⟨response, ?_⟩
  simp only [Session.step, getElem?_received, Session.advance]
  rw [show (s.received (.request request)).dispatcher = s.dispatcher from rfl, heq]
  rfl

/-- A call that has returned takes no further step. -/
theorem step_finished {result : CallResult} (hcall : s.calls[k]? = some call)
    (hphase : call.phase = .finished result) : (s.step settings (.advance k)).1 = s := by
  simp only [Session.step, hcall]
  cases hmessage : call.message <;> simp only [Session.advance, hmessage, hphase]

theorem step_finished_of_not_admits (hadmits : ¬s.dispatcher.Admits settings request) :
    ∃ s', (s'.step settings (.advance s.calls.length)).1 = s' ∧ s'.dispatcher = s.dispatcher ∧
      ((s.received (.request request)).step settings (.advance s.calls.length)).1 = s' := by
  obtain ⟨response, heq⟩ := step_received_of_not_admits hadmits
  refine ⟨(s.received (.request request)).setPhase s.calls.length (.finished (.ok (some response))),
    ?_, rfl, heq⟩
  have hcall : ((Session.mk s.dispatcher (s.received (.request request)).calls).setPhase
      s.calls.length (.finished (.ok (some response)))).calls[s.calls.length]? =
        some ⟨.request request, .finished (.ok (some response)), false⟩ := by
    rw [getElem?_setPhase, if_pos rfl, getElem?_received, Option.map_some]
  exact step_finished hcall rfl

/-- A shutdown that is admitted while the session is ready and nothing is active closes it. -/
theorem step_admitted (hmethod : request.method = .shutdown)
    (hstate : s.dispatcher.state = .ready) (hactive : s.dispatcher.active.isEmpty = true) :
    ((s.admitted request).step settings (.advance s.calls.length)).1 =
      Session.setPhase ⟨{ (s.admitted request).dispatcher with state := .closed },
        (s.admitted request).calls⟩ s.calls.length
        (.finished (.ok (some (.success ⟨request.id, .shutdownResult ⟨⟩⟩)))) := by
  simp only [Session.step, getElem?_admitted, Session.advance]
  rw [proceed_shutdown hmethod (d := (s.admitted request).dispatcher) hstate hactive]
  rfl

/-- In a ready session without active requests, a shutdown with a new id closes the session exactly
when a request slot is left. -/
theorem closes_iff (hstate : s.dispatcher.state = .ready)
    (hactive : s.dispatcher.active.isEmpty = true) (hmethod : request.method = .shutdown)
    (hfresh : request.id ∉ s.dispatcher.seenRequestIds) :
    Closes settings s request ↔ s.dispatcher.seenRequestIds.card < settings.maxRequests := by
  show ((((s.received (.request request)).step settings (.advance s.calls.length)).1.step settings
    (.advance s.calls.length)).1.dispatcher.state = .closed ∧ _) ↔ _
  constructor
  · rintro ⟨hclosed, -⟩
    by_contra hcard
    have hnot : ¬s.dispatcher.Admits settings request := fun hadmits => hcard hadmits.2.1
    obtain ⟨s', hstep, hdispatcher, heq⟩ := step_finished_of_not_admits hnot
    rw [heq, hstep, hdispatcher, hstate] at hclosed
    cases hclosed
  · intro hcard
    have hadmits : s.dispatcher.Admits settings request := ⟨hfresh, hcard, fun _ => hmethod⟩
    have hfinal := @step_admitted settings s request hmethod hstate hactive
    rw [step_received hadmits]
    refine ⟨by rw [hfinal]; rfl, ?_⟩
    show Session.result? (((s.received (.request request)).step settings
      (.advance s.calls.length)).1.step settings (.advance s.calls.length)).1 _ = _
    rw [step_received hadmits, hfinal, result?_setPhase (getElem?_admitted s request), if_pos rfl]
    rfl

/-- The slot that is left: a shutdown that would take the last one finds the session ready with
nothing active. -/
def KeepsSlot (settings : Settings) (s : Session) (turn : Turn) : Prop :=
  ∀ request, turn = .dispatch (.request request) → request.method = .shutdown →
    request.id ∉ s.dispatcher.seenRequestIds →
    s.dispatcher.seenRequestIds.card = settings.maxRequests - 1 →
    s.dispatcher.state = .ready ∧ s.dispatcher.active.isEmpty = true

/-- The session is closed or has a slot left. -/
def HasSlot (settings : Settings) (s : Session) : Prop :=
  s.dispatcher.state = .closed ∨ s.dispatcher.seenRequestIds.card < settings.maxRequests

/-- A step that admits nothing. -/
theorem HasSlot.step (h : HasSlot settings s) {event : SessionEvent}
    (hseen : (s.step settings event).1.dispatcher.seenRequestIds = s.dispatcher.seenRequestIds) :
    HasSlot settings (s.step settings event).1 := by
  rcases h with h | h
  · exact .inl ((change_step settings s event).closed_of_closed h)
  · rw [HasSlot, hseen]
    exact .inr h

theorem HasSlot.advance (h : HasSlot settings s) (hcall : s.calls[k]? = some call)
    (hphase : call.phase ≠ .submitted) : HasSlot settings (s.step settings (.advance k)).1 :=
  h.step (seenRequestIds_advance hcall (.inl hphase))

theorem HasSlot.complete (h : HasSlot settings s) (completion : Completion) :
    HasSlot settings (s.step settings (.complete k completion)).1 := by
  refine h.step ?_
  rw [Session.step]
  split <;> rfl

theorem HasSlot.advance_of_remaining (h : HasSlot settings s)
    (hcall : ∃ call, s.calls[k]? = some call ∧ call.phase.remaining ≤ 4) :
    HasSlot settings (s.step settings (.advance k)).1 ∧
      ∃ call, (s.step settings (.advance k)).1.calls[k]? = some call ∧ call.phase.remaining ≤ 4 := by
  obtain ⟨call, hcall, hremaining⟩ := hcall
  obtain ⟨call', hcall', -, hle⟩ := (change_step settings s (.advance k)).keeps_call hcall
  refine ⟨h.advance hcall fun hphase => ?_, call', hcall', hle.trans hremaining⟩
  rw [hphase] at hremaining
  exact absurd hremaining (by decide)

theorem HasSlot.advance_of_cancel (h : HasSlot settings s) {notification : CancelNotification}
    (hcall : ∃ call, s.calls[k]? = some call ∧ call.message = .cancel notification) :
    HasSlot settings (s.step settings (.advance k)).1 ∧
      ∃ call, (s.step settings (.advance k)).1.calls[k]? = some call ∧
        call.message = .cancel notification := by
  obtain ⟨call, hcall, hmessage⟩ := hcall
  obtain ⟨call', hcall', hm, -⟩ := (change_step settings s (.advance k)).keeps_call hcall
  exact ⟨h.step (seenRequestIds_advance hcall (.inr ⟨notification, hmessage⟩)), call', hcall',
    hm.trans hmessage⟩

/-- A turn that keeps the slot leaves one. -/
theorem HasSlot.turn (h : HasSlot settings s) {turn : Turn} (hkeeps : KeepsSlot settings s turn) :
    HasSlot settings ((turnMachine settings).step s turn).1 := by
  cases turn with
  | complete k completion =>
    show HasSlot settings ((session settings).runFrom s [] (Turn.events s (.complete k completion))).1
    rw [Turn.events]
    split
    · rename_i hany
      obtain ⟨call, hcall, hphase⟩ : ∃ call, s.calls[k]? = some call ∧ call.phase = .handling := by
        cases hcall : s.calls[k]? with
        | none =>
          rw [hcall] at hany
          cases hany
        | some call =>
          rw [hcall, Option.any_some] at hany
          refine ⟨call, rfl, ?_⟩
          cases hphase : call.phase <;> rw [hphase] at hany <;> first | rfl | cases hany
      obtain ⟨call', hcall', -, hle⟩ :=
        (change_step settings s (.complete k completion)).keeps_call hcall
      rw [hphase] at hle
      exact ((h.complete completion).advance_of_remaining
        ⟨call', hcall', hle.trans (by decide)⟩).1
    · exact h
  | dispatch message =>
    show HasSlot settings ((((s.received message).step settings (.advance s.calls.length)).1.step
      settings (.advance s.calls.length)).1.step settings (.advance s.calls.length)).1
    have hreceived : HasSlot settings (s.received message) := h
    cases message with
    | cancel notification =>
      obtain ⟨h₁, hcall₁⟩ := hreceived.advance_of_cancel
        ⟨_, getElem?_received s (.cancel notification), rfl⟩
      obtain ⟨h₂, hcall₂⟩ := h₁.advance_of_cancel hcall₁
      exact (h₂.advance_of_cancel hcall₂).1
    | request request =>
      by_cases hadmits : s.dispatcher.Admits settings request
      · rw [step_received hadmits]
        have hadmitted := getElem?_admitted s request
        by_cases hlast : s.dispatcher.seenRequestIds.card = settings.maxRequests - 1
        · -- the last slot is taken by a shutdown that closes the session
          have hmethod := hadmits.2.2 hlast
          obtain ⟨hstate, hactive⟩ := hkeeps request rfl hmethod hadmits.1 hlast
          rw [step_admitted hmethod hstate hactive]
          exact .inl ((change_step settings _ _).closed_of_closed rfl)
        · have hslot : HasSlot settings (s.admitted request) := by
            refine .inr ?_
            show (insert request.id s.dispatcher.seenRequestIds).card < settings.maxRequests
            rw [Finset.card_insert_of_notMem hadmits.1]
            have := hadmits.2.1
            omega
          obtain ⟨h₁, hcall₁⟩ := hslot.advance_of_remaining ⟨_, hadmitted, le_rfl⟩
          exact (h₁.advance_of_remaining hcall₁).1
      · obtain ⟨s', hstep, hdispatcher, heq⟩ := step_finished_of_not_admits hadmits
        rw [heq, hstep, hstep, HasSlot, hdispatcher]
        exact h

end

/-- Every turn of a run keeps the last slot. -/
def KeepsLastSlot (settings : Settings) (turns : List Turn) : Prop :=
  ∀ before turn after, turns = before ++ turn :: after →
    KeepsSlot settings ((turnMachine settings).run before).1 turn

theorem hasSlot_run {settings : Settings} {turns : List Turn}
    (h : KeepsLastSlot settings turns) : HasSlot settings ((turnMachine settings).run turns).1 := by
  induction turns using List.reverseRecOn with
  | nil =>
    refine .inr ?_
    have := settings.requestsRange.1
    show (∅ : Finset RequestId).card < settings.maxRequests
    rw [Finset.card_empty]
    omega
  | append_singleton turns turn ih =>
    rw [Machine.run_snoc]
    refine HasSlot.turn (ih fun before t after heq => ?_) (h turns turn [] rfl)
    exact h before t (after ++ [turn]) (by rw [heq, List.append_assoc, List.cons_append])

/-- In every state that any interleaving reaches, a shutdown with a new id closes a ready session
without active requests exactly when a slot is left; and a slot is left in every state of a run
whose shutdowns take the last slot only when they succeed. -/
theorem shutdown_closes (settings : Settings) :
    (∀ events request, let s := ((session settings).run events).1
      s.dispatcher.state = .ready → s.dispatcher.active.isEmpty = true →
        request.method = .shutdown → request.id ∉ s.dispatcher.seenRequestIds →
          (Closes settings s request ↔
            s.dispatcher.seenRequestIds.card < settings.maxRequests)) ∧
    ∀ turns request, KeepsLastSlot settings turns → let s := ((turnMachine settings).run turns).1
      s.dispatcher.state = .ready → s.dispatcher.active.isEmpty = true →
        request.method = .shutdown → request.id ∉ s.dispatcher.seenRequestIds →
          Closes settings s request := by
  refine ⟨fun events request hstate hactive hmethod hfresh =>
    closes_iff hstate hactive hmethod hfresh,
    fun turns request hkeeps hstate hactive hmethod hfresh => ?_⟩
  rw [closes_iff hstate hactive hmethod hfresh]
  rcases hasSlot_run hkeeps with hclosed | hslot
  · rw [hstate] at hclosed
    cases hclosed
  · exact hslot

/-! ### A shutdown that takes the last slot in vain -/

/-- `org.ucf.adapter.inventory` in version 1.0.0. -/
def inventoryCapability : CapabilitySelection :=
  ⟨⟨"org.ucf.adapter.inventory", inventoryCapability_valid⟩, ⟨"1.0.0", by decide +kernel⟩⟩

/-- A session of three requests. -/
def threeRequests : Settings where
  adapter := ⟨⟨"org.example.adapter", by decide +kernel⟩, ⟨"1.0.0", by decide +kernel⟩⟩
  offeredCapabilities := [inventoryCapability]
  maxPending := 1
  maxRequests := 3
  uniqueNames := List.nodup_singleton _
  pendingRange := by decide
  requestsRange := by decide

def initializeRequest : Request where
  id := ⟨"a", by decide +kernel⟩
  method := .initialize_
  params := .initializeParams ⟨⟨"1.0.0", by decide +kernel⟩, threeRequests.adapter,
    [⟨inventoryCapability.name, inventoryCapability.version, true⟩]⟩
  requireMethodParamsMatch := rfl

def inventoryRequest : Request where
  id := ⟨"b", by decide +kernel⟩
  method := .inventory
  params := .operationParams ⟨.inventoryRequest, .adapter ⟨⟨"urn:example", by decide +kernel⟩,
    ⟨"1.0.0", by decide +kernel⟩, .scalar (.null ⟨⟩)⟩, by decide, rfl⟩
  requireMethodParamsMatch := rfl

def shutdownRequest (id : RequestId) : Request where
  id := id
  method := .shutdown
  params := .shutdownParams ⟨⟩
  requireMethodParamsMatch := rfl

/-- The shutdown `c` arrives while the operation `b` is in its handler. -/
def prematureShutdown : List Turn :=
  [.dispatch (.request initializeRequest), .dispatch (.request inventoryRequest),
    .dispatch (.request (shutdownRequest ⟨"c", by decide +kernel⟩)), .complete 1 .exception]

/-- Afterwards the session is ready, nothing is active, and no shutdown closes it. -/
theorem shutdown_refused : ¬∀ settings turns request,
    let s := ((turnMachine settings).run turns).1
    s.dispatcher.state = .ready → s.dispatcher.active.isEmpty = true →
      request.method = .shutdown → request.id ∉ s.dispatcher.seenRequestIds →
        Closes settings s request := by
  intro h
  have hstate : ((turnMachine threeRequests).run prematureShutdown).1.dispatcher.state = .ready := by
    decide +kernel
  have hactive : ((turnMachine threeRequests).run prematureShutdown).1.dispatcher.active.isEmpty =
      true := by
    decide +kernel
  have hfresh : (shutdownRequest ⟨"d", by decide +kernel⟩).id ∉
      ((turnMachine threeRequests).run prematureShutdown).1.dispatcher.seenRequestIds := by
    decide +kernel
  have hcard : ((turnMachine threeRequests).run prematureShutdown).1.dispatcher.seenRequestIds.card =
      3 := by
    decide +kernel
  have := (closes_iff hstate hactive rfl hfresh).mp (h _ _ _ hstate hactive rfl hfresh)
  rw [hcard] at this
  exact absurd this (by decide)

/-- After the initialization alone, a shutdown closes the session. -/
theorem shutdown_closes_initialized :
    (Closes threeRequests ((session threeRequests).run
        [.receive (.request initializeRequest), .advance 0, .advance 0]).1
        (shutdownRequest ⟨"c", by decide +kernel⟩) ↔ 1 < 3) ∧
      Closes threeRequests
        ((turnMachine threeRequests).run [.dispatch (.request initializeRequest)]).1
        (shutdownRequest ⟨"c", by decide +kernel⟩) := by
  have hkeeps : KeepsLastSlot threeRequests [.dispatch (.request initializeRequest)] := by
    intro before turn after heq request hturn hmethod
    cases before with
    | nil =>
      cases heq
      cases hturn
      cases hmethod
    | cons first before =>
      rw [List.cons_append, List.cons.injEq] at heq
      exact absurd heq.2.symm (by simp)
  have hcard : ((session threeRequests).run [.receive (.request initializeRequest), .advance 0,
      .advance 0]).1.dispatcher.seenRequestIds.card = 1 := by
    decide +kernel
  refine ⟨?_, (shutdown_closes threeRequests).2 _ _ hkeeps (by decide +kernel) (by decide +kernel) rfl
    (by decide +kernel)⟩
  have := (shutdown_closes threeRequests).1 [.receive (.request initializeRequest), .advance 0,
    .advance 0] (shutdownRequest ⟨"c", by decide +kernel⟩) (by decide +kernel) (by decide +kernel) rfl
    (by decide +kernel)
  rw [hcard] at this
  exact this

end Ucf.Adapter
