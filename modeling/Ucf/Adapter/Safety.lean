import Ucf.Adapter.Dispatcher

/-! What holds of a dispatcher under every interleaving of its calls. -/

namespace Ucf.Adapter

/-- `error.data.ucf_code` of an error response. -/
def ServerMessage.code? : ServerMessage → Option ProtocolCode
  | .success _ => none
  | .failure response => some response.error.data.ucfCode

/-- A response to a request that does not say that the request was cancelled. -/
structure Answers (request : Request) (response : ServerMessage) : Prop where
  id : response.id = some request.id
  code : response.code? ≠ some .requestCancelled

theorem answers_errorResponse {request : Request} {category : ErrorCategory} {code : ProtocolCode}
    {message : ErrorMessage} {hcategory : category = errorCategoryForCode code}
    {hlocal : ¬category.isLocal} (h : code ≠ .requestCancelled) :
    Answers request (errorResponse request.id category code message hcategory hlocal) :=
  ⟨rfl, fun heq => h (Option.some.inj heq)⟩

namespace AdapterDispatcher

/-- What the lock section after admission does. -/
inductive Proceeds (settings : Settings) (d : AdapterDispatcher) (k : Nat) (request : Request) :
    AdapterDispatcher → Option ServerMessage → Prop where
  | refused {response : ServerMessage} (hanswers : Answers request response) :
    Proceeds settings d k request d response
  | initialized {response : ServerMessage} {negotiated : Dict QualifiedName NormalizedVersion}
    (hstate : d.state = .new) (hanswers : Answers request response) :
    Proceeds settings d k request { d with negotiated := negotiated, state := .ready } response
  | closed {response : ServerMessage} (hmethod : request.method = .shutdown)
    (hstate : d.state = .ready) (hactive : d.active.isEmpty = true)
    (hanswers : Answers request response) :
    Proceeds settings d k request { d with state := .closed } response
  | registered {capability : QualifiedName} (hstate : d.state = .ready)
    (hcapability : request.method.capability? = some capability)
    (hnegotiated : capability ∈ d.negotiated.keys) (hsize : d.active.size < settings.maxPending) :
    Proceeds settings d k request { d with active := d.active.insert request.id k } none

theorem initializeParams_of_method {request : Request} (h : request.method = .initialize_) :
    ∃ params, request.params = .initializeParams params := by
  have hmatch := request.requireMethodParamsMatch
  unfold methodParamsMatch at hmatch
  rw [if_pos h] at hmatch
  cases hparams : request.params with
  | initializeParams params => exact ⟨params, rfl⟩
  | _ =>
    rw [hparams] at hmatch
    cases hmatch

theorem operationParams_of_method {request : Request} (hnew : request.method ≠ .initialize_)
    (hshutdown : request.method ≠ .shutdown) :
    (∃ params, request.params = .operationParams params) ∧
      ∃ capability, request.method.capability? = some capability := by
  have hmatch := request.requireMethodParamsMatch
  unfold methodParamsMatch at hmatch
  rw [if_neg hnew, if_neg hshutdown] at hmatch
  cases hkind : request.method.requestKind? with
  | none =>
    rw [hkind] at hmatch
    cases hmatch
  | some expected =>
    rw [hkind] at hmatch
    refine ⟨?_, ?_⟩
    · cases hparams : request.params with
      | operationParams params => exact ⟨params, rfl⟩
      | _ =>
        rw [hparams] at hmatch
        cases hmatch
    · cases hmethod : request.method <;> rw [hmethod] at hkind <;>
        first | exact ⟨_, rfl⟩ | cases hkind

theorem proceeds_initialize (settings : Settings) (d : AdapterDispatcher) (k : Nat)
    {request : Request} (h : request.method = .initialize_) :
    ∃ d' response, d.initialize_ settings request = .ok (d', response) ∧
      Proceeds settings d k request d' response := by
  obtain ⟨params, hparams⟩ := initializeParams_of_method h
  simp only [initialize_, hparams]
  split
  · exact ⟨_, _, rfl, .refused (answers_errorResponse (by decide))⟩
  · rename_i hstate
    split
    · exact ⟨_, _, rfl, .refused (answers_errorResponse (by decide))⟩
    · split
      · split
        · exact ⟨_, _, rfl, .refused (answers_errorResponse (by decide))⟩
        · exact ⟨_, _, rfl, .initialized (not_not.mp hstate) ⟨rfl, nofun⟩⟩
      · exact ⟨_, _, rfl, .refused (answers_errorResponse (by decide))⟩

theorem proceeds_shutdown (settings : Settings) (d : AdapterDispatcher) (k : Nat)
    {request : Request} (h : request.method = .shutdown) :
    Proceeds settings d k request (d.shutdown request).1 (d.shutdown request).2 := by
  unfold shutdown
  split
  · exact .refused (answers_errorResponse (by decide))
  · rename_i hnot
    rw [not_or, not_not, not_not] at hnot
    exact .closed h hnot.1 hnot.2 ⟨rfl, nofun⟩

theorem proceeds_operate (settings : Settings) (d : AdapterDispatcher) (k : Nat)
    {request : Request} (hnew : request.method ≠ .initialize_)
    (hshutdown : request.method ≠ .shutdown) :
    ∃ d' response, d.operate settings k request = .ok (d', response) ∧
      Proceeds settings d k request d' response := by
  obtain ⟨⟨params, hparams⟩, capability, hcapability⟩ :=
    operationParams_of_method hnew hshutdown
  simp only [operate, hparams, hcapability, orRaise_some, ok_bind]
  split
  · exact ⟨_, _, rfl, .refused (answers_errorResponse (by decide))⟩
  · rename_i hstate
    split
    · exact ⟨_, _, rfl, .refused (answers_errorResponse (by decide))⟩
    · rename_i hnegotiated
      split
      · exact ⟨_, _, rfl, .refused (answers_errorResponse (by decide))⟩
      · rename_i hsize
        exact ⟨_, _, rfl, .registered (not_not.mp hstate) hcapability
          (Dict.contains_iff.mp (not_not.mp hnegotiated)) (by omega)⟩

/-- An admitted request is dispatched without an exception. -/
theorem proceed_eq_ok (settings : Settings) (d : AdapterDispatcher) (k : Nat) (request : Request) :
    ∃ d' response, d.proceed settings k request = .ok (d', response) ∧
      Proceeds settings d k request d' response := by
  unfold proceed
  split
  · rename_i hmethod
    obtain ⟨d', response, heq, h⟩ := proceeds_initialize settings d k hmethod
    exact ⟨d', some response, by rw [heq]; rfl, h⟩
  · split
    · rename_i hmethod
      exact ⟨_, _, rfl, proceeds_shutdown settings d k hmethod⟩
    · rename_i hnew hshutdown
      exact proceeds_operate settings d k hnew hshutdown

/-- A request is admitted when its id is new and a slot is left for it. -/
def Admits (settings : Settings) (d : AdapterDispatcher) (request : Request) : Prop :=
  request.id ∉ d.seenRequestIds ∧ d.seenRequestIds.card < settings.maxRequests ∧
    (d.seenRequestIds.card = settings.maxRequests - 1 → request.method = .shutdown)

theorem admit_of_admits {settings : Settings} {d : AdapterDispatcher} {request : Request}
    (h : d.Admits settings request) : d.admitRequest settings request =
      ({ d with seenRequestIds := insert request.id d.seenRequestIds }, none) := by
  obtain ⟨hfresh, hcard, hlast⟩ := h
  unfold admitRequest
  rw [if_neg hfresh, if_neg]
  rintro (hle | ⟨heq, hne⟩)
  · omega
  · exact hne (hlast heq)

theorem admit_of_not_admits {settings : Settings} {d : AdapterDispatcher} {request : Request}
    (h : ¬d.Admits settings request) :
    ∃ response, d.admitRequest settings request = (d, some response) ∧ Answers request response := by
  unfold admitRequest
  split
  · exact ⟨_, rfl, answers_errorResponse (by decide)⟩
  · rename_i hfresh
    split
    · exact ⟨_, rfl, answers_errorResponse (by decide)⟩
    · rename_i hroom
      rw [not_or, not_le] at hroom
      exact absurd ⟨hfresh, hroom.1, fun heq => not_not.mp fun hne => hroom.2 ⟨heq, hne⟩⟩ h

end AdapterDispatcher

theorem answer_id (request : Request) (signalled : Bool) (completion : Completion) :
    (answer request signalled completion).id = some request.id := by
  cases completion with
  | payload payload =>
    simp only [answer]
    split
    · split <;> rfl
    · rfl
  | cancelled => cases signalled <;> rfl
  | _ => rfl

theorem signalled_of_answer {request : Request} {signalled : Bool} {completion : Completion}
    (h : (answer request signalled completion).code? = some .requestCancelled) :
    signalled = true := by
  cases completion with
  | payload payload =>
    simp only [answer] at h
    split at h
    · split at h <;> cases h
    · cases h
  | cancelled =>
    cases signalled
    · cases h
    · rfl
  | _ => cases h

/-! ### What one step does -/

section

variable (settings : Settings) (s : Session)

/-- Everything that a step of a session can do. -/
inductive Change : Session → List Observation → Prop where
  | idle : Change s []
  | received (message : ClientMessage) :
    Change { s with calls := s.calls ++ [⟨message, .submitted, false⟩] } []
  | cancelled {k target : Nat} {call : Call} {notification : CancelNotification}
    (hcall : s.calls[k]? = some call) (hphase : call.phase = .submitted)
    (hmessage : call.message = .cancel notification)
    (hactive : s.dispatcher.active.get? notification.params.requestId = some target) :
    Change ((s.signal target).setPhase k (.finished (.ok none)))
      [.signalled notification.params.requestId, .returned k call.message (.ok none)]
  | ignored {k : Nat} {call : Call} {notification : CancelNotification}
    (hcall : s.calls[k]? = some call) (hphase : call.phase = .submitted)
    (hmessage : call.message = .cancel notification) :
    Change (s.setPhase k (.finished (.ok none))) [.returned k call.message (.ok none)]
  | refused {k : Nat} {call : Call} {request : Request} {response : ServerMessage}
    (hcall : s.calls[k]? = some call)
    (hphase : call.phase = .submitted ∨ call.phase = .accepted)
    (hmessage : call.message = .request request) (hanswers : Answers request response) :
    Change (s.setPhase k (.finished (.ok response))) [.returned k call.message (.ok response)]
  | admitted {k : Nat} {call : Call} {request : Request} (hcall : s.calls[k]? = some call)
    (hphase : call.phase = .submitted) (hmessage : call.message = .request request)
    (hadmits : s.dispatcher.Admits settings request) :
    Change (Session.setPhase ⟨{ s.dispatcher with
      seenRequestIds := insert request.id s.dispatcher.seenRequestIds }, s.calls⟩ k .accepted) []
  | initialized {k : Nat} {call : Call} {request : Request} {response : ServerMessage}
    {negotiated : Dict QualifiedName NormalizedVersion} (hcall : s.calls[k]? = some call)
    (hphase : call.phase = .accepted) (hmessage : call.message = .request request)
    (hstate : s.dispatcher.state = .new) (hanswers : Answers request response) :
    Change (Session.setPhase ⟨{ s.dispatcher with negotiated := negotiated, state := .ready },
      s.calls⟩ k (.finished (.ok response))) [.returned k call.message (.ok response)]
  | closed {k : Nat} {call : Call} {request : Request} {response : ServerMessage}
    (hcall : s.calls[k]? = some call)
    (hphase : call.phase = .accepted) (hmessage : call.message = .request request)
    (hmethod : request.method = .shutdown) (hstate : s.dispatcher.state = .ready)
    (hactive : s.dispatcher.active.isEmpty = true) (hanswers : Answers request response) :
    Change (Session.setPhase ⟨{ s.dispatcher with state := .closed }, s.calls⟩ k
      (.finished (.ok response))) [.returned k call.message (.ok response)]
  | registered {k : Nat} {call : Call} {request : Request} {capability : QualifiedName}
    (hcall : s.calls[k]? = some call)
    (hphase : call.phase = .accepted) (hmessage : call.message = .request request)
    (hstate : s.dispatcher.state = .ready)
    (hcapability : request.method.capability? = some capability)
    (hnegotiated : capability ∈ s.dispatcher.negotiated.keys)
    (hsize : s.dispatcher.active.size < settings.maxPending) :
    Change (Session.setPhase ⟨{ s.dispatcher with
      active := s.dispatcher.active.insert request.id k }, s.calls⟩ k .registered) []
  | started {k : Nat} {call : Call} {request : Request} (hcall : s.calls[k]? = some call)
    (hphase : call.phase = .registered) (hmessage : call.message = .request request) :
    Change (s.setPhase k .handling) [.started k request]
  | answered {k : Nat} {call : Call} {request : Request} {completion : Completion}
    (hcall : s.calls[k]? = some call) (hphase : call.phase = .handling)
    (hmessage : call.message = .request request) :
    Change (s.setPhase k (.answered (answer request call.signalled completion))) []
  | released {k : Nat} {call : Call} {request : Request} {response : ServerMessage}
    (hcall : s.calls[k]? = some call) (hphase : call.phase = .answered response)
    (hmessage : call.message = .request request) :
    Change (Session.setPhase ⟨s.dispatcher.release request, s.calls⟩ k (.finished (.ok response)))
      [.returned k call.message (.ok response)]

theorem change_advance {k : Nat} {call : Call} (hcall : s.calls[k]? = some call) :
    Change settings s (s.advance settings k call).1 (s.advance settings k call).2 := by
  cases hmessage : call.message with
  | cancel notification =>
    cases hphase : call.phase with
    | submitted =>
      cases hactive : s.dispatcher.active.get? notification.params.requestId with
      | some target =>
        simp only [Session.advance, hmessage, hphase, hactive, Session.finish]
        rw [← hmessage]
        exact .cancelled hcall hphase hmessage hactive
      | none =>
        simp only [Session.advance, hmessage, hphase, hactive, Session.finish]
        rw [← hmessage]
        exact .ignored hcall hphase hmessage
    | _ =>
      simp only [Session.advance, hmessage, hphase]
      exact .idle
  | request request =>
    cases hphase : call.phase with
    | submitted =>
      by_cases hadmits : s.dispatcher.Admits settings request
      · simp only [Session.advance, hmessage, hphase, AdapterDispatcher.admit_of_admits hadmits]
        exact .admitted hcall hphase hmessage hadmits
      · obtain ⟨response, heq, hanswers⟩ := AdapterDispatcher.admit_of_not_admits hadmits
        simp only [Session.advance, hmessage, hphase, heq, Session.finish]
        rw [← hmessage]
        exact .refused hcall (.inl hphase) hmessage hanswers
    | accepted =>
      obtain ⟨d, response, heq, hproceeds⟩ :=
        AdapterDispatcher.proceed_eq_ok settings s.dispatcher k request
      simp only [Session.advance, hmessage, hphase, heq, Session.finish]
      rw [← hmessage]
      cases hproceeds with
      | refused hanswers => exact .refused hcall (.inr hphase) hmessage hanswers
      | initialized hstate hanswers => exact .initialized hcall hphase hmessage hstate hanswers
      | closed hmethod hstate hactive hanswers =>
        exact .closed hcall hphase hmessage hmethod hstate hactive hanswers
      | registered hstate hcapability hnegotiated hsize =>
        exact .registered hcall hphase hmessage hstate hcapability hnegotiated hsize
    | registered =>
      simp only [Session.advance, hmessage, hphase]
      exact .started hcall hphase hmessage
    | answered response =>
      simp only [Session.advance, hmessage, hphase, Session.finish]
      rw [← hmessage]
      exact .released hcall hphase hmessage
    | _ =>
      simp only [Session.advance, hmessage, hphase]
      exact .idle

/-- Every step is one of the changes. -/
theorem change_step (event : SessionEvent) :
    Change settings s (s.step settings event).1 (s.step settings event).2 := by
  cases event with
  | receive message => exact .received message
  | advance k =>
    rw [Session.step]
    split
    · exact change_advance settings s ‹_›
    · exact .idle
  | complete k completion =>
    rw [Session.step]
    split
    · rename_i request signalled hcall
      exact .answered hcall rfl rfl
    · exact .idle

end

/-! ### Calls and the fields of the dispatcher -/

/-- The handler has not been called, but its call is registered or may be. -/
def Phase.isWaiting : Phase → Bool
  | accepted | registered => true
  | _ => false

/-- The request is registered. -/
def Phase.isActive : Phase → Bool
  | registered | handling | answered _ => true
  | _ => false

/-- The request was admitted and has not returned. -/
def Phase.isAdmitted : Phase → Bool
  | accepted | registered | handling | answered _ => true
  | _ => false

theorem Phase.isAdmitted_of_isActive {phase : Phase} (h : phase.isActive = true) :
    phase.isAdmitted = true := by
  cases phase <;> first | rfl | cases h

/-- The `k`-th call dispatches `request` and is in one of the phases `p`. -/
def HasCall (calls : List Call) (k : Nat) (request : Request) (p : Phase → Bool) : Prop :=
  ∃ call, calls[k]? = some call ∧ call.message = .request request ∧ p call.phase = true

section

variable {s : Session} {d : AdapterDispatcher} {calls : List Call} {k j : Nat} {call : Call}
  {phase : Phase} {request request' : Request} {p : Phase → Bool}

theorem getElem?_setPhase : ((Session.mk d calls).setPhase k phase).calls[j]? =
    if j = k then (calls[k]?).map fun call => { call with phase } else calls[j]? := by
  rw [Session.setPhase, List.getElem?_modify]
  by_cases h : k = j
  · subst h
    simp
  · simp [h, Ne.symm h]

theorem getElem?_signal : (s.signal k).calls[j]? =
    if j = k then (s.calls[k]?).map fun call => { call with signalled := true }
    else s.calls[j]? := by
  rw [Session.signal, List.getElem?_modify]
  by_cases h : k = j
  · subst h
    simp
  · simp [h, Ne.symm h]

theorem exists_call_signal (target : Nat) (hcall : s.calls[k]? = some call) :
    ∃ call', (s.signal target).calls[k]? = some call' ∧ call'.message = call.message ∧
      call'.phase = call.phase := by
  rw [getElem?_signal]
  by_cases hk : k = target
  · subst hk
    exact ⟨{ call with signalled := true }, by rw [if_pos rfl, hcall, Option.map_some], rfl, rfl⟩
  · exact ⟨call, by rw [if_neg hk, hcall], rfl, rfl⟩

theorem HasCall.mono {p q : Phase → Bool} (h : HasCall calls k request p)
    (hpq : ∀ phase, p phase = true → q phase = true) : HasCall calls k request q := by
  obtain ⟨call, hcall, hmessage, hphase⟩ := h
  exact ⟨call, hcall, hmessage, hpq _ hphase⟩

theorem HasCall.request_eq (h : HasCall calls k request p) (hcall : calls[k]? = some call)
    (hmessage : call.message = .request request') : request = request' ∧ p call.phase = true := by
  obtain ⟨call', hcall', hmessage', hphase⟩ := h
  rw [hcall, Option.some.injEq] at hcall'
  subst hcall'
  rw [hmessage] at hmessage'
  cases hmessage'
  exact ⟨rfl, hphase⟩

theorem hasCall_setPhase (hcall : calls[k]? = some call)
    (hmessage : call.message = .request request) :
    HasCall ((Session.mk d calls).setPhase k phase).calls j request' p ↔
      if j = k then request' = request ∧ p phase = true else HasCall calls j request' p := by
  unfold HasCall
  rw [getElem?_setPhase]
  by_cases h : j = k
  · simp only [h, if_true, hcall, Option.map_some, Option.some.injEq, exists_eq_left', hmessage,
      ClientMessage.request.injEq]
    rw [eq_comm]
  · simp only [h, if_false]

theorem hasCall_setPhase_cancel {notification : CancelNotification}
    (hcall : calls[k]? = some call) (hmessage : call.message = .cancel notification) :
    HasCall ((Session.mk d calls).setPhase k phase).calls j request' p ↔
      HasCall calls j request' p := by
  unfold HasCall
  rw [getElem?_setPhase]
  by_cases h : j = k
  · simp [h, hcall, hmessage]
  · simp only [h, if_false]

theorem hasCall_signal :
    HasCall (s.signal k).calls j request' p ↔ HasCall s.calls j request' p := by
  unfold HasCall
  rw [getElem?_signal]
  by_cases h : j = k
  · subst h
    cases s.calls[j]? <;> simp
  · simp only [h, if_false]

theorem hasCall_received {message : ClientMessage} (hp : p .submitted = false) :
    HasCall (calls ++ [⟨message, .submitted, false⟩]) j request' p ↔
      HasCall calls j request' p := by
  unfold HasCall
  rw [List.getElem?_append]
  by_cases h : j < calls.length
  · simp only [h, if_true]
  · simp only [h, if_false, List.getElem?_eq_none (Nat.not_lt.mp h), reduceCtorEq, false_and,
      exists_false, iff_false]
    rintro ⟨call, hcall, _, hphase⟩
    obtain ⟨_, rfl⟩ : j - calls.length = 0 ∧ _ := by
      simpa [List.getElem?_singleton] using hcall
    rw [hp] at hphase
    cases hphase

end

/-- The dispatcher's fields agree with the calls, and keep within the limits. -/
structure Tracks (settings : Settings) (s : Session) : Prop where
  card_le : s.dispatcher.seenRequestIds.card ≤ settings.maxRequests
  size_le : s.dispatcher.active.size ≤ settings.maxPending
  active : ∀ id k, s.dispatcher.active.get? id = some k ↔
    ∃ request : Request, request.id = id ∧ HasCall s.calls k request Phase.isActive
  seen : ∀ k request, HasCall s.calls k request Phase.isAdmitted →
    request.id ∈ s.dispatcher.seenRequestIds
  unique : ∀ k j request request', HasCall s.calls k request Phase.isAdmitted →
    HasCall s.calls j request' Phase.isAdmitted → request.id = request'.id → k = j
  ready : ∀ k request, HasCall s.calls k request Phase.isActive → s.dispatcher.state = .ready
  negotiated : ∀ k request, HasCall s.calls k request Phase.isActive →
    ∃ capability, request.method.capability? = some capability ∧
      capability ∈ s.dispatcher.negotiated.keys

section

variable {settings : Settings} {s s' : Session} {observed : List Observation}

theorem tracks_init : Tracks settings ⟨.init, []⟩ := by
  constructor <;> simp [AdapterDispatcher.init, HasCall, Dict.size, Dict.empty, Dict.get?]

/-- A change that touches no field of the dispatcher that calls rest on, and takes no call into a
later admitted phase. -/
theorem Tracks.of_hasCall (h : Tracks settings s) (hd : s'.dispatcher = s.dispatcher)
    (hactive : ∀ k request, HasCall s'.calls k request Phase.isActive ↔
      HasCall s.calls k request Phase.isActive)
    (hadmitted : ∀ k request, HasCall s'.calls k request Phase.isAdmitted →
      HasCall s.calls k request Phase.isAdmitted) : Tracks settings s' where
  card_le := by rw [hd]; exact h.card_le
  size_le := by rw [hd]; exact h.size_le
  active id k := by simp only [hd, hactive, h.active]
  seen k request hcall := by rw [hd]; exact h.seen k request (hadmitted k request hcall)
  unique k j request request' hk hj := h.unique k j request request' (hadmitted _ _ hk) (hadmitted _ _ hj)
  ready k request hcall := by rw [hd]; exact h.ready k request ((hactive k request).mp hcall)
  negotiated k request hcall := by
    rw [hd]
    exact h.negotiated k request ((hactive k request).mp hcall)

/-- A registered call moves on to another phase in which it is registered. -/
theorem Tracks.of_setPhase (h : Tracks settings s) {k : Nat} {call : Call} {request : Request}
    {phase : Phase} (hcall : s.calls[k]? = some call) (hmessage : call.message = .request request)
    (hbefore : call.phase.isActive = true) (hafter : phase.isActive = true) :
    Tracks settings (s.setPhase k phase) := by
  have hk : HasCall s.calls k request Phase.isActive := ⟨call, hcall, hmessage, hbefore⟩
  refine h.of_hasCall rfl (fun j request' => ?_) fun j request' hc => ?_
  · rw [hasCall_setPhase hcall hmessage]
    split
    · rename_i hj
      subst hj
      exact ⟨fun hc => hc.1 ▸ hk, fun hc => ⟨(hc.request_eq hcall hmessage).1, hafter⟩⟩
    · exact Iff.rfl
  · rw [hasCall_setPhase hcall hmessage] at hc
    split at hc
    · rename_i hj
      subst hj
      exact hc.1 ▸ hk.mono fun _ => Phase.isAdmitted_of_isActive
    · exact hc

/-- A call that was not registered returns. -/
theorem Tracks.of_finished (h : Tracks settings s) {k : Nat} {call : Call} {request : Request}
    {result : Except PyError (Option ServerMessage)} (hcall : s.calls[k]? = some call)
    (hmessage : call.message = .request request) (hbefore : call.phase.isActive = false) :
    Tracks settings (s.setPhase k (.finished result)) := by
  refine h.of_hasCall rfl (fun j request' => ?_) fun j request' hc => ?_
  · rw [hasCall_setPhase hcall hmessage]
    split
    · rename_i hj
      subst hj
      simp only [Phase.isActive, Bool.false_eq_true, and_false, false_iff]
      intro hc
      have := (hc.request_eq hcall hmessage).2
      rw [hbefore] at this
      cases this
    · exact Iff.rfl
  · rw [hasCall_setPhase hcall hmessage] at hc
    split at hc
    · exact absurd hc.2 (by simp [Phase.isAdmitted])
    · exact hc

/-- The dispatcher's state changes while no call rests on it. -/
theorem Tracks.of_dispatcher (h : Tracks settings s) (d : AdapterDispatcher)
    (hactive : ∀ id, d.active.get? id = s.dispatcher.active.get? id)
    (hcard : d.seenRequestIds.card ≤ settings.maxRequests)
    (hsize : d.active.size ≤ settings.maxPending)
    (hseen : ∀ k request, HasCall s.calls k request Phase.isAdmitted →
      request.id ∈ d.seenRequestIds)
    (hnone : ∀ k request, ¬HasCall s.calls k request Phase.isActive) :
    Tracks settings ⟨d, s.calls⟩ where
  card_le := hcard
  size_le := hsize
  active id k := by
    show d.active.get? id = some k ↔ _
    rw [hactive, h.active]
  seen := hseen
  unique := h.unique
  ready k request hc := absurd hc (hnone k request)
  negotiated k request hc := absurd hc (hnone k request)

theorem Tracks.change (h : Tracks settings s) (hchange : Change settings s s' observed) :
    Tracks settings s' := by
  cases hchange with
  | idle => exact h
  | received message =>
    exact h.of_hasCall rfl (fun _ _ => hasCall_received rfl)
      fun _ _ => (hasCall_received rfl).mp
  | @cancelled k target call notification hcall hphase hmessage _ =>
    -- setting an event moves no call
    obtain ⟨call', hcall', hmessage', -⟩ := exists_call_signal target hcall
    rw [hmessage] at hmessage'
    exact h.of_hasCall rfl
      (fun _ _ => (hasCall_setPhase_cancel hcall' hmessage').trans hasCall_signal)
      fun _ _ hc => hasCall_signal.mp ((hasCall_setPhase_cancel hcall' hmessage').mp hc)
  | ignored hcall hphase hmessage =>
    exact h.of_hasCall rfl (fun _ _ => hasCall_setPhase_cancel hcall hmessage)
      fun _ _ => (hasCall_setPhase_cancel hcall hmessage).mp
  | refused hcall hphase hmessage _ =>
    exact h.of_finished hcall hmessage (by rcases hphase with hphase | hphase <;> rw [hphase] <;> rfl)
  | started hcall hphase hmessage =>
    exact h.of_setPhase hcall hmessage (by rw [hphase]; rfl) rfl
  | answered hcall hphase hmessage =>
    exact h.of_setPhase hcall hmessage (by rw [hphase]; rfl) rfl
  | @admitted k call request hcall hphase hmessage hadmits =>
    obtain ⟨hfresh, hcard, _⟩ := hadmits
    have hactive : ∀ j request', HasCall (Session.setPhase ⟨{ s.dispatcher with
        seenRequestIds := insert request.id s.dispatcher.seenRequestIds }, s.calls⟩ k
          .accepted).calls j request' Phase.isActive ↔ HasCall s.calls j request' Phase.isActive := by
      intro j request'
      rw [hasCall_setPhase hcall hmessage]
      split
      · rename_i hj
        subst hj
        refine ⟨fun hc => absurd hc.2 (by simp [Phase.isActive]), fun hc => ?_⟩
        have := (hc.request_eq hcall hmessage).2
        rw [hphase] at this
        cases this
      · exact Iff.rfl
    have hold : ∀ j request', j ≠ k → HasCall s.calls j request' Phase.isAdmitted →
        request'.id ≠ request.id := fun j request' _ hc heq => hfresh (heq ▸ h.seen j request' hc)
    constructor
    · show (insert request.id s.dispatcher.seenRequestIds).card ≤ settings.maxRequests
      rw [Finset.card_insert_of_notMem hfresh]
      omega
    · exact h.size_le
    · intro id j
      simp only [hactive]
      exact h.active id j
    · intro j request' hc
      rw [hasCall_setPhase hcall hmessage] at hc
      split at hc
      · rw [hc.1]
        exact Finset.mem_insert_self _ _
      · exact Finset.mem_insert_of_mem (h.seen j request' hc)
    · intro i j request₁ request₂ hi hj heq
      rw [hasCall_setPhase hcall hmessage] at hi hj
      split at hi <;> split at hj
      · rw [‹i = k›, ‹j = k›]
      · rw [hi.1] at heq
        exact absurd heq.symm (hold j request₂ ‹_› hj)
      · rw [hj.1] at heq
        exact absurd heq (hold i request₁ ‹_› hi)
      · exact h.unique i j request₁ request₂ hi hj heq
    · intro j request' hc
      exact h.ready j request' ((hactive j request').mp hc)
    · intro j request' hc
      exact h.negotiated j request' ((hactive j request').mp hc)
  | @initialized k call request response negotiated hcall hphase hmessage hstate _ =>
    have hnone : ∀ j request', ¬HasCall s.calls j request' Phase.isActive := fun j request' hc => by
      have := h.ready j request' hc
      rw [hstate] at this
      cases this
    exact (h.of_dispatcher { s.dispatcher with negotiated := negotiated, state := .ready }
      (fun _ => rfl) h.card_le h.size_le h.seen hnone).of_finished hcall hmessage (by rw [hphase]; rfl)
  | closed hcall hphase hmessage _ _ hactive _ =>
    have hnone : ∀ j request', ¬HasCall s.calls j request' Phase.isActive := fun j request' hc => by
      have := (h.active request'.id j).mpr ⟨request', rfl, hc⟩
      rw [Dict.isEmpty_iff.mp hactive] at this
      cases this
    exact (h.of_dispatcher { s.dispatcher with state := .closed }
      (fun _ => rfl) h.card_le h.size_le h.seen hnone).of_finished hcall hmessage (by rw [hphase]; rfl)
  | @registered k call request capability hcall hphase hmessage hstate hcapability hnegotiated hsize =>
    have hadmitted : HasCall s.calls k request Phase.isAdmitted :=
      ⟨call, hcall, hmessage, by rw [hphase]; rfl⟩
    have hnone : s.dispatcher.active.get? request.id = none := by
      cases hget : s.dispatcher.active.get? request.id with
      | none => rfl
      | some j =>
        obtain ⟨request', hid, hc⟩ := (h.active _ _).mp hget
        have hj := h.unique j k request' request (hc.mono fun _ => Phase.isAdmitted_of_isActive)
          hadmitted hid
        have := (hc.request_eq (hj ▸ hcall) hmessage).2
        rw [hphase] at this
        cases this
    have hback : ∀ j request', HasCall (Session.setPhase ⟨{ s.dispatcher with
        active := s.dispatcher.active.insert request.id k }, s.calls⟩ k .registered).calls j request'
          Phase.isAdmitted → HasCall s.calls j request' Phase.isAdmitted := by
      intro j request' hc
      rw [hasCall_setPhase hcall hmessage] at hc
      split at hc
      · rename_i hj
        subst hj
        exact hc.1 ▸ hadmitted
      · exact hc
    have hactive : ∀ j request', HasCall (Session.setPhase ⟨{ s.dispatcher with
        active := s.dispatcher.active.insert request.id k }, s.calls⟩ k .registered).calls j request'
          Phase.isActive ↔ (j = k ∧ request' = request) ∨ HasCall s.calls j request' Phase.isActive := by
      intro j request'
      rw [hasCall_setPhase hcall hmessage]
      split
      · rename_i hj
        subst hj
        refine ⟨fun hc => .inl ⟨rfl, hc.1⟩, ?_⟩
        rintro (⟨-, rfl⟩ | hc)
        · exact ⟨rfl, rfl⟩
        · exact ⟨(hc.request_eq hcall hmessage).1, rfl⟩
      · rename_i hj
        simp [hj]
    constructor
    · exact h.card_le
    · show (s.dispatcher.active.insert request.id k).size ≤ settings.maxPending
      rw [Dict.size_insert hnone]
      omega
    · intro id j
      simp only [hactive]
      show (s.dispatcher.active.insert request.id k).get? id = some j ↔ _
      rw [Dict.get?_insert]
      split
      · rename_i hid
        subst hid
        constructor
        · intro heq
          cases heq
          exact ⟨request, rfl, .inl ⟨rfl, rfl⟩⟩
        · rintro ⟨request', hid, ⟨rfl, rfl⟩ | hc⟩
          · rfl
          · rw [(h.active _ _).mpr ⟨request', hid, hc⟩] at hnone
            cases hnone
      · rename_i hid
        rw [h.active]
        constructor
        · rintro ⟨request', hid', hc⟩
          exact ⟨request', hid', .inr hc⟩
        · rintro ⟨request', hid', ⟨rfl, rfl⟩ | hc⟩
          · exact absurd hid'.symm hid
          · exact ⟨request', hid', hc⟩
    · intro j request' hc
      exact h.seen j request' (hback j request' hc)
    · intro i j request₁ request₂ hi hj
      exact h.unique i j request₁ request₂ (hback i request₁ hi) (hback j request₂ hj)
    · intro _ _ _
      exact hstate
    · intro j request' hc
      rcases (hactive j request').mp hc with ⟨-, rfl⟩ | hc
      · exact ⟨capability, hcapability, hnegotiated⟩
      · exact h.negotiated j request' hc
  | @released k call request response hcall hphase hmessage =>
    have hbefore : HasCall s.calls k request Phase.isActive :=
      ⟨call, hcall, hmessage, by rw [hphase]; rfl⟩
    have hothers : ∀ p : Phase → Bool, p (.finished (.ok (some response))) = false →
        ∀ j request', HasCall (Session.setPhase ⟨s.dispatcher.release request, s.calls⟩ k
          (.finished (.ok (some response)))).calls j request' p ↔
            j ≠ k ∧ HasCall s.calls j request' p := by
      intro p hp j request'
      rw [hasCall_setPhase hcall hmessage]
      split
      · simp [hp, ‹j = k›]
      · simp [‹¬j = k›]
    constructor
    · exact h.card_le
    · exact Dict.size_erase_le.trans h.size_le
    · intro id j
      simp only [hothers Phase.isActive rfl]
      show (s.dispatcher.active.erase request.id).get? id = some j ↔ _
      rw [Dict.get?_erase]
      split
      · rename_i hid
        subst hid
        simp only [reduceCtorEq, false_iff]
        rintro ⟨request', hid, hj, hc⟩
        exact hj (h.unique j k request' request (hc.mono fun _ => Phase.isAdmitted_of_isActive)
          (hbefore.mono fun _ => Phase.isAdmitted_of_isActive) hid)
      · rename_i hid
        rw [h.active]
        constructor
        · rintro ⟨request', rfl, hc⟩
          refine ⟨request', rfl, ?_, hc⟩
          rintro rfl
          exact hid (by rw [(hc.request_eq hcall hmessage).1])
        · rintro ⟨request', hid', -, hc⟩
          exact ⟨request', hid', hc⟩
    · intro j request' hc
      exact h.seen j request' ((hothers _ rfl _ _).mp hc).2
    · intro i j request₁ request₂ hi hj
      exact h.unique i j request₁ request₂ ((hothers _ rfl _ _).mp hi).2 ((hothers _ rfl _ _).mp hj).2
    · intro j request' hc
      exact h.ready j request' ((hothers _ rfl _ _).mp hc).2
    · intro j request' hc
      exact h.negotiated j request' ((hothers _ rfl _ _).mp hc).2

end

/-! ### What a call returns -/

abbrev CallResult : Type := Except PyError (Option ServerMessage)

/-- What a call returned. -/
def Call.result? (call : Call) : Option (ClientMessage × CallResult) :=
  match call.phase with
  | .finished result => some (call.message, result)
  | _ => none

def Session.result? (s : Session) (k : Nat) : Option (ClientMessage × CallResult) :=
  s.calls[k]?.bind Call.result?

/-- What was observed of a call's returning. -/
def returnsOf (k : Nat) (history : List Observation) : List (ClientMessage × CallResult) :=
  history.filterMap fun
    | .returned j message result => if j = k then some (message, result) else none
    | _ => none

/-- A request is answered with a response of its own id, and a cancellation with none. -/
def Replies : ClientMessage → CallResult → Prop
  | .request request, .ok (some response) => response.id = some request.id
  | .cancel _, .ok none => True
  | _, _ => False

@[simp] theorem returnsOf_append (k : Nat) (history more : List Observation) :
    returnsOf k (history ++ more) = returnsOf k history ++ returnsOf k more :=
  List.filterMap_append

@[simp] theorem returnsOf_nil (k : Nat) : returnsOf k [] = [] := rfl

@[simp] theorem returnsOf_started (k j : Nat) (request : Request) (history : List Observation) :
    returnsOf k (.started j request :: history) = returnsOf k history := rfl

@[simp] theorem returnsOf_signalled (k : Nat) (id : RequestId) (history : List Observation) :
    returnsOf k (.signalled id :: history) = returnsOf k history := rfl

theorem returnsOf_returned (k j : Nat) (message : ClientMessage) (result : CallResult) :
    returnsOf k [.returned j message result] = if j = k then [(message, result)] else [] := by
  unfold returnsOf
  by_cases h : j = k <;> simp [h]

section

variable {s s' : Session} {d : AdapterDispatcher} {calls : List Call} {k j : Nat} {call : Call}
  {phase : Phase} {history observed : List Observation} {settings : Settings}

theorem result?_setPhase (hcall : calls[k]? = some call) :
    ((Session.mk d calls).setPhase k phase).result? j =
      if j = k then Call.result? { call with phase } else (Session.mk d calls).result? j := by
  simp only [Session.result?]
  rw [getElem?_setPhase]
  by_cases h : j = k
  · simp [h, hcall]
  · simp [h]

theorem result?_signal : (s.signal k).result? j = s.result? j := by
  simp only [Session.result?]
  rw [getElem?_signal]
  by_cases h : j = k
  · subst h
    cases s.calls[j]? <;> simp [Call.result?]
  · simp [h]

theorem result?_received {message : ClientMessage} :
    (Session.mk d (calls ++ [⟨message, .submitted, false⟩])).result? j =
      (Session.mk d calls).result? j := by
  simp only [Session.result?]
  rw [List.getElem?_append]
  by_cases h : j < calls.length
  · simp [h]
  · rw [if_neg h, List.getElem?_eq_none (Nat.not_lt.mp h)]
    cases hget : j - calls.length with
    | zero => rfl
    | succ n => rfl

theorem call_of_setPhase {c : Call} (hcall : calls[k]? = some call)
    (h : ((Session.mk d calls).setPhase k phase).calls[j]? = some c) :
    (j = k ∧ c = { call with phase }) ∨ (j ≠ k ∧ calls[j]? = some c) := by
  rw [getElem?_setPhase] at h
  split at h
  · rw [hcall, Option.map_some, Option.some.injEq] at h
    exact .inl ⟨‹_›, h.symm⟩
  · exact .inr ⟨‹_›, h⟩

theorem call_of_received {c : Call} {message : ClientMessage}
    (h : (calls ++ [⟨message, .submitted, false⟩])[j]? = some c) :
    c = ⟨message, .submitted, false⟩ ∨ calls[j]? = some c := by
  rw [List.getElem?_append] at h
  split at h
  · exact .inr h
  · obtain ⟨_, rfl⟩ : j - calls.length = 0 ∧ _ := by
      simpa [List.getElem?_singleton] using h
    exact .inl rfl

/-- A set event and a cancelled response both come from a cancellation. -/
structure Answered (s : Session) (history : List Observation) : Prop where
  signalled : ∀ (k : Nat) (call : Call) (request : Request), s.calls[k]? = some call → call.message = .request request →
    call.signalled = true → .signalled request.id ∈ history
  response : ∀ (k : Nat) (call : Call) (request : Request) (response : ServerMessage),
    s.calls[k]? = some call → call.message = .request request → call.phase = .answered response →
    response.id = some request.id ∧
      (response.code? = some .requestCancelled → .signalled request.id ∈ history)

theorem Answered.of_trace (h : Answered s history) (more : List Observation) :
    Answered s (history ++ more) where
  signalled k call request hcall hmessage hsignalled :=
    List.mem_append_left _ (h.signalled k call request hcall hmessage hsignalled)
  response k call request response hcall hmessage hphase :=
    have := h.response k call request response hcall hmessage hphase
    ⟨this.1, fun hcode => List.mem_append_left _ (this.2 hcode)⟩

theorem Answered.of_setPhase (h : Answered s history) (d : AdapterDispatcher) (hcall : s.calls[k]? = some call)
    (hphase : ∀ request response, call.message = .request request → phase = .answered response →
      response.id = some request.id ∧
        (response.code? = some .requestCancelled → .signalled request.id ∈ history)) :
    Answered ((Session.mk d s.calls).setPhase k phase) history where
  signalled j c request hc hmessage hsignalled := by
    rcases call_of_setPhase hcall hc with ⟨rfl, rfl⟩ | ⟨-, hc⟩
    · exact h.signalled j call request hcall hmessage hsignalled
    · exact h.signalled j c request hc hmessage hsignalled
  response j c request response hc hmessage hanswered := by
    rcases call_of_setPhase hcall hc with ⟨rfl, rfl⟩ | ⟨-, hc⟩
    · exact hphase request response hmessage hanswered
    · exact h.response j c request response hc hmessage hanswered

/-- A call moves on to a phase in which no response waits. -/
theorem Answered.of_unanswered (h : Answered s history) (d : AdapterDispatcher)
    (hcall : s.calls[k]? = some call) (hphase : ∀ response, phase ≠ .answered response) :
    Answered ((Session.mk d s.calls).setPhase k phase) (history ++ observed) :=
  (h.of_setPhase d hcall fun _ response _ heq => absurd heq (hphase response)).of_trace _

/-- A cancellation sets the event of the call that is active under its id. -/
theorem Answered.of_signal (h : Answered s history) (htracks : Tracks settings s) {id : RequestId}
    (hactive : s.dispatcher.active.get? id = some k) :
    Answered (s.signal k) (history ++ [.signalled id]) := by
  obtain ⟨request', rfl, call', hcall', hmessage', -⟩ := (htracks.active _ _).mp hactive
  have hback : ∀ j c, (s.signal k).calls[j]? = some c → ∃ c', s.calls[j]? = some c' ∧
      c.message = c'.message ∧ c.phase = c'.phase ∧
        (c.signalled = true → j = k ∨ c'.signalled = true) := by
    intro j c hc
    rw [getElem?_signal] at hc
    split at hc
    · rename_i hj
      subst hj
      rw [hcall', Option.map_some, Option.some.injEq] at hc
      subst hc
      exact ⟨call', hcall', rfl, rfl, fun _ => .inl rfl⟩
    · exact ⟨c, hc, rfl, rfl, .inr⟩
  constructor
  · intro j c request hc hmessage hsignalled
    obtain ⟨c', hc', hm, -, hs⟩ := hback j c hc
    rcases hs hsignalled with rfl | hs
    · rw [hcall', Option.some.injEq] at hc'
      subst hc'
      rw [hm, hmessage', ClientMessage.request.injEq] at hmessage
      subst hmessage
      exact List.mem_append_right _ List.mem_cons_self
    · exact List.mem_append_left _ (h.signalled j c' request hc' (hm ▸ hmessage) hs)
  · intro j c request response hc hmessage hphase
    obtain ⟨c', hc', hm, hp, -⟩ := hback j c hc
    exact (h.of_trace _).response j c' request response hc' (hm ▸ hmessage) (hp ▸ hphase)

theorem Answered.change (h : Answered s history) (htracks : Tracks settings s)
    (hchange : Change settings s s' observed) : Answered s' (history ++ observed) := by
  cases hchange with
  | idle => exact h.of_trace _
  | received message =>
    refine Answered.of_trace ⟨?_, ?_⟩ _
    · intro k call request hcall hmessage hsignalled
      rcases call_of_received hcall with rfl | hcall
      · cases hsignalled
      · exact h.signalled k call request hcall hmessage hsignalled
    · intro k call request response hcall hmessage hphase
      rcases call_of_received hcall with rfl | hcall
      · cases hphase
      · exact h.response k call request response hcall hmessage hphase
  | @cancelled k target call notification hcall hphase hmessage hactive =>
    have hsignal := h.of_signal htracks hactive
    obtain ⟨call', hcall', -⟩ := exists_call_signal target hcall
    rw [List.append_cons]
    exact hsignal.of_unanswered _ hcall' fun _ => nofun
  | ignored hcall => exact h.of_unanswered _ hcall fun _ => nofun
  | refused hcall => exact h.of_unanswered _ hcall fun _ => nofun
  | admitted hcall => exact h.of_unanswered _ hcall fun _ => nofun
  | initialized hcall => exact h.of_unanswered _ hcall fun _ => nofun
  | closed hcall => exact h.of_unanswered _ hcall fun _ => nofun
  | registered hcall => exact h.of_unanswered _ hcall fun _ => nofun
  | started hcall => exact h.of_unanswered _ hcall fun _ => nofun
  | @answered k call request completion hcall hphase hmessage =>
    refine (h.of_setPhase _ hcall fun request' response hmessage' heq => ?_).of_trace _
    rw [hmessage, ClientMessage.request.injEq] at hmessage'
    subst hmessage'
    cases heq
    exact ⟨answer_id .., fun hcode =>
      h.signalled k call request hcall hmessage (signalled_of_answer hcode)⟩
  | released hcall => exact h.of_unanswered _ hcall fun _ => nofun

/-- What was observed of the calls' returning is what they returned, in their own name, and no
response says that a request was cancelled before a cancellation of it took effect. -/
structure Returned (s : Session) (history : List Observation) : Prop where
  returns : ∀ k, returnsOf k history = (s.result? k).toList
  replies : ∀ k message result, .returned k message result ∈ history → Replies message result
  cancelled : ∀ (i k : Nat) (message : ClientMessage) (response : ServerMessage),
    history[i]? = some (.returned k message (.ok (some response))) →
    response.code? = some .requestCancelled →
    ∃ id, response.id = some id ∧ ∃ j < i, history[j]? = some (.signalled id)

/-- A step in which no call returns. -/
theorem Returned.of_result (h : Returned s history) (hresult : ∀ k, s'.result? k = s.result? k)
    (hobserved : ∀ k message result, .returned k message result ∉ observed) :
    Returned s' (history ++ observed) where
  returns k := by
    rw [returnsOf_append, h.returns, hresult]
    have : returnsOf k observed = [] := by
      rw [returnsOf, List.filterMap_eq_nil_iff]
      intro o ho
      cases o with
      | returned j message result => exact absurd ho (hobserved j message result)
      | _ => rfl
    rw [this, List.append_nil]
  replies k message result hmem := by
    rw [List.mem_append] at hmem
    exact h.replies k message result (hmem.resolve_right (hobserved k message result))
  cancelled i k message response hi hcode := by
    rw [List.getElem?_append] at hi
    split at hi
    · obtain ⟨id, hid, j, hj, hsignalled⟩ := h.cancelled i k message response hi hcode
      refine ⟨id, hid, j, hj, ?_⟩
      rw [List.getElem?_append_left (by omega)]
      exact hsignalled
    · exact absurd (List.mem_of_getElem? hi) (hobserved _ _ _)

/-- A step in which a call returns. -/
theorem Returned.of_returned (h : Returned s history) {result : CallResult}
    (hcall : s.calls[k]? = some call) (hphase : call.result? = none)
    (hreplies : Replies call.message result)
    (hcancelled : ∀ response, result = .ok (some response) →
      response.code? = some .requestCancelled →
        ∃ id, response.id = some id ∧ .signalled id ∈ history) :
    Returned (s.setPhase k (.finished result)) (history ++ [.returned k call.message result]) where
  returns j := by
    rw [returnsOf_append, h.returns, returnsOf_returned, result?_setPhase hcall]
    by_cases hj : j = k
    · subst hj
      rw [if_pos rfl, if_pos rfl, Session.result?, hcall, Option.bind_some, hphase]
      rfl
    · rw [if_neg (Ne.symm hj), if_neg hj, List.append_nil]
  replies j message result' hmem := by
    rw [List.mem_append, List.mem_singleton] at hmem
    rcases hmem with hmem | heq
    · exact h.replies j message result' hmem
    · cases heq
      exact hreplies
  cancelled i j message response hi hcode := by
    rw [List.getElem?_append] at hi
    split at hi
    · obtain ⟨id, hid, m, hm, hsignalled⟩ := h.cancelled i j message response hi hcode
      refine ⟨id, hid, m, hm, ?_⟩
      rw [List.getElem?_append_left (by omega)]
      exact hsignalled
    · rename_i hle
      have heq := List.mem_of_getElem? hi
      rw [List.mem_singleton, Observation.returned.injEq] at heq
      obtain ⟨id, hid, hmem⟩ := hcancelled response heq.2.2.symm hcode
      obtain ⟨m, hm, hget⟩ := List.mem_iff_getElem.mp hmem
      refine ⟨id, hid, m, by omega, ?_⟩
      rw [List.getElem?_append_left hm, List.getElem?_eq_getElem hm, hget]

theorem Returned.of_dispatcher (h : Returned s history) (d : AdapterDispatcher) :
    Returned ⟨d, s.calls⟩ history := ⟨h.returns, h.replies, h.cancelled⟩

theorem Returned.change (h : Returned s history) (hanswered : Answered s history) (hchange : Change settings s s' observed) :
    Returned s' (history ++ observed) := by
  -- a call that stays unfinished leaves the results as they are
  have hunfinished : ∀ {d : AdapterDispatcher} {k : Nat} {call : Call} {phase : Phase},
      s.calls[k]? = some call → call.result? = none →
        Call.result? { call with phase } = none →
          ∀ j, ((Session.mk d s.calls).setPhase k phase).result? j = s.result? j := by
    intro d k call phase hcall hbefore hafter j
    rw [result?_setPhase hcall]
    split
    · rename_i hj
      subst hj
      rw [hafter, Session.result?, hcall, Option.bind_some, hbefore]
    · rfl
  -- an answer that does not speak of cancellation
  have hplain : ∀ {request : Request} {response : ServerMessage}, Answers request response →
      ∀ response', (Except.ok (some response) : CallResult) = .ok (some response') →
        response'.code? = some .requestCancelled →
          ∃ id, response'.id = some id ∧ .signalled id ∈ history := by
    rintro request response hanswers response' heq hcode
    cases heq
    exact absurd hcode hanswers.code
  cases hchange with
  | idle => exact h.of_result (fun _ => rfl) (by simp)
  | received message => exact h.of_result (fun _ => result?_received) (by simp)
  | @cancelled k target call notification hcall hphase hmessage hactive =>
    obtain ⟨call', hcall', hmessage', hphase'⟩ := exists_call_signal target hcall
    have hsignal : Returned (s.signal target)
        (history ++ [.signalled notification.params.requestId]) :=
      h.of_result (fun _ => result?_signal) (by simp)
    rw [List.append_cons, ← hmessage']
    exact hsignal.of_returned hcall' (by rw [Call.result?, hphase', hphase])
      (by rw [hmessage', hmessage]; trivial) (fun _ => nofun)
  | ignored hcall hphase hmessage =>
    exact h.of_returned hcall (by rw [Call.result?, hphase]) (by rw [hmessage]; trivial)
      (fun _ => nofun)
  | refused hcall hphase hmessage hanswers =>
    refine h.of_returned hcall ?_ (by rw [hmessage]; exact hanswers.id) (hplain hanswers)
    rcases hphase with hphase | hphase <;> rw [Call.result?, hphase]
  | admitted hcall hphase hmessage =>
    exact h.of_result (hunfinished hcall (by rw [Call.result?, hphase]) rfl) (by simp)
  | initialized hcall hphase hmessage hstate hanswers =>
    exact (h.of_dispatcher _).of_returned hcall
      (by rw [Call.result?, hphase]) (by rw [hmessage]; exact hanswers.id) (hplain hanswers)
  | closed hcall hphase hmessage hmethod hstate hactive hanswers =>
    exact (h.of_dispatcher _).of_returned hcall
      (by rw [Call.result?, hphase]) (by rw [hmessage]; exact hanswers.id) (hplain hanswers)
  | registered hcall hphase hmessage =>
    exact h.of_result (hunfinished hcall (by rw [Call.result?, hphase]) rfl) (by simp)
  | started hcall hphase hmessage =>
    exact h.of_result (hunfinished hcall (by rw [Call.result?, hphase]) rfl) (by simp)
  | answered hcall hphase hmessage =>
    exact h.of_result (hunfinished hcall (by rw [Call.result?, hphase]) rfl) (by simp)
  | @released k call request response hcall hphase hmessage =>
    obtain ⟨hid, hcancelled⟩ := hanswered.response k call request response hcall hmessage hphase
    refine (h.of_dispatcher _).of_returned hcall
      (by rw [Call.result?, hphase]) (by rw [hmessage]; exact hid) ?_
    intro response' heq hcode
    cases heq
    exact ⟨request.id, hid, hcancelled hcode⟩

/-! ### What calls the handler -/

/-- How often the handler was called for a request id. -/
def starts (id : RequestId) (history : List Observation) : Nat :=
  history.countP fun
    | .started _ request => request.id = id
    | _ => false

@[simp] theorem starts_append (id : RequestId) (history more : List Observation) :
    starts id (history ++ more) = starts id history + starts id more :=
  List.countP_append

/-- The handler is called at most once for a request id, and not before the request waits for it. -/
structure StartsOnce (s : Session) (history : List Observation) : Prop where
  once : ∀ id, starts id history ≤ 1
  fresh : ∀ id, id ∉ s.dispatcher.seenRequestIds → starts id history = 0
  waiting : ∀ k request, HasCall s.calls k request Phase.isWaiting → starts request.id history = 0

/-- A step in which no handler is called. -/
theorem StartsOnce.of_observed (h : StartsOnce s history)
    (hobserved : ∀ id, starts id observed = 0)
    (hseen : s.dispatcher.seenRequestIds ⊆ s'.dispatcher.seenRequestIds)
    (hwaiting : ∀ k request, HasCall s'.calls k request Phase.isWaiting →
      starts request.id history = 0) : StartsOnce s' (history ++ observed) where
  once id := by
    rw [starts_append, hobserved]
    exact h.once id
  fresh id hid := by
    rw [starts_append, hobserved]
    exact h.fresh id fun hmem => hid (hseen hmem)
  waiting k request hc := by
    rw [starts_append, hobserved]
    exact hwaiting k request hc

theorem Phase.isAdmitted_of_isWaiting {phase : Phase} (h : phase.isWaiting = true) :
    phase.isAdmitted = true := by
  cases phase <;> first | rfl | cases h

theorem StartsOnce.change (h : StartsOnce s history) (htracks : Tracks settings s)
    (hchange : Change settings s s' observed) : StartsOnce s' (history ++ observed) := by
  -- a call that waits no longer, or waited before
  have hsetPhase : ∀ {d : AdapterDispatcher} {k : Nat} {call : Call} {phase : Phase},
      s.calls[k]? = some call → (phase.isWaiting = true → call.phase.isWaiting = true) →
        ∀ j request, HasCall ((Session.mk d s.calls).setPhase k phase).calls j request
          Phase.isWaiting → starts request.id history = 0 := by
    intro d k call phase hcall hphase j request hc
    obtain ⟨c, hget, hmessage, hwaiting⟩ := hc
    rcases call_of_setPhase hcall hget with ⟨rfl, rfl⟩ | ⟨-, hget⟩
    · exact h.waiting j request ⟨call, hcall, hmessage, hphase hwaiting⟩
    · exact h.waiting j request ⟨c, hget, hmessage, hwaiting⟩
  cases hchange with
  | idle => exact h.of_observed (fun _ => rfl) subset_rfl h.waiting
  | received message =>
    exact h.of_observed (fun _ => rfl) subset_rfl fun k request hc =>
      h.waiting k request ((hasCall_received rfl).mp hc)
  | @cancelled k target call notification hcall hphase hmessage hactive =>
    obtain ⟨call', hcall', hmessage', -⟩ := exists_call_signal target hcall
    rw [hmessage] at hmessage'
    exact h.of_observed (fun _ => rfl) subset_rfl fun j request hc =>
      h.waiting j request (hasCall_signal.mp ((hasCall_setPhase_cancel hcall' hmessage').mp hc))
  | ignored hcall => exact h.of_observed (fun _ => rfl) subset_rfl (hsetPhase hcall nofun)
  | refused hcall => exact h.of_observed (fun _ => rfl) subset_rfl (hsetPhase hcall nofun)
  | @admitted k call request hcall hphase hmessage hadmits =>
    refine h.of_observed (fun _ => rfl) (Finset.subset_insert _ _) fun j request' hc => ?_
    rw [hasCall_setPhase hcall hmessage] at hc
    split at hc
    · rw [hc.1]
      exact h.fresh _ hadmits.1
    · exact h.waiting j request' hc
  | initialized hcall => exact h.of_observed (fun _ => rfl) subset_rfl (hsetPhase hcall nofun)
  | closed hcall => exact h.of_observed (fun _ => rfl) subset_rfl (hsetPhase hcall nofun)
  | registered hcall hphase =>
    exact h.of_observed (fun _ => rfl) subset_rfl (hsetPhase hcall fun _ => by rw [hphase]; rfl)
  | @started k call request hcall hphase hmessage =>
    have hk : HasCall s.calls k request Phase.isWaiting :=
      ⟨call, hcall, hmessage, by rw [hphase]; rfl⟩
    have hstarts : ∀ id, starts id [.started k request] = if request.id = id then 1 else 0 := by
      intro id
      by_cases hid : request.id = id <;> simp [starts, hid]
    have hzero := h.waiting k request hk
    constructor
    · intro id
      rw [starts_append, hstarts]
      split
      · rename_i hid
        rw [← hid, hzero]
      · exact h.once id
    · intro id hid
      rw [starts_append, hstarts, h.fresh id hid, if_neg]
      rintro rfl
      exact hid (htracks.seen k request (hk.mono fun _ => Phase.isAdmitted_of_isWaiting))
    · intro j request' hc
      rw [hasCall_setPhase hcall hmessage] at hc
      split at hc
      · cases hc.2
      · rename_i hj
        rw [starts_append, hstarts, h.waiting j request' hc, if_neg]
        intro hid
        exact hj (htracks.unique j k request' request
          (hc.mono fun _ => Phase.isAdmitted_of_isWaiting)
          (hk.mono fun _ => Phase.isAdmitted_of_isWaiting) hid.symm)
  | answered hcall => exact h.of_observed (fun _ => rfl) subset_rfl (hsetPhase hcall nofun)
  | released hcall => exact h.of_observed (fun _ => rfl) subset_rfl (hsetPhase hcall nofun)

/-- The invariant of every run. -/
structure Invariant (settings : Settings) (s : Session) (history : List Observation) : Prop where
  tracks : Tracks settings s
  answered : Answered s history
  returned : Returned s history
  startsOnce : StartsOnce s history

theorem answered_init : Answered ⟨.init, []⟩ [] := by
  constructor <;> simp

theorem returned_init : Returned ⟨.init, []⟩ [] := by
  constructor <;> simp [Session.result?]

theorem startsOnce_init : StartsOnce ⟨.init, []⟩ [] := by
  constructor <;> simp [starts]

theorem invariant_run (settings : Settings) (events : List SessionEvent) :
    Invariant settings ((session settings).run events).1 ((session settings).run events).2 := by
  refine Machine.run_induction (P := Invariant settings) ?_ (fun s history event h => ?_) events
  · exact ⟨tracks_init, answered_init, returned_init, startsOnce_init⟩
  · have hchange := change_step settings s event
    exact ⟨h.tracks.change hchange, h.answered.change h.tracks hchange,
      h.returned.change h.answered hchange, h.startsOnce.change h.tracks hchange⟩

/-! ### The lifecycle -/

/-- `new -> ready -> closed` -/
inductive SessionState.Moves : SessionState → SessionState → Prop where
  | stay (state : SessionState) : Moves state state
  | initialize_ : Moves .new .ready
  | close : Moves .ready .closed

theorem Change.moves (hchange : Change settings s s' observed) :
    s.dispatcher.state.Moves s'.dispatcher.state := by
  cases hchange with
  | initialized _ _ _ hstate =>
    rw [hstate]
    exact .initialize_
  | closed _ _ _ _ hstate =>
    rw [hstate]
    exact .close
  | _ => exact .stay _

theorem Change.negotiated (hchange : Change settings s s' observed)
    (hstate : s.dispatcher.state ≠ .new) :
    s'.dispatcher.negotiated = s.dispatcher.negotiated := by
  cases hchange with
  | initialized _ _ _ hnew => exact absurd hnew hstate
  | _ => rfl

theorem Change.state_ne_new (hchange : Change settings s s' observed)
    (hstate : s.dispatcher.state ≠ .new) : s'.dispatcher.state ≠ .new := by
  have hmoves := hchange.moves
  generalize s.dispatcher.state = a at *
  generalize s'.dispatcher.state = b at *
  cases hmoves with
  | stay => exact hstate
  | _ => nofun

theorem Change.closed_of_closed (hchange : Change settings s s' observed)
    (hstate : s.dispatcher.state = .closed) : s'.dispatcher.state = .closed := by
  have hmoves := hchange.moves
  rw [hstate] at hmoves
  generalize s'.dispatcher.state = b at *
  cases hmoves
  rfl

/-- A handler is called only for a registered request. -/
theorem Change.active_of_started (hchange : Change settings s s' observed) {request : Request}
    (h : .started k request ∈ observed) : HasCall s.calls k request Phase.isActive := by
  cases hchange with
  | started hcall hphase hmessage =>
    rw [List.mem_singleton] at h
    cases h
    exact ⟨_, hcall, hmessage, by rw [hphase]; rfl⟩
  | _ => simp at h

theorem Change.active_of_signalled (hchange : Change settings s s' observed) {id : RequestId}
    (h : .signalled id ∈ observed) : (s.dispatcher.active.get? id).isSome = true := by
  cases hchange with
  | cancelled hcall hphase hmessage hactive =>
    simp only [List.mem_cons, Observation.signalled.injEq, reduceCtorEq, List.not_mem_nil,
      or_false] at h
    rw [h, hactive]
    rfl
  | _ => simp at h

/-! ### Every call returns -/

/-- How many turns a call has left at most. -/
def Phase.remaining : Phase → Nat
  | submitted => 5
  | accepted => 4
  | registered => 3
  | handling => 2
  | answered _ => 1
  | finished _ => 0

/-- A cancellation goes through one lock section. -/
def CancelsAtOnce (s : Session) : Prop :=
  ∀ (k : Nat) (call : Call) (notification : CancelNotification), s.calls[k]? = some call →
    call.message = .cancel notification →
    call.phase = .submitted ∨ ∃ result, call.phase = .finished result

/-- No step takes a call back. -/
theorem Change.keeps_call (hchange : Change settings s s' observed) (hcall : s.calls[k]? = some call) :
    ∃ call', s'.calls[k]? = some call' ∧ call'.message = call.message ∧
      call'.phase.remaining ≤ call.phase.remaining := by
  have hsetPhase : ∀ {d : AdapterDispatcher} {j : Nat} {c : Call} {phase : Phase},
      s.calls[j]? = some c → phase.remaining ≤ c.phase.remaining →
        ∃ call', ((Session.mk d s.calls).setPhase j phase).calls[k]? = some call' ∧
          call'.message = call.message ∧ call'.phase.remaining ≤ call.phase.remaining := by
    intro d j c phase hc hphase
    rw [getElem?_setPhase]
    split
    · rename_i hj
      subst hj
      rw [hcall, Option.some.injEq] at hc
      subst hc
      exact ⟨{ call with phase }, by rw [hcall, Option.map_some], rfl, hphase⟩
    · exact ⟨call, hcall, rfl, le_rfl⟩
  cases hchange with
  | idle => exact ⟨call, hcall, rfl, le_rfl⟩
  | received message =>
    refine ⟨call, ?_, rfl, le_rfl⟩
    rw [List.getElem?_append_left (List.getElem?_eq_some_iff.mp hcall).1]
    exact hcall
  | @cancelled j target c notification hc hphase hmessage hactive =>
    obtain ⟨c', hc', hm', hp'⟩ := exists_call_signal target hc
    obtain ⟨call₁, hcall₁, hm₁, hp₁⟩ := exists_call_signal target hcall
    show ∃ call', ((Session.mk (s.signal target).dispatcher (s.signal target).calls).setPhase j
      (.finished (.ok none))).calls[k]? = some call' ∧ _
    rw [getElem?_setPhase]
    split
    · rename_i hj
      subst hj
      exact ⟨{ call₁ with phase := .finished (.ok none) }, by rw [hcall₁, Option.map_some], hm₁,
        Nat.zero_le _⟩
    · exact ⟨call₁, hcall₁, hm₁, by rw [hp₁]⟩
  | ignored hc => exact hsetPhase hc (Nat.zero_le _)
  | refused hc => exact hsetPhase hc (Nat.zero_le _)
  | admitted hc hphase => exact hsetPhase hc (by rw [hphase]; decide)
  | initialized hc => exact hsetPhase hc (Nat.zero_le _)
  | closed hc => exact hsetPhase hc (Nat.zero_le _)
  | registered hc hphase => exact hsetPhase hc (by rw [hphase]; decide)
  | started hc hphase => exact hsetPhase hc (by rw [hphase]; decide)
  | answered hc hphase => exact hsetPhase hc (by rw [hphase]; exact Nat.le_succ 1)
  | released hc => exact hsetPhase hc (Nat.zero_le _)

theorem CancelsAtOnce.change (h : CancelsAtOnce s) (hchange : Change settings s s' observed) :
    CancelsAtOnce s' := by
  have hsetPhase : ∀ {d : AdapterDispatcher} {k : Nat} {call : Call} {phase : Phase},
      s.calls[k]? = some call → (∃ request, call.message = .request request) →
        CancelsAtOnce ((Session.mk d s.calls).setPhase k phase) := by
    rintro d k call phase hcall ⟨request, hmessage⟩ j c notification hc hcancel
    rcases call_of_setPhase hcall hc with ⟨rfl, rfl⟩ | ⟨-, hc⟩
    · rw [hmessage] at hcancel
      cases hcancel
    · exact h j c notification hc hcancel
  have hfinished : ∀ {s₀ : Session} {k : Nat} {call : Call} {result : CallResult},
      CancelsAtOnce s₀ → s₀.calls[k]? = some call →
        CancelsAtOnce (s₀.setPhase k (.finished result)) := by
    intro s₀ k call result h₀ hcall j c notification hc hcancel
    rcases call_of_setPhase hcall hc with ⟨rfl, rfl⟩ | ⟨-, hc⟩
    · exact .inr ⟨result, rfl⟩
    · exact h₀ j c notification hc hcancel
  cases hchange with
  | idle => exact h
  | received message =>
    intro k call notification hcall hmessage
    rcases call_of_received hcall with rfl | hcall
    · exact .inl rfl
    · exact h k call notification hcall hmessage
  | @cancelled k target call notification hcall =>
    obtain ⟨call', hcall', -⟩ := exists_call_signal target hcall
    refine hfinished ?_ hcall'
    intro j c notification hc hcancel
    rw [getElem?_signal] at hc
    split at hc
    · obtain ⟨c', hc', rfl⟩ := Option.map_eq_some_iff.mp hc
      exact h _ c' notification hc' hcancel
    · exact h j c notification hc hcancel
  | ignored hcall => exact hfinished h hcall
  | refused hcall _ hmessage => exact hsetPhase hcall ⟨_, hmessage⟩
  | admitted hcall _ hmessage => exact hsetPhase hcall ⟨_, hmessage⟩
  | initialized hcall _ hmessage => exact hsetPhase hcall ⟨_, hmessage⟩
  | closed hcall _ hmessage => exact hsetPhase hcall ⟨_, hmessage⟩
  | registered hcall _ hmessage => exact hsetPhase hcall ⟨_, hmessage⟩
  | started hcall _ hmessage => exact hsetPhase hcall ⟨_, hmessage⟩
  | answered hcall _ hmessage => exact hsetPhase hcall ⟨_, hmessage⟩
  | released hcall _ hmessage => exact hsetPhase hcall ⟨_, hmessage⟩

theorem cancelsAtOnce_run (settings : Settings) (events : List SessionEvent) :
    CancelsAtOnce ((session settings).run events).1 :=
  Machine.run_induction (P := fun s _ => CancelsAtOnce s) (by simp [CancelsAtOnce, session])
    (fun s _ event h => h.change (change_step settings s event)) events

/-- A turn takes a call on that is not in the handler. -/
theorem remaining_advance (hcancels : CancelsAtOnce s) (hcall : s.calls[k]? = some call)
    (hhandling : call.phase ≠ .handling) : ∃ call', (s.step settings (.advance k)).1.calls[k]? =
      some call' ∧ call'.message = call.message ∧
        call'.phase.remaining ≤ call.phase.remaining - 1 := by
  have hset : ∀ (d : AdapterDispatcher) (phase : Phase),
      ((Session.mk d s.calls).setPhase k phase).calls[k]? = some { call with phase } := by
    intro d phase
    rw [getElem?_setPhase, if_pos rfl, hcall, Option.map_some]
  simp only [Session.step, hcall]
  cases hmessage : call.message with
  | cancel notification =>
    rcases hcancels k call notification hcall hmessage with hphase | ⟨result, hphase⟩
    · cases hactive : s.dispatcher.active.get? notification.params.requestId with
      | some target =>
        obtain ⟨call', hcall', hmessage', -⟩ := exists_call_signal target hcall
        simp only [Session.advance, hmessage, hphase, hactive, Session.finish]
        refine ⟨{ call' with phase := .finished (.ok none) }, ?_, hmessage'.trans hmessage,
          Nat.zero_le _⟩
        show ((Session.mk (s.signal target).dispatcher (s.signal target).calls).setPhase k
          (.finished (.ok none))).calls[k]? = _
        rw [getElem?_setPhase, if_pos rfl, hcall', Option.map_some]
      | none =>
        simp only [Session.advance, hmessage, hphase, hactive, Session.finish]
        exact ⟨_, hset _ _, hmessage, Nat.zero_le _⟩
    · simp only [Session.advance, hmessage, hphase]
      exact ⟨call, hcall, hmessage, by rw [hphase]; exact Nat.zero_le _⟩
  | request request =>
    cases hphase : call.phase with
    | submitted =>
      by_cases hadmits : s.dispatcher.Admits settings request
      · simp only [Session.advance, hmessage, hphase, AdapterDispatcher.admit_of_admits hadmits]
        exact ⟨_, hset _ _, hmessage, le_rfl⟩
      · obtain ⟨response, heq, -⟩ := AdapterDispatcher.admit_of_not_admits hadmits
        simp only [Session.advance, hmessage, hphase, heq, Session.finish]
        exact ⟨_, hset _ _, hmessage, Nat.zero_le _⟩
    | accepted =>
      obtain ⟨d, response, heq, -⟩ :=
        AdapterDispatcher.proceed_eq_ok settings s.dispatcher k request
      cases response with
      | some response =>
        simp only [Session.advance, hmessage, hphase, heq, Session.finish]
        exact ⟨_, hset _ _, hmessage, Nat.zero_le _⟩
      | none =>
        simp only [Session.advance, hmessage, hphase, heq]
        exact ⟨_, hset _ _, hmessage, le_rfl⟩
    | registered =>
      simp only [Session.advance, hmessage, hphase]
      exact ⟨_, hset _ _, hmessage, le_rfl⟩
    | handling => exact absurd hphase hhandling
    | answered response =>
      simp only [Session.advance, hmessage, hphase, Session.finish]
      exact ⟨_, hset _ _, hmessage, Nat.zero_le _⟩
    | finished result =>
      simp only [Session.advance, hmessage, hphase]
      exact ⟨call, hcall, hmessage, by rw [hphase]; exact Nat.zero_le _⟩

/-- The handler's end takes a call on that is in the handler. -/
theorem remaining_complete (hcancels : CancelsAtOnce s) (hcall : s.calls[k]? = some call)
    (completion : Completion) (hhandling : call.phase = .handling) :
    ∃ call', (s.step settings (.complete k completion)).1.calls[k]? = some call' ∧
      call'.message = call.message ∧ call'.phase.remaining ≤ 1 := by
  obtain ⟨message, phase, signalled⟩ := call
  obtain rfl : phase = .handling := hhandling
  cases message with
  | cancel notification =>
    rcases hcancels k _ notification hcall rfl with hphase | ⟨result, hphase⟩ <;> cases hphase
  | request request =>
    simp only [Session.step, hcall]
    refine ⟨⟨.request request, .answered (answer request signalled completion), signalled⟩, ?_, rfl,
      le_rfl⟩
    show ((Session.mk s.dispatcher s.calls).setPhase k _).calls[k]? = _
    rw [getElem?_setPhase, if_pos rfl, hcall, Option.map_some]

end

/-- The turns of one call: three lock sections or calls, the handler's end, and the last section. -/
def turns (k : Nat) (completion : Completion) : List SessionEvent :=
  [.advance k, .advance k, .advance k, .complete k completion, .advance k]

/-- A call that is given its turns, whatever happens in between, returns. -/
theorem finished_of_sublist {settings : Settings} {k : Nat} {completion : Completion}
    {rest more : List SessionEvent} (hsublist : rest.Sublist more)
    (hsuffix : rest <:+ turns k completion) {s : Session} {history : List Observation} {call : Call}
    (hcancels : CancelsAtOnce s) (hcall : s.calls[k]? = some call)
    (hremaining : call.phase.remaining ≤ rest.length) :
    ∃ call', ((session settings).runFrom s history more).1.calls[k]? = some call' ∧
      call'.message = call.message ∧ call'.phase.remaining = 0 := by
  induction hsublist generalizing s history call with
  | slnil => exact ⟨call, hcall, rfl, by simpa using hremaining⟩
  | @cons rest more event _ ih =>
    have hchange := change_step settings s event
    obtain ⟨call', hcall', hmessage, hle⟩ := hchange.keeps_call hcall
    obtain ⟨call'', hcall'', hmessage', hzero⟩ :=
      ih hsuffix (hcancels.change hchange) hcall' (hle.trans hremaining)
    exact ⟨call'', hcall'', hmessage'.trans hmessage, hzero⟩
  | @cons_cons rest more event _ ih =>
    have hchange := change_step settings s event
    have hturn : ∃ call', (s.step settings event).1.calls[k]? = some call' ∧
        call'.message = call.message ∧ call'.phase.remaining ≤ rest.length := by
      obtain ⟨call', hcall', hmessage, hle⟩ := hchange.keeps_call hcall
      by_cases hlt : call.phase.remaining ≤ rest.length
      · exact ⟨call', hcall', hmessage, hle.trans hlt⟩
      · -- the turn is the one that the call waits for
        rw [List.length_cons] at hremaining
        have heq : call.phase.remaining = rest.length + 1 := by omega
        have hadvance : call.phase ≠ .handling → event = .advance k →
            ∃ call', (s.step settings event).1.calls[k]? = some call' ∧
              call'.message = call.message ∧ call'.phase.remaining ≤ rest.length := by
          rintro hhandling rfl
          obtain ⟨call', hcall', hmessage, hle⟩ := remaining_advance hcancels hcall hhandling
          exact ⟨call', hcall', hmessage, by omega⟩
        simp only [turns, List.suffix_cons_iff, List.cons.injEq, List.suffix_nil,
          reduceCtorEq, or_false] at hsuffix
        rcases hsuffix with ⟨rfl, rfl⟩ | ⟨rfl, rfl⟩ | ⟨rfl, rfl⟩ | ⟨rfl, rfl⟩ | ⟨rfl, rfl⟩
        · exact hadvance (fun h => by rw [h] at heq; cases heq) rfl
        · exact hadvance (fun h => by rw [h] at heq; cases heq) rfl
        · exact hadvance (fun h => by rw [h] at heq; cases heq) rfl
        · have hhandling : call.phase = .handling := by
            cases hphase : call.phase <;> rw [hphase] at heq <;> first | rfl | cases heq
          exact remaining_complete hcancels hcall completion hhandling
        · exact hadvance (fun h => by rw [h] at heq; cases heq) rfl
    obtain ⟨call', hcall', hmessage, hle⟩ := hturn
    obtain ⟨call'', hcall'', hmessage', hzero⟩ :=
      ih ((List.suffix_cons event rest).trans hsuffix) (hcancels.change hchange) hcall' hle
    exact ⟨call'', hcall'', hmessage'.trans hmessage, hzero⟩

/-! ### Safety -/

/-- The guarantees of a dispatcher after some events. -/
structure Safe (settings : Settings) (events : List SessionEvent) (s : Session)
    (history : List Observation) : Prop where
  /-- What a call returned is observed once, with the id of its request. -/
  responds : ∀ (k : Nat) (call : Call), s.calls[k]? = some call →
    returnsOf k history = call.result?.toList ∧
      ∀ message result, .returned k message result ∈ history →
        message = call.message ∧ Replies message result
  /-- A call that gets its turns returns, whatever else happens. -/
  answers : ∀ (k : Nat) (call : Call), s.calls[k]? = some call → ∀ completion more,
    (turns k completion).Sublist more → ∃ result, Replies call.message result ∧
      returnsOf k ((session settings).run (events ++ more)).2 = [(call.message, result)]
  startsOnce : ∀ id, starts id history ≤ 1
  startsReady : ∀ event k request, .started k request ∈ (s.step settings event).2 →
    s.dispatcher.state = .ready ∧ ∃ capability, request.method.capability? = some capability ∧
      capability ∈ s.dispatcher.negotiated.keys
  active_le : s.dispatcher.active.size ≤ settings.maxPending
  accepted_le : s.dispatcher.seenRequestIds.card ≤ settings.maxRequests
  /-- A cancelled response comes after a cancellation that named its id. -/
  cancelled : ∀ (i k : Nat) (message : ClientMessage) (response : ServerMessage),
    history[i]? = some (.returned k message (.ok (some response))) →
    response.code? = some .requestCancelled →
    ∃ id, response.id = some id ∧ ∃ j < i, history[j]? = some (.signalled id)
  /-- The cancellation was processed while its target was active. -/
  signalled : ∀ event id, .signalled id ∈ (s.step settings event).2 →
    (s.dispatcher.active.get? id).isSome = true
  moves : ∀ event, s.dispatcher.state.Moves (s.step settings event).1.dispatcher.state
  negotiated : s.dispatcher.state ≠ .new → ∀ more,
    ((session settings).run (events ++ more)).1.dispatcher.negotiated = s.dispatcher.negotiated
  /-- Once closed, no request is active and no handler is called. -/
  closed : s.dispatcher.state = .closed → s.dispatcher.active.isEmpty = true ∧
    (∀ k request, ¬HasCall s.calls k request Phase.isActive) ∧
    ∀ id more, starts id ((session settings).run (events ++ more)).2 = starts id history

theorem negotiated_runFrom {settings : Settings} {s : Session} {history : List Observation}
    (more : List SessionEvent) (hstate : s.dispatcher.state ≠ .new) :
    ((session settings).runFrom s history more).1.dispatcher.negotiated =
      s.dispatcher.negotiated := by
  induction more generalizing s history with
  | nil => rfl
  | cons event more ih =>
    have hchange := change_step settings s event
    exact (ih (hchange.state_ne_new hstate)).trans (hchange.negotiated hstate)

theorem starts_runFrom {settings : Settings} {s : Session} {history : List Observation}
    (htracks : Tracks settings s) (hstate : s.dispatcher.state = .closed) (id : RequestId)
    (more : List SessionEvent) :
    starts id ((session settings).runFrom s history more).2 = starts id history := by
  induction more generalizing s history with
  | nil => rfl
  | cons event more ih =>
    have hchange := change_step settings s event
    have hzero : starts id (s.step settings event).2 = 0 := by
      rw [starts, List.countP_eq_zero]
      intro o ho
      cases o with
      | started k request =>
        have := htracks.ready k request (hchange.active_of_started ho)
        rw [hstate] at this
        cases this
      | _ => simp
    have hrest : starts id ((session settings).runFrom s history (event :: more)).2 =
        starts id (history ++ (s.step settings event).2) :=
      ih (htracks.change hchange) (hchange.closed_of_closed hstate)
    rw [starts_append, hzero] at hrest
    exact hrest

theorem returnsOf_mem {k : Nat} {message : ClientMessage} {result : CallResult}
    {history : List Observation} (h : .returned k message result ∈ history) :
    (message, result) ∈ returnsOf k history := by
  rw [returnsOf, List.mem_filterMap]
  exact ⟨_, h, if_pos rfl⟩

theorem mem_of_returnsOf {k : Nat} {message : ClientMessage} {result : CallResult}
    {history : List Observation} (h : (message, result) ∈ returnsOf k history) :
    .returned k message result ∈ history := by
  rw [returnsOf, List.mem_filterMap] at h
  obtain ⟨o, ho, heq⟩ := h
  cases o with
  | returned j message' result' =>
    simp only [Option.ite_none_right_eq_some, Option.some.injEq, Prod.mk.injEq] at heq
    obtain ⟨rfl, rfl, rfl⟩ := heq
    exact ho
  | _ => cases heq

/-- Every interleaving of dispatch calls, cancellations and handlers keeps the guarantees. -/
theorem session_safe (settings : Settings) (events : List SessionEvent) :
    Safe settings events ((session settings).run events).1 ((session settings).run events).2 := by
  have hinvariant := invariant_run settings events
  have htracks := hinvariant.tracks
  have hreturned := hinvariant.returned
  have hchange := change_step settings ((session settings).run events).1
  refine
    { responds := fun k call hcall => ?_
      answers := fun k call hcall completion more hsublist => ?_
      startsOnce := hinvariant.startsOnce.once
      startsReady := fun event k request hstarted => ?_
      active_le := htracks.size_le
      accepted_le := htracks.card_le
      cancelled := hreturned.cancelled
      signalled := fun event id h => (hchange event).active_of_signalled h
      moves := fun event => (hchange event).moves
      negotiated := fun hstate more => ?_
      closed := fun hstate => ⟨?_, ?_, ?_⟩ }
  · have hreturns := hreturned.returns k
    rw [Session.result?, hcall, Option.bind_some] at hreturns
    refine ⟨hreturns, fun message result hmem => ⟨?_, hreturned.replies k message result hmem⟩⟩
    have hmem' := returnsOf_mem hmem
    rw [hreturns, Option.mem_toList, Call.result?] at hmem'
    split at hmem' <;> cases hmem'
    rfl
  · have hturns : call.phase.remaining ≤ (turns k completion).length := by
      cases call.phase <;> simp [Phase.remaining, turns]
    obtain ⟨call', hcall', hmessage, hzero⟩ :=
      @finished_of_sublist settings k completion _ _ hsublist List.suffix_rfl _
        ((session settings).run events).2 call (cancelsAtOnce_run settings events) hcall hturns
    rw [← Machine.run_append] at hcall'
    have hafter := (invariant_run settings (events ++ more)).returned
    have hreturns := hafter.returns k
    rw [Session.result?, hcall', Option.bind_some] at hreturns
    cases hphase : call'.phase with
    | finished result =>
      simp only [Call.result?, hphase, hmessage, Option.toList_some] at hreturns
      refine ⟨result, hafter.replies k _ _ (mem_of_returnsOf ?_), hreturns⟩
      rw [hreturns]
      exact List.mem_singleton_self _
    | _ =>
      rw [hphase] at hzero
      cases hzero
  · have hactive := (hchange event).active_of_started hstarted
    exact ⟨htracks.ready k request hactive, htracks.negotiated k request hactive⟩
  · rw [Machine.run_append]
    exact negotiated_runFrom more hstate
  · rw [Dict.isEmpty_iff]
    intro id
    cases hget : ((session settings).run events).1.dispatcher.active.get? id with
    | none => rfl
    | some k =>
      obtain ⟨request, -, hcall⟩ := (htracks.active id k).mp hget
      rw [htracks.ready k request hcall] at hstate
      cases hstate
  · intro k request hcall
    rw [htracks.ready k request hcall] at hstate
    cases hstate
  · intro id more
    rw [Machine.run_append]
    exact starts_runFrom htracks hstate id more

end Ucf.Adapter
