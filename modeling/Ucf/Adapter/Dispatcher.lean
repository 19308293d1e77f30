import Mathlib.Data.Finset.Card
import Ucf.Adapter.Models
import Ucf.Library.Runs

/-! The adapter side of a session: the dispatcher's lifecycle, its limits, and the lock sections that
each dispatched message goes through. -/

namespace Ucf.Adapter

inductive SessionState where
  | new
  | ready
  | closed
deriving DecidableEq, Repr

theorem inventory_valid : (stringConstraints 3 (some 255) fun cs =>
    let parts := splitOn '.' cs
    2 ≤ parts.length && parts.all (matchName fun c => c = '-'))
      "org.ucf.adapter.inventory" = none := by decide +kernel

theorem discovery_valid : (stringConstraints 3 (some 255) fun cs =>
    let parts := splitOn '.' cs
    2 ≤ parts.length && parts.all (matchName fun c => c = '-'))
      "org.ucf.adapter.discovery" = none := by decide +kernel

theorem mapping_valid : (stringConstraints 3 (some 255) fun cs =>
    let parts := splitOn '.' cs
    2 ≤ parts.length && parts.all (matchName fun c => c = '-'))
      "org.ucf.adapter.mapping" = none := by decide +kernel

theorem generation_valid : (stringConstraints 3 (some 255) fun cs =>
    let parts := splitOn '.' cs
    2 ≤ parts.length && parts.all (matchName fun c => c = '-'))
      "org.ucf.adapter.generation" = none := by decide +kernel

theorem verification_valid : (stringConstraints 3 (some 255) fun cs =>
    let parts := splitOn '.' cs
    2 ≤ parts.length && parts.all (matchName fun c => c = '-'))
      "org.ucf.adapter.verification" = none := by decide +kernel

/-- `_METHOD_CAPABILITY` -/
def Method.capability? : Method → Option QualifiedName
  | inventory => some ⟨"org.ucf.adapter.inventory", inventory_valid⟩
  | discover => some ⟨"org.ucf.adapter.discovery", discovery_valid⟩
  | map => some ⟨"org.ucf.adapter.mapping", mapping_valid⟩
  | generate => some ⟨"org.ucf.adapter.generation", generation_valid⟩
  | verify => some ⟨"org.ucf.adapter.verification", verification_valid⟩
  | _ => none

/-- `_METHOD_RESULT_KIND` -/
def Method.resultKind? : Method → Option OperationKind
  | inventory => some .inventoryResult
  | discover => some .discoverResult
  | map => some .mapResult
  | generate => some .generateResult
  | verify => some .verifyResult
  | _ => none

/-- `error_response` -/
def errorResponse (id : Option RequestId) (category : ErrorCategory) (code : ProtocolCode)
    (message : ErrorMessage) (hcategory : category = errorCategoryForCode code := by rfl)
    (hlocal : ¬category.isLocal := by decide) : ServerMessage :=
  .failure ⟨id, ⟨jsonRpcErrorCode code, message, ⟨category, code, hcategory⟩⟩, hlocal⟩

/-- What an `AdapterDispatcher` is built with; its constructor refuses any other limits and
capabilities that share a name. -/
structure Settings where
  adapter : Producer
  offeredCapabilities : List CapabilitySelection
  maxPending : Nat
  maxRequests : Nat
  uniqueNames : (offeredCapabilities.map CapabilitySelection.name).Nodup
  pendingRange : 1 ≤ maxPending ∧ maxPending ≤ maxPendingRequests
  requestsRange : 2 ≤ maxRequests ∧ maxRequests ≤ maxRequestsPerSession

/-- `_offered` -/
def Settings.offered (settings : Settings) : Dict QualifiedName NormalizedVersion :=
  .ofList (settings.offeredCapabilities.map fun item => (item.name, item.version))

/-- The fields that change. The event of an active request is named by the dispatch call that
created it. -/
structure AdapterDispatcher where
  state : SessionState
  negotiated : Dict QualifiedName NormalizedVersion
  active : Dict RequestId Nat
  seenRequestIds : Finset RequestId

namespace AdapterDispatcher

/-- The state that `__init__` leaves. -/
def init : AdapterDispatcher := ⟨.new, .empty, .empty, ∅⟩

/-- The first lock section of `dispatch`: the response to a request that is not admitted. -/
def admitRequest (settings : Settings) (d : AdapterDispatcher) (request : Request) :
    AdapterDispatcher × Option ServerMessage :=
  if request.id ∈ d.seenRequestIds then
    (d, errorResponse request.id .protocolFailure .duplicateRequestId
      ⟨"request id was already used in this session", by decide +kernel⟩)
  else if settings.maxRequests ≤ d.seenRequestIds.card ∨
      (d.seenRequestIds.card = settings.maxRequests - 1 ∧ request.method ≠ .shutdown) then
    (d, errorResponse request.id .protocolFailure .sessionRequestLimit
      ⟨"adapter session request limit reached", by decide +kernel⟩)
  else ({ d with seenRequestIds := insert request.id d.seenRequestIds }, none)

/-- The loop of `_initialize`: the capabilities it selects, or `none` when a required one is
unavailable. -/
def selectCapabilities (offered : Dict QualifiedName NormalizedVersion) :
    List CapabilityRequest → Option (List CapabilitySelection)
  | [] => some []
  | requirement :: requirements =>
    let supported := (offered.get? requirement.name).filter fun version =>
      versionAtLeast version.val.toList requirement.minimumVersion.val.toList
    match supported with
    | some version =>
      (selectCapabilities offered requirements).map (⟨requirement.name, version⟩ :: ·)
    | none => if requirement.required then none else selectCapabilities offered requirements

theorem names_selectCapabilities {offered : Dict QualifiedName NormalizedVersion}
    {requirements : List CapabilityRequest} {selected : List CapabilitySelection}
    (h : selectCapabilities offered requirements = some selected) :
    List.Sublist (selected.map CapabilitySelection.name)
      (requirements.map CapabilityRequest.name) := by
  induction requirements generalizing selected with
  | nil =>
    rw [selectCapabilities, Option.some.injEq] at h
    simp [← h]
  | cons requirement requirements ih =>
    rw [selectCapabilities] at h
    split at h
    · obtain ⟨rest, hrest, rfl⟩ := Option.map_eq_some_iff.mp h
      exact (ih hrest).cons_cons _
    · split at h
      · cases h
      · exact (ih h).cons _

theorem nodup_names_sorted {offered : Dict QualifiedName NormalizedVersion}
    {requirements : List CapabilityRequest} {selected : List CapabilitySelection}
    (hnodup : (requirements.map CapabilityRequest.name).Nodup)
    (h : selectCapabilities offered requirements = some selected) :
    ((sortedBy CapabilitySelection.name selected).map CapabilitySelection.name).Nodup :=
  (((sortedBy_perm _ _).map _).nodup_iff).mpr (hnodup.sublist (names_selectCapabilities h))

theorem alreadyInitialized_valid : stringConstraints 1 (some 1024) (fun _ => true)
    "initialize is legal only in the new state" = none := by decide +kernel

theorem incompatibleVersion_valid : stringConstraints 1 (some 1024) (fun _ => true)
    "adapter protocol version is not supported" = none := by decide +kernel

theorem unsupportedCapability_valid : stringConstraints 1 (some 1024) (fun _ => true)
    "a required capability is unavailable" = none := by decide +kernel

theorem duplicateCapability_valid : stringConstraints 1 (some 1024) (fun _ => true)
    "requested capability names must be unique" = none := by decide +kernel

/-- `_initialize` -/
def initialize_ (settings : Settings) (d : AdapterDispatcher) (request : Request) :
    Except PyError (AdapterDispatcher × ServerMessage) :=
  match request.params with
  | .initializeParams params =>
    if d.state ≠ .new then
      .ok (d, errorResponse request.id .protocolFailure .invalidLifecycle
        ⟨"initialize is legal only in the new state", alreadyInitialized_valid⟩)
    else if params.protocolVersion.val ≠ adapterProtocolVersion then
      .ok (d, errorResponse request.id .protocolFailure .incompatibleVersion
        ⟨"adapter protocol version is not supported", incompatibleVersion_valid⟩)
    else if hnodup : (params.capabilities.map CapabilityRequest.name).Nodup then
      match hselected : selectCapabilities settings.offered params.capabilities with
      | none =>
        .ok (d, errorResponse request.id .protocolFailure .unsupportedCapability
          ⟨"a required capability is unavailable", unsupportedCapability_valid⟩)
      | some selected =>
        let sorted := sortedBy CapabilitySelection.name selected
        .ok ({ d with
            negotiated := .ofList (sorted.map fun item => (item.name, item.version))
            state := .ready },
          .success ⟨request.id, .initializeResult
            ⟨settings.adapter, sorted, nodup_names_sorted hnodup hselected⟩⟩)
    else
      .ok (d, errorResponse request.id .protocolFailure .duplicateCapability
        ⟨"requested capability names must be unique", duplicateCapability_valid⟩)
  | _ => .error .assertionError

theorem notReady_valid : stringConstraints 1 (some 1024) (fun _ => true)
    "operations are legal only in the ready state" = none := by decide +kernel

theorem notNegotiated_valid : stringConstraints 1 (some 1024) (fun _ => true)
    "operation capability was not negotiated" = none := by decide +kernel

theorem tooManyPending_valid : stringConstraints 1 (some 1024) (fun _ => true)
    "pending request limit reached" = none := by decide +kernel

/-- The lock section of `_operate` before the handler runs, for the request of a dispatch call: the
response to a request that is not registered. -/
def operate (settings : Settings) (d : AdapterDispatcher) (call : Nat) (request : Request) :
    Except PyError (AdapterDispatcher × Option ServerMessage) :=
  match request.params with
  | .operationParams _ =>
    if d.state ≠ .ready then
      .ok (d, errorResponse request.id .protocolFailure .invalidLifecycle
        ⟨"operations are legal only in the ready state", notReady_valid⟩)
    else do
      let capability ← orRaise request.method.capability? .keyError
      if ¬d.negotiated.contains capability then
        .ok (d, errorResponse request.id .protocolFailure .capabilityNotNegotiated
          ⟨"operation capability was not negotiated", notNegotiated_valid⟩)
      else if settings.maxPending ≤ d.active.size then
        .ok (d, errorResponse request.id .protocolFailure .tooManyPending
          ⟨"pending request limit reached", tooManyPending_valid⟩)
      else .ok ({ d with active := d.active.insert request.id call }, none)
  | _ => .error .assertionError

/-- `_shutdown` -/
def shutdown (d : AdapterDispatcher) (request : Request) : AdapterDispatcher × ServerMessage :=
  if d.state ≠ .ready ∨ ¬d.active.isEmpty then
    (d, errorResponse request.id .protocolFailure .invalidLifecycle
      ⟨"shutdown requires ready state with no pending requests", by decide +kernel⟩)
  else ({ d with state := .closed }, .success ⟨request.id, .shutdownResult ⟨⟩⟩)

/-- What `dispatch` does with an admitted request up to the handler's call. -/
def proceed (settings : Settings) (d : AdapterDispatcher) (call : Nat) (request : Request) :
    Except PyError (AdapterDispatcher × Option ServerMessage) :=
  if request.method = .initialize_ then
    (d.initialize_ settings request).map fun (d, response) => (d, some response)
  else if request.method = .shutdown then
    let (d, response) := d.shutdown request
    .ok (d, some response)
  else d.operate settings call request

/-- The last lock section of `_operate`. -/
def release (d : AdapterDispatcher) (request : Request) : AdapterDispatcher :=
  { d with active := d.active.erase request.id }

end AdapterDispatcher

/-- How a handler ends: with a payload, with a value that is none, with `AdapterRequestCancelled` or
with another exception. -/
inductive Completion where
  | payload (payload : OperationPayload)
  | invalidPayload
  | cancelled
  | exception
deriving DecidableEq

/-- The response that `_operate` makes of the handler's end, where `signalled` says whether the
request's event is set. -/
def answer (request : Request) (signalled : Bool) : Completion → ServerMessage
  | .payload payload =>
    match request.method.resultKind? with
    | some kind =>
      if h : kind.endsWith "_result" ∧ payload.Valid then
        .success ⟨request.id, .operationResult ⟨kind, payload, h⟩⟩
      else operationFailed
    | none => operationFailed
  | .invalidPayload =>
    errorResponse request.id .adapterFailure .operationFailed
      ⟨"adapter returned an invalid payload", by decide +kernel⟩
  | .cancelled =>
    if signalled then
      errorResponse request.id .cancelled .requestCancelled
        ⟨"adapter request was cancelled", by decide +kernel⟩
    else operationFailed
  | .exception => operationFailed
where
  operationFailed : ServerMessage :=
    errorResponse request.id .adapterFailure .operationFailed
      ⟨"adapter operation failed", by decide +kernel⟩

/-! ### Dispatch calls side by side -/

/-- How far a dispatch call has come: before its first lock section, before its second, registered
but not yet in the handler, in the handler, before the last lock section, returned. -/
inductive Phase where
  | submitted
  | accepted
  | registered
  | handling
  | answered (response : ServerMessage)
  | finished (result : Except PyError (Option ServerMessage))

/-- A call of `dispatch`, with its cancellation event. -/
structure Call where
  message : ClientMessage
  phase : Phase
  signalled : Bool

/-- A dispatcher and the calls of `dispatch` so far. -/
structure Session where
  dispatcher : AdapterDispatcher
  calls : List Call

inductive SessionEvent where
  /-- `dispatch` is called. -/
  | receive (message : ClientMessage)
  /-- A call goes through its next lock section, or calls the handler. -/
  | advance (call : Nat)
  /-- The handler of a call ends. -/
  | complete (call : Nat) (completion : Completion)

inductive Observation where
  /-- The handler is called. -/
  | started (call : Nat) (request : Request)
  /-- A cancellation sets the event of an active request. -/
  | signalled (id : RequestId)
  /-- A call returns, or raises. -/
  | returned (call : Nat) (message : ClientMessage) (result : Except PyError (Option ServerMessage))

namespace Session

def setPhase (s : Session) (k : Nat) (phase : Phase) : Session :=
  { s with calls := s.calls.modify k fun call => { call with phase } }

/-- `cancelled.set()` -/
def signal (s : Session) (k : Nat) : Session :=
  { s with calls := s.calls.modify k fun call => { call with signalled := true } }

/-- A call ends. -/
def finish (s : Session) (k : Nat) (message : ClientMessage)
    (result : Except PyError (Option ServerMessage)) : Session × List Observation :=
  (s.setPhase k (.finished result), [.returned k message result])

/-- The next lock section of a call. -/
def advance (settings : Settings) (s : Session) (k : Nat) (call : Call) :
    Session × List Observation :=
  match call.message, call.phase with
  | .cancel notification, .submitted =>
    match s.dispatcher.active.get? notification.params.requestId with
    | some target =>
      let (s, observed) := (s.signal target).finish k call.message (.ok none)
      (s, .signalled notification.params.requestId :: observed)
    | none => s.finish k call.message (.ok none)
  | .request request, .submitted =>
    match s.dispatcher.admitRequest settings request with
    | (d, some response) => { s with dispatcher := d }.finish k call.message (.ok response)
    | (d, none) => ({ s with dispatcher := d }.setPhase k .accepted, [])
  | .request request, .accepted =>
    match s.dispatcher.proceed settings k request with
    | .ok (d, some response) => { s with dispatcher := d }.finish k call.message (.ok response)
    | .ok (d, none) => ({ s with dispatcher := d }.setPhase k .registered, [])
    | .error e => s.finish k call.message (.error e)
  | .request request, .registered => (s.setPhase k .handling, [.started k request])
  | .request request, .answered response =>
    { s with dispatcher := s.dispatcher.release request }.finish k call.message (.ok response)
  | _, _ => (s, [])

def step (settings : Settings) (s : Session) : SessionEvent → Session × List Observation
  | .receive message => ({ s with calls := s.calls ++ [⟨message, .submitted, false⟩] }, [])
  | .advance k =>
    match s.calls[k]? with
    | some call => s.advance settings k call
    | none => (s, [])
  | .complete k completion =>
    match s.calls[k]? with
    | some ⟨.request request, .handling, signalled⟩ =>
      (s.setPhase k (.answered (answer request signalled completion)), [])
    | _ => (s, [])

end Session

/-- Every interleaving of dispatch calls, their lock sections and their handlers. -/
def session (settings : Settings) : Machine Session SessionEvent Observation where
  start := ⟨.init, []⟩
  step := Session.step settings

end Ucf.Adapter
