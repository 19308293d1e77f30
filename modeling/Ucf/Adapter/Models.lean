import Ucf.Adapter.Errors
import Ucf.Inventory.Models
import Ucf.Ir.TrustValidation
import Ucf.Ir.Validation

/-! The messages of the adapter protocol: what a client sends and what an adapter answers. -/

namespace Ucf.Adapter

/-- `ADAPTER_PROTOCOL_VERSION` -/
def adapterProtocolVersion : String := "1.0.0"

/-- `MAX_FRAME_BYTES` -/
def maxFrameBytes : Nat := 1048576

/-- `MAX_PENDING_REQUESTS` -/
def maxPendingRequests : Nat := 64

/-- `MAX_REQUESTS_PER_SESSION` -/
def maxRequestsPerSession : Nat := 65536

/-- `[A-Za-z0-9]` -/
def isAlnum (c : Char) : Bool := isLowerAlnum c || ('A' ≤ c && c ≤ 'Z')

/-- `^[A-Za-z0-9][A-Za-z0-9._:-]{0,63}$` -/
def matchRequestId (cs : List Char) : Bool :=
  (cs.head?.any isAlnum) && (cs.drop 1).length ≤ 63 &&
    (cs.drop 1).all fun c => isAlnum c || c ∈ ['.', '_', ':', '-']

abbrev RequestId : Type := Checked (stringConstraints 1 (some 64) matchRequestId)

inductive Method where
  | initialize_
  | inventory
  | discover
  | map
  | generate
  | verify
  | cancel
  | shutdown
deriving DecidableEq, Repr

def Method.value : Method → String
  | initialize_ => "ucf.initialize"
  | inventory => "ucf.inventory"
  | discover => "ucf.discover"
  | map => "ucf.map"
  | generate => "ucf.generate"
  | verify => "ucf.verify"
  | cancel => "ucf.cancel"
  | shutdown => "ucf.shutdown"

def Method.all : List Method :=
  [.initialize_, .inventory, .discover, .map, .generate, .verify, .cancel, .shutdown]

instance : Model Method := .enum Method.all Method.value

inductive OperationKind where
  | inventoryRequest
  | discoverRequest
  | mapRequest
  | generateRequest
  | verifyRequest
  | inventoryResult
  | discoverResult
  | mapResult
  | generateResult
  | verifyResult
deriving DecidableEq, Repr

def OperationKind.value : OperationKind → String
  | inventoryRequest => "inventory_request"
  | discoverRequest => "discover_request"
  | mapRequest => "map_request"
  | generateRequest => "generate_request"
  | verifyRequest => "verify_request"
  | inventoryResult => "inventory_result"
  | discoverResult => "discover_result"
  | mapResult => "map_result"
  | generateResult => "generate_result"
  | verifyResult => "verify_result"

instance : Model OperationKind :=
  .enum [.inventoryRequest, .discoverRequest, .mapRequest, .generateRequest, .verifyRequest,
    .inventoryResult, .discoverResult, .mapResult, .generateResult, .verifyResult]
    OperationKind.value

/-- `kind.value.endswith(suffix)` -/
def OperationKind.endsWith (kind : OperationKind) (suffix : String) : Bool :=
  suffix.toList.isSuffixOf kind.value.toList

theorem OperationKind.value_ne_shutdown (kind : OperationKind) :
    kind.value ≠ "shutdown_request" ∧ kind.value ≠ "shutdown_result" := by
  cases kind <;> decide

theorem OperationKind.value_ne_initialize (kind : OperationKind) :
    "initialize_request" ≠ kind.value ∧ "initialize_result" ≠ kind.value := by
  cases kind <;> decide

structure CapabilityRequest where
  name : QualifiedName
  minimumVersion : NormalizedVersion
  required : Bool
deriving DecidableEq

instance : Model CapabilityRequest :=
  .record (.lit "kind" "capability_request" <| .required "name" <| .required "minimum_version" <|
      .required "required" .nil)
    (fun c => (c.name, c.minimumVersion, c.required, ()))
    (fun (name, version, required, ()) => ⟨name, version, required⟩)

structure AdapterPayload where
  schemaUri : URI
  schemaVersion : NormalizedVersion
  value : IRValue
deriving DecidableEq

instance : Model AdapterPayload :=
  .record (.lit "kind" "adapter_payload" <| .required "schema_uri" <| .required "schema_version" <|
      .required "value" .nil)
    (fun p => (p.schemaUri, p.schemaVersion, p.value, ()))
    (fun (uri, version, value, ()) => ⟨uri, version, value⟩)

/-- `Payload` -/
inductive OperationPayload where
  | behavior (document : BehaviorIR)
  | trust (document : TrustIR)
  | adapter (payload : AdapterPayload)
deriving DecidableEq

instance : Model OperationPayload :=
  .oneOf (.variant "behavior_ir" <| .variant "trust_ir" <| .variant "adapter_payload" .nil)
    (fun
      | .behavior document => .inl document
      | .trust document => .inr (.inl document)
      | .adapter payload => .inr (.inr (.inl payload)))
    (fun
      | .inl document => .behavior document
      | .inr (.inl document) => .trust document
      | .inr (.inr (.inl payload)) => .adapter payload)

/-- `_validate_payload_semantics` -/
def validatePayloadSemantics : OperationPayload → Except PyError Unit
  | .behavior document => validateIrSemantics document
  | .trust document => validateTrustSemantics document
  | .adapter payload => validateIrValue payload.value

/-- A payload that `_validate_payload_semantics` accepts. -/
def OperationPayload.Valid (payload : OperationPayload) : Prop :=
  validatePayloadSemantics payload = .ok ()

instance (payload : OperationPayload) : Decidable payload.Valid :=
  match h : validatePayloadSemantics payload with
  | .ok () => .isTrue h
  | .error e => .isFalse fun heq => by rw [OperationPayload.Valid, h] at heq; cases heq

structure InitializeParams where
  protocolVersion : NormalizedVersion
  client : Producer
  capabilities : List CapabilityRequest
deriving DecidableEq

instance : Model InitializeParams :=
  .record (.lit "kind" "initialize_request" <| .required "protocol_version" <|
      .required "client" <| .required "capabilities" .nil)
    (fun p => (p.protocolVersion, p.client, p.capabilities, ()))
    (fun (version, client, capabilities, ()) => ⟨version, client, capabilities⟩)

structure OperationParams where
  kind : OperationKind
  payload : OperationPayload
  requireRequestKind : kind.endsWith "_request" ∧ payload.Valid
deriving DecidableEq

instance : Model OperationParams :=
  .recordWhere (.required "kind" <| .required "payload" .nil)
    (fun (kind, payload, ()) => kind.endsWith "_request" ∧ OperationPayload.Valid payload)
    (fun p => ⟨(p.kind, p.payload, ()), p.requireRequestKind⟩)
    (fun ⟨(kind, payload, ()), h⟩ => ⟨kind, payload, h⟩)

structure CancelParams where
  requestId : RequestId
deriving DecidableEq

instance : Model CancelParams :=
  .record (.lit "kind" "cancel_request" <| .required "request_id" .nil)
    (fun p => (p.requestId, ())) (fun (id, ()) => ⟨id⟩)

structure ShutdownParams where
deriving DecidableEq

instance : Model ShutdownParams :=
  .record (.lit "kind" "shutdown_request" .nil) (fun _ => ()) (fun _ => ⟨⟩)

/-- Documents of different kinds are different documents. -/
theorem not_same_of_kindOf {j k : Json} {s t : String} (hexact : k.Exact)
    (hj : kindOf j = some (.str s)) (hk : kindOf k = some (.str t)) (hne : s ≠ t) : ¬j.Same k := by
  intro h
  have := kindOf_eq_of_same h hexact hk
  rw [hj, Option.some.injEq, Json.str.injEq] at this
  exact hne this

/-- `RequestParams` -/
inductive RequestParams where
  | initializeParams (params : InitializeParams)
  | operationParams (params : OperationParams)
  | shutdownParams (params : ShutdownParams)
deriving DecidableEq

theorem kindOf_operationParams (params : OperationParams) :
    kindOf (modelDump params) = some (.str params.kind.value) := rfl

instance : Model RequestParams where
  schema :=
    .iso (.union (Model.schema (α := InitializeParams))
        (.union (Model.schema (α := OperationParams)) (Model.schema (α := ShutdownParams))
          fun params _ => not_same_of_kindOf (Schema.exact _ _) (kindOf_operationParams params)
            rfl params.kind.value_ne_shutdown.1)
        fun _ params => match params with
          | .inl params => not_same_of_kindOf (Schema.exact _ _) rfl
              (kindOf_operationParams params) params.kind.value_ne_initialize.1
          | .inr params => not_same_of_kindOf (Schema.exact _ _) rfl rfl (by decide))
      (fun
        | .initializeParams params => .inl params
        | .operationParams params => .inr (.inl params)
        | .shutdownParams params => .inr (.inr params))
      (fun
        | .inl params => .initializeParams params
        | .inr (.inl params) => .operationParams params
        | .inr (.inr params) => .shutdownParams params)
      (by intro params; cases params <;> rfl)
      (by rintro (params | params | params) <;> rfl)
  notNull params := by cases params <;> exact nofun

/-- `_METHOD_REQUEST_KIND` -/
def Method.requestKind? : Method → Option OperationKind
  | inventory => some .inventoryRequest
  | discover => some .discoverRequest
  | map => some .mapRequest
  | generate => some .generateRequest
  | verify => some .verifyRequest
  | _ => none

/-- `require_method_params_match` -/
def methodParamsMatch (method : Method) (params : RequestParams) : Bool :=
  if method = .initialize_ then params matches .initializeParams _
  else if method = .shutdown then params matches .shutdownParams _
  else match method.requestKind?, params with
    | some expected, .operationParams params => params.kind = expected
    | _, _ => false

structure Request where
  id : RequestId
  method : Method
  params : RequestParams
  requireMethodParamsMatch : methodParamsMatch method params
deriving DecidableEq

instance : Model Request :=
  .recordWhere (.lit "jsonrpc" "2.0" <| .required "id" <| .required "method" <|
      .required "params" .nil)
    (fun (_, method, params, ()) => methodParamsMatch method params)
    (fun r => ⟨(r.id, r.method, r.params, ()), r.requireMethodParamsMatch⟩)
    (fun ⟨(id, method, params, ()), h⟩ => ⟨id, method, params, h⟩)

structure CancelNotification where
  params : CancelParams
deriving DecidableEq

instance : Model CancelNotification :=
  .record (.lit "jsonrpc" "2.0" <| .lit "method" "ucf.cancel" <| .required "params" .nil)
    (fun n => (n.params, ())) (fun (params, ()) => ⟨params⟩)

inductive ClientMessage where
  | request (request : Request)
  | cancel (notification : CancelNotification)
deriving DecidableEq

/-- `message.model_dump(mode="json")` -/
def ClientMessage.dump : ClientMessage → Json
  | request message => modelDump message
  | cancel notification => modelDump notification

structure InitializeResult where
  adapter : Producer
  capabilities : List CapabilitySelection
  requireUniqueCapabilities : (capabilities.map CapabilitySelection.name).Nodup
deriving DecidableEq

instance : Model InitializeResult :=
  .recordWhere (.lit "kind" "initialize_result" <|
      .lit "protocol_version" adapterProtocolVersion <| .required "adapter" <|
      .required "capabilities" .nil)
    (fun (_, capabilities, ()) => (capabilities.map CapabilitySelection.name).Nodup)
    (fun r => ⟨(r.adapter, r.capabilities, ()), r.requireUniqueCapabilities⟩)
    (fun ⟨(adapter, capabilities, ()), h⟩ => ⟨adapter, capabilities, h⟩)

structure OperationResult where
  kind : OperationKind
  payload : OperationPayload
  requireResultKind : kind.endsWith "_result" ∧ payload.Valid
deriving DecidableEq

instance : Model OperationResult :=
  .recordWhere (.required "kind" <| .required "payload" .nil)
    (fun (kind, payload, ()) => kind.endsWith "_result" ∧ OperationPayload.Valid payload)
    (fun r => ⟨(r.kind, r.payload, ()), r.requireResultKind⟩)
    (fun ⟨(kind, payload, ()), h⟩ => ⟨kind, payload, h⟩)

structure ShutdownResult where
deriving DecidableEq

instance : Model ShutdownResult :=
  .record (.lit "kind" "shutdown_result" .nil) (fun _ => ()) (fun _ => ⟨⟩)

/-- `Result` -/
inductive OperationOutcome where
  | initializeResult (result : InitializeResult)
  | operationResult (result : OperationResult)
  | shutdownResult (result : ShutdownResult)
deriving DecidableEq

theorem kindOf_operationResult (result : OperationResult) :
    kindOf (modelDump result) = some (.str result.kind.value) := rfl

instance : Model OperationOutcome where
  schema :=
    .iso (.union (Model.schema (α := InitializeResult))
        (.union (Model.schema (α := OperationResult)) (Model.schema (α := ShutdownResult))
          fun result _ => not_same_of_kindOf (Schema.exact _ _) (kindOf_operationResult result)
            rfl result.kind.value_ne_shutdown.2)
        fun _ result => match result with
          | .inl result => not_same_of_kindOf (Schema.exact _ _) rfl
              (kindOf_operationResult result) result.kind.value_ne_initialize.2
          | .inr result => not_same_of_kindOf (Schema.exact _ _) rfl rfl (by decide))
      (fun
        | .initializeResult result => .inl result
        | .operationResult result => .inr (.inl result)
        | .shutdownResult result => .inr (.inr result))
      (fun
        | .inl result => .initializeResult result
        | .inr (.inl result) => .operationResult result
        | .inr (.inr result) => .shutdownResult result)
      (by intro result; cases result <;> rfl)
      (by rintro (result | result | result) <;> rfl)
  notNull result := by cases result <;> exact nofun

structure ErrorData where
  category : ErrorCategory
  ucfCode : ProtocolCode
  requireMatchingCategory : category = errorCategoryForCode ucfCode
deriving DecidableEq

instance : Model ErrorData :=
  .recordWhere (.required "category" <| .required "ucf_code" .nil)
    (fun (category, code, ()) => category = errorCategoryForCode code)
    (fun d => ⟨(d.category, d.ucfCode, ()), d.requireMatchingCategory⟩)
    (fun ⟨(category, code, ()), h⟩ => ⟨category, code, h⟩)

/-- `StringConstraints(min_length=1, max_length=1024)` -/
abbrev ErrorMessage : Type := Checked (stringConstraints 1 (some 1024) fun _ => true)

structure ErrorObject where
  code : SafeInteger
  message : ErrorMessage
  data : ErrorData
deriving DecidableEq

instance : Model ErrorObject :=
  .record (.required "code" <| .required "message" <| .required "data" .nil)
    (fun e => (e.code, e.message, e.data, ())) (fun (code, message, data, ()) => ⟨code, message, data⟩)

/-- The categories that only the client's own side may report. -/
def ErrorCategory.isLocal : ErrorCategory → Bool
  | timeout | processFailure => true
  | _ => false

structure SuccessResponse where
  id : RequestId
  result : OperationOutcome
deriving DecidableEq

instance : Model SuccessResponse :=
  .record (.lit "jsonrpc" "2.0" <| .required "id" <| .required "result" .nil)
    (fun r => (r.id, r.result, ())) (fun (id, result, ()) => ⟨id, result⟩)

structure ErrorResponse where
  id : Option RequestId
  error : ErrorObject
  rejectLocalOnlyOutcomes : ¬error.data.category.isLocal
deriving DecidableEq

instance : Model ErrorResponse :=
  .recordWhere (.lit "jsonrpc" "2.0" <| .nullable "id" <| .required "error" .nil)
    (fun (_, error, ()) => ¬error.data.category.isLocal)
    (fun r => ⟨(r.id, r.error, ()), r.rejectLocalOnlyOutcomes⟩)
    (fun ⟨(id, error, ()), h⟩ => ⟨id, error, h⟩)

inductive ServerMessage where
  | success (response : SuccessResponse)
  | failure (response : ErrorResponse)
deriving DecidableEq

/-- `message.id` -/
def ServerMessage.id : ServerMessage → Option RequestId
  | success response => some response.id
  | failure response => response.id

/-- `message.model_dump(mode="json")` -/
def ServerMessage.dump : ServerMessage → Json
  | success response => modelDump response
  | failure response => modelDump response

end Ucf.Adapter
