import Ucf.Adapter.Models
import Ucf.Ir.RoundTrip
import Ucf.Library.Bytes

/-! Frames: a message as one line of bytes, and a line of bytes as a message. -/

namespace Ucf.Adapter

/-- `AdapterProtocolError`; its constructor refuses a category that is not the code's. -/
structure AdapterProtocolError where
  category : ErrorCategory
  code : ProtocolCode
  message : String
  requestId : Option RequestId
  matches_ : category = errorCategoryForCode code

instance : DecidableEq AdapterProtocolError := fun e f =>
  decidable_of_iff (e.category = f.category ∧ e.code = f.code ∧ e.message = f.message ∧
    e.requestId = f.requestId) (by cases e; cases f; simp)

/-- A protocol failure with a message. -/
def protocolFailure (code : ProtocolCode) (message : String) (requestId : Option RequestId := none)
    (h : .protocolFailure = errorCategoryForCode code := by rfl) : AdapterProtocolError :=
  ⟨.protocolFailure, code, message, requestId, h⟩

/-- A response that is not one. -/
def invalidAdapterOutput (message : String) (requestId : Option RequestId := none) :
    AdapterProtocolError :=
  ⟨.processFailure, .invalidAdapterOutput, message, requestId, rfl⟩

/-- What `encode_frame` raises. -/
inductive EncodeError where
  | protocol (error : AdapterProtocolError)
  | typeError
deriving DecidableEq

/-- The line feed. -/
def lf : UInt8 := 10

/-- `encode_frame` of a message with this dump. -/
def encodeFrame (dumped : Json) : Except EncodeError (List UInt8) := do
  let frame ← orRaise (asciiEncode dumped.canonicalLine) .typeError
  require (frame.length ≤ maxFrameBytes)
    (.protocol (protocolFailure .frameTooLarge "encoded frame exceeds 1048576 bytes"))
  pure frame

/-- `_recover_request_id` -/
def recoverRequestId (decoded : Json) : Option RequestId :=
  match decoded.get? "id" with
  | some (.str value) =>
    if h : stringConstraints 1 (some 64) matchRequestId value = none then some ⟨value, h⟩ else none
  | _ => none

/-- The protocol failure for what the strict decoder raises. A text with half of a surrogate pair
passes that decoder and is refused by the model instead. -/
def decodeError : PyError → AdapterProtocolError
  | .ir .invalidStructure "document root must be an object" _ =>
    protocolFailure .invalidMessage "document root must be an object"
  | .ir _ message _ => protocolFailure .parseError message
  | _ => protocolFailure .invalidParams "json_invalid"

/-- `_decode_frame_object` -/
def decodeFrameObject (frame : List UInt8) : Except AdapterProtocolError Json := do
  require (frame.length ≤ maxFrameBytes)
    (protocolFailure .frameTooLarge "frame exceeds 1048576 bytes")
  require (frame.getLast? = some lf)
    (protocolFailure .truncatedFrame "frame is not terminated by LF")
  require (lf ∉ frame.dropLast)
    (protocolFailure .invalidMessage "frame contains an interior LF delimiter")
  require (frame ≠ [lf]) (protocolFailure .invalidMessage "empty protocol frame")
  let text ← orRaise (utf8Decode frame.dropLast)
    (protocolFailure .parseError "document is not valid UTF-8")
  (decodeStrictJsonObject text).mapError decodeError

/-- `set(decoded) == expected_fields` -/
def fieldsAre (decoded : Json) (expected : List String) : Bool :=
  match decoded with
  | .obj fields => (fields.all fun field => field.1 ∈ expected) &&
      expected.all fun name => name ∈ fields.map Prod.fst
  | _ => false

/-- `isinstance(value, dict)` -/
def isObject : Option Json → Bool
  | some (.obj _) => true
  | _ => false

/-- The text for a validation error, kept as the type of its first issue. -/
def firstIssue (issues : List Issue) : String := (issues.head?.map Issue.type).getD ""

/-- `decode_request_frame` -/
def decodeRequestFrame (frame : List UInt8) : Except AdapterProtocolError ClientMessage := do
  let decoded ← decodeFrameObject frame
  let requestId := recoverRequestId decoded
  match decoded.get? "method" with
  | some (.str value) =>
    let method ← orRaise (Method.all.find? fun method => method.value = value)
      (protocolFailure .methodNotFound ("unknown method '" ++ value ++ "'") requestId)
    let isNotification := decoded.get? "id" = none
    require (fieldsAre decoded (if isNotification then ["jsonrpc", "method", "params"]
        else ["jsonrpc", "id", "method", "params"]))
      (protocolFailure .invalidMessage "request envelope fields are not exact" requestId)
    require (decoded.get? "jsonrpc" = some (.str "2.0") ∧ isObject (decoded.get? "params"))
      (protocolFailure .invalidMessage "invalid JSON-RPC marker or params" requestId)
    let invalid := fun issues => protocolFailure .invalidParams (firstIssue issues) requestId
    if isNotification then do
      require (method = .cancel)
        (protocolFailure .invalidMessage "only ucf.cancel may be a notification")
      let notification ← (modelValidate decoded).mapError invalid
      pure (.cancel notification)
    else do
      require (method ≠ .cancel ∧ requestId ≠ none)
        (protocolFailure .invalidMessage "request id must be a bounded ASCII string" requestId)
      let request ← (modelValidate decoded).mapError invalid
      pure (.request request)
  | _ =>
    throw (protocolFailure .invalidMessage "request method must be a known string" requestId)

/-- `decode_response_frame` -/
def decodeResponseFrame (frame : List UInt8) : Except AdapterProtocolError ServerMessage := do
  let decoded ← decodeFrameObject frame
  let hasResult := decoded.get? "result" ≠ none
  let hasError := decoded.get? "error" ≠ none
  require (¬(hasResult ↔ hasError))
    (invalidAdapterOutput "response must contain exactly one of result or error")
  require (fieldsAre decoded (if hasResult then ["jsonrpc", "id", "result"]
      else ["jsonrpc", "id", "error"]) ∧ decoded.get? "jsonrpc" = some (.str "2.0"))
    (invalidAdapterOutput "response envelope fields are not exact")
  let requestId := recoverRequestId decoded
  require (¬(hasResult ∧ requestId = none))
    (invalidAdapterOutput "success response id must be a bounded ASCII string")
  require (¬(¬hasResult ∧ decoded.get? "id" ≠ some .null ∧ requestId = none))
    (invalidAdapterOutput "error response id must be null or a bounded ASCII string")
  let invalid := fun issues => invalidAdapterOutput (firstIssue issues) requestId
  if hasResult then do
    let response ← (modelValidate decoded).mapError invalid
    pure (.success response)
  else do
    let response : ErrorResponse ← (modelValidate decoded).mapError invalid
    require (response.error.code = jsonRpcErrorCode response.error.data.ucfCode)
      (invalidAdapterOutput "JSON-RPC error code does not match error.data.ucf_code" requestId)
    pure (.failure response)

end Ucf.Adapter
