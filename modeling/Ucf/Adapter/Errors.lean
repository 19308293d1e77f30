import Mathlib.Data.Prod.Lex
import Ucf.Scalars

/-! The outcomes that the adapter protocol names, each with its category and its JSON-RPC number. -/

namespace Ucf.Adapter

inductive ErrorCategory where
  | protocolFailure
  | adapterFailure
  | cancelled
  | timeout
  | processFailure
deriving DecidableEq, Repr

def ErrorCategory.value : ErrorCategory → String
  | protocolFailure => "protocol_failure"
  | adapterFailure => "adapter_failure"
  | cancelled => "cancelled"
  | timeout => "timeout"
  | processFailure => "process_failure"

instance : Model ErrorCategory :=
  .enum [.protocolFailure, .adapterFailure, .cancelled, .timeout, .processFailure]
    ErrorCategory.value

inductive ProtocolCode where
  | parseError
  | invalidMessage
  | invalidParams
  | methodNotFound
  | frameTooLarge
  | truncatedFrame
  | incompatibleVersion
  | invalidLifecycle
  | duplicateRequestId
  | tooManyPending
  | sessionRequestLimit
  | duplicateCapability
  | unsupportedCapability
  | capabilityNotNegotiated
  | correlationFailure
  | requestCancelled
  | operationFailed
  | internalError
  | initializeTimeout
  | operationTimeout
  | writeTimeout
  | cancelTimeout
  | shutdownTimeout
  | startFailed
  | unexpectedEof
  | processExited
  | ioFailure
  | terminationFailed
  | invalidAdapterOutput
deriving DecidableEq, Repr

def ProtocolCode.value : ProtocolCode → String
  | parseError => "parse_error"
  | invalidMessage => "invalid_message"
  | invalidParams => "invalid_params"
  | methodNotFound => "method_not_found"
  | frameTooLarge => "frame_too_large"
  | truncatedFrame => "truncated_frame"
  | incompatibleVersion => "incompatible_version"
  | invalidLifecycle => "invalid_lifecycle"
  | duplicateRequestId => "duplicate_request_id"
  | tooManyPending => "too_many_pending"
  | sessionRequestLimit => "session_request_limit"
  | duplicateCapability => "duplicate_capability"
  | unsupportedCapability => "unsupported_capability"
  | capabilityNotNegotiated => "capability_not_negotiated"
  | correlationFailure => "correlation_failure"
  | requestCancelled => "request_cancelled"
  | operationFailed => "operation_failed"
  | internalError => "internal_error"
  | initializeTimeout => "initialize_timeout"
  | operationTimeout => "operation_timeout"
  | writeTimeout => "write_timeout"
  | cancelTimeout => "cancel_timeout"
  | shutdownTimeout => "shutdown_timeout"
  | startFailed => "start_failed"
  | unexpectedEof => "unexpected_eof"
  | processExited => "process_exited"
  | ioFailure => "io_failure"
  | terminationFailed => "termination_failed"
  | invalidAdapterOutput => "invalid_adapter_output"

/-- `tuple(ProtocolCode)` -/
def ProtocolCode.all : List ProtocolCode :=
  [.parseError, .invalidMessage, .invalidParams, .methodNotFound, .frameTooLarge, .truncatedFrame,
    .incompatibleVersion, .invalidLifecycle, .duplicateRequestId, .tooManyPending,
    .sessionRequestLimit, .duplicateCapability, .unsupportedCapability, .capabilityNotNegotiated,
    .correlationFailure, .requestCancelled, .operationFailed, .internalError, .initializeTimeout,
    .operationTimeout, .writeTimeout, .cancelTimeout, .shutdownTimeout, .startFailed,
    .unexpectedEof, .processExited, .ioFailure, .terminationFailed, .invalidAdapterOutput]

instance : Model ProtocolCode := .enum ProtocolCode.all ProtocolCode.value

/-- `error_category_for_code` -/
def errorCategoryForCode : ProtocolCode → ErrorCategory
  | .requestCancelled => .cancelled
  | .operationFailed | .internalError => .adapterFailure
  | .initializeTimeout | .operationTimeout | .writeTimeout | .cancelTimeout | .shutdownTimeout =>
    .timeout
  | .startFailed | .unexpectedEof | .processExited | .ioFailure | .terminationFailed
  | .invalidAdapterOutput => .processFailure
  | _ => .protocolFailure

/-- `json_rpc_error_code` -/
def jsonRpcErrorCode : ProtocolCode → SafeInteger
  | .parseError => ⟨-32700, by decide⟩
  | .invalidMessage => ⟨-32600, by decide⟩
  | .methodNotFound => ⟨-32601, by decide⟩
  | .invalidParams => ⟨-32602, by decide⟩
  | .internalError => ⟨-32603, by decide⟩
  | _ => ⟨-32000, by decide⟩

/-- `version_at_least`: the segments are compared by length, then as text. -/
def versionAtLeast (actual minimum : List Char) : Bool :=
  let key := fun version => (splitOn '.' version).map fun segment =>
    toLex (segment.length, String.ofList segment)
  decide (key minimum ≤ key actual)

end Ucf.Adapter
