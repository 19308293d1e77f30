import Ucf.Generation.Models

/-! The validation of generation documents and their text. A document here is always a value of its
closed model, so that revalidating its structure changes nothing. -/

namespace Ucf.Generation

open Adapter

/-- `GenerationErrorCode` -/
inductive GenerationErrorCode where
  | brokenReference
  | capabilityMismatch
  | contentIdentityMismatch
  | documentIdentityMismatch
  | duplicateIdentity
  | frameBudgetExceeded
  | incompletePortValues
  | invalidStructure
  | nonCanonicalOrder
  | procedureMismatch
  | producerIdentityMismatch
  | requestIdentityMismatch
  | valueKindMismatch
  | wrongTargetKind
deriving DecidableEq, Repr

/-- What the validation raises: `GenerationValidationError`, or an exception of the codecs that it
calls. -/
inductive GenerationError where
  | generation (code : GenerationErrorCode) (message location : String)
  | embedded (error : PyError)
  | profile (error : ProfileValueError)
  | frame (error : EncodeError)
deriving DecidableEq

/-- `except ValueError`, of the exceptions of the IR codec -/
def PyError.except (raised : GenerationError) : PyError → GenerationError
  | .ir _ _ _ | .validation _ => raised
  | error => .embedded error

/-! ### Frame budget -/

/-- `"x" * 64` -/
def budgetRequestId : RequestId := ⟨String.ofList (List.replicate 64 'x'), by decide⟩

/-- The payload that carries a document. -/
def adapterPayload (schemaUri : URI) (document : Json) : Except GenerationError AdapterPayload := do
  let value ← (jsonProfileToIrValue document).mapError .profile
  pure ⟨schemaUri, ⟨generationProfileVersion, by decide⟩, value⟩

/-- The text of a request that carries a payload. -/
def requestMessage (payload : AdapterPayload) : Except GenerationError Json :=
  if h : (OperationPayload.adapter payload).Valid then
    .ok (modelDump (α := Adapter.Request) ⟨budgetRequestId, .generate,
      .operationParams ⟨.generateRequest, .adapter payload, by decide, h⟩, rfl⟩)
  else .error (.embedded (.validation [⟨"value_error", []⟩]))

/-- The text of a response that carries a payload. -/
def responseMessage (payload : AdapterPayload) : Except GenerationError Json :=
  if h : (OperationPayload.adapter payload).Valid then
    .ok (modelDump (α := SuccessResponse) ⟨budgetRequestId,
      .operationResult ⟨.generateResult, .adapter payload, by decide, h⟩⟩)
  else .error (.embedded (.validation [⟨"value_error", []⟩]))

/-- The exception for a message that does not fit into a frame. -/
def budgetError (label : String) : EncodeError → GenerationError
  | .protocol ⟨_, .frameTooLarge, _, _, _⟩ => .generation .frameBudgetExceeded
      ("generation " ++ label ++ " exceeds the adapter protocol frame budget") "$"
  | error => .frame error

/-- `_validate_frame_budget` of a request -/
def validateRequestBudget (request : GenerationRequest) : Except GenerationError Unit := do
  let payload ← adapterPayload ⟨generationRequestSchemaUri, by decide⟩ (modelDump request)
  let message ← requestMessage payload
  let _ ← (encodeFrame message).mapError (budgetError "request")
  pure ()

/-! ### Requests -/

/-- `_validate_port_values` -/
def validatePortValues (values : List GenerationPortValue) (ports : List Port) (location : String) :
    Except GenerationError Unit := do
  let available := Dict.index Port.name ports
  checkEach (fun (position : Nat) (item : GenerationPortValue) => do
    let itemLocation := at_ location position
    let port ← orRaise (available.get? item.port.name) (.generation .brokenReference
      "generation value names an unknown behavior port" (itemLocation ++ ".port.name"))
    require (fitsPort port item.value) (.generation .valueKindMismatch
      "generation value kind differs from the behavior port" (itemLocation ++ ".value"))) values
  require (∀ port ∈ ports, port.required = true → port.name ∈ values.map fun item => item.port.name)
    (.generation .incompletePortValues "generation values omit a required behavior port" location)

section Documents

variable [Hashlib]

/-- `derive_generation_request_id` -/
def deriveGenerationRequestId (request : GenerationRequest) : GenerationRequestId :=
  ⟨identityDigest ((modelDump request).exclude ["id"])⟩

/-- `validate_generation_request`. The IR version of a subject is that of every Behavior IR. -/
def validateGenerationRequest (request : GenerationRequest) : Except GenerationError Unit := do
  let behavior ← (parseIrJson (canonicalIrJson request.behavior)).mapError
    (PyError.except (.generation .invalidStructure
      "generation request Behavior IR is not valid" "$.behavior"))
  require (request.behavior = behavior) (.generation .nonCanonicalOrder
    "generation request embeds noncanonical Behavior IR ordering" "$.behavior")
  require (request.id = deriveGenerationRequestId request) (.generation .requestIdentityMismatch
    "generation request ID differs from its canonical content" "$.id")
  validateRequestBudget request
  require (request.subject.documentId = behavior.documentId) (.generation .documentIdentityMismatch
    "generation subject document_id differs from the Behavior IR" "$.subject.document_id")
  require (request.subject.canonicalDigest = ⟨canonicalIrDigest behavior⟩)
    (.generation .documentIdentityMismatch
      "generation subject canonical_digest differs from the Behavior IR"
      "$.subject.canonical_digest")
  let entities := Dict.index Entity.id behavior.entities
  let subject ← orRaise (entities.get? request.subject.targetId) (.generation .brokenReference
    "generation subject does not resolve in the Behavior IR" "$.subject")
  let wrongKind : GenerationError := .generation .wrongTargetKind
    "generation subject kind differs from the resolved action" "$.subject.target_kind"
  require (subject.kind = request.subject.targetKind) wrongKind
  match subject with
  | .action action =>
    validatePortValues request.inputs.items action.inputPorts "$.inputs"
    validatePortValues request.expectedOutputs.items action.outputPorts "$.expected_outputs"
  | _ => throw wrongKind

/-! ### Results -/

/-- `derive_generation_result_id` -/
def deriveGenerationResultId (result : GenerationResult) : GenerationResultId :=
  ⟨identityDigest ((modelDump result).exclude ["id"])⟩

/-- `_validate_frame_budget` of a result -/
def validateResultBudget (result : GenerationResult) : Except GenerationError Unit := do
  let payload ← adapterPayload ⟨generationResultSchemaUri, by decide⟩ (modelDump result)
  let message ← responseMessage payload
  let _ ← (encodeFrame message).mapError (budgetError "result")
  pure ()

/-- `validate_generation_result_structure` -/
def validateGenerationResultStructure (result : GenerationResult) : Except GenerationError Unit := do
  validateGenerationRequest result.request
  require (result.id = deriveGenerationResultId result) (.generation .contentIdentityMismatch
    "generation result ID differs from its canonical content" "$.id")
  validateResultBudget result

/-! ### Text -/

/-- `canonical_generation_json` of a result -/
def canonicalGenerationJson (result : GenerationResult) : Except GenerationError (List UInt8) := do
  validateGenerationResultStructure result
  pure (utf8Encode (modelDump result).canonicalLine)

/-- `parse_generation_result_json` -/
def parseGenerationResultJson (payload : List UInt8) : Except GenerationError GenerationResult := do
  let text ← orRaise (utf8Decode payload)
    (.embedded (.ir .invalidJson "document is not valid UTF-8" "$"))
  let decoded ← (decodeStrictJsonObject text).mapError .embedded
  let result ← (modelValidate decoded).mapError fun issues => .embedded (.validation issues)
  validateGenerationResultStructure result
  pure result

end Documents

end Ucf.Generation
