import Ucf.Adapter.Codec
import Ucf.Adapter.ProfileValues
import Ucf.Evidence.Validation

/-! The documents of the generation profile: what an adapter is asked to generate, and the files that
it answers with. -/

namespace Ucf.Generation

/-- `GENERATION_PROFILE_VERSION` -/
def generationProfileVersion : String := "1.0.0"

/-- `GENERATION_CAPABILITY` -/
def generationCapability : String := "org.ucf.adapter.generation"

/-- `GENERATION_REQUEST_SCHEMA_URI` -/
def generationRequestSchemaUri : String := "urn:ucf:generation:request:1.0.0"

/-- `GENERATION_RESULT_SCHEMA_URI` -/
def generationResultSchemaUri : String := "urn:ucf:generation:result:1.0.0"

/-- `GENERATION_PROFILE_PROCEDURE_URI` -/
def generationProfileProcedureUri : String := "urn:ucf:generation:manifest:1.0.0"

/-- `MAX_GENERATED_FILES` -/
def maxGeneratedFiles : Nat := 64

/-- `MAX_GENERATED_FILE_BYTES` -/
def maxGeneratedFileBytes : Nat := 131072

/-- `MAX_GENERATED_TOTAL_BYTES` -/
def maxGeneratedTotalBytes : Nat := 524288

/-- `MAX_GENERATED_PATH_SEGMENTS` -/
def maxGeneratedPathSegments : Nat := 16

/-- `MAX_VERIFICATION_ARGUMENTS` -/
def maxVerificationArguments : Nat := 32

abbrev GenerationRequestId : Type := ContentId "generation-request"

abbrev GenerationResultId : Type := ContentId "generation-result"

/-! ### Requests -/

structure GenerationEnvironment where
  identityUri : VersionedURN
  revision : Digest
deriving DecidableEq

instance : Model GenerationEnvironment :=
  .record (.lit "kind" "generation_environment" <| .required "identity_uri" <|
      .required "revision" .nil)
    (fun e => (e.identityUri, e.revision, ())) (fun (uri, revision, ()) => ⟨uri, revision⟩)

/-- A value for a port; `validate_value` makes the checks of an `ExecutionPortValue`. -/
structure GenerationPortValue where
  port : PortRef
  value : IRValue
  valid : isExecutionValue value

instance : DecidableEq GenerationPortValue := fun v w =>
  decidable_of_iff (v.port = w.port ∧ v.value = w.value) (by cases v; cases w; simp)

instance : Model GenerationPortValue :=
  .recordWhere (.lit "kind" "generation_port_value" <| .required "port" <| .required "value" .nil)
    (fun (_, value, ()) => isExecutionValue value)
    (fun v => ⟨(v.port, v.value, ()), v.valid⟩) (fun ⟨(port, value, ()), h⟩ => ⟨port, value, h⟩)

/-- The key by which port values are sorted. -/
def portValueKey (value : GenerationPortValue) : String ×ₗ String ×ₗ String ×ₗ String :=
  toLex (value.port.owner.targetKind.value, toLex (value.port.owner.targetId.val,
    toLex (value.port.direction.value, value.port.name.val)))

/-- `GenerationRequest._validate_port_values` -/
def validateRequestValues (subject : BehaviorEntityRef) (values : List GenerationPortValue)
    (direction : Direction) : Except String Unit := do
  let about (message : String) := "generation " ++ direction.value ++ " " ++ message
  requireCanonical (values.map portValueKey) (about "values contain duplicate ports")
    (about "values are not in canonical order")
  checkEach (fun (_ : Nat) (value : GenerationPortValue) => do
    require (value.port.direction = direction) (about "value has wrong direction")
    require (value.port.owner.targetKind = subject.targetKind ∧
        value.port.owner.targetId = subject.targetId)
      (about "value owner differs from subject")) values

def isRecord : IRValue → Bool
  | .record _ => true
  | _ => false

abbrev RecordValue : Type := { value : IRValue // isRecord value = true }

instance : Model RecordValue := .refine "literal_error" fun value : IRValue => isRecord value = true

/-- The message for a profile configuration that is no document; every exception of
`validate_ir_value` speaks of a duplicate. -/
def configurationMessage : ProfileValueError → String
  | .raised _ | .valueError "profile wire record has duplicate names" =>
    "generation profile configuration contains duplicate names"
  | .valueError _ => "generation profile configuration is not canonical"

/-- `GenerationRequest.validate_profile_coordinates` -/
def validateRequestCoordinates (capability profileCapability : CapabilitySelection)
    (subject : BehaviorEntityRef) (inputs expectedOutputs : List GenerationPortValue)
    (profileConfiguration : IRValue) : Except String Unit := do
  require (capability.name.val = generationCapability ∧
      capability.version.val = generationProfileVersion)
    "generation request requires the exact generation capability"
  require (profileCapability.name.val ≠ generationCapability ∧
      profileCapability.version.val = generationProfileVersion)
    "generation request requires a distinct exact profile capability"
  require (subject.targetKind = .action) "generation request currently supports an action subject"
  validateRequestValues subject inputs .input
  validateRequestValues subject expectedOutputs .output
  match ← (irValueToJsonProfile profileConfiguration).mapError configurationMessage with
  | .obj _ => pure ()
  | _ => throw "generation profile configuration must be a record"

structure GenerationRequest where
  id : GenerationRequestId
  capability : CapabilitySelection
  profileCapability : CapabilitySelection
  adapterProcedureUri : VersionedURN
  behavior : BehaviorIR
  subject : BehaviorEntityRef
  inputs : Tuple 0 maxGeneratedFiles GenerationPortValue
  expectedOutputs : Tuple 1 maxGeneratedFiles GenerationPortValue
  environment : GenerationEnvironment
  profileConfiguration : RecordValue
  valid : validateRequestCoordinates capability profileCapability subject inputs.items
    expectedOutputs.items profileConfiguration.val = .ok ()
deriving DecidableEq

instance : Model GenerationRequest :=
  .recordWhere (.lit "kind" "generation_request" <|
      .lit "generation_version" generationProfileVersion <|
      .lit "schema_uri" generationRequestSchemaUri <| .required "id" <| .required "capability" <|
      .required "profile_capability" <|
      .lit "profile_procedure_uri" generationProfileProcedureUri <|
      .required "adapter_procedure_uri" <| .required "behavior" <| .required "subject" <|
      .required "inputs" <| .required "expected_outputs" <| .required "environment" <|
      .required "profile_configuration" .nil)
    (fun (_, capability, profile, _, _, subject, inputs, outputs, _, configuration, ()) =>
      validateRequestCoordinates capability profile subject inputs.items outputs.items
        configuration.val = .ok ())
    (fun r => ⟨(r.id, r.capability, r.profileCapability, r.adapterProcedureUri, r.behavior,
      r.subject, r.inputs, r.expectedOutputs, r.environment, r.profileConfiguration, ()), r.valid⟩)
    (fun ⟨(id, capability, profile, uri, behavior, subject, inputs, outputs, environment,
        configuration, ()), h⟩ =>
      ⟨id, capability, profile, uri, behavior, subject, inputs, outputs, environment,
        configuration, h⟩)

/-! ### Files -/

/-- `_WINDOWS_RESERVED_NAMES` -/
def windowsReservedNames : List String :=
  ["aux", "con", "nul", "prn"] ++ (List.range 9).map (fun i => "com" ++ toString (i + 1)) ++
    (List.range 9).map fun i => "lpt" ++ toString (i + 1)

/-- `casefold` of a character of a path, which is an ASCII character -/
def casefoldChar (c : Char) : Char := if 'A' ≤ c ∧ c ≤ 'Z' then Char.ofNat (c.toNat + 32) else c

/-- `_PATH_SEGMENT_PATTERN` -/
def matchPathSegment (segment : List Char) : Bool :=
  matchUrnPart Adapter.isAlnum (fun c => Adapter.isAlnum c || c ∈ ['.', '_', '-']) segment

/-- The stem of a name, with which a file of a device begins on Windows. -/
def stem (segment : List Char) : List Char := segment.takeWhile fun c => c ≠ '.'

/-- What `GeneratedFile.validate_path` asks of each segment -/
def isSafeSegment (segment : List Char) : Bool :=
  segment ≠ [] && segment ≠ ['.'] && segment ≠ ['.', '.'] && segment.getLast? ≠ some '.' &&
    matchPathSegment segment &&
    String.ofList ((stem segment).map casefoldChar) ∉ windowsReservedNames

/-- `GeneratedFile.validate_path` -/
def validatePath (value : List Char) : Bool :=
  value.head? ≠ some '/' && '\\' ∉ value && Char.ofNat 0 ∉ value &&
    (value.splitOn '/').length ≤ maxGeneratedPathSegments && (value.splitOn '/').all isSafeSegment

/-- `GeneratedPath`, with `validate_path` -/
abbrev GeneratedPath : Type :=
  Checked (andThen (stringConstraints 1 (some 240) fun _ => true) validatePath)

/-- `path.split("/")` -/
def splitPath (path : String) : List String := (path.toList.splitOn '/').map String.ofList

/-- `"/".join(segments)` -/
def joinPath (segments : List String) : String :=
  String.ofList (['/'].intercalate (segments.map String.toList))

/-- `[a-z0-9!#$&^_.+-]` -/
def isMediaTypeChar (c : Char) : Bool :=
  isLowerAlnum c || c ∈ ['!', '#', '$', '&', '^', '_', '.', '+', '-']

/-- The pattern of `MediaType` -/
def matchMediaType (cs : List Char) : Bool :=
  match splitOn '/' cs with
  | [kind, subtype] =>
    matchUrnPart isLowerAlnum isMediaTypeChar kind && matchUrnPart isLowerAlnum isMediaTypeChar subtype
  | _ => false

abbrev MediaType : Type := Checked (stringConstraints 3 (some 127) matchMediaType)

/-- `Annotated[SafeInteger, Field(ge=0, le=MAX_GENERATED_FILE_BYTES)]` -/
abbrev ByteSize : Type := { n : Nat // 0 ≤ n ∧ n ≤ maxGeneratedFileBytes }

instance : Model ByteSize := ⟨.nat 0 maxGeneratedFileBytes (by decide), fun _ => nofun⟩

abbrev Content : Type :=
  Checked (stringConstraints 0 (some maxGeneratedFileBytes) fun _ => true)

section Files

variable [Hashlib]

/-- `GeneratedFile.validate_content_identity` -/
def validateContentIdentity (byteSize : ByteSize) (contentDigest : Digest) (content : Content) :
    Except String Unit := do
  require (content.val.utf8ByteSize = byteSize.val)
    "generated file byte size differs from its UTF-8 content"
  require (Hashlib.sha256 (.text content.val) = contentDigest.value)
    "generated file content digest differs from its UTF-8 content"

structure GeneratedFile where
  path : GeneratedPath
  mediaType : MediaType
  byteSize : ByteSize
  contentDigest : Digest
  content : Content
  valid : validateContentIdentity byteSize contentDigest content = .ok ()
deriving DecidableEq

instance : Model GeneratedFile :=
  .recordWhere (.lit "kind" "generated_file" <| .required "path" <|
      .lit "ownership" "generator_owned" <| .required "media_type" <| .lit "encoding" "utf-8" <|
      .required "byte_size" <| .required "content_digest" <| .required "content" .nil)
    (fun (_, _, size, digest, content, ()) => validateContentIdentity size digest content = .ok ())
    (fun f => ⟨(f.path, f.mediaType, f.byteSize, f.contentDigest, f.content, ()), f.valid⟩)
    (fun ⟨(path, mediaType, size, digest, content, ()), h⟩ =>
      ⟨path, mediaType, size, digest, content, h⟩)

end Files

/-! ### Results -/

abbrev VerificationArgument : Type :=
  Checked (stringConstraints 1 (some 512) fun _ => true)

/-- `GenerationVerification.validate_argv` -/
def isSafeArgv (argv : Tuple 1 maxVerificationArguments VerificationArgument) : Prop :=
  ∀ argument ∈ argv.items, Char.ofNat 0 ∉ argument.val.toList ∧ '\n' ∉ argument.val.toList

instance (argv : Tuple 1 maxVerificationArguments VerificationArgument) :
    Decidable (isSafeArgv argv) := inferInstanceAs (Decidable (∀ _ ∈ _, _))

abbrev Argv : Type := { argv : Tuple 1 maxVerificationArguments VerificationArgument //
  isSafeArgv argv }

instance : Model Argv := .refine "value_error" isSafeArgv

structure GenerationVerification where
  procedureUri : VersionedURN
  argv : Argv
deriving DecidableEq

instance : Model GenerationVerification :=
  .record (.lit "kind" "generation_verification" <| .required "procedure_uri" <|
      .lit "working_directory" "implementation_root" <| .required "argv" .nil)
    (fun v => (v.procedureUri, v.argv, ())) (fun (uri, argv, ()) => ⟨uri, argv⟩)

section Results

variable [Hashlib]

/-- `path.casefold()` -/
def casefold (path : String) : String := String.ofList (path.toList.map casefoldChar)

/-- `"/".join(segments[:position]) for position in range(1, len(segments))` -/
def ancestors (path : String) : List String :=
  let segments := splitPath path
  ((List.range segments.length).drop 1).map fun position => joinPath (segments.take position)

/-- `GenerationResult.validate_profile_coordinates` -/
def validateResultCoordinates (request : GenerationRequest)
    (capability profileCapability : CapabilitySelection) (procedureUri : VersionedURN)
    (files : List GeneratedFile) : Except String Unit := do
  require (capability = request.capability)
    "generation result generic capability differs from the request"
  require (profileCapability = request.profileCapability)
    "generation result profile capability differs from the request"
  require (procedureUri = request.adapterProcedureUri)
    "generation result procedure differs from the request"
  let paths := files.map fun file => file.path.val
  let foldedPaths := paths.map casefold
  require foldedPaths.Nodup "generation result contains duplicate generated paths"
  require (∀ path ∈ paths, ∀ ancestor ∈ ancestors (casefold path), ancestor ∉ foldedPaths)
    "generation result contains a file-directory ancestor collision"
  require (paths = sortedBy id paths) "generation result files are not in canonical path order"
  require ((files.map fun file => file.byteSize.val).sum ≤ maxGeneratedTotalBytes)
    "generation result exceeds the total generated byte limit"

structure GenerationResult where
  id : GenerationResultId
  request : GenerationRequest
  producer : Producer
  capability : CapabilitySelection
  profileCapability : CapabilitySelection
  procedureUri : VersionedURN
  files : Tuple 1 maxGeneratedFiles GeneratedFile
  verification : GenerationVerification
  valid : validateResultCoordinates request capability profileCapability procedureUri
    files.items = .ok ()
deriving DecidableEq

instance : Model GenerationResult :=
  .recordWhere (.lit "kind" "generation_result" <|
      .lit "generation_version" generationProfileVersion <|
      .lit "schema_uri" generationResultSchemaUri <| .required "id" <|
      .lit "status" "complete" <| .required "request" <| .required "producer" <|
      .required "capability" <| .required "profile_capability" <| .required "procedure_uri" <|
      .required "files" <| .required "verification" .nil)
    (fun (_, request, _, capability, profile, uri, files, _, ()) =>
      validateResultCoordinates request capability profile uri files.items = .ok ())
    (fun r => ⟨(r.id, r.request, r.producer, r.capability, r.profileCapability, r.procedureUri,
      r.files, r.verification, ()), r.valid⟩)
    (fun ⟨(id, request, producer, capability, profile, uri, files, verification, ()), h⟩ =>
      ⟨id, request, producer, capability, profile, uri, files, verification, h⟩)

end Results

end Ucf.Generation
