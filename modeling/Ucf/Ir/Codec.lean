import Mathlib.Data.Prod.Lex
import Ucf.Errors
import Ucf.Ir.Validation
import Ucf.Library.JsonText

/-! Reading and writing Behavior IR: the strict JSON profile, the canonical order of a document's
collections, and the parser. -/

namespace Ucf

/-- `MAX_JSON_NESTING` -/
def maxJsonNesting : Nat := 128

/-- `_validate_number_profile` for a value at a location and a depth, in document order. -/
def validateNumberProfile (fuel : Nat) (depth : Nat) (location : String) (j : Json) :
    Except PyError Unit :=
  match fuel with
  | 0 => .error (.ir .invalidStructure
      "document exceeds the maximum JSON nesting depth of 128" location)
  | fuel + 1 =>
    if maxJsonNesting < depth then
      .error (.ir .invalidStructure
        "document exceeds the maximum JSON nesting depth of 128" location)
    else match j with
    | .obj fields => checkEach (fun _ field =>
        validateNumberProfile fuel (depth + 1) (location ++ "." ++ field.1) field.2) fields
    | .arr items => checkEach (fun index item =>
        validateNumberProfile fuel (depth + 1) (at_ location index) item) items
    | .float _ => .error (.ir .invalidValue
        "JSON fractional numbers are not part of the IR v1 value profile" location)
    | _ => .ok ()

/-- What `decode_strict_json_object` raises for a text that the reader refuses. The messages of the
standard library's decoder are not modelled. -/
def readErrorOf : Json.ReadError → PyError
  | .duplicateMember name =>
    .ir .duplicateJsonMember ("duplicate object member '" ++ name ++ "'") "$"
  | .nonFiniteNumber token =>
    .ir .invalidValue ("non-finite JSON number '" ++ token ++ "' is not permitted") "$"
  | .nonCanonicalInteger token =>
    .ir .invalidValue ("non-canonical JSON integer '" ++ token ++ "' is not permitted") "$"
  | .unsafeInteger =>
    .ir .invalidValue "JSON integer is outside the cross-runtime exact range" "$"
  | .loneSurrogate => .validation [⟨"json_invalid", []⟩]
  | .malformed => .ir .invalidJson "" ""

/-- `decode_strict_json_object` -/
def decodeStrictJsonObject (text : List Char) : Except PyError Json := do
  require (text.head? ≠ some (Char.ofNat 0xfeff))
    (.ir .invalidJson "UTF-8 BOM is not permitted" "$")
  let decoded ← (Json.loads text).mapError readErrorOf
  match decoded with
  | .obj _ =>
    validateNumberProfile (decoded.height + 1) 0 "$" decoded
    pure decoded
  | _ => throw (.ir .invalidStructure "document root must be an object" "$")

/-- `decode_ir_json` -/
def decodeIrJson (text : List Char) : Except PyError Json := do
  let decoded ← decodeStrictJsonObject text
  match decoded.get? "ir_version" with
  | some (.str version) =>
    require (matchVersion version.toList)
      (.ir .malformedVersion "ir_version must be normalized major.minor.patch" "$.ir_version")
    require (version = currentIrVersion) (.ir .unsupportedVersion
      ("unsupported IR version '" ++ version ++ "'; expected '1.0.0'") "$.ir_version")
    pure decoded
  | _ =>
    throw (.ir .malformedVersion "ir_version must be normalized major.minor.patch" "$.ir_version")

/-- `_format_location` -/
def formatLocation (loc : List Coordinate) : String :=
  loc.foldl (fun path segment =>
    match segment with
    | .index position => at_ path position
    | .name name => path ++ "." ++ name) "$"

/-- `_model_error_code` -/
def modelErrorCode (issues : List Issue) : IRErrorCode :=
  let has type := issues.any fun issue => issue.type = type
  if has "extra_forbidden" then .unknownField
  else if has "value_error" then .invalidValue
  else if has "greater_than_equal" || has "less_than_equal" then .invalidValue
  else if issues.any fun issue => issue.type = "string_pattern_mismatch" &&
      issue.loc.any fun c => c = .name "decimal" || c = .name "timestamp" then .invalidValue
  else .invalidStructure

/-- What `parse_ir_json` raises for a document that is not a Behavior IR model. The message is the
library's text for the first issue, kept as its type. -/
def modelError (issues : List Issue) : PyError :=
  match issues with
  | issue :: _ => .ir (modelErrorCode issues) issue.type (formatLocation issue.loc)
  | [] => .stopIteration

/-- `parse_ir_json` -/
def parseIrJson (text : List Char) : Except PyError BehaviorIR := do
  let decoded ← decodeIrJson text
  let document ← (modelValidate decoded : Except (List Issue) BehaviorIR).mapError modelError
  validateIrSemantics document
  pure document

/-! ### Canonical order -/

/-- `_REFERENCE_SET_FIELDS` -/
def referenceSetFields : List String :=
  ["applies_to", "bindings", "effects", "invariants", "observations", "requires", "roots",
    "subjects"]

/-- `_PORT_SET_FIELDS` -/
def portSetFields : List String := ["input_ports", "output_ports"]

/-- A string member of an object, for the sort keys. -/
def stringMember (name : String) (j : Json) : String :=
  match j.get? name with
  | some (.str s) => s
  | _ => ""

/-- The order that `_canonicalize` gives to the items of one field. -/
def orderItems (ownerKind : Option Json) (field : String) (items : List Json) : List Json :=
  if field = "entities" then
    sortedBy (fun item => toLex (stringMember "kind" item, stringMember "id" item)) items
  else if field ∈ portSetFields then sortedBy (stringMember "name") items
  else if field = "entries" ∧ ownerKind matches some (.str "record") then
    sortedBy (stringMember "name") items
  else if field ∈ referenceSetFields then
    sortedBy (fun item => toLex (stringMember "target_kind" item, stringMember "target_id" item))
      items
  else items

mutual

/-- `_canonicalize` -/
def canonicalize (ownerKind : Option Json) (field : String) : Json → Json
  | .obj fields => .obj (canonicalizeFields (kindOf (.obj fields)) fields)
  | .arr items => .arr (orderItems ownerKind field (canonicalizeItems ownerKind field items))
  | j => j

def canonicalizeItems (ownerKind : Option Json) (field : String) : List Json → List Json
  | [] => []
  | item :: items =>
    canonicalize ownerKind field item :: canonicalizeItems ownerKind field items

def canonicalizeFields (kind : Option Json) : List (String × Json) → List (String × Json)
  | [] => []
  | (name, value) :: fields =>
    (name, canonicalize kind name value) :: canonicalizeFields kind fields

end

/-- The JSON value that `canonical_ir_json` writes. -/
def canonicalIrValue (document : BehaviorIR) : Json := canonicalize none "" (modelDump document)

/-- `canonical_ir_json` -/
def canonicalIrJson (document : BehaviorIR) : List Char := (canonicalIrValue document).canonicalLine

/-- `hashlib.sha256(canonical_ir_json(document).encode("ascii")).hexdigest()` -/
def canonicalIrDigest [Hashlib] (document : BehaviorIR) : DigestValue :=
  identityDigest (canonicalIrValue document)

end Ucf
