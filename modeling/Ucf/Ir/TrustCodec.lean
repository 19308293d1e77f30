import Ucf.Ir.TrustValidation

/-! Reading and writing Trust IR. -/

namespace Ucf

/-- `decode_trust_ir_json` -/
def decodeTrustIrJson (text : List Char) : Except PyError Json := do
  let decoded ← decodeStrictJsonObject text
  match decoded.get? "trust_ir_version" with
  | some (.str version) =>
    require (matchVersion version.toList) (.ir .malformedVersion
      "trust_ir_version must be normalized major.minor.patch" "$.trust_ir_version")
    require (version = currentTrustIrVersion) (.ir .unsupportedVersion
      ("unsupported trust IR version '" ++ version ++ "'; expected '1.0.0'") "$.trust_ir_version")
    pure decoded
  | _ => throw (.ir .malformedVersion "trust_ir_version must be normalized major.minor.patch"
      "$.trust_ir_version")

/-- What `parse_trust_ir_json` raises for a document that is not a Trust IR model. -/
def trustModelError (issues : List Issue) : PyError :=
  match issues with
  | issue :: _ =>
    let code :=
      if issues.any fun issue => issue.loc.any fun c => c = .name "confidence" then .invalidValue
      else modelErrorCode issues
    .ir code issue.type (formatLocation issue.loc)
  | [] => .stopIteration

/-- `parse_trust_ir_json` -/
def parseTrustIrJson (text : List Char) : Except PyError TrustIR := do
  let decoded ← decodeTrustIrJson text
  let document ← (modelValidate decoded : Except (List Issue) TrustIR).mapError trustModelError
  validateTrustSemantics document
  pure document

/-- `dumped["records"] = sorted(dumped["records"], key=...)` -/
def sortRecords : Json → Json
  | .obj fields => .obj (fields.map fun field =>
      match field with
      | ("records", .arr items) =>
        ("records", .arr (sortedBy
          (fun item => toLex (stringMember "kind" item, stringMember "id" item)) items))
      | field => field)
  | j => j

/-- The JSON value that `canonical_trust_ir_json` writes. -/
def canonicalTrustIrValue (document : TrustIR) : Json :=
  canonicalize none "" (sortRecords (modelDump document))

/-- `canonical_trust_ir_json` -/
def canonicalTrustIrJson (document : TrustIR) : List Char :=
  (canonicalTrustIrValue document).canonicalLine

end Ucf
