import Ucf.Ratchet.V2.Migration

/-! The canonical text of the documents of profile 2.0.0 and the parsers that read it back. -/

namespace Ucf.V2

/-- `canonical_ratchet_json` -/
def canonicalRatchetJson {α : Type} [Model α] (document : α) : List Char :=
  (modelDump document).canonicalLine

/-- `_decode_ratchet_document` -/
def decodeRatchetDocument (payload : List Char) (kind schemaUri : String) :
    Except PyError Json := do
  let decoded ← decodeStrictJsonObject payload
  require (decoded.get? "ratchet_version" = some (.str ratchetVersion))
    (.ratchet .unsupportedRatchetVersion
      ("Ratchet profile " ++ ratchetVersion ++ " is required") "$.ratchet_version")
  require (decoded.get? "kind" = some (.str kind)) (.ratchet .wrongTargetKind
    ("expected kind '" ++ kind ++ "'") "$.kind")
  require (decoded.get? "schema_uri" = some (.str schemaUri)) (.ratchet .wrongTargetKind
    ("expected schema_uri '" ++ schemaUri ++ "'") "$.schema_uri")
  pure decoded

/-- `_require_supported_evaluator` -/
def requireSupportedEvaluator (decoded : Json) : Except PyError Unit :=
  match decoded.get? "evaluator" with
  | some (.obj fields) => do
    let unsupported (coordinate : String) : PyError := .ratchet .unsupportedCapability
      ("ratchet evaluator must be " ++ ratchetEvaluatorCapability ++ "@" ++ ratchetVersion)
      ("$.evaluator." ++ coordinate)
    require ((Json.obj fields).get? "name" = some (.str ratchetEvaluatorCapability))
      (unsupported "name")
    require ((Json.obj fields).get? "version" = some (.str ratchetVersion)) (unsupported "version")
  | _ => .ok ()

/-- `_validate_model` -/
def validateModel (α : Type) [Model α] (decoded : Json) : Except PyError α :=
  (modelValidate decoded : Except (List Issue) α).mapError fun issues =>
    match issues.find? fun issue => issue.type = "too_long" with
    | some issue => .ratchet .resourceLimitExceeded
        "collection exceeds its published maximum size" (formatLocation issue.loc)
    | none => .validation issues

variable [Hashlib]

/-- `parse_ratchet_policy_json` -/
def parseRatchetPolicyJson (payload : List Char) : Except PyError RatchetPolicy := do
  let decoded ← decodeRatchetDocument payload "ratchet_policy" ratchetPolicySchemaUri
  requireSupportedEvaluator decoded
  let policy ← validateModel RatchetPolicy decoded
  validateRatchetPolicy policy
  pure policy

/-- `parse_ratchet_assessment_json` -/
def parseRatchetAssessmentJson (payload : List Char) : Except PyError RatchetAssessment := do
  let decoded ← decodeRatchetDocument payload "ratchet_assessment" ratchetAssessmentSchemaUri
  let assessment ← validateModel RatchetAssessment decoded
  validateRatchetAssessmentStructure assessment
  pure assessment

/-- `parse_ratchet_baseline_json` -/
def parseRatchetBaselineJson (payload : List Char) : Except PyError RatchetBaseline := do
  let decoded ← decodeRatchetDocument payload "ratchet_baseline" ratchetBaselineSchemaUri
  let baseline ← validateModel RatchetBaseline decoded
  validateRatchetBaselineStructure baseline
  pure baseline

/-- `parse_ratchet_evaluation_report_json` -/
def parseRatchetEvaluationReportJson (payload : List Char) :
    Except PyError RatchetEvaluationReport := do
  let decoded ← decodeRatchetDocument payload "ratchet_evaluation_report"
    ratchetEvaluationReportSchemaUri
  let report ← validateModel RatchetEvaluationReport decoded
  validateRatchetEvaluationReportStructure report
  pure report

end Ucf.V2
