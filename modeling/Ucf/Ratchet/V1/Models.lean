import Ucf.Ratchet.Keys

/-! Ratchet profile 1.0.0: assessments, baselines and evaluation reports about behavior subjects. -/

namespace Ucf.V1

def ratchetVersion : String := "1.0.0"

def ratchetPolicySchemaUri : String := "urn:ucf:ratchet:policy:1.0.0"

def ratchetAssessmentSchemaUri : String := "urn:ucf:ratchet:assessment:1.0.0"

def ratchetBaselineSchemaUri : String := "urn:ucf:ratchet:baseline:1.0.0"

def ratchetEvaluationReportSchemaUri : String := "urn:ucf:ratchet:evaluation-report:1.0.0"

def ratchetEvaluationProcedureUri : String := "urn:ucf:ratchet:evaluate:1.0.0"

def maxRatchetSubjects : Nat := 256

/-- `MAX_RATCHET_RULES * MAX_RATCHET_SUBJECTS` -/
def maxRatchetViolations : Nat := 65536

abbrev RatchetPolicyRef : Type :=
  DocumentRef "ratchet_policy_ref" ratchetPolicySchemaUri ratchetVersion "policy"

abbrev RatchetAssessmentRef : Type :=
  DocumentRef "ratchet_assessment_ref" ratchetAssessmentSchemaUri ratchetVersion "assessment"

abbrev RatchetBaselineRef : Type := BaselineRef ratchetBaselineSchemaUri ratchetVersion

abbrev RatchetEvaluationReportRef : Type :=
  DocumentRef "ratchet_evaluation_report_ref" ratchetEvaluationReportSchemaUri ratchetVersion
    "evaluation"

abbrev SemanticFingerprint : Type :=
  Fingerprint "semantic_fingerprint" "urn:ucf:ratchet:fingerprint:behavior-subject:1.0.0"

abbrev ObservedFingerprint : Type :=
  Fingerprint "observed_fingerprint" "urn:ucf:ratchet:fingerprint:observed-subject:1.0.0"

abbrev BehaviorSubjectSnapshot : Type :=
  SubjectSnapshot SemanticFingerprint ObservedFingerprint (SubjectTrace "ratchet_subject_trace")

/-- `RatchetPolicy.validate_evaluator` -/
def validEvaluator (evaluator : CapabilitySelection) : Prop :=
  evaluator.name.val = ratchetEvaluatorCapability ∧ evaluator.version.val = ratchetVersion

instance (evaluator : CapabilitySelection) : Decidable (validEvaluator evaluator) :=
  inferInstanceAs (Decidable (_ ∧ _))

structure RatchetPolicy where
  id : PolicyId
  evaluator : CapabilitySelection
  rules : Tuple 1 maxRatchetRules RatchetRule
  valid : validEvaluator evaluator
deriving DecidableEq

instance : Model RatchetPolicy :=
  .recordWhere (.lit "kind" "ratchet_policy" <| .lit "ratchet_version" ratchetVersion <|
      .lit "schema_uri" ratchetPolicySchemaUri <| .required "id" <| .required "evaluator" <|
      .required "rules" .nil)
    (fun (_, evaluator, _, ()) => validEvaluator evaluator)
    (fun p => ⟨(p.id, p.evaluator, p.rules, ()), p.valid⟩)
    (fun ⟨(id, evaluator, rules, ()), h⟩ => ⟨id, evaluator, rules, h⟩)

structure RatchetAssessment where
  id : AssessmentId
  policy : RatchetPolicyRef
  source : OnboardingBundleRef
  producer : Producer
  procedureUri : ProcedureURI
  captureContext : CaptureContext
  subjectCoverage : CoverageStatus
  subjects : Tuple 0 maxRatchetSubjects BehaviorSubjectSnapshot
  coverage : Tuple 0 maxRatchetRules (RuleCoverage maxRatchetSubjects)
  violations : Tuple 0 maxRatchetViolations RatchetViolation
deriving DecidableEq

instance : Model RatchetAssessment :=
  .record (.lit "kind" "ratchet_assessment" <| .lit "ratchet_version" ratchetVersion <|
      .lit "schema_uri" ratchetAssessmentSchemaUri <| .required "id" <| .required "policy" <|
      .required "source" <| .required "producer" <| .required "procedure_uri" <|
      .required "capture_context" <| .required "subject_coverage" <| .required "subjects" <|
      .required "coverage" <| .required "violations" .nil)
    (fun a => (a.id, a.policy, a.source, a.producer, a.procedureUri, a.captureContext,
      a.subjectCoverage, a.subjects, a.coverage, a.violations, ()))
    (fun (id, policy, source, producer, uri, context, status, subjects, coverage,
        violations, ()) =>
      ⟨id, policy, source, producer, uri, context, status, subjects, coverage, violations⟩)

/-- `RatchetBaseline.validate_generation` -/
def validGeneration (generation : SafeNat 0)
    (sourceEvaluation : Option RatchetEvaluationReportRef)
    (predecessor : Option RatchetBaselineRef) : Prop :=
  if generation.val = 0 then predecessor = none ∧ sourceEvaluation = none
  else sourceEvaluation ≠ none ∧
    predecessor.map (fun p => p.generation.val) = some (generation.val - 1)

instance (generation : SafeNat 0) (sourceEvaluation : Option RatchetEvaluationReportRef)
    (predecessor : Option RatchetBaselineRef) :
    Decidable (validGeneration generation sourceEvaluation predecessor) := by
  unfold validGeneration
  infer_instance

structure RatchetBaseline where
  id : BaselineId
  generation : SafeNat 0
  policy : RatchetPolicyRef
  sourceAssessment : RatchetAssessmentRef
  sourceEvaluation : Option RatchetEvaluationReportRef
  predecessor : Option RatchetBaselineRef
  subjects : Tuple 0 maxRatchetSubjects BehaviorSubjectSnapshot
  allowances : Tuple 0 maxRatchetViolations ViolationKey
  protectedKeys : Tuple 0 maxRatchetViolations ViolationKey
  valid : validGeneration generation sourceEvaluation predecessor
deriving DecidableEq

instance : Model RatchetBaseline :=
  .recordWhere (.lit "kind" "ratchet_baseline" <| .lit "ratchet_version" ratchetVersion <|
      .lit "schema_uri" ratchetBaselineSchemaUri <| .required "id" <| .required "generation" <|
      .required "policy" <| .required "source_assessment" <| .nullable "source_evaluation" <|
      .nullable "predecessor" <| .required "subjects" <| .required "allowances" <|
      .required "protected" .nil)
    (fun (_, generation, _, _, evaluation, predecessor, _, _, _, ()) =>
      validGeneration generation evaluation predecessor)
    (fun b => ⟨(b.id, b.generation, b.policy, b.sourceAssessment, b.sourceEvaluation,
      b.predecessor, b.subjects, b.allowances, b.protectedKeys, ()), b.valid⟩)
    (fun ⟨(id, generation, policy, assessment, evaluation, predecessor, subjects, allowances,
        protectedKeys, ()), h⟩ =>
      ⟨id, generation, policy, assessment, evaluation, predecessor, subjects, allowances,
        protectedKeys, h⟩)

structure WeakeningDelta where
  status : WeakeningDeltaStatus
  addedAllowances : Tuple 0 maxRatchetViolations ViolationKey
  removedAllowances : Tuple 0 maxRatchetViolations ViolationKey
  removedProtections : Tuple 0 maxRatchetViolations ViolationKey
deriving DecidableEq

instance : Model WeakeningDelta :=
  .record (.lit "kind" "weakening_delta" <| .required "status" <|
      .required "added_allowances" <| .required "removed_allowances" <|
      .required "removed_protections" .nil)
    (fun d => (d.status, d.addedAllowances, d.removedAllowances, d.removedProtections, ()))
    (fun (status, added, removed, unprotected, ()) => ⟨status, added, removed, unprotected⟩)

structure RatchetEvaluationReport where
  id : EvaluationId
  policy : RatchetPolicyRef
  baseline : RatchetBaselineRef
  assessment : RatchetAssessmentRef
  subjectChanges : Tuple 0 (maxRatchetSubjects * 2) (SubjectChange "ratchet_subject_change")
  classifications : Tuple 0 (maxRatchetViolations * 2) ViolationClassification
  outcome : BehaviorOutcome
  weakeningDelta : WeakeningDelta
deriving DecidableEq

instance : Model RatchetEvaluationReport :=
  .record (.lit "kind" "ratchet_evaluation_report" <| .lit "ratchet_version" ratchetVersion <|
      .lit "schema_uri" ratchetEvaluationReportSchemaUri <| .required "id" <|
      .required "policy" <| .required "baseline" <| .required "assessment" <|
      .lit "procedure_uri" ratchetEvaluationProcedureUri <| .required "subject_changes" <|
      .required "classifications" <| .required "outcome" <| .required "weakening_delta" .nil)
    (fun r => (r.id, r.policy, r.baseline, r.assessment, r.subjectChanges, r.classifications,
      r.outcome, r.weakeningDelta, ()))
    (fun (id, policy, baseline, assessment, changes, classifications, outcome, delta, ()) =>
      ⟨id, policy, baseline, assessment, changes, classifications, outcome, delta⟩)

end Ucf.V1
