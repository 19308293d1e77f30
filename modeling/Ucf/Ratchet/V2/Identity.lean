import Ucf.Ratchet.V2.Models

/-! The identifiers of profile 2.0.0, derived from content, and references to its documents. -/

namespace Ucf.V2

variable [Hashlib]

/-- `derive_policy_id` -/
def derivePolicyId (policy : RatchetPolicy) : PolicyId :=
  ⟨identityDigest ((modelDump policy).exclude ["id"])⟩

/-- `derive_assessment_id` -/
def deriveAssessmentId (assessment : RatchetAssessment) : AssessmentId :=
  ⟨identityDigest ((modelDump assessment).exclude ["id"])⟩

/-- `derive_baseline_id` -/
def deriveBaselineId (baseline : RatchetBaseline) : BaselineId :=
  ⟨identityDigest ((modelDump baseline).exclude ["id"])⟩

/-- `derive_evaluation_id` -/
def deriveEvaluationId (report : RatchetEvaluationReport) : EvaluationId :=
  ⟨identityDigest ((modelDump report).exclude ["id"])⟩

/-- `derive_behavior_subject_id` -/
def deriveBehaviorSubjectId (key : BehaviorSubjectKey) : BehaviorSubjectId :=
  ⟨identityDigest (modelDump key)⟩

/-- `derive_coverage_qualification_id` -/
def deriveCoverageQualificationId (qualification : CoverageQualification) :
    CoverageQualificationId :=
  ⟨identityDigest ((modelDump qualification).exclude ["id"])⟩

/-- `derive_coverage_subject_id` -/
def deriveCoverageSubjectId (key : CoverageSubjectKey) : CoverageSubjectId :=
  ⟨identityDigest (modelDump key)⟩

/-- `derive_coverage_debt_id` -/
def deriveCoverageDebtId (key : CoverageDebtKey) : CoverageDebtId :=
  ⟨identityDigest (modelDump key)⟩

/-- `derive_violation_id` -/
def deriveViolationId (key : ViolationKey) : ViolationId := ⟨identityDigest (modelDump key)⟩

/-- `derive_projection_digest`, as a digest -/
def projectionDigest (value : Json) : Digest := ⟨identityDigest value⟩

/-! No document's identifier depends on the identifier that it carries. -/

theorem deriveAssessmentId_with_id (assessment : RatchetAssessment) (id : AssessmentId) :
    deriveAssessmentId { assessment with id := id } = deriveAssessmentId assessment :=
  congrArg (fun j => ContentId.mk (identityDigest j)) Json.exclude_fourth

theorem deriveBaselineId_with_id (baseline : RatchetBaseline) (id : BaselineId) :
    deriveBaselineId { baseline with id := id } = deriveBaselineId baseline :=
  congrArg (fun j => ContentId.mk (identityDigest j)) Json.exclude_fourth

theorem deriveEvaluationId_with_id (report : RatchetEvaluationReport) (id : EvaluationId) :
    deriveEvaluationId { report with id := id } = deriveEvaluationId report :=
  congrArg (fun j => ContentId.mk (identityDigest j)) Json.exclude_fourth

theorem deriveCoverageQualificationId_with_id (qualification : CoverageQualification)
    (id : CoverageQualificationId) :
    deriveCoverageQualificationId { qualification with id := id } =
      deriveCoverageQualificationId qualification :=
  congrArg (fun j => ContentId.mk (identityDigest j)) Json.exclude_second

/-! ### References -/

/-- `_digest(canonical_ratchet_json(document))` -/
def documentDigest {α : Type} [Model α] (document : α) : Digest :=
  ⟨identityDigest (modelDump document)⟩

/-- `policy_ref` -/
def policyRef (policy : RatchetPolicy) : RatchetPolicyRef := ⟨policy.id, documentDigest policy⟩

/-- `assessment_ref` -/
def assessmentRef (assessment : RatchetAssessment) : RatchetAssessmentRef :=
  ⟨assessment.id, documentDigest assessment⟩

/-- `baseline_ref` -/
def baselineRef (baseline : RatchetBaseline) : RatchetBaselineRef :=
  ⟨baseline.id, documentDigest baseline, baseline.generation⟩

/-- `evaluation_ref` -/
def evaluationRef (report : RatchetEvaluationReport) : RatchetEvaluationReportRef :=
  ⟨report.id, documentDigest report⟩

/-- `v1_policy_ref` -/
def v1PolicyRef (policy : V1.RatchetPolicy) : V1.RatchetPolicyRef :=
  ⟨policy.id, documentDigest policy⟩

/-- `v1_assessment_ref` -/
def v1AssessmentRef (assessment : V1.RatchetAssessment) : V1.RatchetAssessmentRef :=
  ⟨assessment.id, documentDigest assessment⟩

/-- `v1_baseline_ref` -/
def v1BaselineRef (baseline : V1.RatchetBaseline) : V1.RatchetBaselineRef :=
  ⟨baseline.id, documentDigest baseline, baseline.generation⟩

/-- `onboarding_bundle_ref` -/
def onboardingBundleRef [Unicodedata] (bundle : OnboardingBundle) : OnboardingBundleRef :=
  ⟨canonicalOnboardingDigest bundle⟩

end Ucf.V2
