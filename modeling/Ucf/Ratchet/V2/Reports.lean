import Ucf.Ratchet.V2.Evaluation

/-! The validation of evaluation reports of profile 2.0.0: that a report agrees with itself, and
that it is the one that an evaluation gives. -/

namespace Ucf.V2

/-- `_expected_delta_status` -/
def expectedDeltaStatus {κ : Type} (added removed : List κ) : WeakeningDeltaStatus :=
  if added ≠ [] then .reviewRequired
  else if removed ≠ [] then .tightening
  else .none

/-- `_expected_combined_outcome` -/
def expectedCombinedOutcome (behavior : BehaviorOutcome) (coverage : CoverageOutcome) :
    CombinedOutcome :=
  if behavior = .fail || coverage = .fail then .fail
  else if behavior = .inconclusive || coverage = .inconclusive then .inconclusive
  else if coverage = .passWithLegacyCoverageDebt then .passWithLegacyCoverageDebt
  else .pass

/-- The weakening delta with these members. -/
def expectedDelta {kind : String} {limit : Nat} {κ : Type} (added removed unprotected : List κ) :
    Except PyError (WeakeningDelta kind limit κ) := do
  let limitedAdded ← validated (Tuple.ofList added)
  let limitedRemoved ← validated (Tuple.ofList removed)
  let limitedUnprotected ← validated (Tuple.ofList unprotected)
  pure ⟨expectedDeltaStatus added removed, limitedAdded, limitedRemoved, limitedUnprotected⟩

/-- `_validate_report_deltas` -/
def validateReportDeltas (report : RatchetEvaluationReport) : Except PyError Unit := do
  let violations := report.behaviorClassifications.items
  let expectedBehaviorDelta : BehaviorWeakeningDelta ← expectedDelta
    (keysClassified violations fun kind => kind.isRegression)
    (keysClassified violations fun kind => kind = .resolved)
    (keysClassified violations fun kind => kind = .reintroduced)
  require (report.behaviorDelta = expectedBehaviorDelta) (.ratchet .summaryMismatch
    "behavior delta differs from exact classifications" "$.behavior_delta")
  let debts := report.coverageClassifications.items
  let expectedCoverageDelta : CoverageWeakeningDelta ← expectedDelta
    (debtKeysClassified debts fun kind => kind.isRegression)
    (debtKeysClassified debts fun kind => kind = .resolved)
    (debtKeysClassified debts fun kind => kind = .reintroduced)
  require (report.coverageDelta = expectedCoverageDelta) (.ratchet .summaryMismatch
    "coverage delta differs from exact classifications" "$.coverage_delta")

/-- `allowed_behavior` -/
def allowedBehaviorOutcomes (report : RatchetEvaluationReport) : List BehaviorOutcome :=
  let violations := report.behaviorClassifications.items
  if violations.any fun item => item.classification.isRegression then [.fail]
  else if (violations.any fun item => item.classification = .unknown) ||
      report.behaviorSubjectChanges.items.any (fun item => item.change = .unknownSubject) then
    [.inconclusive]
  else [.pass, .inconclusive]

/-- `expected_coverage` -/
def expectedCoverageOutcome (report : RatchetEvaluationReport) : CoverageOutcome :=
  let debts := report.coverageClassifications.items
  if debts.any fun item => item.classification.isRegression then .fail
  else if report.coverageComparison ≠ .comparable || (debts.any fun item =>
      item.classification = .unknown) || report.coverageSubjectChanges.items.any (fun item =>
      item.change = .unknownSubject) then .inconclusive
  else if debts.any fun item => item.classification = .unchangedLegacy then
    .passWithLegacyCoverageDebt
  else .pass

/-- `_validate_report_outcomes` -/
def validateReportOutcomes (report : RatchetEvaluationReport) : Except PyError Unit := do
  require (report.behaviorOutcome ∈ allowedBehaviorOutcomes report) (.ratchet .summaryMismatch
    "behavior outcome differs from internal evidence" "$.behavior_outcome")
  require (report.coverageOutcome = expectedCoverageOutcome report) (.ratchet .summaryMismatch
    "coverage outcome differs from internal evidence" "$.coverage_outcome")
  require (report.combinedOutcome =
      expectedCombinedOutcome report.behaviorOutcome report.coverageOutcome)
    (.ratchet .summaryMismatch "combined outcome differs from component outcomes"
      "$.combined_outcome")

variable [Hashlib]

/-- `validate_ratchet_evaluation_report_structure` -/
def validateRatchetEvaluationReportStructure (report : RatchetEvaluationReport) :
    Except PyError Unit := do
  let behaviorSubjectIds : List BehaviorSubjectId :=
    report.behaviorSubjectChanges.items.map fun item => item.subject.targetId
  requireUniqueAndSorted .ratchet behaviorSubjectIds "$.behavior_subject_changes"
    "behavior subject changes"
  let violations := report.behaviorClassifications.items
  requireUniqueAndSorted .ratchet (violations.map fun item => deriveViolationId item.key)
    "$.behavior_classifications" "behavior classifications"
  require (∀ item ∈ violations, item.key.subject.targetId ∈ behaviorSubjectIds)
    (.ratchet .brokenReference "behavior classification names an unknown report subject"
      "$.behavior_classifications")
  let coverageSubjectIds : List CoverageSubjectId :=
    report.coverageSubjectChanges.items.map fun item => item.subject.targetId
  requireUniqueAndSorted .ratchet coverageSubjectIds "$.coverage_subject_changes"
    "coverage subject changes"
  let debts := report.coverageClassifications.items
  requireUniqueAndSorted .ratchet (debts.map fun item => deriveCoverageDebtId item.key)
    "$.coverage_classifications" "coverage classifications"
  require (∀ item ∈ debts, item.key.subject.targetId ∈ coverageSubjectIds)
    (.ratchet .brokenReference "coverage classification names an unknown report subject"
      "$.coverage_classifications")
  validateReportDeltas report
  validateReportOutcomes report
  require (report.id = deriveEvaluationId report) (.ratchet .contentIdentityMismatch
    "evaluation ID is not derived from its exact content" "$.id")

/-- The comparison of a report with the recomputed one, field by field. -/
def requireSameReport (report expected : RatchetEvaluationReport) : Except PyError Unit := do
  let differs (field : String) : PyError := .ratchet .summaryMismatch
    "evaluation report differs from the exact recomputed result" ("$." ++ field)
  require (report.id = expected.id) (differs "id")
  require (report.policy = expected.policy) (differs "policy")
  require (report.baseline = expected.baseline) (differs "baseline")
  require (report.assessment = expected.assessment) (differs "assessment")
  require (report.behaviorSubjectChanges = expected.behaviorSubjectChanges)
    (differs "behavior_subject_changes")
  require (report.behaviorClassifications = expected.behaviorClassifications)
    (differs "behavior_classifications")
  require (report.coverageComparison = expected.coverageComparison) (differs "coverage_comparison")
  require (report.coverageSubjectChanges = expected.coverageSubjectChanges)
    (differs "coverage_subject_changes")
  require (report.coverageClassifications = expected.coverageClassifications)
    (differs "coverage_classifications")
  require (report.behaviorOutcome = expected.behaviorOutcome) (differs "behavior_outcome")
  require (report.coverageOutcome = expected.coverageOutcome) (differs "coverage_outcome")
  require (report.combinedOutcome = expected.combinedOutcome) (differs "combined_outcome")
  require (report.behaviorDelta = expected.behaviorDelta) (differs "behavior_delta")
  require (report.coverageDelta = expected.coverageDelta) (differs "coverage_delta")

omit [Hashlib] in
@[simp] theorem requireSameReport_eq_ok {report expected : RatchetEvaluationReport} {u : Unit} :
    requireSameReport report expected = .ok u ↔ report = expected := by
  cases report
  cases expected
  simp [requireSameReport]

variable [Unicodedata]

/-- `validate_ratchet_evaluation_report` -/
def validateRatchetEvaluationReport (policy : RatchetPolicy) (baseline : RatchetBaseline)
    (bundle : OnboardingBundle) (assessment : RatchetAssessment)
    (report : RatchetEvaluationReport) (acceptedBaselineId : BaselineId) :
    Except PyError Unit := do
  validateRatchetEvaluationReportStructure report
  let expected ← evaluateRatchet policy baseline bundle assessment acceptedBaselineId
  requireSameReport report expected

end Ucf.V2
