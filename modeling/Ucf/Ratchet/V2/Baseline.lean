import Ucf.Ratchet.V2.Reports

/-! Assessments and baselines of profile 2.0.0: building an assessment from a bundle, establishing a
baseline from an assessment, and advancing it by an evaluation that passes. -/

namespace Ucf.V2

variable [Unicodedata] [Hashlib]

/-! ### Building an assessment -/

/-- The record of one violation input. -/
def violationRecord (rules : Dict Identifier RatchetRule)
    (subjectByKey : Dict BehaviorSubjectKey BehaviorSubjectSnapshot) (item : ViolationInput) :
    Except PyError RatchetViolation := do
  let rule ← orRaise (rules.get? item.ruleId) (.ratchet .brokenReference
    "violation names an unknown policy rule" "$.behavior.violations")
  let subject ← orRaise (subjectByKey.get? item.subject) (.ratchet .brokenReference
    "violation names an unknown behavior subject" "$.behavior.violations")
  let key : ViolationKey := ⟨ruleRef rule, ⟨subject.id⟩, item.slot⟩
  pure ⟨deriveViolationId key, key, item.message⟩

/-- The coverage of the rules of a policy: complete but for the rules named as partial. -/
def ruleCoverageOf (policy : RatchetPolicy) (partialRuleIds : List Identifier)
    (subjects : Tuple 0 maxRatchetSubjects BehaviorSubjectRef) :
    List (RuleCoverage maxRatchetSubjects) :=
  policy.rules.items.map fun rule =>
    ⟨ruleRef rule, if rule.id ∈ partialRuleIds then .partial_ else .complete, subjects⟩

/-- `build_ratchet_assessment` -/
def buildRatchetAssessment (policy : RatchetPolicy) (bundle : OnboardingBundle)
    (producer : Producer) (procedureUri : String) (captureContext : CaptureContext)
    (violations : List ViolationInput) (partialRuleIds : List Identifier) :
    Except PyError RatchetAssessment := do
  validateRatchetPolicy policy
  require (∀ id ∈ partialRuleIds, id ∈ policy.rules.items.map fun rule => rule.id)
    (.ratchet .brokenReference "partial coverage names an unknown policy rule"
      "$.behavior.coverage")
  let subjects ← deriveBehaviorSubjectSnapshots bundle
  let subjectByKey := Dict.index (fun subject : BehaviorSubjectSnapshot => subject.key) subjects
  let rules := Dict.index (fun rule : RatchetRule => rule.id) policy.rules.items
  let subjectRefs := (sortedBy id (subjects.map fun subject => subject.id)).map
    BehaviorSubjectRef.mk
  let limitedRefs ← validated (Tuple.ofList subjectRefs)
  let violationRecords ← collect (violationRecord rules subjectByKey) violations
  let limitedSubjects ← validated (Tuple.ofList subjects)
  let coverage ← validated (Tuple.ofList (ruleCoverageOf policy partialRuleIds limitedRefs))
  let limitedViolations ← validated (Tuple.ofList (sortedBy (fun record => record.id)
    violationRecords))
  let coverageLedger ← deriveCoverageLedger bundle
  let procedure ← validated (modelValidate (.str procedureUri))
  let provisional : RatchetAssessment := {
    id := ⟨zeroDigest⟩
    policy := policyRef policy
    source := onboardingBundleRef bundle
    producer := producer
    procedureUri := procedure
    captureContext := captureContext
    behavior := ⟨limitedSubjects, coverage, limitedViolations⟩
    coverage := coverageLedger }
  let assessment := { provisional with id := deriveAssessmentId provisional }
  validateRatchetAssessment policy bundle assessment
  pure assessment

/-! ### Establishing a baseline -/

/-- `_derive_initial_baseline` -/
def deriveInitialBaseline (assessment : RatchetAssessment) : Except PyError RatchetBaseline := do
  let allowances ← validated (Tuple.ofList (sortedBy deriveViolationId
    (assessment.behavior.violations.items.map fun violation => violation.key)))
  let provisional : RatchetBaseline := {
    id := ⟨zeroDigest⟩
    origin := .initial
    generation := ⟨0, zero_safe⟩
    policy := assessment.policy
    sourceAssessment := .v2 (assessmentRef assessment)
    sourceEvaluation := none
    predecessor := none
    migratedFrom := none
    behavior := ⟨assessment.behavior.subjects, allowances, ⟨[], Tuple.nil_lower, Tuple.nil_upper⟩⟩
    coverage := ⟨assessment.coverage.qualification, assessment.coverage.groups,
      assessment.coverage.debts, ⟨[], Tuple.nil_lower, Tuple.nil_upper⟩⟩
    valid := ⟨rfl, rfl, rfl, rfl, rfl⟩ }
  pure { provisional with id := deriveBaselineId provisional }

/-- The checks that only a complete assessment is accepted; `operation` begins the messages. -/
def requireComplete (assessment : RatchetAssessment) (operation : String) : Except PyError Unit := do
  require (assessment.coverage.inventoryCoverage = .complete)
    (.ratchet .incompleteComparisonDomain
      (operation ++ " requires a complete public-interface inventory")
      "$.source_assessment.coverage.inventory_coverage")
  require (∀ coverage ∈ assessment.behavior.coverage.items, coverage.status = .complete)
    (.ratchet .incompleteRuleCoverage (operation ++ " requires complete rule coverage")
      "$.source_assessment.behavior.coverage")

omit [Unicodedata] [Hashlib] in
@[simp] theorem requireComplete_eq_ok {assessment : RatchetAssessment} {operation : String}
    {u : Unit} : requireComplete assessment operation = .ok u ↔
      assessment.coverage.inventoryCoverage = .complete ∧
        ∀ coverage ∈ assessment.behavior.coverage.items, coverage.status = .complete := by
  simp [requireComplete]

/-- `validate_initial_ratchet_baseline` -/
def validateInitialRatchetBaseline (policy : RatchetPolicy) (bundle : OnboardingBundle)
    (assessment : RatchetAssessment) (baseline : RatchetBaseline) : Except PyError Unit := do
  validateRatchetAssessment policy bundle assessment
  requireComplete assessment "initial baseline"
  let expected ← deriveInitialBaseline assessment
  let differs (field : String) : PyError := .ratchet .summaryMismatch
    "initial baseline differs from its exact source assessment" ("$." ++ field)
  require (baseline.origin = expected.origin) (differs "origin")
  require (baseline.generation = expected.generation) (differs "generation")
  require (baseline.policy = expected.policy) (differs "policy")
  require (baseline.sourceAssessment = expected.sourceAssessment) (differs "source_assessment")
  require (baseline.sourceEvaluation = expected.sourceEvaluation) (differs "source_evaluation")
  require (baseline.predecessor = expected.predecessor) (differs "predecessor")
  require (baseline.migratedFrom = expected.migratedFrom) (differs "migrated_from")
  require (baseline.behavior = expected.behavior) (differs "behavior")
  require (baseline.coverage = expected.coverage) (differs "coverage")
  validateRatchetBaselineStructure baseline
  require (baseline.id = expected.id) (.ratchet .summaryMismatch
    "initial baseline identity differs from its derived state" "$.id")

/-- `establish_ratchet_baseline` -/
def establishRatchetBaseline (policy : RatchetPolicy) (bundle : OnboardingBundle)
    (assessment : RatchetAssessment) : Except PyError RatchetBaseline := do
  validateRatchetAssessment policy bundle assessment
  requireComplete assessment "initial baseline"
  let baseline ← deriveInitialBaseline assessment
  validateInitialRatchetBaseline policy bundle assessment baseline
  pure baseline

/-! ### Advancing a baseline -/

/-- An outcome with which a baseline may advance. -/
def isQualifying (outcome : CombinedOutcome) : Prop :=
  outcome = .pass ∨ outcome = .passWithLegacyCoverageDebt

instance (outcome : CombinedOutcome) : Decidable (isQualifying outcome) :=
  inferInstanceAs (Decidable (_ ∨ _))

/-- `behavior_protected` of `_derive_successor_baseline` -/
def successorProtectedViolations (predecessor : RatchetBaseline)
    (report : RatchetEvaluationReport) : Dict ViolationId ViolationKey :=
  (keysByViolationId predecessor.behavior.protectedKeys.items).update
    ((keysClassified report.behaviorClassifications.items fun kind => kind = .resolved).map
      fun key => (deriveViolationId key, key))

/-- `coverage_protected` of `_derive_successor_baseline` -/
def successorProtectedDebts (predecessor : RatchetBaseline) (report : RatchetEvaluationReport) :
    Dict CoverageDebtId CoverageDebtKey :=
  (Dict.ofList (predecessor.coverage.protectedKeys.items.map fun key =>
      (deriveCoverageDebtId key, key))).update
    ((debtKeysClassified report.coverageClassifications.items fun kind => kind = .resolved).map
      fun key => (deriveCoverageDebtId key, key))

/-- `_derive_successor_baseline` -/
def deriveSuccessorBaseline (predecessor : RatchetBaseline) (assessment : RatchetAssessment)
    (report : RatchetEvaluationReport) : Except PyError RatchetBaseline := do
  let generation ← validated (SafeNat.ofNat 0 (predecessor.generation.val + 1))
  let allowances ← validated (Tuple.ofList (sortedBy deriveViolationId
    (keysClassified report.behaviorClassifications.items fun kind => kind = .unchangedLegacy)))
  let protectedViolations ← validated (Tuple.ofList
    (successorProtectedViolations predecessor report).valuesByKey)
  let protectedDebts ← validated (Tuple.ofList
    (successorProtectedDebts predecessor report).valuesByKey)
  if hgeneration : generation.val = predecessor.generation.val + 1 then
    let provisional : RatchetBaseline := {
      id := ⟨zeroDigest⟩
      origin := .successor
      generation := generation
      policy := predecessor.policy
      sourceAssessment := .v2 (assessmentRef assessment)
      sourceEvaluation := some (evaluationRef report)
      predecessor := some (baselineRef predecessor)
      migratedFrom := none
      behavior := ⟨assessment.behavior.subjects, allowances, protectedViolations⟩
      coverage := ⟨assessment.coverage.qualification, assessment.coverage.groups,
        assessment.coverage.debts, protectedDebts⟩
      valid := by
        refine ⟨nofun, rfl, rfl, ?_⟩
        rw [hgeneration]
        rfl }
    pure { provisional with id := deriveBaselineId provisional }
  else throw (.validation [⟨"value_error", []⟩])

/-- The comparison of a baseline with the expected one, field by field. -/
def requireSameBaseline (baseline expected : RatchetBaseline) (message : String) :
    Except PyError Unit := do
  let differs (field : String) : PyError := .ratchet .summaryMismatch message ("$." ++ field)
  require (baseline.id = expected.id) (differs "id")
  require (baseline.origin = expected.origin) (differs "origin")
  require (baseline.generation = expected.generation) (differs "generation")
  require (baseline.policy = expected.policy) (differs "policy")
  require (baseline.sourceAssessment = expected.sourceAssessment) (differs "source_assessment")
  require (baseline.sourceEvaluation = expected.sourceEvaluation) (differs "source_evaluation")
  require (baseline.predecessor = expected.predecessor) (differs "predecessor")
  require (baseline.migratedFrom = expected.migratedFrom) (differs "migrated_from")
  require (baseline.behavior = expected.behavior) (differs "behavior")
  require (baseline.coverage = expected.coverage) (differs "coverage")

omit [Unicodedata] [Hashlib] in
@[simp] theorem requireSameBaseline_eq_ok {baseline expected : RatchetBaseline} {message : String}
    {u : Unit} : requireSameBaseline baseline expected message = .ok u ↔ baseline = expected := by
  cases baseline
  cases expected
  simp [requireSameBaseline]

/-- `validate_successor_ratchet_baseline` -/
def validateSuccessorRatchetBaseline (policy : RatchetPolicy) (predecessor : RatchetBaseline)
    (bundle : OnboardingBundle) (assessment : RatchetAssessment)
    (report : RatchetEvaluationReport) (baseline : RatchetBaseline)
    (acceptedPredecessorId : BaselineId) : Except PyError Unit := do
  validateRatchetEvaluationReport policy predecessor bundle assessment report acceptedPredecessorId
  requireComplete assessment "successor"
  require (isQualifying report.combinedOutcome) (.ratchet .illegalWeakening
    "successor requires a passing or qualified passing evaluation" "$.source_evaluation")
  let expected ← deriveSuccessorBaseline predecessor assessment report
  requireSameBaseline baseline expected "successor differs from its exact accepted evaluation"
  validateRatchetBaselineStructure baseline

/-- `advance_ratchet_baseline` -/
def advanceRatchetBaseline (policy : RatchetPolicy) (predecessor : RatchetBaseline)
    (bundle : OnboardingBundle) (assessment : RatchetAssessment)
    (report : RatchetEvaluationReport) (acceptedPredecessorId : BaselineId) :
    Except PyError RatchetBaseline := do
  validateRatchetEvaluationReport policy predecessor bundle assessment report acceptedPredecessorId
  requireComplete assessment "baseline advance"
  require (isQualifying report.combinedOutcome) (.ratchet .illegalWeakening
    "only a passing or qualified passing evaluation can advance" "$.combined_outcome")
  let successor ← deriveSuccessorBaseline predecessor assessment report
  validateSuccessorRatchetBaseline policy predecessor bundle assessment report successor
    acceptedPredecessorId
  pure successor

end Ucf.V2
