import Ucf.Ratchet.V1.Evaluation

/-! Assessments and baselines of profile 1.0.0: building an assessment from a bundle, establishing a
baseline from an assessment, and advancing it by an evaluation that passes. -/

namespace Ucf.V1

variable [Unicodedata] [Hashlib]

/-! ### Building an assessment -/

/-- The record of one violation input. -/
def violationRecord (rules : Dict Identifier RatchetRule)
    (subjectByKey : Dict BehaviorSubjectKey BehaviorSubjectSnapshot) (item : ViolationInput) :
    Except PyError RatchetViolation := do
  let rule ← orRaise (rules.get? item.ruleId) (.ratchetV1 .brokenReference
    "violation names an unknown policy rule" "$.violations")
  let subject ← orRaise (subjectByKey.get? item.subject) (.ratchetV1 .brokenReference
    "violation names an unknown behavior subject" "$.violations")
  let key : ViolationKey := ⟨ruleRef rule, ⟨subject.id⟩, item.slot⟩
  pure ⟨deriveViolationId key, key, item.message⟩

/-- The coverage of the rules of a policy: complete but for the rules named as partial. -/
def ruleCoverageOf (policy : RatchetPolicy) (partialRuleIds : List Identifier)
    (subjects : Tuple 0 maxRatchetSubjects BehaviorSubjectRef) :
    List (RuleCoverage maxRatchetSubjects) :=
  policy.rules.items.map fun rule =>
    ⟨ruleRef rule, if rule.id ∈ partialRuleIds then .partial_ else .complete, subjects⟩

/-- `build_ratchet_assessment` -/
def buildRatchetAssessment (policy : RatchetPolicy) (bundle : OnboardingBundle)
    (producer : Producer) (procedureUri : String) (captureContext : CaptureContext)
    (violations : List ViolationInput) (partialRuleIds : List Identifier) :
    Except PyError RatchetAssessment := do
  validateRatchetPolicy policy
  require (∀ id ∈ partialRuleIds, id ∈ policy.rules.items.map fun rule => rule.id)
    (.ratchetV1 .brokenReference "partial coverage names an unknown policy rule" "$.coverage")
  let subjects ← deriveSubjectSnapshots bundle
  let subjectByKey := Dict.index (fun subject : BehaviorSubjectSnapshot => subject.key) subjects
  let rules := Dict.index (fun rule : RatchetRule => rule.id) policy.rules.items
  let subjectRefs := (sortedBy id (subjects.map fun subject => subject.id)).map
    BehaviorSubjectRef.mk
  let limitedRefs ← validated (Tuple.ofList subjectRefs)
  let violationRecords ← collect (violationRecord rules subjectByKey) violations
  let procedure ← validated (modelValidate (.str procedureUri))
  let limitedSubjects ← validated (Tuple.ofList subjects)
  let coverage ← validated (Tuple.ofList (ruleCoverageOf policy partialRuleIds limitedRefs))
  let limitedViolations ← validated (Tuple.ofList (sortedBy (fun record => record.id)
    violationRecords))
  let provisional : RatchetAssessment := {
    id := ⟨zeroDigest⟩
    policy := policyRef policy
    source := ⟨canonicalOnboardingDigest bundle⟩
    producer := producer
    procedureUri := procedure
    captureContext := captureContext
    subjectCoverage := bundle.discovery.coverage.status
    subjects := limitedSubjects
    coverage := coverage
    violations := limitedViolations }
  let assessment := { provisional with id := deriveAssessmentId provisional }
  validateRatchetAssessment policy bundle assessment
  pure assessment

/-! ### Establishing a baseline -/

/-- `_derive_initial_baseline` -/
def deriveInitialBaseline (assessment : RatchetAssessment) : Except PyError RatchetBaseline := do
  let allowances ← validated (Tuple.ofList (sortedBy deriveViolationId
    (assessment.violations.items.map fun violation => violation.key)))
  let provisional : RatchetBaseline := {
    id := ⟨zeroDigest⟩
    generation := ⟨0, zero_safe⟩
    policy := assessment.policy
    sourceAssessment := assessmentRef assessment
    sourceEvaluation := none
    predecessor := none
    subjects := assessment.subjects
    allowances := allowances
    protectedKeys := ⟨[], Tuple.nil_lower, Tuple.nil_upper⟩
    valid := ⟨rfl, rfl⟩ }
  pure { provisional with id := deriveBaselineId provisional }

/-- The check that only a complete assessment is accepted; `message` is the text of its error. -/
def requireComplete (assessment : RatchetAssessment) (message : String) : Except PyError Unit :=
  require (assessment.subjectCoverage = .complete ∧
      ∀ coverage ∈ assessment.coverage.items, coverage.status = .complete)
    (.ratchetV1 .incompleteCoverage message "$.source_assessment.coverage")

omit [Unicodedata] [Hashlib] in
@[simp] theorem requireComplete_eq_ok {assessment : RatchetAssessment} {message : String}
    {u : Unit} : requireComplete assessment message = .ok u ↔
      assessment.subjectCoverage = .complete ∧
        ∀ coverage ∈ assessment.coverage.items, coverage.status = .complete := by
  simp [requireComplete]

/-- The comparison of a baseline with the expected one, field by field but for its identifier. -/
def requireSameState (baseline expected : RatchetBaseline) (message : String) :
    Except PyError Unit := do
  let differs (field : String) : PyError := .ratchetV1 .summaryMismatch message ("$." ++ field)
  require (baseline.policy = expected.policy) (differs "policy")
  require (baseline.sourceAssessment = expected.sourceAssessment) (differs "source_assessment")
  require (baseline.sourceEvaluation = expected.sourceEvaluation) (differs "source_evaluation")
  require (baseline.predecessor = expected.predecessor) (differs "predecessor")
  require (baseline.generation = expected.generation) (differs "generation")
  require (baseline.subjects = expected.subjects) (differs "subjects")
  require (baseline.allowances = expected.allowances) (differs "allowances")
  require (baseline.protectedKeys = expected.protectedKeys) (differs "protected")

omit [Unicodedata] [Hashlib] in
@[simp] theorem requireSameState_eq_ok {baseline expected : RatchetBaseline} {message : String}
    {u : Unit} : requireSameState baseline expected message = .ok u ↔
      baseline = { expected with id := baseline.id } := by
  cases baseline
  cases expected
  simp only [requireSameState, bind_eq_ok, require_eq_ok, exists_const, RatchetBaseline.mk.injEq]
  tauto

/-- `validate_initial_ratchet_baseline` -/
def validateInitialRatchetBaseline (policy : RatchetPolicy) (bundle : OnboardingBundle)
    (assessment : RatchetAssessment) (baseline : RatchetBaseline) : Except PyError Unit := do
  validateRatchetAssessment policy bundle assessment
  requireComplete assessment "initial baseline requires complete subject and rule coverage"
  let expected ← deriveInitialBaseline assessment
  requireSameState baseline expected "initial baseline differs from its exact source assessment"
  validateRatchetBaselineStructure baseline
  require (baseline.id = expected.id) (.ratchetV1 .summaryMismatch
    "initial baseline identity differs from its derived state" "$.id")

/-- `establish_ratchet_baseline` -/
def establishRatchetBaseline (policy : RatchetPolicy) (bundle : OnboardingBundle)
    (assessment : RatchetAssessment) : Except PyError RatchetBaseline := do
  validateRatchetAssessment policy bundle assessment
  requireComplete assessment "initial baseline requires complete subject and rule coverage"
  let baseline ← deriveInitialBaseline assessment
  validateInitialRatchetBaseline policy bundle assessment baseline
  pure baseline

/-! ### Advancing a baseline -/

/-- `protected` of `_derive_successor_baseline` -/
def successorProtected (predecessor : RatchetBaseline) (report : RatchetEvaluationReport) :
    Dict ViolationId ViolationKey :=
  (keysByViolationId predecessor.protectedKeys.items).update
    ((keysClassified report.classifications.items fun kind => kind = .resolved).map
      fun key => (deriveViolationId key, key))

/-- `_derive_successor_baseline` -/
def deriveSuccessorBaseline (predecessor : RatchetBaseline) (assessment : RatchetAssessment)
    (report : RatchetEvaluationReport) : Except PyError RatchetBaseline := do
  let generation ← validated (SafeNat.ofNat 0 (predecessor.generation.val + 1))
  let allowances ← validated (Tuple.ofList (sortedBy deriveViolationId
    (keysClassified report.classifications.items fun kind => kind = .unchangedLegacy)))
  let protectedKeys ← validated (Tuple.ofList (successorProtected predecessor report).valuesByKey)
  if hgeneration : generation.val = predecessor.generation.val + 1 then
    let provisional : RatchetBaseline := {
      id := ⟨zeroDigest⟩
      generation := generation
      policy := predecessor.policy
      sourceAssessment := assessmentRef assessment
      sourceEvaluation := some (evaluationRef report)
      predecessor := some (baselineRef predecessor)
      subjects := assessment.subjects
      allowances := allowances
      protectedKeys := protectedKeys
      valid := by
        unfold validGeneration
        rw [hgeneration, if_neg (Nat.succ_ne_zero _)]
        exact ⟨nofun, rfl⟩ }
    pure { provisional with id := deriveBaselineId provisional }
  else throw (.validation [⟨"value_error", []⟩])

/-- `validate_successor_ratchet_baseline` -/
def validateSuccessorRatchetBaseline (policy : RatchetPolicy) (predecessor : RatchetBaseline)
    (bundle : OnboardingBundle) (assessment : RatchetAssessment)
    (report : RatchetEvaluationReport) (baseline : RatchetBaseline) : Except PyError Unit := do
  validateRatchetEvaluationReport policy predecessor bundle assessment report
  requireComplete assessment "successor baseline requires complete subject and rule coverage"
  require (report.outcome = .pass) (.ratchetV1 .illegalWeakening
    "successor baseline requires a passing evaluation" "$.source_evaluation")
  let expected ← deriveSuccessorBaseline predecessor assessment report
  requireSameState baseline expected "successor baseline differs from its exact evaluation"
  validateRatchetBaselineStructure baseline
  require (baseline.id = expected.id) (.ratchetV1 .summaryMismatch
    "successor baseline identity differs from its derived state" "$.id")

/-- `advance_ratchet_baseline` -/
def advanceRatchetBaseline (policy : RatchetPolicy) (predecessor : RatchetBaseline)
    (bundle : OnboardingBundle) (assessment : RatchetAssessment)
    (report : RatchetEvaluationReport) : Except PyError RatchetBaseline := do
  validateRatchetEvaluationReport policy predecessor bundle assessment report
  requireComplete assessment "baseline advance requires complete subject and rule coverage"
  require (report.outcome = .pass) (.ratchetV1 .illegalWeakening
    "only a passing evaluation can advance the accepted baseline" "$.outcome")
  let successor ← deriveSuccessorBaseline predecessor assessment report
  validateSuccessorRatchetBaseline policy predecessor bundle assessment report successor
  pure successor

end Ucf.V1
