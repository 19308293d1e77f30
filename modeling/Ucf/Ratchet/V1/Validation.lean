import Ucf.Ratchet.V1.Projection

/-! The structural validation of policies, assessments and baselines of profile 1.0.0, and the
validation of an assessment against its policy and bundle. -/

namespace Ucf.V1

variable [Hashlib]

/-- `validate_ratchet_policy` -/
def validateRatchetPolicy (policy : RatchetPolicy) : Except PyError Unit := do
  let ruleIds : List Identifier := policy.rules.items.map fun rule => rule.id
  require ruleIds.Nodup (.ratchetV1 .duplicateIdentity "ratchet rule IDs must be unique" "$.rules")
  require (ruleIds = sortedBy id ruleIds)
    (.ratchetV1 .nonCanonicalOrder "ratchet rules must be sorted by ID" "$.rules")
  require (policy.id = derivePolicyId policy) (.ratchetV1 .contentIdentityMismatch
    "ratchet policy ID is not derived from its exact content" "$.id")

/-- `_validate_subjects` -/
def validateSubjects (subjects : List BehaviorSubjectSnapshot) (location : String) :
    Except PyError Unit := do
  requireUniqueAndSorted .ratchetV1 (subjects.map fun subject => behaviorSubjectOrder subject.key)
    location "assessment subjects"
  require (subjects.map fun subject => subject.id).Nodup
    (.ratchetV1 .duplicateIdentity "assessment subject IDs must be unique" location)
  checkEach (fun position subject => require (subject.id = deriveBehaviorSubjectId subject.key)
    (.ratchetV1 .contentIdentityMismatch "behavior subject ID is not derived from its stable key"
      (at_ location position ++ ".id"))) subjects

/-- The coordinates of a rule as a key. -/
def ruleKey (rule : RatchetRuleRef) : String ×ₗ String := toLex (rule.targetId.val, rule.version.val)

/-- `_validate_assessment_internal_references` -/
def validateAssessmentInternalReferences (assessment : RatchetAssessment) : Except PyError Unit := do
  let subjects : List BehaviorSubjectId := assessment.subjects.items.map fun subject => subject.id
  let rules : List RatchetRuleRef := assessment.coverage.items.map fun coverage => coverage.rule
  checkEach (fun index (coverage : RuleCoverage maxRatchetSubjects) => do
    let location := at_ "$.coverage" index ++ ".subjects"
    let references : List BehaviorSubjectId := coverage.subjects.items.map fun ref => ref.targetId
    requireUniqueAndSorted .ratchetV1 references location "coverage subjects"
    require (references ⊆ subjects) (.ratchetV1 .brokenReference
      "coverage names an unknown behavior subject" location)
    require (coverage.status = .complete → references = sortedSet subjects)
      (.ratchetV1 .incompleteCoverage "complete rule coverage must name every current subject"
        location)) assessment.coverage.items
  checkEach (fun index (violation : RatchetViolation) => do
    let location := at_ "$.violations" index
    require (violation.key.rule ∈ rules) (.ratchetV1 .brokenReference
      "violation names a rule absent from assessment coverage" (location ++ ".key.rule"))
    require (violation.key.subject.targetId ∈ subjects) (.ratchetV1 .brokenReference
      "violation names an unknown behavior subject" (location ++ ".key.subject")))
    assessment.violations.items

/-- `validate_ratchet_assessment_structure` -/
def validateRatchetAssessmentStructure (assessment : RatchetAssessment) : Except PyError Unit := do
  validateSubjects assessment.subjects.items "$.subjects"
  requireUniqueAndSorted .ratchetV1 (assessment.coverage.items.map fun item => ruleKey item.rule)
    "$.coverage" "rule coverage"
  let violations := assessment.violations.items
  requireUniqueAndSorted .ratchetV1 (violations.map fun violation => violation.id) "$.violations"
    "violations"
  checkEach (fun index violation => require (violation.id = deriveViolationId violation.key)
    (.ratchetV1 .contentIdentityMismatch "violation ID is not derived from its stable key"
      (at_ "$.violations" index ++ ".id"))) violations
  validateAssessmentInternalReferences assessment
  require (assessment.id = deriveAssessmentId assessment) (.ratchetV1 .contentIdentityMismatch
    "assessment ID is not derived from its exact content" "$.id")

/-- `_validate_assessment_references` -/
def validateAssessmentReferences (policy : RatchetPolicy) (assessment : RatchetAssessment) :
    Except PyError Unit := do
  let rules : List RatchetRuleRef := policy.rules.items.map ruleRef
  require (assessment.coverage.items.length = rules.dedup.length) (.ratchetV1 .brokenReference
    "assessment must contain one coverage record per policy rule" "$.coverage")
  checkEach (fun index (coverage : RuleCoverage maxRatchetSubjects) =>
    require (coverage.rule ∈ rules) (.ratchetV1 .brokenReference
      "coverage names an unknown policy rule" (at_ "$.coverage" index ++ ".rule")))
    assessment.coverage.items
  checkEach (fun index (violation : RatchetViolation) =>
    require (violation.key.rule ∈ rules) (.ratchetV1 .brokenReference
      "violation names an unknown policy rule" (at_ "$.violations" index ++ ".key.rule")))
    assessment.violations.items

/-- `validate_ratchet_assessment` -/
def validateRatchetAssessment [Unicodedata]
    (policy : RatchetPolicy) (bundle : OnboardingBundle) (assessment : RatchetAssessment) :
    Except PyError Unit := do
  validateRatchetPolicy policy
  validateRatchetAssessmentStructure assessment
  require (assessment.policy = policyRef policy) (.ratchetV1 .documentIdentityMismatch
    "assessment policy reference differs from the exact policy" "$.policy")
  require (assessment.source = ⟨canonicalOnboardingDigest bundle⟩)
    (.ratchetV1 .documentIdentityMismatch
      "assessment source differs from the exact onboarding bundle" "$.source")
  require (assessment.subjectCoverage = bundle.discovery.coverage.status)
    (.ratchetV1 .summaryMismatch
      "assessment subject coverage differs from discovery coverage" "$.subject_coverage")
  let expectedSubjects ← deriveSubjectSnapshots bundle
  require (assessment.subjects.items = expectedSubjects) (.ratchetV1 .documentIdentityMismatch
    "assessment subjects differ from their exact bundle projection" "$.subjects")
  validateAssessmentReferences policy assessment

/-- `validate_ratchet_baseline_structure` -/
def validateRatchetBaselineStructure (baseline : RatchetBaseline) : Except PyError Unit := do
  validateSubjects baseline.subjects.items "$.subjects"
  let subjectIds : List BehaviorSubjectId := baseline.subjects.items.map fun subject => subject.id
  let allowanceIds : List ViolationId := baseline.allowances.items.map deriveViolationId
  let protectedIds : List ViolationId := baseline.protectedKeys.items.map deriveViolationId
  requireUniqueAndSorted .ratchetV1 allowanceIds "$.allowances" "baseline allowances"
  requireUniqueAndSorted .ratchetV1 protectedIds "$.protected" "protected resolutions"
  require (∀ id ∈ allowanceIds, id ∉ protectedIds) (.ratchetV1 .duplicateIdentity
    "allowances and protected resolutions must be disjoint" "$")
  require (∀ key ∈ baseline.allowances.items, key.subject.targetId ∈ subjectIds)
    (.ratchetV1 .brokenReference "baseline allowance names an unknown current subject"
      "$.allowances")
  require (baseline.id = deriveBaselineId baseline) (.ratchetV1 .contentIdentityMismatch
    "baseline ID is not derived from its exact content" "$.id")

end Ucf.V1
