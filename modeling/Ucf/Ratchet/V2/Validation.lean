import Ucf.Ratchet.V2.Projection

/-! The structural validation of policies, assessments and baselines of profile 2.0.0, and the
validation of an assessment against its policy and bundle. -/

namespace Ucf.V2

variable [Hashlib]

/-- `validate_ratchet_policy` -/
def validateRatchetPolicy (policy : RatchetPolicy) : Except PyError Unit := do
  let ruleIds : List Identifier := policy.rules.items.map fun rule => rule.id
  require ruleIds.Nodup (.ratchet .duplicateIdentity "ratchet rule IDs must be unique" "$.rules")
  require (ruleIds = sortedBy id ruleIds)
    (.ratchet .nonCanonicalOrder "ratchet rules must be sorted by ID" "$.rules")
  require (policy.id = derivePolicyId policy) (.ratchet .contentIdentityMismatch
    "ratchet policy ID is not derived from its exact content" "$.id")

/-- `_validate_behavior_subject_sequence` -/
def validateBehaviorSubjectSequence (subjects : List BehaviorSubjectSnapshot) (location : String) :
    Except PyError Unit := do
  requireUniqueAndSorted .ratchet (subjects.map fun subject => behaviorSubjectOrder subject.key)
    location "behavior subjects"
  require (subjects.map fun subject => subject.id).Nodup
    (.ratchet .duplicateIdentity "behavior subject IDs must be unique" location)
  checkEach (fun position subject => require (subject.id = deriveBehaviorSubjectId subject.key)
    (.ratchet .contentIdentityMismatch "behavior subject ID is not derived from its stable key"
      (at_ location position ++ ".id"))) subjects

/-- The coordinates of a rule as a key. -/
def ruleKey (rule : RatchetRuleRef) : String ×ₗ String := toLex (rule.targetId.val, rule.version.val)

omit [Hashlib] in
theorem ruleKey_injective : Function.Injective ruleKey := by
  intro r s h
  obtain ⟨rid, rversion⟩ := r
  obtain ⟨sid, sversion⟩ := s
  simp only [ruleKey, toLex_inj, Prod.mk.injEq] at h
  rw [Subtype.ext h.1, Subtype.ext h.2]

/-- `_validate_rule_coverage` -/
def validateRuleCoverage (assessment : RatchetAssessment) : Except PyError Unit := do
  let subjectIds : List BehaviorSubjectId :=
    assessment.behavior.subjects.items.map fun subject => subject.id
  let coverage := assessment.behavior.coverage.items
  requireUniqueAndSorted .ratchet (coverage.map fun item => ruleKey item.rule)
    "$.behavior.coverage" "rule coverage"
  checkEach (fun position (item : RuleCoverage maxRatchetSubjects) => do
    let location := at_ "$.behavior.coverage" position ++ ".subjects"
    let references : List BehaviorSubjectId := item.subjects.items.map fun ref => ref.targetId
    requireUniqueAndSorted .ratchet references location "rule coverage subjects"
    require (references ⊆ subjectIds) (.ratchet .brokenReference
      "rule coverage names an unknown behavior subject" location)
    require (item.status = .complete → references = sortedBy id subjectIds)
      (.ratchet .incompleteRuleCoverage "complete rule coverage must name every behavior subject"
        location)) coverage

/-- `_validate_violations` -/
def validateViolations (assessment : RatchetAssessment) : Except PyError Unit := do
  let subjectIds : List BehaviorSubjectId :=
    assessment.behavior.subjects.items.map fun subject => subject.id
  let coverageRules : List RatchetRuleRef :=
    assessment.behavior.coverage.items.map fun item => item.rule
  let violations := assessment.behavior.violations.items
  requireUniqueAndSorted .ratchet (violations.map fun violation => violation.id)
    "$.behavior.violations" "violations"
  checkEach (fun position violation => do
    let location := at_ "$.behavior.violations" position
    require (violation.id = deriveViolationId violation.key) (.ratchet .contentIdentityMismatch
      "violation ID is not derived from its stable key" (location ++ ".id"))
    require (violation.key.rule ∈ coverageRules) (.ratchet .brokenReference
      "violation names a rule absent from coverage" (location ++ ".key.rule"))
    require (violation.key.subject.targetId ∈ subjectIds) (.ratchet .brokenReference
      "violation names an unknown behavior subject" (location ++ ".key.subject"))) violations

/-- `_validate_coverage_qualification` -/
def validateCoverageQualification (qualification : CoverageQualification) (location : String) :
    Except PyError Unit := do
  require (qualification.id = deriveCoverageQualificationId qualification)
    (.ratchet .contentIdentityMismatch "coverage qualification ID differs from its exact content"
      (location ++ ".id"))
  requireUniqueAndSorted .ratchet qualification.inventoryProcedureUris
    (location ++ ".inventory_procedure_uris") "inventory procedure URIs"

/-- The body of the loop of `_validate_coverage_groups` -/
def validateCoverageGroup (location : String) (position : Nat) (group : CoverageSubjectGroup) :
    Except PyError Unit := do
  let groupLocation := at_ location position
  require (group.id = deriveCoverageSubjectId group.key) (.ratchet .contentIdentityMismatch
    "coverage subject ID is not derived from its stable key" (groupLocation ++ ".id"))
  let reconciliations := group.reconciliations.items
  let reconciliationLocation := groupLocation ++ ".reconciliations"
  require (reconciliations.map fun item => item.candidateSemanticDigest.value).Nodup
    (.ratchet .ambiguousCoverageIdentity
      "candidate semantic identities must be unique per subject" reconciliationLocation)
  require (reconciliations.map reconciliationOrder =
      sortedBy id (reconciliations.map reconciliationOrder))
    (.ratchet .nonCanonicalOrder "coverage reconciliations must be canonically ordered"
      reconciliationLocation)
  checkEach (fun itemPosition item => require (item.semantic = coverageSemanticFingerprint
      (reconciliationSemantic item.candidateSemanticDigest item.disposition
        item.replacementSemanticDigest))
    (.ratchet .contentIdentityMismatch "reconciliation semantic fingerprint is not derived"
      (at_ reconciliationLocation itemPosition ++ ".semantic"))) reconciliations
  require (group.semantic = coverageSemanticFingerprint (groupSemantic group.state reconciliations))
    (.ratchet .contentIdentityMismatch "coverage group semantic fingerprint is not derived"
      (groupLocation ++ ".semantic"))

/-- `_validate_coverage_groups` -/
def validateCoverageGroups (groups : List CoverageSubjectGroup) (location : String) :
    Except PyError Unit := do
  let groupKeys : List (String ×ₗ String ×ₗ String ×ₗ String ×ₗ String) :=
    groups.map fun group => coverageGroupOrder group.key
  require groupKeys.Nodup
    (.ratchet .ambiguousCoverageIdentity "coverage subject keys must be unique" location)
  require (groupKeys = sortedBy id groupKeys)
    (.ratchet .nonCanonicalOrder "coverage groups must be in stable-key order" location)
  checkEach (validateCoverageGroup location) groups

/-- `validate_ratchet_assessment_structure` -/
def validateRatchetAssessmentStructure (assessment : RatchetAssessment) : Except PyError Unit := do
  validateBehaviorSubjectSequence assessment.behavior.subjects.items "$.behavior.subjects"
  validateRuleCoverage assessment
  validateViolations assessment
  validateCoverageQualification assessment.coverage.qualification "$.coverage.qualification"
  let groups := assessment.coverage.groups.items
  let debts := assessment.coverage.debts.items
  validateCoverageGroups groups "$.coverage.groups"
  require (debts = deriveCoverageDebts groups) (.ratchet .summaryMismatch
    "coverage debts differ from exact groups and dispositions" "$.coverage.debts")
  requireUniqueAndSorted .ratchet (debts.map fun debt => debt.id) "$.coverage.debts"
    "coverage debts"
  checkEach (fun position debt => require (debt.id = deriveCoverageDebtId debt.key)
    (.ratchet .contentIdentityMismatch "coverage debt ID is not derived from its stable key"
      (at_ "$.coverage.debts" position ++ ".id"))) debts
  require (assessment.id = deriveAssessmentId assessment) (.ratchet .contentIdentityMismatch
    "assessment ID is not derived from its exact content" "$.id")

/-- `_validate_assessment_references` -/
def validateAssessmentReferences (policy : RatchetPolicy) (assessment : RatchetAssessment) :
    Except PyError Unit :=
  let rules : List RatchetRuleRef := policy.rules.items.map ruleRef
  let coverageRules : List RatchetRuleRef :=
    assessment.behavior.coverage.items.map fun item => item.rule
  require ((coverageRules ⊆ rules ∧ rules ⊆ coverageRules) ∧
      coverageRules.length = rules.dedup.length)
    (.ratchet .brokenReference "assessment requires one coverage record per policy rule"
      "$.behavior.coverage")

/-- `validate_ratchet_assessment` -/
def validateRatchetAssessment [Unicodedata]
    (policy : RatchetPolicy) (bundle : OnboardingBundle) (assessment : RatchetAssessment) :
    Except PyError Unit := do
  validateRatchetPolicy policy
  validateRatchetAssessmentStructure assessment
  require (assessment.policy = policyRef policy) (.ratchet .documentIdentityMismatch
    "assessment policy differs from the exact policy" "$.policy")
  require (assessment.source = onboardingBundleRef bundle) (.ratchet .documentIdentityMismatch
    "assessment source differs from the exact onboarding bundle" "$.source")
  let expectedSubjects ← deriveBehaviorSubjectSnapshots bundle
  require (assessment.behavior.subjects.items = expectedSubjects)
    (.ratchet .documentIdentityMismatch
      "behavior subjects differ from their exact bundle projection" "$.behavior.subjects")
  let expectedCoverage ← deriveCoverageLedger bundle
  require (assessment.coverage = expectedCoverage) (.ratchet .documentIdentityMismatch
    "coverage ledger differs from its exact bundle projection" "$.coverage")
  validateAssessmentReferences policy assessment

/-- The check of a baseline's coverage allowances against its groups. -/
def validateCoverageAllowances (coverage : CoverageBaselineLedger) : Except PyError Unit := do
  let projected := deriveCoverageDebts coverage.groups.items
  let allowances := coverage.allowances.items
  require (allowances = projected) (.ratchet .summaryMismatch
    "coverage allowances must equal all current unresolved debt" "$.coverage.allowances")
  let projectedDebts := Dict.index (fun debt : CoverageDebtSnapshot => debt.id) projected
  requireUniqueAndSorted .ratchet (allowances.map fun debt => debt.id) "$.coverage.allowances"
    "coverage allowances"
  checkEach (fun position debt => do
    require (debt.id = deriveCoverageDebtId debt.key) (.ratchet .contentIdentityMismatch
      "coverage allowance ID is not derived from its stable key"
      (at_ "$.coverage.allowances" position ++ ".id"))
    require (projectedDebts.get? debt.id = some debt) (.ratchet .brokenReference
      "coverage allowance is absent from the current group state"
      (at_ "$.coverage.allowances" position))) allowances

/-- `validate_ratchet_baseline_structure` -/
def validateRatchetBaselineStructure (baseline : RatchetBaseline) : Except PyError Unit := do
  let behavior := baseline.behavior
  validateBehaviorSubjectSequence behavior.subjects.items "$.behavior.subjects"
  let subjectIds : List BehaviorSubjectId := behavior.subjects.items.map fun subject => subject.id
  let allowanceIds : List ViolationId := behavior.allowances.items.map deriveViolationId
  let protectedIds : List ViolationId := behavior.protectedKeys.items.map deriveViolationId
  requireUniqueAndSorted .ratchet allowanceIds "$.behavior.allowances" "behavior allowances"
  requireUniqueAndSorted .ratchet protectedIds "$.behavior.protected"
    "protected behavior resolutions"
  require (∀ id ∈ allowanceIds, id ∉ protectedIds) (.ratchet .duplicateIdentity
    "behavior allowances and protections must be disjoint" "$.behavior")
  require (∀ key ∈ behavior.allowances.items, key.subject.targetId ∈ subjectIds)
    (.ratchet .brokenReference "behavior allowance names an unknown current subject"
      "$.behavior.allowances")
  let coverage := baseline.coverage
  validateCoverageQualification coverage.qualification "$.coverage.qualification"
  validateCoverageGroups coverage.groups.items "$.coverage.groups"
  validateCoverageAllowances coverage
  let coverageAllowanceIds : List CoverageDebtId := coverage.allowances.items.map fun debt => debt.id
  let coverageProtectedIds : List CoverageDebtId :=
    coverage.protectedKeys.items.map deriveCoverageDebtId
  requireUniqueAndSorted .ratchet coverageProtectedIds "$.coverage.protected"
    "protected coverage resolutions"
  require (∀ id ∈ coverageAllowanceIds, id ∉ coverageProtectedIds) (.ratchet .duplicateIdentity
    "coverage allowances and protections must be disjoint" "$.coverage")
  require (baseline.id = deriveBaselineId baseline) (.ratchet .contentIdentityMismatch
    "baseline ID is not derived from its exact content" "$.id")

end Ucf.V2
