import Ucf.Ratchet.V2.Validation
import Ucf.Ratchet.Violations

/-! What the structural validators of profile 2.0.0 accept, as propositions. -/

namespace Ucf.V2

variable [Hashlib]

/-! ### Policies and subjects -/

structure RatchetPolicy.WellFormed (policy : RatchetPolicy) : Prop where
  rules_sorted : SortedKeys (fun rule => rule.id) policy.rules.items
  id_derived : policy.id = derivePolicyId policy

theorem validateRatchetPolicy_eq_ok {policy : RatchetPolicy} {u : Unit} :
    validateRatchetPolicy policy = .ok u ↔ policy.WellFormed := by
  simp only [validateRatchetPolicy, bind_eq_ok, require_eq_ok, exists_const, ← and_assoc,
    nodup_and_eq_sortedBy_iff]
  constructor
  · rintro ⟨hsorted, hid⟩
    exact ⟨sortedKeys_iff.mpr hsorted, hid⟩
  · intro h
    exact ⟨sortedKeys_iff.mp h.rules_sorted, h.id_derived⟩

/-- The rules of a policy have different references. -/
theorem RatchetPolicy.WellFormed.ruleRefs_nodup {policy : RatchetPolicy} (h : policy.WellFormed) :
    (policy.rules.items.map ruleRef).Nodup := by
  refine List.Nodup.of_map RatchetRuleRef.targetId ?_
  rw [List.map_map]
  exact h.rules_sorted.nodup

theorem validateBehaviorSubjectSequence_eq_ok {subjects : List BehaviorSubjectSnapshot}
    {location : String} {u : Unit} :
    validateBehaviorSubjectSequence subjects location = .ok u ↔
      SubjectsWellFormed deriveBehaviorSubjectId subjects := by
  simp only [validateBehaviorSubjectSequence, bind_eq_ok, require_eq_ok, exists_const,
    requireUniqueAndSorted_eq_ok, checkEach_require_eq_ok]
  constructor
  · rintro ⟨hsorted, hnodup, hderived⟩
    exact ⟨hsorted, hnodup, hderived⟩
  · intro h
    exact ⟨h.keys_sorted, h.ids_nodup, h.ids_derived⟩

/-! ### Behavior ledgers of assessments -/

/-- What the validators ask of the coverage of one rule. -/
structure RuleCoverageWellFormed (subjectIds : List BehaviorSubjectId)
    (coverage : RuleCoverage maxRatchetSubjects) : Prop where
  sorted : (coverage.subjects.items.map fun ref => ref.targetId).Pairwise (· < ·)
  subset : (coverage.subjects.items.map fun ref => ref.targetId) ⊆ subjectIds
  complete : coverage.status = .complete →
    (coverage.subjects.items.map fun ref => ref.targetId) = sortedBy id subjectIds

omit [Hashlib] in
theorem validateRuleCoverage_eq_ok {assessment : RatchetAssessment} {u : Unit} :
    validateRuleCoverage assessment = .ok u ↔
      SortedKeys (fun item : RuleCoverage maxRatchetSubjects => ruleKey item.rule)
        assessment.behavior.coverage.items ∧
      ∀ item ∈ assessment.behavior.coverage.items, RuleCoverageWellFormed
        (assessment.behavior.subjects.items.map fun subject => subject.id) item := by
  simp only [validateRuleCoverage, bind_eq_ok, requireUniqueAndSorted_eq_ok, exists_const,
    sortedKeys_iff]
  refine and_congr_right fun _ => checkEach_eq_ok_of_iff fun position item => ?_
  simp only [bind_eq_ok, requireUniqueAndSorted_eq_ok, require_eq_ok, exists_const]
  constructor
  · rintro ⟨hsorted, hsubset, hcomplete⟩
    exact ⟨hsorted, hsubset, hcomplete⟩
  · intro h
    exact ⟨h.sorted, h.subset, h.complete⟩

/-- What the validators ask of one violation. -/
structure ViolationWellFormed (assessment : RatchetAssessment) (violation : RatchetViolation) :
    Prop where
  id_derived : violation.id = deriveViolationId violation.key
  rule_covered : violation.key.rule ∈ assessment.behavior.coverage.items.map fun item => item.rule
  subject_known : violation.key.subject.targetId ∈
    assessment.behavior.subjects.items.map fun subject => subject.id

theorem validateViolations_eq_ok {assessment : RatchetAssessment} {u : Unit} :
    validateViolations assessment = .ok u ↔
      SortedKeys (fun violation : RatchetViolation => violation.id)
        assessment.behavior.violations.items ∧
      ∀ violation ∈ assessment.behavior.violations.items,
        ViolationWellFormed assessment violation := by
  simp only [validateViolations, bind_eq_ok, requireUniqueAndSorted_eq_ok, exists_const,
    sortedKeys_iff]
  refine and_congr_right fun _ => checkEach_eq_ok_of_iff fun position violation => ?_
  simp only [bind_eq_ok, require_eq_ok, exists_const]
  constructor
  · rintro ⟨hid, hrule, hsubject⟩
    exact ⟨hid, hrule, hsubject⟩
  · intro h
    exact ⟨h.id_derived, h.rule_covered, h.subject_known⟩

/-! ### Coverage ledgers -/

structure CoverageQualification.WellFormed (qualification : CoverageQualification) : Prop where
  id_derived : qualification.id = deriveCoverageQualificationId qualification
  procedures_sorted : qualification.inventoryProcedureUris.Pairwise (· < ·)

theorem validateCoverageQualification_eq_ok {qualification : CoverageQualification}
    {location : String} {u : Unit} :
    validateCoverageQualification qualification location = .ok u ↔ qualification.WellFormed := by
  simp only [validateCoverageQualification, bind_eq_ok, require_eq_ok, exists_const,
    requireUniqueAndSorted_eq_ok]
  constructor
  · rintro ⟨hid, hsorted⟩
    exact ⟨hid, hsorted⟩
  · intro h
    exact ⟨h.id_derived, h.procedures_sorted⟩

structure CoverageSubjectGroup.WellFormed (group : CoverageSubjectGroup) : Prop where
  id_derived : group.id = deriveCoverageSubjectId group.key
  candidates_nodup :
    (group.reconciliations.items.map fun item => item.candidateSemanticDigest).Nodup
  reconciliations_sorted : SortedKeys reconciliationOrder group.reconciliations.items
  reconciliations_derived : ∀ item ∈ group.reconciliations.items,
    item.semantic = coverageSemanticFingerprint (reconciliationSemantic
      item.candidateSemanticDigest item.disposition item.replacementSemanticDigest)
  semantic_derived : group.semantic =
    coverageSemanticFingerprint (groupSemantic group.state group.reconciliations.items)

theorem validateCoverageGroup_eq_ok {location : String} {position : Nat}
    {group : CoverageSubjectGroup} {u : Unit} :
    validateCoverageGroup location position group = .ok u ↔ group.WellFormed := by
  have hinj : Function.Injective Digest.value := fun a b h => by
    cases a
    cases b
    simpa using h
  have hnodup : (group.reconciliations.items.map fun item =>
      item.candidateSemanticDigest.value).Nodup ↔
      (group.reconciliations.items.map fun item => item.candidateSemanticDigest).Nodup := by
    rw [← List.nodup_map_iff hinj, List.map_map]
    rfl
  -- candidates that differ have different keys
  have horder : (group.reconciliations.items.map fun item => item.candidateSemanticDigest).Nodup →
      (group.reconciliations.items.map reconciliationOrder).Nodup := by
    rw [← hnodup]
    intro h
    refine List.Nodup.of_map (fun key => (ofLex key).1) ?_
    rw [List.map_map]
    exact h
  simp only [validateCoverageGroup, bind_eq_ok, require_eq_ok, exists_const,
    checkEach_require_eq_ok, hnodup]
  constructor
  · rintro ⟨hid, hcandidates, hsorted, hitems, hsemantic⟩
    have hkeys := nodup_and_eq_sortedBy_iff.mp ⟨horder hcandidates, hsorted⟩
    exact ⟨hid, hcandidates, sortedKeys_iff.mpr hkeys, hitems, hsemantic⟩
  · intro h
    exact ⟨h.id_derived, h.candidates_nodup,
      (nodup_and_eq_sortedBy_iff.mpr (sortedKeys_iff.mp h.reconciliations_sorted)).2,
      h.reconciliations_derived, h.semantic_derived⟩

/-- What the validators ask of the groups of a coverage ledger. -/
structure GroupsWellFormed (groups : List CoverageSubjectGroup) : Prop where
  keys_sorted : SortedKeys (fun group => coverageGroupOrder group.key) groups
  wellFormed : ∀ group ∈ groups, group.WellFormed

theorem validateCoverageGroups_eq_ok {groups : List CoverageSubjectGroup} {location : String}
    {u : Unit} : validateCoverageGroups groups location = .ok u ↔ GroupsWellFormed groups := by
  have hchecks : checkEach (validateCoverageGroup location) groups = .ok u ↔
      ∀ group ∈ groups, group.WellFormed :=
    checkEach_eq_ok_of_iff fun _ _ => validateCoverageGroup_eq_ok
  simp only [validateCoverageGroups, bind_eq_ok, require_eq_ok, exists_const, ← and_assoc,
    nodup_and_eq_sortedBy_iff, hchecks]
  constructor
  · rintro ⟨hsorted, hgroups⟩
    exact ⟨sortedKeys_iff.mpr hsorted, hgroups⟩
  · intro h
    exact ⟨sortedKeys_iff.mp h.keys_sorted, h.wellFormed⟩

/-! ### Assessments -/

structure RatchetAssessment.WellFormed (assessment : RatchetAssessment) : Prop where
  subjects : SubjectsWellFormed deriveBehaviorSubjectId assessment.behavior.subjects.items
  rules_sorted : SortedKeys (fun item : RuleCoverage maxRatchetSubjects => ruleKey item.rule)
    assessment.behavior.coverage.items
  coverage : ∀ item ∈ assessment.behavior.coverage.items, RuleCoverageWellFormed
    (assessment.behavior.subjects.items.map fun subject => subject.id) item
  violations_sorted : SortedKeys (fun violation : RatchetViolation => violation.id)
    assessment.behavior.violations.items
  violations : ∀ violation ∈ assessment.behavior.violations.items,
    ViolationWellFormed assessment violation
  qualification : assessment.coverage.qualification.WellFormed
  groups : GroupsWellFormed assessment.coverage.groups.items
  debts_derived : assessment.coverage.debts.items =
    deriveCoverageDebts assessment.coverage.groups.items
  debts_sorted : SortedKeys (fun debt : CoverageDebtSnapshot => debt.id)
    assessment.coverage.debts.items
  debt_ids_derived : ∀ debt ∈ assessment.coverage.debts.items,
    debt.id = deriveCoverageDebtId debt.key
  id_derived : assessment.id = deriveAssessmentId assessment

theorem validateRatchetAssessmentStructure_eq_ok {assessment : RatchetAssessment} {u : Unit} :
    validateRatchetAssessmentStructure assessment = .ok u ↔ assessment.WellFormed := by
  simp only [validateRatchetAssessmentStructure, bind_eq_ok, require_eq_ok, exists_const,
    validateBehaviorSubjectSequence_eq_ok, validateRuleCoverage_eq_ok, validateViolations_eq_ok,
    validateCoverageQualification_eq_ok, validateCoverageGroups_eq_ok,
    requireUniqueAndSorted_eq_ok, checkEach_require_eq_ok,
    ← sortedKeys_iff]
  constructor
  · rintro ⟨hsubjects, ⟨hrules, hcoverage⟩, ⟨hsorted, hviolations⟩, hqualification, hgroups,
      hdebts, hdebtsSorted, hderived, hid⟩
    exact ⟨hsubjects, hrules, hcoverage, hsorted, hviolations, hqualification, hgroups, hdebts,
      hdebtsSorted, hderived, hid⟩
  · intro h
    exact ⟨h.subjects, ⟨h.rules_sorted, h.coverage⟩, ⟨h.violations_sorted, h.violations⟩,
      h.qualification, h.groups, h.debts_derived, h.debts_sorted, h.debt_ids_derived,
      h.id_derived⟩

/-- What an assessment has to do with the policy and the bundle that it names. -/
structure RatchetAssessment.Exact [Unicodedata]
    (assessment : RatchetAssessment) (policy : RatchetPolicy) (bundle : OnboardingBundle) :
    Prop where
  policy_wellFormed : policy.WellFormed
  wellFormed : assessment.WellFormed
  policy_eq : assessment.policy = policyRef policy
  source_eq : assessment.source = onboardingBundleRef bundle
  subjects_eq : deriveBehaviorSubjectSnapshots bundle = .ok assessment.behavior.subjects.items
  coverage_eq : deriveCoverageLedger bundle = .ok assessment.coverage
  rules_covered : ∀ rule, rule ∈ assessment.behavior.coverage.items.map (fun item => item.rule) ↔
    rule ∈ policy.rules.items.map ruleRef

omit [Hashlib] in
theorem validateAssessmentReferences_eq_ok {policy : RatchetPolicy}
    {assessment : RatchetAssessment} {u : Unit}
    (hpolicy : (policy.rules.items.map ruleRef).Nodup)
    (hcoverage : (assessment.behavior.coverage.items.map fun item => item.rule).Nodup) :
    validateAssessmentReferences policy assessment = .ok u ↔
      ∀ rule, rule ∈ assessment.behavior.coverage.items.map (fun item => item.rule) ↔
        rule ∈ policy.rules.items.map ruleRef := by
  simp only [validateAssessmentReferences, require_eq_ok]
  constructor
  · rintro ⟨⟨hle, hge⟩, _⟩ rule
    exact ⟨fun h => hle h, fun h => hge h⟩
  · intro h
    refine ⟨⟨fun rule hrule => (h rule).mp hrule, fun rule hrule => (h rule).mpr hrule⟩, ?_⟩
    rw [hpolicy.dedup]
    exact ((List.perm_ext_iff_of_nodup hcoverage hpolicy).mpr h).length_eq

theorem RatchetAssessment.WellFormed.rules_nodup {assessment : RatchetAssessment}
    (h : assessment.WellFormed) :
    (assessment.behavior.coverage.items.map fun item => item.rule).Nodup := by
  refine List.Nodup.of_map ruleKey ?_
  rw [List.map_map]
  exact h.rules_sorted.nodup

theorem validateRatchetAssessment_eq_ok [Unicodedata]
    {policy : RatchetPolicy} {bundle : OnboardingBundle} {assessment : RatchetAssessment}
    {u : Unit} : validateRatchetAssessment policy bundle assessment = .ok u ↔
      assessment.Exact policy bundle := by
  simp only [validateRatchetAssessment, bind_eq_ok, require_eq_ok, exists_const,
    validateRatchetPolicy_eq_ok, validateRatchetAssessmentStructure_eq_ok]
  constructor
  · rintro ⟨hpolicy, hstructure, hpolicyEq, hsource, subjects, hsubjects, rfl, coverage, hcoverage,
      rfl, hrules⟩
    exact ⟨hpolicy, hstructure, hpolicyEq, hsource, hsubjects, hcoverage,
      (validateAssessmentReferences_eq_ok hpolicy.ruleRefs_nodup hstructure.rules_nodup).mp hrules⟩
  · intro h
    exact ⟨h.policy_wellFormed, h.wellFormed, h.policy_eq, h.source_eq, _, h.subjects_eq, rfl, _,
      h.coverage_eq, rfl, (validateAssessmentReferences_eq_ok h.policy_wellFormed.ruleRefs_nodup
        h.wellFormed.rules_nodup).mpr h.rules_covered⟩

/-! ### Baselines -/

structure RatchetBaseline.WellFormed (baseline : RatchetBaseline) : Prop where
  subjects : SubjectsWellFormed deriveBehaviorSubjectId baseline.behavior.subjects.items
  allowances_sorted : SortedKeys deriveViolationId baseline.behavior.allowances.items
  protected_sorted : SortedKeys deriveViolationId baseline.behavior.protectedKeys.items
  disjoint : ∀ key ∈ baseline.behavior.allowances.items,
    deriveViolationId key ∉ baseline.behavior.protectedKeys.items.map deriveViolationId
  allowance_subjects : ∀ key ∈ baseline.behavior.allowances.items,
    key.subject.targetId ∈ baseline.behavior.subjects.items.map fun subject => subject.id
  qualification : baseline.coverage.qualification.WellFormed
  groups : GroupsWellFormed baseline.coverage.groups.items
  coverage_allowances : baseline.coverage.allowances.items =
    deriveCoverageDebts baseline.coverage.groups.items
  coverage_allowances_sorted : SortedKeys (fun debt : CoverageDebtSnapshot => debt.id)
    baseline.coverage.allowances.items
  coverage_ids_derived : ∀ debt ∈ baseline.coverage.allowances.items,
    debt.id = deriveCoverageDebtId debt.key
  coverage_protected_sorted : SortedKeys deriveCoverageDebtId baseline.coverage.protectedKeys.items
  coverage_disjoint : ∀ debt ∈ baseline.coverage.allowances.items,
    debt.id ∉ baseline.coverage.protectedKeys.items.map deriveCoverageDebtId
  id_derived : baseline.id = deriveBaselineId baseline

theorem validateCoverageAllowances_eq_ok {coverage : CoverageBaselineLedger} {u : Unit} :
    validateCoverageAllowances coverage = .ok u ↔
      coverage.allowances.items = deriveCoverageDebts coverage.groups.items ∧
        SortedKeys (fun debt : CoverageDebtSnapshot => debt.id) coverage.allowances.items ∧
        ∀ debt ∈ coverage.allowances.items, debt.id = deriveCoverageDebtId debt.key := by
  simp only [validateCoverageAllowances, bind_eq_ok, require_eq_ok, exists_const,
    requireUniqueAndSorted_eq_ok, ← sortedKeys_iff]
  refine and_congr_right fun hallowances => and_congr_right fun hsorted => ?_
  rw [checkEach_eq_ok]
  simp only [bind_eq_ok, require_eq_ok, exists_const]
  -- a debt of the projection is found there under its own identifier
  have hfound : ∀ debt ∈ coverage.allowances.items,
      (Dict.index (fun debt : CoverageDebtSnapshot => debt.id)
        (deriveCoverageDebts coverage.groups.items)).get? debt.id = some debt := by
    intro debt hdebt
    rw [← hallowances]
    exact (Dict.get?_index hsorted.nodup).mpr ⟨hdebt, rfl⟩
  constructor
  · intro h debt hdebt
    obtain ⟨i, hi, rfl⟩ := List.mem_iff_getElem.mp hdebt
    exact (h i hi).1
  · exact fun h i hi => ⟨h _ (List.getElem_mem hi), hfound _ (List.getElem_mem hi)⟩

theorem validateRatchetBaselineStructure_eq_ok {baseline : RatchetBaseline} {u : Unit} :
    validateRatchetBaselineStructure baseline = .ok u ↔ baseline.WellFormed := by
  simp only [validateRatchetBaselineStructure, bind_eq_ok, require_eq_ok, exists_const,
    validateBehaviorSubjectSequence_eq_ok, validateCoverageQualification_eq_ok,
    validateCoverageGroups_eq_ok, validateCoverageAllowances_eq_ok, requireUniqueAndSorted_eq_ok,
    ← sortedKeys_iff, List.forall_mem_map]
  constructor
  · rintro ⟨hsubjects, hallowances, hprotected, hdisjoint, hknown, hqualification, hgroups,
      ⟨hdebts, hdebtsSorted, hderived⟩, hdebtsProtected, hdebtsDisjoint, hid⟩
    exact ⟨hsubjects, hallowances, hprotected, hdisjoint, hknown, hqualification, hgroups, hdebts,
      hdebtsSorted, hderived, hdebtsProtected, hdebtsDisjoint, hid⟩
  · intro h
    exact ⟨h.subjects, h.allowances_sorted, h.protected_sorted, h.disjoint, h.allowance_subjects,
      h.qualification, h.groups,
      ⟨h.coverage_allowances, h.coverage_allowances_sorted, h.coverage_ids_derived⟩,
      h.coverage_protected_sorted, h.coverage_disjoint, h.id_derived⟩

end Ucf.V2
