import Ucf.Ratchet.V2.Debts
import Ucf.Ratchet.V2.Reports

/-! What a report of profile 2.0.0 holds: an evaluation of documents that pass the checks before it
always returns one, with the changes, classifications, outcomes and deltas of these documents. -/

namespace Ucf.V2

variable [Hashlib]

/-- The changes, classifications, outcomes and deltas that a report has to hold. -/
structure Evaluated (policy : RatchetPolicy) (baseline : RatchetBaseline)
    (assessment : RatchetAssessment) (hbaseline : baseline.WellFormed)
    (hassessment : assessment.WellFormed) (report : RatchetEvaluationReport) : Prop where
  policy_eq : report.policy = policyRef policy
  baseline_eq : report.baseline = baselineRef baseline
  assessment_eq : report.assessment = assessmentRef assessment
  subject_changes : report.behaviorSubjectChanges.items = subjectChangesOf baseline assessment
  violations : report.behaviorClassifications.items =
    (violationView baseline assessment hbaseline hassessment).classifications
  comparison : report.coverageComparison = coverageComparison baseline assessment
  group_changes : report.coverageSubjectChanges.items = groupChangesOf baseline assessment
    (coverageComparison baseline assessment = .comparable)
  debts : report.coverageClassifications.items = debtClassifications baseline assessment
    (coverageComparison baseline assessment)
  behavior_outcome : report.behaviorOutcome = behaviorOutcome assessment
    report.behaviorSubjectChanges.items report.behaviorClassifications.items
  coverage_outcome : report.coverageOutcome = coverageOutcome assessment report.coverageComparison
    report.coverageSubjectChanges.items report.coverageClassifications.items
  combined_outcome : report.combinedOutcome =
    combinedOutcome report.behaviorOutcome report.coverageOutcome
  behavior_delta : behaviorDelta report.behaviorClassifications.items = .ok report.behaviorDelta
  coverage_delta : coverageDelta report.coverageClassifications.items = .ok report.coverageDelta
  id_derived : report.id = deriveEvaluationId report

variable {policy : RatchetPolicy} {baseline : RatchetBaseline} {assessment : RatchetAssessment}
  {report : RatchetEvaluationReport}

theorem evaluated_of_deriveEvaluation (hbaseline : baseline.WellFormed)
    (hassessment : assessment.WellFormed)
    (h : deriveEvaluation policy baseline assessment = .ok report) :
    Evaluated policy baseline assessment hbaseline hassessment report := by
  simp only [deriveEvaluation, behaviorSubjectChanges_eq, behaviorClassifications_eq hbaseline
    hassessment, coverageSubjectChanges_eq, coverageClassifications_eq hbaseline hassessment,
    ok_bind, bind_eq_ok, validated_eq_ok, pure_eq_ok, Tuple.ofList_eq_ok] at h
  obtain ⟨violationDelta, hviolationDelta, debtDelta, hdebtDelta, changes, hchanges, violations,
    hviolations, groupChanges, hgroupChanges, debts, hdebts, heq⟩ := h
  cases heq
  exact {
    policy_eq := rfl
    baseline_eq := rfl
    assessment_eq := rfl
    subject_changes := hchanges
    violations := hviolations
    comparison := rfl
    group_changes := hgroupChanges
    debts := hdebts
    behavior_outcome := by rw [hchanges, hviolations]
    coverage_outcome := by rw [hgroupChanges, hdebts]
    combined_outcome := rfl
    behavior_delta := by rw [hviolations, hviolationDelta]
    coverage_delta := by rw [hdebts, hdebtDelta]
    id_derived := (deriveEvaluationId_with_id _ _).symm }

/-! ### Every list of a report is within its limit -/

omit [Hashlib] in
theorem length_subjectChangesOf_le (baseline : RatchetBaseline) (assessment : RatchetAssessment) :
    (subjectChangesOf baseline assessment).length ≤ maxRatchetSubjects * 2 := by
  have hbaseline := baseline.behavior.subjects.le_upper
  have hassessment := assessment.behavior.subjects.le_upper
  rw [subjectChangesOf, changesOf, List.length_map]
  exact length_changedIds_le.trans (by omega)

omit [Hashlib] in
theorem length_groupChangesOf_le (baseline : RatchetBaseline) (assessment : RatchetAssessment)
    (comparable : Bool) :
    (groupChangesOf baseline assessment comparable).length ≤ maxRatchetSubjects * 2 := by
  have hbaseline := baseline.coverage.groups.le_upper
  have hassessment := assessment.coverage.groups.le_upper
  have hids := length_sortedSet_le
    ((baseline.coverage.groups.items.map fun group => group.id) ++
      assessment.coverage.groups.items.map fun group => group.id)
  rw [List.length_append, List.length_map, List.length_map] at hids
  rw [groupChangesOf, List.length_map, groupIds]
  omega

theorem length_classifications_le (hbaseline : baseline.WellFormed)
    (hassessment : assessment.WellFormed) :
    (violationView baseline assessment hbaseline hassessment).classifications.length ≤
      maxRatchetViolations * 2 := by
  have hcurrent : (currentKeys assessment).length ≤ maxRatchetViolations :=
    (List.length_map _).trans_le assessment.behavior.violations.le_upper
  have hallowances := baseline.behavior.allowances.le_upper
  have habsent := @ViolationView.length_absent_le
    (violationView baseline assessment hbaseline hassessment)
  rw [ViolationView.length_classifications]
  simp only [violationView] at habsent ⊢
  omega

theorem length_debtClassifications_le (baseline : RatchetBaseline)
    (assessment : RatchetAssessment) (comparison : CoverageComparisonStatus) :
    (debtClassifications baseline assessment comparison).length ≤ maxRatchetSubjects * 2 := by
  have hcurrent := assessment.coverage.debts.le_upper
  have hallowances := baseline.coverage.allowances.le_upper
  have habsent : (absentDebts baseline assessment).length ≤
      baseline.coverage.allowances.items.length := List.length_filter_le _ _
  rw [debtClassifications, length_sortedBy, classifiedDebts, List.length_append, List.length_map,
    List.length_map]
  omega

/-! ### Deltas -/

/-- A delta with these members. -/
structure IsDelta {kind : String} {limit : Nat} {κ : Type} (delta : WeakeningDelta kind limit κ)
    (added removed unprotected : List κ) : Prop where
  status : delta.status = deltaStatus added removed
  added : delta.addedAllowances.items = added
  removed : delta.removedAllowances.items = removed
  unprotected : delta.removedProtections.items = unprotected

omit [Hashlib] in
theorem behaviorDelta_eq_ok {classifications : List ViolationClassification}
    {delta : BehaviorWeakeningDelta} : behaviorDelta classifications = .ok delta ↔
      IsDelta delta (keysClassified classifications fun kind => kind.isRegression)
        (keysClassified classifications fun kind => kind = .resolved)
        (keysClassified classifications fun kind => kind = .reintroduced) := by
  simp only [behaviorDelta, bind_eq_ok, validated_eq_ok, Tuple.ofList_eq_ok, pure_eq_ok,
    Except.ok.injEq]
  constructor
  · rintro ⟨added, hadded, removed, hremoved, unprotected, hunprotected, rfl⟩
    exact ⟨rfl, hadded, hremoved, hunprotected⟩
  · intro h
    refine ⟨_, h.added, _, h.removed, _, h.unprotected, ?_⟩
    rw [← h.status]

omit [Hashlib] in
theorem coverageDelta_eq_ok {classifications : List CoverageDebtClassification}
    {delta : CoverageWeakeningDelta} : coverageDelta classifications = .ok delta ↔
      IsDelta delta (debtKeysClassified classifications fun kind => kind.isRegression)
        (debtKeysClassified classifications fun kind => kind = .resolved)
        (debtKeysClassified classifications fun kind => kind = .reintroduced) := by
  simp only [coverageDelta, bind_eq_ok, validated_eq_ok, Tuple.ofList_eq_ok, pure_eq_ok,
    Except.ok.injEq]
  constructor
  · rintro ⟨added, hadded, removed, hremoved, unprotected, hunprotected, rfl⟩
    exact ⟨rfl, hadded, hremoved, hunprotected⟩
  · intro h
    refine ⟨_, h.added, _, h.removed, _, h.unprotected, ?_⟩
    rw [← h.status]

omit [Hashlib] in
/-- Lists within the limit make a delta. -/
theorem exists_isDelta (kind : String) {limit : Nat} {κ : Type} {added removed unprotected : List κ}
    (hadded : added.length ≤ limit) (hremoved : removed.length ≤ limit)
    (hunprotected : unprotected.length ≤ limit) :
    ∃ delta : WeakeningDelta kind limit κ, IsDelta delta added removed unprotected :=
  ⟨⟨deltaStatus added removed, ⟨added, Nat.zero_le _, hadded⟩, ⟨removed, Nat.zero_le _, hremoved⟩,
    ⟨unprotected, Nat.zero_le _, hunprotected⟩⟩, rfl, rfl, rfl, rfl⟩

theorem exists_behaviorDelta (hbaseline : baseline.WellFormed)
    (hassessment : assessment.WellFormed) : ∃ delta, behaviorDelta
      (violationView baseline assessment hbaseline hassessment).classifications = .ok delta := by
  have hcurrent : (currentKeys assessment).length ≤ maxRatchetViolations :=
    (List.length_map _).trans_le assessment.behavior.violations.le_upper
  have hallowances := baseline.behavior.allowances.le_upper
  simp only [behaviorDelta_eq_ok]
  refine exists_isDelta _ ?_ ?_ ?_
  · refine (ViolationView.length_keysClassified_le_current fun key => ?_).trans hcurrent
    exact ViolationView.absentKind_isRegression
  · refine (ViolationView.length_keysClassified_le_allowances fun key => ?_).trans hallowances
    exact decide_eq_false ViolationView.currentKind_ne_resolved
  · refine (ViolationView.length_keysClassified_le_current fun key => ?_).trans hcurrent
    exact decide_eq_false ViolationView.absentKind_ne_reintroduced

/-! ### The kinds of debts -/

theorem currentDebtKind_ne_resolved {comparison : CoverageComparisonStatus}
    {debt : CoverageDebtSnapshot} : currentDebtKind baseline comparison debt ≠ .resolved := by
  unfold currentDebtKind
  split_ifs <;> try simp
  split
  · simp
  · split <;> simp

omit [Hashlib] in
theorem absentDebtKind_eq {comparison : CoverageComparisonStatus} {debt : CoverageDebtSnapshot} :
    absentDebtKind assessment comparison debt = .resolved ∨
      absentDebtKind assessment comparison debt = .unknown := by
  unfold absentDebtKind
  split_ifs <;> simp

/-- What only current debts can be is no more than the current debts. -/
theorem length_debtKeysClassified_le_current {comparison : CoverageComparisonStatus}
    {kinds : CoverageDebtClassificationKind → Bool} (hresolved : kinds .resolved = false)
    (hunknown : kinds .unknown = false) :
    (debtKeysClassified (debtClassifications baseline assessment comparison) kinds).length ≤
      maxRatchetSubjects := by
  have hcurrent := assessment.coverage.debts.le_upper
  rw [debtKeysClassified, List.length_map, debtClassifications, classifiedDebts]
  refine (length_filter_sortedBy_le_left ?_).trans ((List.length_map _).trans_le hcurrent)
  rintro _ hitem
  obtain ⟨debt, _, rfl⟩ := List.mem_map.mp hitem
  rcases @absentDebtKind_eq assessment comparison debt with hkind | hkind
  · simpa only [hkind] using hresolved
  · simpa only [hkind] using hunknown

theorem exists_coverageDelta (baseline : RatchetBaseline) (assessment : RatchetAssessment)
    (comparison : CoverageComparisonStatus) : ∃ delta,
      coverageDelta (debtClassifications baseline assessment comparison) = .ok delta := by
  have hallowances := baseline.coverage.allowances.le_upper
  have habsent : (absentDebts baseline assessment).length ≤
      baseline.coverage.allowances.items.length := List.length_filter_le _ _
  simp only [coverageDelta_eq_ok]
  refine exists_isDelta _ (length_debtKeysClassified_le_current rfl rfl) ?_
    (length_debtKeysClassified_le_current rfl rfl)
  rw [debtKeysClassified, List.length_map, debtClassifications, classifiedDebts]
  refine (length_filter_sortedBy_le_right ?_).trans
    ((List.length_map _).trans_le (habsent.trans hallowances))
  rintro _ hitem
  obtain ⟨debt, _, rfl⟩ := List.mem_map.mp hitem
  exact decide_eq_false currentDebtKind_ne_resolved

/-- Well formed documents have an evaluation. -/
theorem exists_deriveEvaluation (policy : RatchetPolicy) (hbaseline : baseline.WellFormed)
    (hassessment : assessment.WellFormed) :
    ∃ report, deriveEvaluation policy baseline assessment = .ok report := by
  obtain ⟨violationDelta, hviolationDelta⟩ := exists_behaviorDelta hbaseline hassessment
  obtain ⟨debtDelta, hdebtDelta⟩ := exists_coverageDelta baseline assessment
    (coverageComparison baseline assessment)
  simp only [deriveEvaluation, behaviorSubjectChanges_eq, behaviorClassifications_eq hbaseline
    hassessment, coverageSubjectChanges_eq, coverageClassifications_eq hbaseline hassessment,
    ok_bind, hviolationDelta, hdebtDelta,
    Tuple.ofList_of_le (Nat.zero_le _) (length_subjectChangesOf_le baseline assessment),
    Tuple.ofList_of_le (Nat.zero_le _) (length_groupChangesOf_le baseline assessment _),
    Tuple.ofList_of_le (Nat.zero_le _) (length_classifications_le hbaseline hassessment),
    Tuple.ofList_of_le (Nat.zero_le _) (length_debtClassifications_le baseline assessment _)]
  exact ⟨_, rfl⟩

/-! ### What an evaluation checks first -/

/-- The checks before an evaluation. -/
structure Evaluable [Unicodedata] (policy : RatchetPolicy)
    (baseline : RatchetBaseline) (bundle : OnboardingBundle) (assessment : RatchetAssessment)
    (acceptedBaselineId : BaselineId) : Prop where
  exact : assessment.Exact policy bundle
  baseline_wellFormed : baseline.WellFormed
  accepted : baseline.id = acceptedBaselineId
  policy_eq : baseline.policy = policyRef policy
  allowance_rules : ∀ key ∈ baseline.behavior.allowances.items,
    key.rule ∈ policy.rules.items.map ruleRef
  protected_rules : ∀ key ∈ baseline.behavior.protectedKeys.items,
    key.rule ∈ policy.rules.items.map ruleRef

variable [Unicodedata] {bundle : OnboardingBundle}
  {acceptedBaselineId : BaselineId}

theorem evaluateRatchet_eq_ok :
    evaluateRatchet policy baseline bundle assessment acceptedBaselineId = .ok report ↔
      Evaluable policy baseline bundle assessment acceptedBaselineId ∧
        deriveEvaluation policy baseline assessment = .ok report := by
  simp only [evaluateRatchet, bind_eq_ok, require_eq_ok, exists_const,
    validateRatchetAssessment_eq_ok, validateRatchetBaselineStructure_eq_ok]
  constructor
  · rintro ⟨hexact, hbaseline, hid, hpolicy, hallowances, hprotected, hderive⟩
    exact ⟨⟨hexact, hbaseline, hid, hpolicy, hallowances, hprotected⟩, hderive⟩
  · rintro ⟨h, hderive⟩
    exact ⟨h.exact, h.baseline_wellFormed, h.accepted, h.policy_eq, h.allowance_rules,
      h.protected_rules, hderive⟩

/-- An evaluation passes its checks and returns what these documents determine. -/
theorem evaluated_of_evaluateRatchet
    (h : evaluateRatchet policy baseline bundle assessment acceptedBaselineId = .ok report) :
    ∃ hready : Evaluable policy baseline bundle assessment acceptedBaselineId,
      Evaluated policy baseline assessment hready.baseline_wellFormed hready.exact.wellFormed
        report := by
  obtain ⟨hready, hderive⟩ := evaluateRatchet_eq_ok.mp h
  exact ⟨hready, evaluated_of_deriveEvaluation _ _ hderive⟩

/-- Documents that pass the checks have an evaluation. -/
theorem exists_evaluateRatchet
    (h : Evaluable policy baseline bundle assessment acceptedBaselineId) :
    ∃ report, evaluateRatchet policy baseline bundle assessment acceptedBaselineId = .ok report := by
  obtain ⟨report, hreport⟩ := exists_deriveEvaluation policy h.baseline_wellFormed
    h.exact.wellFormed
  exact ⟨report, evaluateRatchet_eq_ok.mpr ⟨h, hreport⟩⟩

end Ucf.V2
