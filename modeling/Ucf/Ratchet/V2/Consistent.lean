import Ucf.Ratchet.V2.Qualifying

/-! A report that an evaluation of profile 2.0.0 returns agrees with itself, so that the validators
of reports never refuse one. -/

namespace Ucf.V2

/-! ### Outcomes and deltas -/

theorem expectedCombinedOutcome_eq (behavior : BehaviorOutcome) (coverage : CoverageOutcome) :
    expectedCombinedOutcome behavior coverage = combinedOutcome behavior coverage := rfl

theorem expectedDeltaStatus_eq {κ : Type} (added removed : List κ) :
    expectedDeltaStatus added removed = deltaStatus added removed := rfl

theorem expectedDelta_eq_ok {kind : String} {limit : Nat} {κ : Type}
    {added removed unprotected : List κ} {delta : WeakeningDelta kind limit κ} :
    expectedDelta added removed unprotected = .ok delta ↔
      IsDelta delta added removed unprotected := by
  simp only [expectedDelta, bind_eq_ok, validated_eq_ok, Tuple.ofList_eq_ok, pure_eq_ok,
    Except.ok.injEq, expectedDeltaStatus_eq]
  constructor
  · rintro ⟨_, hadded, _, hremoved, _, hunprotected, rfl⟩
    exact ⟨rfl, hadded, hremoved, hunprotected⟩
  · intro h
    refine ⟨_, h.added, _, h.removed, _, h.unprotected, ?_⟩
    rw [← h.status]

theorem behaviorOutcome_mem_allowed {report : RatchetEvaluationReport}
    (assessment : RatchetAssessment) :
    behaviorOutcome assessment report.behaviorSubjectChanges.items
      report.behaviorClassifications.items ∈ allowedBehaviorOutcomes report := by
  unfold behaviorOutcome allowedBehaviorOutcomes
  cases hregression : report.behaviorClassifications.items.any fun item =>
      item.classification.isRegression with
  | true => simp [hregression]
  | false =>
    cases hunknown : (report.behaviorClassifications.items.any fun item =>
        item.classification = .unknown) ||
        report.behaviorSubjectChanges.items.any fun item => item.change = .unknownSubject with
    | true => simp [hregression, hunknown]
    | false =>
      simp only [hregression, hunknown, Bool.false_or]
      rw [if_neg Bool.false_ne_true, if_neg Bool.false_ne_true, if_neg Bool.false_ne_true]
      split <;> decide

/-- The outcome does not depend on the inventory, for a partial one is never comparable. -/
theorem expectedCoverageOutcome_eq {report : RatchetEvaluationReport}
    {baseline : RatchetBaseline} {assessment : RatchetAssessment}
    (h : report.coverageComparison = coverageComparison baseline assessment) :
    expectedCoverageOutcome report = coverageOutcome assessment report.coverageComparison
      report.coverageSubjectChanges.items report.coverageClassifications.items := by
  have hinventory : report.coverageComparison ≠ .comparable ∨
      assessment.coverage.inventoryCoverage = .complete := by
    by_cases hcomparable : report.coverageComparison = .comparable
    · exact .inr (coverageComparison_eq_comparable.mp (h ▸ hcomparable)).2
    · exact .inl hcomparable
  unfold expectedCoverageOutcome coverageOutcome
  rcases hinventory with hne | hcomplete
  · simp [hne]
  · simp [hcomplete]

/-! ### Subjects of the report -/

variable [Hashlib] {policy : RatchetPolicy} {baseline : RatchetBaseline}
  {assessment : RatchetAssessment} {hbaseline : baseline.WellFormed}
  {hassessment : assessment.WellFormed} {report : RatchetEvaluationReport}

/-- Every debt names a group of its ledger. -/
theorem debt_subject_mem {groups : List CoverageSubjectGroup} {debt : CoverageDebtSnapshot}
    (h : debt ∈ deriveCoverageDebts groups) :
    debt.key.subject.targetId ∈ groups.map fun group => group.id := by
  obtain ⟨group, hgroup, ⟨_, rfl⟩ | ⟨item, _, _, rfl⟩⟩ := mem_deriveCoverageDebts.mp h
  · exact List.mem_map_of_mem hgroup
  · exact List.mem_map_of_mem hgroup

/-- Every classified violation names a subject of the report. -/
theorem Evaluated.violation_subjects
    (h : Evaluated policy baseline assessment hbaseline hassessment report)
    {item : ViolationClassification} (hitem : item ∈ report.behaviorClassifications.items) :
    item.key.subject.targetId ∈
      report.behaviorSubjectChanges.items.map fun change => change.subject.targetId := by
  rw [h.subject_changes, subjectChangesOf, changesOf, List.map_map]
  simp only [Function.comp_def, List.map_id']
  rw [h.violations, ViolationView.mem_classifications] at hitem
  rcases hitem with ⟨hcurrent, _⟩ | ⟨habsent, _⟩
  · exact mem_changedIds_of_violation hassessment hcurrent
  · exact mem_changedIds_of_allowance hbaseline (ViolationView.mem_absent.mp habsent).1

/-- Every classified debt names a group of the report. -/
theorem Evaluated.debt_subjects
    (h : Evaluated policy baseline assessment hbaseline hassessment report)
    {item : CoverageDebtClassification} (hitem : item ∈ report.coverageClassifications.items) :
    item.key.subject.targetId ∈
      report.coverageSubjectChanges.items.map fun change => change.subject.targetId := by
  rw [h.group_changes, groupChangesOf, List.map_map]
  simp only [Function.comp_def, List.map_id']
  rw [groupIds, mem_sortedSet, List.mem_append]
  rw [h.debts, mem_debtClassifications] at hitem
  rcases hitem with ⟨debt, hdebt, rfl⟩ | ⟨debt, hdebt, rfl⟩
  · rw [hassessment.debts_derived] at hdebt
    exact .inr (debt_subject_mem hdebt)
  · have hallowed := (mem_absentDebts.mp hdebt).1
    rw [hbaseline.coverage_allowances] at hallowed
    exact .inl (debt_subject_mem hallowed)

/-! ### The validators of reports -/

theorem Evaluated.structure_ok
    (h : Evaluated policy baseline assessment hbaseline hassessment report) :
    validateRatchetEvaluationReportStructure report = .ok () := by
  simp only [validateRatchetEvaluationReportStructure, bind_eq_ok, require_eq_ok, exists_const,
    requireUniqueAndSorted_eq_ok, validateReportDeltas, validateReportOutcomes,
    expectedDelta_eq_ok]
  refine ⟨?_, ?_, fun item => h.violation_subjects, ?_, ?_, fun item => h.debt_subjects, ?_, ?_,
    h.id_derived⟩
  · rw [h.subject_changes, subjectChangesOf, changesOf, List.map_map]
    simp only [Function.comp_def, List.map_id']
    exact sortedSet_pairwise _
  · rw [h.violations]
    exact sortedKeys_iff.mp (@ViolationView.classifications_sorted
      (violationView baseline assessment hbaseline hassessment))
  · rw [h.group_changes, groupChangesOf, List.map_map]
    simp only [Function.comp_def, List.map_id']
    exact sortedSet_pairwise _
  · rw [h.debts]
    exact sortedKeys_iff.mp (debtClassifications_sorted hbaseline hassessment)
  · exact ⟨report.behaviorDelta, behaviorDelta_eq_ok.mp h.behavior_delta, rfl,
      report.coverageDelta, coverageDelta_eq_ok.mp h.coverage_delta, rfl⟩
  · refine ⟨?_, ?_, ?_⟩
    · rw [h.behavior_outcome]
      exact behaviorOutcome_mem_allowed assessment
    · rw [expectedCoverageOutcome_eq h.comparison, h.coverage_outcome]
    · rw [expectedCombinedOutcome_eq, h.combined_outcome]

variable [Unicodedata] {bundle : OnboardingBundle}
  {acceptedBaselineId : BaselineId}

/-- The validator of reports accepts exactly what an evaluation returns. -/
theorem validateRatchetEvaluationReport_eq_ok {u : Unit} :
    validateRatchetEvaluationReport policy baseline bundle assessment report acceptedBaselineId =
        .ok u ↔
      evaluateRatchet policy baseline bundle assessment acceptedBaselineId = .ok report := by
  simp only [validateRatchetEvaluationReport, bind_eq_ok, requireSameReport_eq_ok]
  constructor
  · rintro ⟨_, _, expected, hevaluate, rfl⟩
    exact hevaluate
  · intro h
    obtain ⟨_, hreport⟩ := evaluated_of_evaluateRatchet h
    exact ⟨(), hreport.structure_ok, report, h, rfl⟩

end Ucf.V2
