import Ucf.Ratchet.V2.Consistent

/-! What advancing a baseline of profile 2.0.0 gives: the successor is well formed, and each of its
two ledgers is a tightened form of its predecessor's. -/

namespace Ucf.V2

variable [Hashlib]

/-- What a successor holds. -/
structure IsSuccessor (predecessor : RatchetBaseline) (assessment : RatchetAssessment)
    (report : RatchetEvaluationReport) (successor : RatchetBaseline) : Prop where
  origin : successor.origin = .successor
  generation : successor.generation.val = predecessor.generation.val + 1
  policy : successor.policy = predecessor.policy
  source_assessment : successor.sourceAssessment = .v2 (assessmentRef assessment)
  source_evaluation : successor.sourceEvaluation = some (evaluationRef report)
  predecessor_eq : successor.predecessor = some (baselineRef predecessor)
  migrated_from : successor.migratedFrom = none
  subjects : successor.behavior.subjects = assessment.behavior.subjects
  allowances : successor.behavior.allowances.items = sortedBy deriveViolationId
    (keysClassified report.behaviorClassifications.items fun kind => kind = .unchangedLegacy)
  protected_keys : successor.behavior.protectedKeys.items =
    (successorProtectedViolations predecessor report).valuesByKey
  qualification : successor.coverage.qualification = assessment.coverage.qualification
  groups : successor.coverage.groups = assessment.coverage.groups
  debts : successor.coverage.allowances = assessment.coverage.debts
  protected_debts : successor.coverage.protectedKeys.items =
    (successorProtectedDebts predecessor report).valuesByKey
  id_derived : successor.id = deriveBaselineId successor

variable {predecessor successor : RatchetBaseline} {assessment : RatchetAssessment}
  {report : RatchetEvaluationReport}

theorem isSuccessor_of_derive
    (h : deriveSuccessorBaseline predecessor assessment report = .ok successor) :
    IsSuccessor predecessor assessment report successor := by
  simp only [deriveSuccessorBaseline, bind_eq_ok, validated_eq_ok, Tuple.ofList_eq_ok] at h
  obtain ⟨generation, hgeneration, allowances, hallowances, violations, hviolations, debts, hdebts,
    h⟩ := h
  split at h
  · rename_i hnext
    cases h
    exact {
      origin := rfl
      generation := hnext
      policy := rfl
      source_assessment := rfl
      source_evaluation := rfl
      predecessor_eq := rfl
      migrated_from := rfl
      subjects := rfl
      allowances := hallowances
      protected_keys := hviolations
      qualification := rfl
      groups := rfl
      debts := rfl
      protected_debts := hdebts
      id_derived := (deriveBaselineId_with_id _ _).symm }
  · cases h

/-- What has to be within its limit for a successor to be derived. -/
structure SuccessorFits (predecessor : RatchetBaseline) (report : RatchetEvaluationReport) :
    Prop where
  generation : predecessor.generation.val + 1 ≤ maxSafeInteger
  violations : (successorProtectedViolations predecessor report).valuesByKey.length ≤
    maxRatchetViolations
  debts : (successorProtectedDebts predecessor report).valuesByKey.length ≤ maxRatchetSubjects

/-- A successor is derived exactly when its generation and its protected sets are within their
limits. -/
theorem exists_deriveSuccessor_iff
    (hallowances : (keysClassified report.behaviorClassifications.items
      fun kind => kind = .unchangedLegacy).length ≤ maxRatchetViolations) :
    (∃ successor, deriveSuccessorBaseline predecessor assessment report = .ok successor) ↔
      SuccessorFits predecessor report := by
  have hsorted : (sortedBy deriveViolationId (keysClassified report.behaviorClassifications.items
      fun kind => kind = .unchangedLegacy)).length ≤ maxRatchetViolations := by
    rwa [length_sortedBy]
  constructor
  · rintro ⟨successor, h⟩
    simp only [deriveSuccessorBaseline, bind_eq_ok, validated_eq_ok, Tuple.ofList_eq_ok,
      SafeNat.ofNat_eq_ok] at h
    obtain ⟨generation, hgeneration, _, _, violations, hviolations, debts, hdebts, _⟩ := h
    exact ⟨hgeneration ▸ generation.property.2, hviolations ▸ violations.le_upper,
      hdebts ▸ debts.le_upper⟩
  · intro h
    have hgeneration : SafeNat.ofNat 0 (predecessor.generation.val + 1) =
        .ok ⟨predecessor.generation.val + 1, Nat.zero_le _, h.generation⟩ :=
      SafeNat.ofNat_eq_ok.mpr rfl
    simp only [deriveSuccessorBaseline, hgeneration,
      Tuple.ofList_of_le (Nat.zero_le _) hsorted, Tuple.ofList_of_le (Nat.zero_le _) h.violations,
      Tuple.ofList_of_le (Nat.zero_le _) h.debts, validated_ok, ok_bind, dite_true]
    exact ⟨_, rfl⟩

/-! ### The debts of a successor -/

/-- The keys of the allowed debts that an assessment shows to be resolved. -/
def resolvedDebts (report : RatchetEvaluationReport) : List CoverageDebtKey :=
  debtKeysClassified report.coverageClassifications.items fun kind => kind = .resolved

variable {policy : RatchetPolicy} {hpredecessor : predecessor.WellFormed}
  {hassessment : assessment.WellFormed}

omit [Hashlib] in
theorem mem_debtKeysClassified {classifications : List CoverageDebtClassification}
    {kinds : CoverageDebtClassificationKind → Bool} {key : CoverageDebtKey} :
    key ∈ debtKeysClassified classifications kinds ↔
      ∃ item ∈ classifications, kinds item.classification = true ∧ item.key = key := by
  simp only [debtKeysClassified, List.mem_map, List.mem_filter]
  constructor
  · rintro ⟨item, ⟨hitem, hkind⟩, rfl⟩
    exact ⟨item, hitem, hkind, rfl⟩
  · rintro ⟨item, hitem, hkind, rfl⟩
    exact ⟨item, ⟨hitem, hkind⟩, rfl⟩

/-- What is resolved was allowed and is absent. -/
theorem mem_resolvedDebts
    (h : Evaluated policy predecessor assessment hpredecessor hassessment report)
    {key : CoverageDebtKey} : key ∈ resolvedDebts report ↔
      ∃ debt ∈ absentDebts predecessor assessment,
        absentDebtKind assessment (coverageComparison predecessor assessment) debt = .resolved ∧
          debt.key = key := by
  rw [resolvedDebts, mem_debtKeysClassified, h.debts]
  simp only [decide_eq_true_eq]
  constructor
  · rintro ⟨item, hitem, hkind, rfl⟩
    rcases mem_debtClassifications.mp hitem with ⟨debt, _, rfl⟩ | ⟨debt, hdebt, rfl⟩
    · exact absurd hkind currentDebtKind_ne_resolved
    · exact ⟨debt, hdebt, hkind, rfl⟩
  · rintro ⟨debt, hdebt, hkind, rfl⟩
    exact ⟨_, absent_mem_debtClassifications hdebt, hkind, rfl⟩

/-- The protected debts and those resolved now have different identifiers. -/
theorem protected_resolvedDebts_nodup
    (h : Evaluated policy predecessor assessment hpredecessor hassessment report) :
    ((predecessor.coverage.protectedKeys.items ++ resolvedDebts report).map
      deriveCoverageDebtId).Nodup := by
  rw [List.map_append, List.nodup_append]
  refine ⟨hpredecessor.coverage_protected_sorted.nodup, ?_, ?_⟩
  · rw [resolvedDebts, debtKeysClassified, List.map_map, h.debts]
    exact ((debtClassifications_sorted hpredecessor hassessment).filter _).nodup
  · intro a ha b hb heq
    obtain ⟨key, hkey, rfl⟩ := List.mem_map.mp hb
    obtain ⟨debt, hdebt, _, rfl⟩ := (mem_resolvedDebts h).mp hkey
    have hallowed := (mem_absentDebts.mp hdebt).1
    rw [heq, ← hpredecessor.coverage_ids_derived debt hallowed] at ha
    exact hpredecessor.coverage_disjoint debt hallowed ha

/-- What a successor protects: what its predecessor protects and what is resolved now. -/
theorem successorProtectedDebts_eq
    (h : Evaluated policy predecessor assessment hpredecessor hassessment report) :
    (successorProtectedDebts predecessor report).valuesByKey = sortedBy deriveCoverageDebtId
      (predecessor.coverage.protectedKeys.items ++ resolvedDebts report) :=
  Dict.valuesByKey_update_ofList (protected_resolvedDebts_nodup h)

/-- The violations that an assessment shows to be resolved. -/
def resolvedViolations (report : RatchetEvaluationReport) : List ViolationKey :=
  keysClassified report.behaviorClassifications.items fun kind => kind = .resolved

theorem successorProtectedViolations_eq
    (h : Evaluated policy predecessor assessment hpredecessor hassessment report) :
    (successorProtectedViolations predecessor report).valuesByKey = sortedBy deriveViolationId
      (predecessor.behavior.protectedKeys.items ++ resolvedViolations report) := by
  rw [successorProtectedViolations, resolvedViolations, h.violations]
  exact @ViolationView.successor_protected
    (violationView predecessor assessment hpredecessor hassessment)

/-! ### What a qualifying report says -/

/-- What the two halves of a qualifying report say. -/
structure Passing (predecessor : RatchetBaseline) (assessment : RatchetAssessment)
    (hpredecessor : predecessor.WellFormed) (hassessment : assessment.WellFormed)
    (report : RatchetEvaluationReport) : Prop where
  accepted : (violationView predecessor assessment hpredecessor hassessment).ledger.Accepts
    (violationView predecessor assessment hpredecessor hassessment).sighting
  rules_complete : ∀ coverage ∈ assessment.behavior.coverage.items, coverage.status = .complete
  coverage : CoverageQualifies assessment report.coverageComparison
    report.coverageSubjectChanges.items report.coverageClassifications.items

theorem passing_of_qualifying
    (h : Evaluated policy predecessor assessment hpredecessor hassessment report)
    (hqualifying : isQualifying report.combinedOutcome) :
    Passing predecessor assessment hpredecessor hassessment report := by
  rw [h.combined_outcome, combinedOutcome_qualifies, h.behavior_outcome, behaviorOutcome_eq_pass,
    h.violations, ViolationView.no_regression_iff, ViolationView.no_unknown_iff,
    h.coverage_outcome, coverageOutcome_qualifies] at hqualifying
  obtain ⟨⟨hcurrent, habsent, _, hcomplete⟩, hcoverage⟩ := hqualifying
  exact ⟨ViolationView.accepts_iff.mpr ⟨hcurrent, habsent⟩, hcomplete, hcoverage⟩

/-- The violations that a successor allows are those that are there now. -/
theorem Passing.unchanged_eq_current
    (h : Evaluated policy predecessor assessment hpredecessor hassessment report)
    (hpassing : Passing predecessor assessment hpredecessor hassessment report) :
    sortedBy deriveViolationId (keysClassified report.behaviorClassifications.items
      fun kind => kind = .unchangedLegacy) = currentKeys assessment := by
  rw [h.violations]
  exact ViolationView.unchanged_eq_current
    (v := violationView predecessor assessment hpredecessor hassessment)
    (ViolationView.accepts_iff.mp hpassing.accepted).1

/-- The violations that are resolved are those that were allowed and are absent. -/
theorem Passing.mem_resolvedViolations
    (h : Evaluated policy predecessor assessment hpredecessor hassessment report)
    (hpassing : Passing predecessor assessment hpredecessor hassessment report)
    {key : ViolationKey} : key ∈ resolvedViolations report ↔
      key ∈ predecessor.behavior.allowances.items ∧
        deriveViolationId key ∉ (currentKeys assessment).map deriveViolationId := by
  have habsent := (ViolationView.accepts_iff.mp hpassing.accepted).2
  rw [resolvedViolations, h.violations, ViolationView.mem_resolved,
    and_iff_left_of_imp (habsent key), ViolationView.mem_absent]
  rfl

/-- No current debt is one that the predecessor protects. -/
theorem Passing.debt_notMem_protected
    (h : Evaluated policy predecessor assessment hpredecessor hassessment report)
    (hpassing : Passing predecessor assessment hpredecessor hassessment report)
    {debt : CoverageDebtSnapshot} (hdebt : debt ∈ assessment.coverage.debts.items) :
    debt.id ∉ protectedDebtIds predecessor := by
  intro hprotected
  have hitem : (⟨currentDebtKind predecessor (coverageComparison predecessor assessment) debt,
      debt.key⟩ : CoverageDebtClassification) ∈ debtClassifications predecessor assessment
        (coverageComparison predecessor assessment) := current_mem_debtClassifications hdebt
  rw [← h.debts] at hitem
  have hregression := hpassing.coverage.no_regression _ hitem
  rw [currentDebtKind, if_pos hprotected] at hregression
  cases hregression

/-- The debts that are resolved are those that were allowed and are absent. -/
theorem Passing.mem_resolvedDebts
    (h : Evaluated policy predecessor assessment hpredecessor hassessment report)
    (hpassing : Passing predecessor assessment hpredecessor hassessment report)
    {key : CoverageDebtKey} : key ∈ resolvedDebts report ↔
      ∃ debt ∈ absentDebts predecessor assessment, debt.key = key := by
  rw [V2.mem_resolvedDebts h]
  constructor
  · rintro ⟨debt, hdebt, _, hkey⟩
    exact ⟨debt, hdebt, hkey⟩
  · rintro ⟨debt, hdebt, hkey⟩
    refine ⟨debt, hdebt, ?_, hkey⟩
    have hitem : (⟨absentDebtKind assessment (coverageComparison predecessor assessment) debt,
        debt.key⟩ : CoverageDebtClassification) ∈ debtClassifications predecessor assessment
          (coverageComparison predecessor assessment) := absent_mem_debtClassifications hdebt
    rw [← h.debts] at hitem
    have hunknown := hpassing.coverage.no_unknown _ hitem
    rcases @absentDebtKind_eq assessment (coverageComparison predecessor assessment) debt with
      hkind | hkind
    · exact hkind
    · exact absurd hkind hunknown

/-! ### A successor is well formed -/

/-- What a successor of an evaluated, qualifying assessment holds is well formed. -/
theorem IsSuccessor.wellFormed
    (h : Evaluated policy predecessor assessment hpredecessor hassessment report)
    (hpassing : Passing predecessor assessment hpredecessor hassessment report)
    (hsuccessor : IsSuccessor predecessor assessment report successor) : successor.WellFormed := by
  have hallowances : successor.behavior.allowances.items = currentKeys assessment :=
    hsuccessor.allowances.trans (hpassing.unchanged_eq_current h)
  have hviolations := hsuccessor.protected_keys.trans (successorProtectedViolations_eq h)
  have hdebts := hsuccessor.protected_debts.trans (successorProtectedDebts_eq h)
  have hnodup : ((predecessor.behavior.protectedKeys.items ++ resolvedViolations report).map
      deriveViolationId).Nodup := by
    rw [resolvedViolations, h.violations]
    exact @ViolationView.protected_resolved_nodup
      (violationView predecessor assessment hpredecessor hassessment)
  refine ⟨?_, ?_, ?_, ?_, ?_, ?_, ?_, ?_, ?_, ?_, ?_, ?_, hsuccessor.id_derived⟩
  · rw [hsuccessor.subjects]
    exact hassessment.subjects
  · rw [hallowances]
    exact hassessment.currentKeys_sorted
  · rw [hviolations]
    exact sortedKeys_sortedBy hnodup
  · -- what is there now was allowed, and what is resolved is not there now
    rw [hallowances, hviolations]
    intro key hkey hprotected
    obtain ⟨other, hother, hid⟩ := List.mem_map.mp hprotected
    rw [mem_sortedBy, List.mem_append] at hother
    rcases hother with hold | hresolved
    · obtain ⟨allowed, hallowed, hallowedId⟩ :=
        List.mem_map.mp (hpassing.accepted.allowed (List.mem_map_of_mem hkey))
      refine hpredecessor.disjoint allowed hallowed ?_
      have heq : deriveViolationId allowed = deriveViolationId other := hallowedId.trans hid.symm
      rw [heq]
      exact List.mem_map_of_mem hold
    · refine ((hpassing.mem_resolvedViolations h).mp hresolved).2 ?_
      rw [hid]
      exact List.mem_map_of_mem hkey
  · rw [hallowances, hsuccessor.subjects]
    intro key hkey
    obtain ⟨violation, hviolation, rfl⟩ := List.mem_map.mp hkey
    exact (hassessment.violations violation hviolation).subject_known
  · rw [hsuccessor.qualification]
    exact hassessment.qualification
  · rw [hsuccessor.groups]
    exact hassessment.groups
  · rw [hsuccessor.debts, hsuccessor.groups]
    exact hassessment.debts_derived
  · rw [hsuccessor.debts]
    exact hassessment.debts_sorted
  · rw [hsuccessor.debts]
    exact hassessment.debt_ids_derived
  · rw [hdebts]
    exact sortedKeys_sortedBy (protected_resolvedDebts_nodup h)
  · rw [hsuccessor.debts, hdebts]
    intro debt hdebt hprotected
    obtain ⟨key, hkey, hid⟩ := List.mem_map.mp hprotected
    rw [mem_sortedBy, List.mem_append] at hkey
    rcases hkey with hold | hresolved
    · refine hpassing.debt_notMem_protected h hdebt ?_
      rw [protectedDebtIds, ← hid]
      exact List.mem_map_of_mem hold
    · obtain ⟨old, hold, rfl⟩ := (hpassing.mem_resolvedDebts h).mp hresolved
      obtain ⟨hallowed, hnot⟩ := mem_absentDebts.mp hold
      refine hnot ?_
      rw [hpredecessor.coverage_ids_derived old hallowed, hid]
      exact List.mem_map_of_mem hdebt

/-! ### Advancing -/

variable [Unicodedata] {bundle : OnboardingBundle}
  {acceptedId : BaselineId}

/-- The checks of an advance that a qualifying evaluation has already passed are no more checks:
it returns the successor that can be derived. -/
theorem advanceRatchetBaseline_eq_ok :
    advanceRatchetBaseline policy predecessor bundle assessment report acceptedId =
        .ok successor ↔
      evaluateRatchet policy predecessor bundle assessment acceptedId = .ok report ∧
        isQualifying report.combinedOutcome ∧
        deriveSuccessorBaseline predecessor assessment report = .ok successor := by
  simp only [advanceRatchetBaseline, validateSuccessorRatchetBaseline, bind_eq_ok, require_eq_ok,
    exists_const, validateRatchetEvaluationReport_eq_ok, requireComplete_eq_ok,
    requireSameBaseline_eq_ok, validateRatchetBaselineStructure_eq_ok]
  constructor
  · rintro ⟨hevaluate, _, hqualifying, _, hderive, _, heq⟩
    cases heq
    exact ⟨hevaluate, hqualifying, hderive⟩
  · rintro ⟨hevaluate, hqualifying, hderive⟩
    obtain ⟨hready, hreport⟩ := evaluated_of_evaluateRatchet hevaluate
    have hpassing := passing_of_qualifying hreport hqualifying
    have hcomplete : assessment.coverage.inventoryCoverage = .complete ∧
        ∀ coverage ∈ assessment.behavior.coverage.items, coverage.status = .complete :=
      ⟨hpassing.coverage.inventory_complete, hpassing.rules_complete⟩
    have hwellFormed := (isSuccessor_of_derive hderive).wellFormed hreport hpassing
    exact ⟨hevaluate, hcomplete, hqualifying, successor, hderive,
      ⟨hevaluate, hcomplete, hqualifying, successor, hderive, rfl, hwellFormed⟩, rfl⟩

/-- An advance that returns. -/
structure Advanced (policy : RatchetPolicy) (predecessor : RatchetBaseline)
    (assessment : RatchetAssessment) (report : RatchetEvaluationReport)
    (hpredecessor : predecessor.WellFormed) (hassessment : assessment.WellFormed)
    (successor : RatchetBaseline) : Prop where
  evaluated : Evaluated policy predecessor assessment hpredecessor hassessment report
  passing : Passing predecessor assessment hpredecessor hassessment report
  isSuccessor : IsSuccessor predecessor assessment report successor

theorem advanced_of_advanceRatchetBaseline
    (h : advanceRatchetBaseline policy predecessor bundle assessment report acceptedId =
      .ok successor) :
    ∃ hready : Evaluable policy predecessor bundle assessment acceptedId,
      Advanced policy predecessor assessment report hready.baseline_wellFormed
        hready.exact.wellFormed successor := by
  obtain ⟨hevaluate, hqualifying, hderive⟩ := advanceRatchetBaseline_eq_ok.mp h
  obtain ⟨hready, hreport⟩ := evaluated_of_evaluateRatchet hevaluate
  exact ⟨hready, hreport, passing_of_qualifying hreport hqualifying,
    isSuccessor_of_derive hderive⟩

omit [Unicodedata] in
theorem Advanced.wellFormed
    (h : Advanced policy predecessor assessment report hpredecessor hassessment successor) :
    successor.WellFormed :=
  h.isSuccessor.wellFormed h.evaluated h.passing

end Ucf.V2
