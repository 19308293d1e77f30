import Ucf.Ratchet.V2.Runs

/-! Whether a baseline can go on. After a qualifying evaluation it always can, until a limit of the
document format is reached: the generations are numbered by safe integers, and the protected keys
of both ledgers only grow. -/

namespace Ucf.V2

variable [Hashlib]

/-- The allowed violations that an assessment no longer shows. -/
def absentViolations (baseline : RatchetBaseline) (assessment : RatchetAssessment) :
    List ViolationKey :=
  baseline.behavior.allowances.items.filter fun key =>
    deriveViolationId key ∉ (currentKeys assessment).map deriveViolationId

/-- A baseline has room for what an assessment resolves. -/
structure HasRoom (baseline : RatchetBaseline) (assessment : RatchetAssessment) : Prop where
  generation : baseline.generation.val < maxSafeInteger
  violations : baseline.behavior.protectedKeys.items.length +
    (absentViolations baseline assessment).length ≤ maxRatchetViolations
  debts : baseline.coverage.protectedKeys.items.length +
    (absentDebts baseline assessment).length ≤ maxRatchetSubjects

variable {policy : RatchetPolicy} {predecessor successor : RatchetBaseline}
  {assessment : RatchetAssessment} {report : RatchetEvaluationReport}
  {hpredecessor : predecessor.WellFormed} {hassessment : assessment.WellFormed}

/-- As many violations are resolved as are absent. -/
theorem Passing.length_resolvedViolations
    (h : Evaluated policy predecessor assessment hpredecessor hassessment report)
    (hpassing : Passing predecessor assessment hpredecessor hassessment report) :
    (resolvedViolations report).length = (absentViolations predecessor assessment).length := by
  have hresolved : (resolvedViolations report).Nodup := by
    have hnodup := @ViolationView.protected_resolved_nodup
      (violationView predecessor assessment hpredecessor hassessment)
    rw [← h.violations, List.map_append, List.nodup_append] at hnodup
    exact hnodup.2.1.of_map _
  have habsent : (absentViolations predecessor assessment).Nodup :=
    (hpredecessor.allowances_sorted.nodup.of_map _).filter _
  refine ((List.perm_ext_iff_of_nodup hresolved habsent).mpr fun key => ?_).length_eq
  rw [hpassing.mem_resolvedViolations h, absentViolations, List.mem_filter, decide_eq_true_eq]

/-- As many debts are resolved as are absent. -/
theorem Passing.length_resolvedDebts
    (h : Evaluated policy predecessor assessment hpredecessor hassessment report)
    (hpassing : Passing predecessor assessment hpredecessor hassessment report) :
    (resolvedDebts report).length = (absentDebts predecessor assessment).length := by
  have hresolved : (resolvedDebts report).Nodup := by
    have hnodup := protected_resolvedDebts_nodup h
    rw [List.map_append, List.nodup_append] at hnodup
    exact hnodup.2.1.of_map _
  have habsent : ((absentDebts predecessor assessment).map fun debt => debt.key).Nodup := by
    have hids : ((absentDebts predecessor assessment).map fun debt => debt.id).Nodup :=
      (hpredecessor.coverage_allowances_sorted.nodup).sublist (List.filter_sublist.map _)
    have hderived : (absentDebts predecessor assessment).map (fun debt => debt.id) =
        ((absentDebts predecessor assessment).map fun debt => debt.key).map
          deriveCoverageDebtId := by
      rw [List.map_map]
      exact List.map_congr_left fun debt hdebt =>
        hpredecessor.coverage_ids_derived debt (mem_absentDebts.mp hdebt).1
    rw [hderived] at hids
    exact hids.of_map _
  have hperm := (List.perm_ext_iff_of_nodup hresolved habsent).mpr fun key => by
    rw [hpassing.mem_resolvedDebts h, List.mem_map]
  rw [hperm.length_eq, List.length_map]

/-- What a successor must have within its limits is what the predecessor must have room for. -/
theorem Passing.successorFits_iff
    (h : Evaluated policy predecessor assessment hpredecessor hassessment report)
    (hpassing : Passing predecessor assessment hpredecessor hassessment report) :
    SuccessorFits predecessor report ↔ HasRoom predecessor assessment := by
  have hviolations : (successorProtectedViolations predecessor report).valuesByKey.length =
      predecessor.behavior.protectedKeys.items.length +
        (absentViolations predecessor assessment).length := by
    rw [successorProtectedViolations_eq h, length_sortedBy, List.length_append,
      hpassing.length_resolvedViolations h]
  have hdebts : (successorProtectedDebts predecessor report).valuesByKey.length =
      predecessor.coverage.protectedKeys.items.length +
        (absentDebts predecessor assessment).length := by
    rw [successorProtectedDebts_eq h, length_sortedBy, List.length_append,
      hpassing.length_resolvedDebts h]
  constructor
  · intro hfits
    exact ⟨hfits.generation, hviolations ▸ hfits.violations, hdebts ▸ hfits.debts⟩
  · intro hroom
    exact ⟨hroom.generation, hviolations ▸ hroom.violations, hdebts ▸ hroom.debts⟩

variable [Unicodedata] {bundle : OnboardingBundle} {acceptedId : BaselineId}

/-- A successor can be evaluated by the documents that it was taken from. -/
theorem Advanced.evaluable
    (h : Advanced policy predecessor assessment report hpredecessor hassessment successor)
    (hready : Evaluable policy predecessor bundle assessment acceptedId) :
    Evaluable policy successor bundle assessment successor.id where
  exact := hready.exact
  baseline_wellFormed := h.wellFormed
  accepted := rfl
  policy_eq := h.isSuccessor.policy.trans hready.policy_eq
  allowance_rules := by
    rw [h.allowances_eq]
    intro key hkey
    obtain ⟨violation, hviolation, rfl⟩ := List.mem_map.mp hkey
    exact (hready.exact.rules_covered _).mp
      (hready.exact.wellFormed.violations violation hviolation).rule_covered
  protected_rules := by
    intro key hkey
    rcases h.mem_protected.mp hkey with hold | ⟨hallowed, _⟩
    · exact hready.protected_rules key hold
    · exact hready.allowance_rules key hallowed

end Ucf.V2

namespace Ucf.V2

open Ucf.Sample

end Ucf.V2
