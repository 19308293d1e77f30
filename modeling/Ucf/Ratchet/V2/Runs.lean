import Ucf.Ratchet.V2.Migration
import Ucf.Ratchet.V2.Successor

/-! Runs of profile 2.0.0: from a baseline that was established or migrated, any number of advances.
Every step moves the ledger of violations and the ledger of debts one accepted step, so that over a
whole run keys only move from the tolerated ones to the tombstones. -/

namespace Ucf.V2

variable [Hashlib]

/-! ### The ledgers of a baseline -/

/-- The violations that a baseline tolerates, and those that it protects. -/
def violationLedger (baseline : RatchetBaseline) (h : baseline.WellFormed) :
    Ledger ViolationId where
  allowed := {id | id ∈ baseline.behavior.allowances.items.map deriveViolationId}
  tombs := {id | id ∈ baseline.behavior.protectedKeys.items.map deriveViolationId}
  disjoint := by
    rw [Set.disjoint_left]
    intro id hallowed
    obtain ⟨key, hkey, rfl⟩ := List.mem_map.mp hallowed
    exact h.disjoint key hkey

/-- The debts that a baseline tolerates, and those that it protects. -/
def debtLedger (baseline : RatchetBaseline) (h : baseline.WellFormed) :
    Ledger CoverageDebtId where
  allowed := {id | id ∈ baseline.coverage.allowances.items.map fun debt => debt.id}
  tombs := {id | id ∈ protectedDebtIds baseline}
  disjoint := by
    rw [Set.disjoint_left]
    intro id hallowed
    obtain ⟨debt, hdebt, rfl⟩ := List.mem_map.mp hallowed
    exact h.coverage_disjoint debt hdebt

/-- What an assessment sees of the debts. -/
def debtSighting (baseline : RatchetBaseline) (assessment : RatchetAssessment) :
    Sighting CoverageDebtId where
  current := {id | id ∈ assessment.coverage.debts.items.map fun debt => debt.id}
  unchanged := {id | ∃ debt ∈ assessment.coverage.debts.items,
    ∃ old ∈ baseline.coverage.allowances.items, debt.id = id ∧ old.id = id ∧
      old.semantic = debt.semantic ∧ old.observed = debt.observed}
  examined := {id | ∃ debt ∈ absentDebts baseline assessment, debt.id = id ∧
    absentDebtKind assessment .comparable debt = .resolved}

variable {policy : RatchetPolicy} {predecessor successor : RatchetBaseline}
  {assessment : RatchetAssessment} {report : RatchetEvaluationReport}
  {hpredecessor : predecessor.WellFormed} {hassessment : assessment.WellFormed}

/-- In a passing report every current debt is an allowed one with the fingerprints it had. -/
theorem Advanced.debt_unchanged
    (h : Advanced policy predecessor assessment report hpredecessor hassessment successor)
    {debt : CoverageDebtSnapshot} (hdebt : debt ∈ assessment.coverage.debts.items) :
    ∃ old ∈ predecessor.coverage.allowances.items, old.id = debt.id ∧
      old.semantic = debt.semantic ∧ old.observed = debt.observed := by
  have hitem : (⟨currentDebtKind predecessor (coverageComparison predecessor assessment) debt,
      debt.key⟩ : CoverageDebtClassification) ∈ debtClassifications predecessor assessment
        (coverageComparison predecessor assessment) := current_mem_debtClassifications hdebt
  rw [← h.evaluated.debts] at hitem
  have hregression := h.passing.coverage.no_regression _ hitem
  have hunknown := h.passing.coverage.no_unknown _ hitem
  unfold currentDebtKind at hregression hunknown
  split_ifs at hregression hunknown
  · cases hregression
  · cases hregression
  · exact absurd rfl hunknown
  split at hregression
  · cases hregression
  · rename_i old hold
    obtain ⟨hmem, hid⟩ :=
      (debtAt_eq_some hpredecessor.coverage_allowances_sorted.nodup).mp hold
    split_ifs at hregression with hsame
    · exact ⟨old, hmem, hid, hsame⟩
    · cases hregression

/-- The ledger of debts accepts what a passing assessment sees. -/
theorem Advanced.debts_accepted
    (h : Advanced policy predecessor assessment report hpredecessor hassessment successor) :
    (debtLedger predecessor hpredecessor).Accepts (debtSighting predecessor assessment) := by
  refine ⟨?_, ?_, ?_⟩
  · intro id hid
    obtain ⟨debt, hdebt, rfl⟩ := List.mem_map.mp hid
    obtain ⟨old, hold, holdId, _⟩ := h.debt_unchanged hdebt
    exact List.mem_map.mpr ⟨old, hold, holdId⟩
  · intro id hid
    obtain ⟨debt, hdebt, rfl⟩ := List.mem_map.mp hid
    obtain ⟨old, hold, holdId, hsame⟩ := h.debt_unchanged hdebt
    exact ⟨debt, hdebt, old, hold, rfl, holdId, hsame⟩
  · rintro id ⟨hid, hnot⟩
    obtain ⟨debt, hdebt, rfl⟩ := List.mem_map.mp hid
    have habsent := mem_absentDebts.mpr ⟨hdebt, hnot⟩
    have hresolved : debt.key ∈ resolvedDebts report :=
      (h.passing.mem_resolvedDebts h.evaluated).mpr ⟨debt, habsent, rfl⟩
    obtain ⟨other, hother, hkind, hkey⟩ := (mem_resolvedDebts h.evaluated).mp hresolved
    have hotherId : other.id = debt.id := by
      rw [hpredecessor.coverage_ids_derived other (mem_absentDebts.mp hother).1, hkey,
        hpredecessor.coverage_ids_derived debt hdebt]
    rw [← h.evaluated.comparison, h.passing.coverage.comparable] at hkind
    exact ⟨other, hother, hotherId, hkind⟩

/-! ### One step -/

theorem Advanced.allowances_eq
    (h : Advanced policy predecessor assessment report hpredecessor hassessment successor) :
    successor.behavior.allowances.items = currentKeys assessment :=
  h.isSuccessor.allowances.trans (h.passing.unchanged_eq_current h.evaluated)

theorem Advanced.mem_protected
    (h : Advanced policy predecessor assessment report hpredecessor hassessment successor)
    {key : ViolationKey} : key ∈ successor.behavior.protectedKeys.items ↔
      key ∈ predecessor.behavior.protectedKeys.items ∨
        key ∈ predecessor.behavior.allowances.items ∧
          deriveViolationId key ∉ (currentKeys assessment).map deriveViolationId := by
  rw [h.isSuccessor.protected_keys, successorProtectedViolations_eq h.evaluated, mem_sortedBy,
    List.mem_append, h.passing.mem_resolvedViolations h.evaluated]

theorem Advanced.mem_protectedDebts
    (h : Advanced policy predecessor assessment report hpredecessor hassessment successor)
    {key : CoverageDebtKey} : key ∈ successor.coverage.protectedKeys.items ↔
      key ∈ predecessor.coverage.protectedKeys.items ∨
        ∃ debt ∈ absentDebts predecessor assessment, debt.key = key := by
  rw [h.isSuccessor.protected_debts, successorProtectedDebts_eq h.evaluated, mem_sortedBy,
    List.mem_append, h.passing.mem_resolvedDebts h.evaluated]

/-- An advance is one accepted step of the ledger of violations. -/
theorem Advanced.violation_step
    (h : Advanced policy predecessor assessment report hpredecessor hassessment successor) :
    (violationLedger predecessor hpredecessor).Step (violationLedger successor h.wellFormed) := by
  refine ⟨_, h.passing.accepted, ?_⟩
  ext id
  · exact iff_of_eq (congrArg (fun keys => id ∈ keys.map deriveViolationId) h.allowances_eq)
  · constructor
    · intro hid
      obtain ⟨key, hkey, rfl⟩ := List.mem_map.mp hid
      rcases h.mem_protected.mp hkey with hold | ⟨hallowed, hnot⟩
      · exact .inl (List.mem_map_of_mem hold)
      · exact .inr ⟨List.mem_map_of_mem hallowed, hnot⟩
    · rintro (hid | ⟨hid, hnot⟩)
      · obtain ⟨key, hkey, rfl⟩ := List.mem_map.mp hid
        exact List.mem_map_of_mem (h.mem_protected.mpr (.inl hkey))
      · obtain ⟨key, hkey, rfl⟩ := List.mem_map.mp hid
        exact List.mem_map_of_mem (h.mem_protected.mpr (.inr ⟨hkey, hnot⟩))

/-- An advance is one accepted step of the ledger of debts. -/
theorem Advanced.debt_step
    (h : Advanced policy predecessor assessment report hpredecessor hassessment successor) :
    (debtLedger predecessor hpredecessor).Step (debtLedger successor h.wellFormed) := by
  refine ⟨_, h.debts_accepted, ?_⟩
  have hids : ∀ {debt : CoverageDebtSnapshot}, debt ∈ predecessor.coverage.allowances.items →
      deriveCoverageDebtId debt.key = debt.id :=
    fun hdebt => (hpredecessor.coverage_ids_derived _ hdebt).symm
  ext id
  · have hdebts : (id ∈ successor.coverage.allowances.items.map fun debt => debt.id) ↔
        id ∈ assessment.coverage.debts.items.map fun debt => debt.id := by
      rw [h.isSuccessor.debts]
    exact hdebts
  · constructor
    · intro hid
      obtain ⟨key, hkey, rfl⟩ := List.mem_map.mp hid
      rcases h.mem_protectedDebts.mp hkey with hold | ⟨debt, hdebt, rfl⟩
      · exact .inl (List.mem_map_of_mem hold)
      · obtain ⟨hallowed, hnot⟩ := mem_absentDebts.mp hdebt
        rw [hids hallowed]
        exact .inr ⟨List.mem_map_of_mem hallowed, hnot⟩
    · rintro (hid | ⟨hid, hnot⟩)
      · obtain ⟨key, hkey, rfl⟩ := List.mem_map.mp hid
        exact List.mem_map_of_mem (h.mem_protectedDebts.mpr (.inl hkey))
      · obtain ⟨debt, hdebt, rfl⟩ := List.mem_map.mp hid
        refine List.mem_map.mpr ⟨debt.key, h.mem_protectedDebts.mpr (.inr ?_), hids hdebt⟩
        exact ⟨debt, mem_absentDebts.mpr ⟨hdebt, hnot⟩, rfl⟩

/-! ### Where runs start -/

variable [Unicodedata] {bundle : OnboardingBundle}
  {acceptedId : BaselineId} {baseline : RatchetBaseline}

theorem establishRatchetBaseline_eq_ok :
    establishRatchetBaseline policy bundle assessment = .ok baseline ↔
      assessment.Exact policy bundle ∧
        (assessment.coverage.inventoryCoverage = .complete ∧
          ∀ coverage ∈ assessment.behavior.coverage.items, coverage.status = .complete) ∧
        deriveInitialBaseline assessment = .ok baseline ∧ baseline.WellFormed := by
  simp only [establishRatchetBaseline, validateInitialRatchetBaseline, bind_eq_ok, require_eq_ok,
    exists_const, validateRatchetAssessment_eq_ok, requireComplete_eq_ok,
    validateRatchetBaselineStructure_eq_ok]
  constructor
  · rintro ⟨hexact, hcomplete, _, hderive, ⟨_, _, _, _, _, _, _, _, _, _, _, _, _, hwellFormed, _⟩,
      heq⟩
    cases heq
    exact ⟨hexact, hcomplete, hderive, hwellFormed⟩
  · rintro ⟨hexact, hcomplete, hderive, hwellFormed⟩
    exact ⟨hexact, hcomplete, baseline, hderive, ⟨hexact, hcomplete, baseline, hderive, rfl, rfl,
      rfl, rfl, rfl, rfl, rfl, rfl, rfl, hwellFormed, rfl⟩, rfl⟩

theorem migrateRatchetV1Baseline_eq_ok {targetPolicy : RatchetPolicy}
    {sourcePolicy : V1.RatchetPolicy} {sourceBaseline : V1.RatchetBaseline}
    {sourceAssessment : V1.RatchetAssessment} :
    migrateRatchetV1Baseline targetPolicy sourcePolicy sourceBaseline sourceAssessment bundle
        acceptedId = .ok baseline ↔
      validateMigrationSources targetPolicy sourcePolicy sourceBaseline sourceAssessment bundle
          acceptedId = .ok () ∧
        deriveMigratedBaseline targetPolicy sourcePolicy sourceBaseline sourceAssessment bundle =
          .ok baseline ∧ baseline.WellFormed := by
  simp only [migrateRatchetV1Baseline, validateMigratedRatchetBaseline, bind_eq_ok,
    exists_const, requireSameBaseline_eq_ok, validateRatchetBaselineStructure_eq_ok]
  constructor
  · rintro ⟨u, hsources, _, hderive, ⟨_, _, _, _, _, hwellFormed⟩, heq⟩
    cases heq
    exact ⟨hsources, hderive, hwellFormed⟩
  · rintro ⟨hsources, hderive, hwellFormed⟩
    exact ⟨(), hsources, baseline, hderive, ⟨(), hsources, baseline, hderive, rfl, hwellFormed⟩,
      rfl⟩

/-- The baselines of all runs. -/
inductive Reachable : RatchetBaseline → Prop
  | established {policy : RatchetPolicy} {bundle : OnboardingBundle}
      {assessment : RatchetAssessment} {baseline : RatchetBaseline}
      (h : establishRatchetBaseline policy bundle assessment = .ok baseline) : Reachable baseline
  | migrated {targetPolicy : RatchetPolicy} {sourcePolicy : V1.RatchetPolicy}
      {sourceBaseline : V1.RatchetBaseline} {sourceAssessment : V1.RatchetAssessment}
      {bundle : OnboardingBundle} {acceptedId : BaselineId} {baseline : RatchetBaseline}
      (h : migrateRatchetV1Baseline targetPolicy sourcePolicy sourceBaseline sourceAssessment
        bundle acceptedId = .ok baseline) : Reachable baseline
  | advanced {policy : RatchetPolicy} {predecessor : RatchetBaseline} {bundle : OnboardingBundle}
      {assessment : RatchetAssessment} {report : RatchetEvaluationReport} {acceptedId : BaselineId}
      {successor : RatchetBaseline} (hpredecessor : Reachable predecessor)
      (h : advanceRatchetBaseline policy predecessor bundle assessment report acceptedId =
        .ok successor) : Reachable successor

theorem Reachable.wellFormed (h : Reachable baseline) : baseline.WellFormed := by
  cases h with
  | established h => exact (establishRatchetBaseline_eq_ok.mp h).2.2.2
  | migrated h => exact (migrateRatchetV1Baseline_eq_ok.mp h).2.2
  | advanced _ h =>
    obtain ⟨_, hadvanced⟩ := advanced_of_advanceRatchetBaseline h
    exact hadvanced.wellFormed

/-- One baseline advances to another. -/
def Advances (predecessor successor : RatchetBaseline) : Prop :=
  ∃ policy bundle assessment report acceptedId,
    advanceRatchetBaseline policy predecessor bundle assessment report acceptedId = .ok successor

/-- Over any number of advances both ledgers only tighten. -/
theorem tightens_of_advances {start tip : RatchetBaseline}
    (h : Relation.ReflTransGen Advances start tip) (hstart : start.WellFormed) :
    ∃ htip : tip.WellFormed,
      (violationLedger start hstart).Tightens (violationLedger tip htip) ∧
        (debtLedger start hstart).Tightens (debtLedger tip htip) := by
  induction h with
  | refl => exact ⟨hstart, .refl _, .refl _⟩
  | tail _ hstep ih =>
    obtain ⟨hmiddle, hviolations, hdebts⟩ := ih
    obtain ⟨policy, bundle, assessment, report, acceptedId, hadvance⟩ := hstep
    obtain ⟨hready, hadvanced⟩ := advanced_of_advanceRatchetBaseline hadvance
    exact ⟨hadvanced.wellFormed, hviolations.trans hadvanced.violation_step.tightens,
      hdebts.trans hadvanced.debt_step.tightens⟩

end Ucf.V2
