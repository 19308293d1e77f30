import Ucf.Ratchet.V2.Runs

/-! What every step of a run of profile 2.0.0 conserves, key by key. The identifiers derived from
different keys are assumed to differ; only the keys of the documents of the step matter for that. -/

namespace Ucf.V2

variable [Hashlib]

/-- What a step conserves of the ledger of behavior. -/
structure BehaviorConserved (predecessor successor : RatchetBaseline) : Prop where
  disjoint : ∀ key ∈ successor.behavior.allowances.items,
    deriveViolationId key ∉ successor.behavior.protectedKeys.items.map deriveViolationId
  allowances : ∀ key ∈ successor.behavior.allowances.items,
    key ∈ predecessor.behavior.allowances.items
  protected_keys : ∀ key ∈ predecessor.behavior.protectedKeys.items,
    key ∈ successor.behavior.protectedKeys.items
  union : ∀ key, (key ∈ successor.behavior.allowances.items ∨
      key ∈ successor.behavior.protectedKeys.items) ↔
    key ∈ predecessor.behavior.allowances.items ∨ key ∈ predecessor.behavior.protectedKeys.items
  subjects : ∀ key ∈ successor.behavior.allowances.items,
    ∃ old ∈ predecessor.behavior.subjects.items, ∃ new ∈ successor.behavior.subjects.items,
      old.id = key.subject.targetId ∧ new.id = key.subject.targetId ∧ SameFingerprints old new
  policy : successor.policy = predecessor.policy
  generation : successor.generation.val = predecessor.generation.val + 1

/-- What a step conserves of the ledger of coverage. -/
structure CoverageConserved (predecessor successor : RatchetBaseline) : Prop where
  qualification : successor.coverage.qualification = predecessor.coverage.qualification
  groups : ∀ group ∈ predecessor.coverage.groups.items,
    group.id ∈ successor.coverage.groups.items.map fun group => group.id
  allowances : ∀ debt ∈ successor.coverage.allowances.items,
    ∃ old ∈ predecessor.coverage.allowances.items, old.id = debt.id ∧
      old.semantic = debt.semantic ∧ old.observed = debt.observed
  protected_keys : ∀ key ∈ predecessor.coverage.protectedKeys.items,
    key ∈ successor.coverage.protectedKeys.items
  disjoint : ∀ debt ∈ successor.coverage.allowances.items,
    debt.id ∉ successor.coverage.protectedKeys.items.map deriveCoverageDebtId
  union : ∀ key, ((∃ debt ∈ successor.coverage.allowances.items, debt.key = key) ∨
      key ∈ successor.coverage.protectedKeys.items) ↔
    (∃ debt ∈ predecessor.coverage.allowances.items, debt.key = key) ∨
      key ∈ predecessor.coverage.protectedKeys.items
  debts_derived : successor.coverage.allowances.items =
    deriveCoverageDebts successor.coverage.groups.items

/-- The keys of the violations that a baseline allows and an assessment shows. -/
def violationKeys (baseline : RatchetBaseline) (assessment : RatchetAssessment) :
    Set ViolationKey :=
  {key | key ∈ baseline.behavior.allowances.items ∨ key ∈ currentKeys assessment}

variable {policy : RatchetPolicy} {predecessor successor : RatchetBaseline}
  {assessment : RatchetAssessment} {report : RatchetEvaluationReport}
  {hpredecessor : predecessor.WellFormed} {hassessment : assessment.WellFormed}

/-- A current violation is an allowed one. -/
theorem Advanced.current_allowed
    (h : Advanced policy predecessor assessment report hpredecessor hassessment successor)
    (hinj : Set.InjOn deriveViolationId (violationKeys predecessor assessment))
    {key : ViolationKey} (hkey : key ∈ currentKeys assessment) :
    key ∈ predecessor.behavior.allowances.items := by
  obtain ⟨allowed, hallowed, hid⟩ :=
    List.mem_map.mp (h.passing.accepted.allowed (List.mem_map_of_mem hkey))
  rwa [← hinj (.inl hallowed) (.inr hkey) hid]

theorem Advanced.behaviorConserved
    (h : Advanced policy predecessor assessment report hpredecessor hassessment successor)
    (hinj : Set.InjOn deriveViolationId (violationKeys predecessor assessment)) :
    BehaviorConserved predecessor successor where
  disjoint := h.wellFormed.disjoint
  allowances := by
    rw [h.allowances_eq]
    exact fun key => h.current_allowed hinj
  protected_keys key hkey := h.mem_protected.mpr (.inl hkey)
  union key := by
    rw [h.mem_protected, h.allowances_eq]
    constructor
    · rintro (hcurrent | hold | ⟨hallowed, _⟩)
      · exact .inl (h.current_allowed hinj hcurrent)
      · exact .inr hold
      · exact .inl hallowed
    · rintro (hallowed | hold)
      · by_cases hcurrent : deriveViolationId key ∈ (currentKeys assessment).map deriveViolationId
        · obtain ⟨current, hmem, hid⟩ := List.mem_map.mp hcurrent
          rw [← hinj (.inr hmem) (.inl hallowed) hid]
          exact .inl hmem
        · exact .inr (.inr ⟨hallowed, hcurrent⟩)
      · exact .inr (.inl hold)
  subjects := by
    rw [h.allowances_eq, h.isSuccessor.subjects]
    have hcurrent := (ViolationView.accepts_iff.mp h.passing.accepted).1
    rw [violations_allowed_iff hpredecessor hassessment] at hcurrent
    intro key hkey
    obtain ⟨violation, hviolation, rfl⟩ := List.mem_map.mp hkey
    exact (hcurrent violation hviolation).2
  policy := h.isSuccessor.policy
  generation := h.isSuccessor.generation

theorem Advanced.coverageConserved
    (h : Advanced policy predecessor assessment report hpredecessor hassessment successor)
    (hinj : Set.InjOn deriveCoverageDebtId (debtKeys predecessor assessment)) :
    CoverageConserved predecessor successor where
  qualification := by
    rw [h.isSuccessor.qualification]
    have hcomparable := h.evaluated.comparison.symm.trans h.passing.coverage.comparable
    exact (coverageComparison_eq_comparable.mp hcomparable).1
  groups := by
    rw [h.isSuccessor.groups, ← groups_present_iff]
    have hchanges := h.evaluated.group_changes
    rw [← h.evaluated.comparison, h.passing.coverage.comparable, decide_eq_true rfl] at hchanges
    rw [← hchanges]
    exact h.passing.coverage.subjects_known
  allowances := by
    rw [h.isSuccessor.debts]
    exact fun debt => h.debt_unchanged
  protected_keys key hkey := h.mem_protectedDebts.mpr (.inl hkey)
  disjoint := h.wellFormed.coverage_disjoint
  union key := by
    have hcurrent : ∀ debt ∈ assessment.coverage.debts.items,
        ∃ old ∈ predecessor.coverage.allowances.items, old.key = debt.key := by
      intro debt hdebt
      obtain ⟨old, hold, hid, _⟩ := h.debt_unchanged hdebt
      refine ⟨old, hold, hinj ⟨old, .inl hold, rfl⟩ ⟨debt, .inr hdebt, rfl⟩ ?_⟩
      rw [← hpredecessor.coverage_ids_derived old hold, hid,
        hassessment.debt_ids_derived debt hdebt]
    rw [h.mem_protectedDebts, h.isSuccessor.debts]
    constructor
    · rintro (⟨debt, hdebt, rfl⟩ | hold | ⟨debt, hdebt, rfl⟩)
      · exact .inl (hcurrent debt hdebt)
      · exact .inr hold
      · exact .inl ⟨debt, (mem_absentDebts.mp hdebt).1, rfl⟩
    · rintro (⟨debt, hdebt, rfl⟩ | hold)
      · by_cases hpresent : debt.id ∈ assessment.coverage.debts.items.map fun debt => debt.id
        · obtain ⟨current, hmem, hid⟩ := List.mem_map.mp hpresent
          refine .inl ⟨current, hmem, hinj ⟨current, .inr hmem, rfl⟩ ⟨debt, .inl hdebt, rfl⟩ ?_⟩
          rw [← hassessment.debt_ids_derived current hmem, hid,
            hpredecessor.coverage_ids_derived debt hdebt]
        · exact .inr (.inr ⟨debt, mem_absentDebts.mpr ⟨hdebt, hpresent⟩, rfl⟩)
      · exact .inr (.inl hold)
  debts_derived := h.wellFormed.coverage_allowances

/-! ### Runs -/

variable [Unicodedata] {bundle : OnboardingBundle}
  {acceptedId : BaselineId}

end Ucf.V2

namespace Ucf.V2

open Ucf.Sample

theorem Sample.Run.violationKeys_eq {r : Sample.Run} (h : r.isEmpty = true) :
    violationKeys r.baseline r.assessment = ∅ := by
  simp only [Run.isEmpty, Bool.and_eq_true, decide_eq_true_eq] at h
  simp [violationKeys, currentKeys, h]

end Ucf.V2
