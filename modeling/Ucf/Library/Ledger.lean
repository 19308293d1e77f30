import Mathlib.Data.Set.Lattice
import Mathlib.Logic.Relation
import Mathlib.Order.CompletePartialOrder

/-! A ledger that only tightens. It holds the keys that are still tolerated and the tombstones of
keys that were tolerated once and must never come back. A sighting says which keys are there now;
a ledger that accepts a sighting moves on to one that tolerates exactly the keys sighted. -/

namespace Ucf

/-- The keys that are tolerated and the keys that must not come back. -/
@[ext] structure Ledger (κ : Type) where
  allowed : Set κ
  tombs : Set κ
  disjoint : Disjoint allowed tombs

/-- What one look at the keys finds: those that are there, those that are as they were, and those
whose absence was looked into. -/
structure Sighting (κ : Type) where
  current : Set κ
  unchanged : Set κ
  examined : Set κ

namespace Ledger

variable {κ : Type} {L M N : Ledger κ} {s : Sighting κ} {key : κ}

/-- Every key sighted is tolerated and as it was, and every absence was looked into. -/
structure Accepts (L : Ledger κ) (s : Sighting κ) : Prop where
  allowed : s.current ⊆ L.allowed
  unchanged : s.current ⊆ s.unchanged
  examined : L.allowed \ s.current ⊆ s.examined

/-- The ledger after a sighting: what is gone becomes a tombstone. -/
def next (L : Ledger κ) (s : Sighting κ) (h : s.current ⊆ L.allowed) : Ledger κ where
  allowed := s.current
  tombs := L.tombs ∪ (L.allowed \ s.current)
  disjoint := by
    rw [Set.disjoint_union_right]
    exact ⟨L.disjoint.mono_left h, Set.disjoint_sdiff_right⟩

/-- One accepted step. -/
def Step (L M : Ledger κ) : Prop := ∃ s, ∃ h : L.Accepts s, M = L.next s h.allowed

/-- What no number of accepted steps changes: keys move from the tolerated ones to the tombstones
and nowhere else. -/
structure Tightens (L M : Ledger κ) : Prop where
  allowed : M.allowed ⊆ L.allowed
  tombs : L.tombs ⊆ M.tombs
  union : M.allowed ∪ M.tombs = L.allowed ∪ L.tombs

theorem Tightens.refl (L : Ledger κ) : L.Tightens L := ⟨subset_rfl, subset_rfl, rfl⟩

theorem Tightens.trans (h₁ : L.Tightens M) (h₂ : M.Tightens N) : L.Tightens N :=
  ⟨h₂.allowed.trans h₁.allowed, h₁.tombs.trans h₂.tombs, h₂.union.trans h₁.union⟩

theorem Step.tightens (h : L.Step M) : L.Tightens M := by
  obtain ⟨s, hs, rfl⟩ := h
  refine ⟨hs.allowed, Set.subset_union_left, ?_⟩
  have hunion : s.current ∪ L.allowed \ s.current = L.allowed :=
    Set.union_sdiff_cancel hs.allowed
  simp only [next]
  rw [Set.union_comm L.tombs, ← Set.union_assoc, hunion]

/-- A run of accepted steps only tightens. -/
theorem tightens_of_run (h : Relation.ReflTransGen Step L M) : L.Tightens M := by
  induction h with
  | refl => exact Tightens.refl L
  | tail _ hstep ih => exact ih.trans hstep.tightens

/-- The tombstones of a tightened ledger are the old ones and what is no longer tolerated. -/
theorem Tightens.tombs_eq (h : L.Tightens M) : M.tombs = L.tombs ∪ (L.allowed \ M.allowed) := by
  ext key
  have hkey : key ∈ M.allowed ∪ M.tombs ↔ key ∈ L.allowed ∪ L.tombs := by rw [h.union]
  simp only [Set.mem_union, Set.mem_sdiff] at hkey ⊢
  constructor
  · intro htomb
    have hnot : key ∉ M.allowed := fun hallowed => Set.disjoint_left.mp M.disjoint hallowed htomb
    tauto
  · rintro (htomb | ⟨hallowed, hnot⟩)
    · exact h.tombs htomb
    · tauto

/-- A tombstone is never tolerated again. -/
theorem Tightens.notMem_allowed (h : L.Tightens M) (hkey : key ∈ L.tombs) : key ∉ M.allowed :=
  fun hallowed => Set.disjoint_left.mp M.disjoint hallowed (h.tombs hkey)

/-- A sighting of a tombstone is refused. -/
theorem not_accepts_of_mem_tombs (htomb : key ∈ L.tombs) (hkey : key ∈ s.current) :
    ¬L.Accepts s :=
  fun h => Set.disjoint_left.mp L.disjoint (h.allowed hkey) htomb

/-- A sighting of a tombstone is refused after any number of accepted steps. -/
theorem not_accepts_of_run (h : Relation.ReflTransGen Step L M) (htomb : key ∈ L.tombs)
    (hkey : key ∈ s.current) : ¬M.Accepts s :=
  not_accepts_of_mem_tombs ((tightens_of_run h).tombs htomb) hkey

end Ledger

end Ucf
