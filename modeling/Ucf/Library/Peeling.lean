import Mathlib.Data.Fintype.Card
import Mathlib.Data.Set.Finite.Basic
import Mathlib.Logic.Relation
import Mathlib.Order.WellFounded

/-! Ordering a list by a relation: the items that nothing has to come before are taken away, again and
again. Nothing is left exactly when the relation has no cycle among the items, and then the items in
the order in which they went are an order that respects it. -/

namespace Ucf.Peeling

open Relation

variable {α : Type} (before : α → α → Bool)

/-- The items that no item has to come before. -/
def ready (items : List α) : List α := items.filter fun b => items.all fun a => !before a b

/-- The items that some item has to come before. -/
def waiting (items : List α) : List α := items.filter fun b => items.any fun a => before a b

theorem not_all_not {items : List α} {b : α} :
    (!items.all fun a => !before a b) = items.any fun a => before a b := by
  simp [List.all_eq_not_any_not]

theorem length_waiting_lt {items : List α} (h : ready before items ≠ []) :
    (waiting before items).length < items.length := by
  obtain ⟨b, hb⟩ := List.exists_mem_of_ne_nil _ h
  obtain ⟨hmem, hnone⟩ := List.mem_filter.mp hb
  refine List.length_filter_lt_length_iff_exists.mpr ⟨b, hmem, ?_⟩
  rw [← not_all_not, hnone]
  simp

/-- What is left when the items that no item has to come before are taken away until there are none. -/
def peel (items : List α) : List α :=
  if _h : ready before items = [] then items else peel (waiting before items)
termination_by items.length
decreasing_by exact length_waiting_lt before _h

/-- One item has to come before another. -/
def Among (items : List α) (a b : α) : Prop := a ∈ items ∧ b ∈ items ∧ before a b = true

/-- An order of the items in which none comes after an item that it has to come before. -/
def Respects (order : List α) : Prop := order.Pairwise fun a b => before b a = false

variable {before} {items : List α}

theorem mem_ready {b : α} : b ∈ ready before items ↔ b ∈ items ∧ ∀ a ∈ items, before a b = false := by
  simp [ready]

theorem mem_waiting {b : α} : b ∈ waiting before items ↔ b ∈ items ∧ ∃ a ∈ items, before a b = true := by
  simp [waiting]

theorem perm_ready_waiting : (ready before items ++ waiting before items).Perm items := by
  have hwaiting : waiting before items =
      items.filter fun b => !(items.all fun a => !before a b) := by
    rw [waiting]
    refine List.filter_congr fun b _ => ?_
    rw [not_all_not]
  rw [hwaiting, ready]
  exact List.filter_append_perm _ _

/-- A path from an item that waits goes through items that wait. -/
theorem among_waiting {a c : α} (h : TransGen (Among before items) a c)
    (ha : a ∈ waiting before items) : TransGen (Among before (waiting before items)) a c := by
  have hedge : ∀ {b d}, b ∈ waiting before items → Among before items b d →
      Among before (waiting before items) b d := fun hb hbd =>
    ⟨hb, mem_waiting.mpr ⟨hbd.2.1, _, hbd.1, hbd.2.2⟩, hbd.2.2⟩
  induction h with
  | single hac => exact .single (hedge ha hac)
  | tail _ hbc ih =>
    obtain ⟨_, -, hlast⟩ := TransGen.tail'_iff.mp ih
    exact ih.tail (hedge hlast.2.1 hbc)

/-- A cycle among the items is one among those that wait. -/
theorem cycle_waiting {a : α} (h : TransGen (Among before items) a a) :
    TransGen (Among before (waiting before items)) a a := by
  obtain ⟨b, -, hlast⟩ := TransGen.tail'_iff.mp h
  exact among_waiting h (mem_waiting.mpr ⟨hlast.2.1, b, hlast.1, hlast.2.2⟩)

theorem cycle_of_waiting {a : α} (h : TransGen (Among before (waiting before items)) a a) :
    TransGen (Among before items) a a :=
  TransGen.mono (fun _ _ (hab : Among before (waiting before items) _ _) =>
    ⟨(mem_waiting.mp hab.1).1, (mem_waiting.mp hab.2.1).1, hab.2.2⟩) _ _ h

/-- Without a cycle, some item is ready. -/
theorem ready_ne_nil (h : ∀ a, ¬TransGen (Among before items) a a) (hne : items ≠ []) :
    ready before items ≠ [] := by
  obtain ⟨first, hfirst⟩ := List.exists_mem_of_ne_nil _ hne
  let path : {a // a ∈ items} → {a // a ∈ items} → Prop := fun a b =>
    TransGen (Among before items) a.val b.val
  have hfinite : Finite {a // a ∈ items} := items.finite_toSet
  have htrans : IsTrans _ path := ⟨fun _ _ _ hab hbc => hab.trans hbc⟩
  have hirrefl : Std.Irrefl path := ⟨fun a => h a.val⟩
  have hwf : WellFounded path := Finite.wellFounded_of_trans_of_irrefl path
  obtain ⟨b, -, hmin⟩ := hwf.has_min Set.univ ⟨⟨first, hfirst⟩, trivial⟩
  refine List.ne_nil_of_mem (a := b.val) (mem_ready.mpr ⟨b.property, fun a ha => ?_⟩)
  by_contra hbefore
  exact hmin ⟨a, ha⟩ trivial (.single ⟨ha, b.property, by simpa using hbefore⟩)

/-- Nothing is left exactly when there is no cycle. -/
theorem peel_eq_nil_iff : peel before items = [] ↔ ∀ a, ¬TransGen (Among before items) a a := by
  induction items using peel.induct before with
  | case1 items hready =>
    rw [peel, dif_pos hready]
    constructor
    · rintro rfl a hcycle
      obtain ⟨_, -, hlast⟩ := TransGen.tail'_iff.mp hcycle
      cases hlast.1
    · intro hacyclic
      by_contra hne
      exact ready_ne_nil hacyclic hne hready
  | case2 items hready ih =>
    rw [peel, dif_neg hready, ih]
    exact forall_congr' fun a => not_congr ⟨cycle_of_waiting, cycle_waiting⟩

/-- Where nothing is left, the items have an order that respects the relation. -/
theorem exists_respects (h : peel before items = []) :
    ∃ order, order.Perm items ∧ Respects before order := by
  induction items using peel.induct before with
  | case1 items hready =>
    rw [peel, dif_pos hready] at h
    exact ⟨[], by rw [h], .nil⟩
  | case2 items hready ih =>
    rw [peel, dif_neg hready] at h
    obtain ⟨order, hperm, hrespects⟩ := ih h
    refine ⟨ready before items ++ order, (hperm.append_left _).trans perm_ready_waiting, ?_⟩
    refine List.pairwise_append.mpr ⟨?_, hrespects, ?_⟩
    · refine List.pairwise_of_forall_mem_list fun a ha b hb => ?_
      exact (mem_ready.mp ha).2 b (mem_ready.mp hb).1
    · intro a ha b hb
      exact (mem_ready.mp ha).2 b (mem_waiting.mp (hperm.mem_iff.mp hb)).1

end Ucf.Peeling
