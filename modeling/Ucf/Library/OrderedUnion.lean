import Mathlib.Data.List.Nodup

/-! Ordered unions: lists joined one after another, where an item whose key is there already is
left out. -/

namespace Ucf

variable {α κ : Type} [DecidableEq κ]

/-- `items`, and then the items of `more` whose keys none of `items` has. -/
def unite (key : α → κ) (items more : List α) : List α :=
  items ++ more.filter fun a => key a ∉ items.map key

/-- The items whose keys no earlier item has. -/
def firstOf (key : α → κ) : List α → List α
  | [] => []
  | a :: as => a :: (firstOf key as).filter fun b => key b ≠ key a

@[simp] theorem mem_keys_firstOf {key : α → κ} {items : List α} {k : κ} :
    k ∈ (firstOf key items).map key ↔ k ∈ items.map key := by
  induction items with
  | nil => simp [firstOf]
  | cons a as ih =>
    rw [firstOf, List.map_cons, List.mem_cons, List.map_cons, List.mem_cons, ← ih]
    by_cases hk : k = key a
    · simp [hk]
    · simp only [hk, false_or, List.mem_map, List.mem_filter, decide_eq_true_iff]
      constructor
      · rintro ⟨b, ⟨hb, -⟩, rfl⟩
        exact ⟨b, hb, rfl⟩
      · rintro ⟨b, hb, rfl⟩
        exact ⟨b, ⟨hb, hk⟩, rfl⟩

theorem firstOf_sublist (key : α → κ) (items : List α) : (firstOf key items).Sublist items := by
  induction items with
  | nil => exact List.Sublist.slnil
  | cons a as ih => exact (List.filter_sublist.trans ih).cons_cons a

theorem nodup_firstOf (key : α → κ) (items : List α) : ((firstOf key items).map key).Nodup := by
  induction items with
  | nil => simp [firstOf]
  | cons a as ih =>
    rw [firstOf, List.map_cons, List.nodup_cons]
    refine ⟨?_, ih.sublist (List.filter_sublist.map key)⟩
    intro hmem
    obtain ⟨b, hb, hkey⟩ := List.mem_map.mp hmem
    exact of_decide_eq_true (List.mem_filter.mp hb).2 hkey

theorem firstOf_eq_self {key : α → κ} {items : List α} (h : (items.map key).Nodup) :
    firstOf key items = items := by
  induction items with
  | nil => rfl
  | cons a as ih =>
    rw [List.map_cons, List.nodup_cons] at h
    rw [firstOf, ih h.2, List.filter_eq_self.mpr]
    intro b hb
    refine decide_eq_true fun hkey => h.1 ?_
    exact hkey ▸ List.mem_map_of_mem hb

/-- The union of two lists without duplicates keeps the first of each key of the two together. -/
theorem firstOf_append {key : α → κ} {items more : List α} (h : (more.map key).Nodup) :
    firstOf key (items ++ more) = unite key (firstOf key items) more := by
  induction items with
  | nil => simp [firstOf, unite, firstOf_eq_self h]
  | cons a as ih =>
    rw [List.cons_append, firstOf, ih, firstOf, unite, unite, List.filter_append, List.filter_filter,
      List.cons_append]
    congr 2
    refine List.filter_congr fun b _ => ?_
    rw [← Bool.decide_and, decide_eq_decide, mem_keys_firstOf, List.map_cons, List.mem_cons, not_or]
    refine and_congr_right fun hne => not_congr ?_
    simp only [List.mem_map, List.mem_filter, decide_eq_true_iff]
    constructor
    · intro hkey
      obtain ⟨c, hc, hck⟩ := List.mem_map.mp (mem_keys_firstOf.mpr (List.mem_map.mpr hkey))
      exact ⟨c, ⟨hc, by rw [hck]; exact hne⟩, hck⟩
    · rintro ⟨c, ⟨hc, -⟩, hck⟩
      exact List.mem_map.mp (mem_keys_firstOf.mp (List.mem_map.mpr ⟨c, hc, hck⟩))

end Ucf
