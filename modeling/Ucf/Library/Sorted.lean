import Mathlib.Data.List.Dedup
import Mathlib.Data.List.Sort
import Ucf.Library.Check

/-! Sorting by a key, and lists whose keys are unique and in order: such a list is determined by
its members, so every order in which a program visits them gives the same sorted result. -/

namespace Ucf

variable {α β κ : Type} [LinearOrder κ]

/-- `sorted(items, key=key)`. -/
def sortedBy (key : α → κ) (items : List α) : List α :=
  items.insertionSort fun a b => key a ≤ key b

/-- `sorted(set(items))`. -/
def sortedSet (items : List κ) : List κ := sortedBy id items.dedup

theorem sortedBy_perm (key : α → κ) (items : List α) : (sortedBy key items).Perm items :=
  List.perm_insertionSort _ _

@[simp] theorem mem_sortedBy {key : α → κ} {items : List α} {a : α} :
    a ∈ sortedBy key items ↔ a ∈ items :=
  (sortedBy_perm key items).mem_iff

@[simp] theorem length_sortedBy (key : α → κ) (items : List α) :
    (sortedBy key items).length = items.length :=
  (sortedBy_perm key items).length_eq

@[simp] theorem sortedBy_nil (key : α → κ) : sortedBy key [] = [] := rfl

theorem pairwise_sortedBy (key : α → κ) (items : List α) :
    (sortedBy key items).Pairwise fun a b => key a ≤ key b := by
  have : Std.Total (fun a b : α => key a ≤ key b) := ⟨fun a b => le_total _ _⟩
  have : IsTrans α (fun a b => key a ≤ key b) := ⟨fun _ _ _ => le_trans⟩
  exact List.pairwise_insertionSort _ _

theorem sortedBy_sortedBy (key : α → κ) (items : List α) :
    sortedBy key (sortedBy key items) = sortedBy key items :=
  List.Pairwise.insertionSort_eq (pairwise_sortedBy key items)

/-- The keys of `items` are unique and in order. -/
def SortedKeys (key : α → κ) (items : List α) : Prop :=
  items.Pairwise fun a b => key a < key b

theorem sortedKeys_iff {key : α → κ} {items : List α} :
    SortedKeys key items ↔ (items.map key).Pairwise (· < ·) := by
  rw [SortedKeys, List.pairwise_map]

theorem SortedKeys.nodup {key : α → κ} {items : List α} (h : SortedKeys key items) :
    (items.map key).Nodup := by
  rw [sortedKeys_iff] at h
  exact h.imp ne_of_lt

theorem SortedKeys.items_nodup {key : α → κ} {items : List α} (h : SortedKeys key items) :
    items.Nodup :=
  h.nodup.of_map

theorem SortedKeys.filter {key : α → κ} {items : List α} (h : SortedKeys key items)
    (p : α → Bool) : SortedKeys key (items.filter p) :=
  List.Pairwise.filter p h

/-- Two lists with unique keys in order are equal when they have the same members. -/
theorem SortedKeys.eq_of_mem_iff {key : α → κ} {l₁ l₂ : List α} (h₁ : SortedKeys key l₁)
    (h₂ : SortedKeys key l₂) (h : ∀ a, a ∈ l₁ ↔ a ∈ l₂) : l₁ = l₂ := by
  have : Std.Irrefl (fun a b : α => key a < key b) := ⟨fun _ => lt_irrefl _⟩
  have : Std.Antisymm (fun a b : α => key a < key b) :=
    ⟨fun _ _ hab hba => absurd (hab.trans hba) (lt_irrefl _)⟩
  exact List.Pairwise.eq_of_mem_iff h₁ h₂ h

/-- An item after the last one of a sorted list. -/
theorem sortedKeys_concat {key : α → κ} {items : List α} {a : α} :
    SortedKeys key (items ++ [a]) ↔
      SortedKeys key items ∧ ∀ last, items.getLast? = some last → key last < key a := by
  rw [SortedKeys, List.pairwise_append]
  constructor
  · rintro ⟨hitems, -, hlt⟩
    exact ⟨hitems, fun last hlast => hlt last (List.mem_of_getLast? hlast) a (by simp)⟩
  · rintro ⟨hitems, hlast⟩
    refine ⟨hitems, by simp, fun b hb c hc => ?_⟩
    rw [List.mem_singleton.mp hc]
    rcases List.eq_nil_or_concat' items with rfl | ⟨init, last, rfl⟩
    · simp at hb
    · have hlt := hlast last (by simp)
      rcases List.mem_append.mp hb with hb | hb
      · exact ((List.pairwise_append.mp hitems).2.2 b hb last (by simp)).trans hlt
      · rw [List.mem_singleton.mp hb]
        exact hlt

/-- Sorting a list with unique keys gives unique keys in order. -/
theorem sortedKeys_sortedBy {key : α → κ} {items : List α} (h : (items.map key).Nodup) :
    SortedKeys key (sortedBy key items) := by
  have hnodup : ((sortedBy key items).map key).Nodup :=
    ((sortedBy_perm key items).map key).nodup_iff.mpr h
  have hle := pairwise_sortedBy key items
  rw [List.Nodup, List.pairwise_map] at hnodup
  exact (hle.and hnodup).imp fun ⟨hle, hne⟩ => lt_of_le_of_ne hle hne

theorem SortedKeys.sortedBy_eq {key : α → κ} {items : List α} (h : SortedKeys key items) :
    sortedBy key items = items :=
  (sortedKeys_sortedBy h.nodup).eq_of_mem_iff h fun _ => mem_sortedBy

/-- The result of sorting by unique keys does not depend on the order of the input. -/
theorem sortedBy_eq_of_perm {key : α → κ} {l₁ l₂ : List α} (hperm : l₁.Perm l₂)
    (h : (l₁.map key).Nodup) : sortedBy key l₁ = sortedBy key l₂ :=
  (sortedKeys_sortedBy h).eq_of_mem_iff
    (sortedKeys_sortedBy ((hperm.map key).nodup_iff.mp h)) fun a => by
      simp [hperm.mem_iff]

/-- Sorting a list of keys, equal ones included, does not depend on the order of the input. -/
theorem sortedBy_id_eq_of_perm {l₁ l₂ : List κ} (hperm : l₁.Perm l₂) :
    sortedBy id l₁ = sortedBy id l₂ := by
  have : Std.Antisymm (fun a b : κ => id a ≤ id b) := ⟨fun _ _ => le_antisymm⟩
  exact List.Perm.eq_of_pairwise' (pairwise_sortedBy id l₁) (pairwise_sortedBy id l₂)
    ((sortedBy_perm id l₁).trans (hperm.trans (sortedBy_perm id l₂).symm))

theorem sortedBy_map (key : β → κ) (f : α → β) (items : List α) :
    sortedBy key (items.map f) = (sortedBy (fun a => key (f a)) items).map f :=
  (List.map_insertionSort (fun a b => key (f a) ≤ key (f b)) (fun a b => key a ≤ key b) f items
    fun _ _ _ _ => Iff.rfl).symm

theorem sortedBy_congr {key key' : α → κ} {items : List α} (h : ∀ a ∈ items, key a = key' a) :
    sortedBy key items = sortedBy key' items := by
  induction items with
  | nil => rfl
  | cons a items ih =>
    have htail := ih fun b hb => h b (by simp [hb])
    have hmem : ∀ l : List α, (∀ b ∈ l, b ∈ items) →
        l.orderedInsert (fun a b => key a ≤ key b) a =
          l.orderedInsert (fun a b => key' a ≤ key' b) a := by
      intro l hl
      induction l with
      | nil => rfl
      | cons b l ihl =>
        simp only [List.orderedInsert_cons, h a (by simp),
          h b (by simp [hl b (by simp)]), ihl fun c hc => hl c (by simp [hc])]
    have hcons : ∀ k : α → κ, sortedBy k (a :: items) =
        (sortedBy k items).orderedInsert (fun a b => k a ≤ k b) a := fun _ => rfl
    rw [hcons, hcons, ← htail]
    exact hmem _ fun b hb => mem_sortedBy.mp hb

@[simp] theorem mem_sortedSet {items : List κ} {a : κ} : a ∈ sortedSet items ↔ a ∈ items := by
  simp [sortedSet]

theorem sortedSet_pairwise (items : List κ) : (sortedSet items).Pairwise (· < ·) := by
  have h : SortedKeys id (sortedSet items) :=
    sortedKeys_sortedBy (by simpa using items.nodup_dedup)
  exact h

theorem length_sortedSet_le (items : List κ) : (sortedSet items).length ≤ items.length := by
  rw [sortedSet, length_sortedBy]
  exact (List.dedup_sublist items).length_le

/-- The sorted set of two lists with the same members is the same. -/
theorem sortedSet_congr {l₁ l₂ : List κ} (h : ∀ a, a ∈ l₁ ↔ a ∈ l₂) :
    sortedSet l₁ = sortedSet l₂ := by
  have : SortedKeys id (sortedSet l₁) := sortedSet_pairwise l₁
  exact this.eq_of_mem_iff (sortedSet_pairwise l₂) fun a => by simp [h]

/-- The check that values are unique and equal to their sorted sequence. -/
theorem nodup_and_eq_sortedBy_iff {values : List κ} :
    values.Nodup ∧ values = sortedBy id values ↔ values.Pairwise (· < ·) := by
  constructor
  · rintro ⟨hnodup, hsorted⟩
    have h : SortedKeys id (sortedBy id values) := sortedKeys_sortedBy (by simpa using hnodup)
    rw [← hsorted] at h
    exact h
  · intro h
    have hkeys : SortedKeys id values := h
    exact ⟨hkeys.items_nodup, hkeys.sortedBy_eq.symm⟩

/-- A predicate that fails on the second list keeps no more than the first. -/
theorem length_filter_sortedBy_le_left {key : α → κ} {l m : List α} {p : α → Bool}
    (h : ∀ a ∈ m, p a = false) : ((sortedBy key (l ++ m)).filter p).length ≤ l.length := by
  have hm : m.filter p = [] := List.filter_eq_nil_iff.mpr fun a ha => by simp [h a ha]
  rw [((sortedBy_perm key (l ++ m)).filter p).length_eq, List.filter_append, hm, List.append_nil]
  exact List.length_filter_le p l

/-- A predicate that fails on the first list keeps no more than the second. -/
theorem length_filter_sortedBy_le_right {key : α → κ} {l m : List α} {p : α → Bool}
    (h : ∀ a ∈ l, p a = false) : ((sortedBy key (l ++ m)).filter p).length ≤ m.length := by
  have hl : l.filter p = [] := List.filter_eq_nil_iff.mpr fun a ha => by simp [h a ha]
  rw [((sortedBy_perm key (l ++ m)).filter p).length_eq, List.filter_append, hl, List.nil_append]
  exact List.length_filter_le p m

/-- A comprehension over sorted keys whose result at each key has that key. -/
theorem collect_eq_sortedBy {ε : Type} {f : κ → Except ε β} {keys : List κ} {key : β → κ}
    {items : List β} (hkeys : keys.Pairwise (· < ·)) (hitems : (items.map key).Nodup)
    (hf : ∀ b ∈ items, f (key b) = .ok b) (hall : ∀ k, k ∈ keys ↔ ∃ b ∈ items, key b = k) :
    collect f keys = .ok (sortedBy key items) := by
  have hsorted : SortedKeys id ((sortedBy key items).map key) :=
    sortedKeys_iff.mp (sortedKeys_sortedBy hitems)
  have hk : SortedKeys id keys := hkeys
  obtain rfl : keys = (sortedBy key items).map key := by
    refine hk.eq_of_mem_iff hsorted fun k => ?_
    rw [hall, List.mem_map]
    simp
  rw [collect_eq_ok, List.forall₂_map_left_iff, List.forall₂_same]
  exact fun b hb => hf b (mem_sortedBy.mp hb)

end Ucf
