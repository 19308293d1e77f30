import Mathlib.Data.List.Lex
import Mathlib.Data.String.Basic

/-! Strings as the code units of an encoding, and the order that comparing these units gives. -/

namespace Ucf

/-- The UTF-8 bytes of a character. -/
def utf8 (c : Char) : List Nat :=
  let n := c.toNat
  if n < 0x80 then [n]
  else if n < 0x800 then [0xc0 + n / 0x40, 0x80 + n % 0x40]
  else if n < 0x10000 then [0xe0 + n / 0x1000, 0x80 + n / 0x40 % 0x40, 0x80 + n % 0x40]
  else [0xf0 + n / 0x40000, 0x80 + n / 0x1000 % 0x40, 0x80 + n / 0x40 % 0x40, 0x80 + n % 0x40]

/-- The UTF-16 code units of a character. -/
def utf16 (c : Char) : List Nat :=
  let n := c.toNat
  if n < 0x10000 then [n]
  else [0xd800 + (n - 0x10000) / 0x400, 0xdc00 + (n - 0x10000) % 0x400]

theorem char_toNat_valid (c : Char) : c.toNat < 0xd800 ∨ 0xdfff < c.toNat ∧ c.toNat < 0x110000 :=
  c.valid

/-- The lists agree up to a place where both have an item, and `r` relates these. -/
def Differs {α : Type} (r : α → α → Prop) (l l' : List α) : Prop :=
  ∃ common x y rest rest', l = common ++ x :: rest ∧ l' = common ++ y :: rest' ∧ r x y

theorem differs_cons {α : Type} {r : α → α → Prop} {x y : α} {l l' : List α} :
    Differs r (x :: l) (y :: l') ↔ r x y ∨ x = y ∧ Differs r l l' := by
  constructor
  · rintro ⟨common, a, b, rest, rest', hl, hl', hr⟩
    cases common with
    | nil =>
      rw [List.nil_append, List.cons.injEq] at hl hl'
      rw [hl.1, hl'.1]
      exact Or.inl hr
    | cons first common =>
      rw [List.cons_append, List.cons.injEq] at hl hl'
      exact Or.inr ⟨hl.1.trans hl'.1.symm, common, a, b, rest, rest', hl.2, hl'.2, hr⟩
  · rintro (hr | ⟨rfl, common, a, b, rest, rest', rfl, rfl, hr⟩)
    · exact ⟨[], x, y, l, l', rfl, rfl, hr⟩
    · exact ⟨x :: common, a, b, rest, rest', rfl, rfl, hr⟩

@[simp] theorem not_differs_nil {α : Type} {r : α → α → Prop} {l : List α} : ¬Differs r [] l := by
  rintro ⟨common, x, y, rest, rest', hl, -⟩
  cases common <;> cases hl

@[simp] theorem not_differs_nil_right {α : Type} {r : α → α → Prop} {l : List α} :
    ¬Differs r l [] := by
  rintro ⟨common, x, y, rest, rest', -, hl, -⟩
  cases common <;> cases hl

theorem append_lt_append_iff {common l l' : List Nat} : common ++ l < common ++ l' ↔ l < l' := by
  induction common with
  | nil => exact Iff.rfl
  | cons a common ih =>
    rw [List.cons_append, List.cons_append, List.cons_lt_cons_iff, ih]
    simp

theorem Differs.lt {units units' : List Nat} (h : Differs (· < ·) units units')
    (l l' : List Nat) : units ++ l < units' ++ l' := by
  obtain ⟨common, x, y, rest, rest', rfl, rfl, hlt⟩ := h
  rw [List.append_assoc, List.append_assoc, append_lt_append_iff, List.cons_append,
    List.cons_append, List.cons_lt_cons_iff]
  exact Or.inl hlt

/-- The encoding orders characters as `rank` does. -/
def Ranked (encode : Char → List Nat) (rank : Char → Nat) : Prop :=
  ∀ c d, rank c < rank d → Differs (· < ·) (encode c) (encode d)

/-- Comparing strings unit by unit compares them character by character, by rank. -/
theorem units_lt_iff {encode : Char → List Nat} {rank : Char → Nat} (h : Ranked encode rank)
    (hrank : Function.Injective rank) (hne : ∀ c, encode c ≠ []) (s t : List Char) :
    s.flatMap encode < t.flatMap encode ↔ s.map rank < t.map rank := by
  induction s generalizing t with
  | nil =>
    cases t with
    | nil => simp
    | cons d t =>
      obtain ⟨unit, units, hunits⟩ := List.exists_cons_of_ne_nil (hne d)
      simp [List.flatMap_cons, hunits]
  | cons c s ih =>
    cases t with
    | nil => simp
    | cons d t =>
      rw [List.flatMap_cons, List.flatMap_cons, List.map_cons, List.map_cons,
        List.cons_lt_cons_iff]
      rcases Nat.lt_trichotomy (rank c) (rank d) with hlt | heq | hgt
      · exact iff_of_true ((h c d hlt).lt _ _) (Or.inl hlt)
      · rw [hrank heq, append_lt_append_iff, ih]
        simp
      · refine iff_of_false (lt_asymm ((h d c hgt).lt _ _)) ?_
        rintro (hlt | ⟨heq, -⟩)
        · omega
        · omega

theorem utf8_ne_nil (c : Char) : utf8 c ≠ [] := by
  unfold utf8
  grind

theorem utf16_ne_nil (c : Char) : utf16 c ≠ [] := by
  unfold utf16
  grind

theorem char_toNat_injective : Function.Injective Char.toNat :=
  fun _ _ h => Char.ext (UInt32.toNat.inj h)

/-- UTF-8 bytes have the order of the code points. -/
theorem ranked_utf8 : Ranked utf8 Char.toNat := by
  intro c d hlt
  have hc := char_toNat_valid c
  have hd := char_toNat_valid d
  unfold utf8
  simp only
  repeat' split
  all_goals
    simp only [differs_cons]
    omega

/-- Where a character stands in the order of UTF-16 code units: the characters above `U+FFFF` come
before those from `U+E000` on. -/
def utf16Rank (c : Char) : Nat :=
  if 0xe000 ≤ c.toNat ∧ c.toNat < 0x10000 then c.toNat + 0x110000 else c.toNat

theorem utf16Rank_injective : Function.Injective utf16Rank := by
  intro c d h
  have hc := char_toNat_valid c
  have hd := char_toNat_valid d
  unfold utf16Rank at h
  apply char_toNat_injective
  split at h <;> split at h <;> omega

theorem ranked_utf16 : Ranked utf16 utf16Rank := by
  intro c d hlt
  have hc := char_toNat_valid c
  have hd := char_toNat_valid d
  unfold utf16Rank at hlt
  unfold utf16
  simp only
  split at hlt <;> split at hlt
  all_goals
    split <;> split <;> simp only [differs_cons] <;> omega

/-- The UTF-8 bytes of a string. -/
def utf8Units (s : String) : List Nat := s.toList.flatMap utf8

/-- The UTF-16 code units of a string. -/
def utf16Units (s : String) : List Nat := s.toList.flatMap utf16

theorem map_toNat_lt_iff {l l' : List Char} : l.map Char.toNat < l'.map Char.toNat ↔ l < l' := by
  induction l generalizing l' with
  | nil => cases l' <;> simp
  | cons c l ih =>
    cases l' with
    | nil => simp
    | cons d l' =>
      rw [List.map_cons, List.map_cons, List.cons_lt_cons_iff, List.cons_lt_cons_iff, ih,
        char_toNat_injective.eq_iff]
      exact Iff.rfl

/-- Comparing the UTF-8 bytes of strings compares the strings by code point. -/
theorem utf8Units_lt_iff {s t : String} : utf8Units s < utf8Units t ↔ s < t := by
  rw [utf8Units, utf8Units, units_lt_iff ranked_utf8 char_toNat_injective utf8_ne_nil,
    map_toNat_lt_iff, String.lt_iff_toList_lt]

/-- UTF-16 puts the second character first although its code point is greater. -/
def Crossed (c d : Char) : Prop := 0xe000 ≤ c.toNat ∧ c.toNat < 0x10000 ∧ 0x10000 ≤ d.toNat

theorem utf16Rank_lt_iff {c d : Char} (hcd : ¬Crossed c d) (hdc : ¬Crossed d c) :
    utf16Rank c < utf16Rank d ↔ c.toNat < d.toNat := by
  have hc := char_toNat_valid c
  have hd := char_toNat_valid d
  unfold Crossed at hcd hdc
  unfold utf16Rank
  split <;> split <;> omega

theorem Crossed.rank {c d : Char} (h : Crossed c d) :
    c.toNat < d.toNat ∧ utf16Rank d < utf16Rank c := by
  have hd := char_toNat_valid d
  unfold Crossed at h
  unfold utf16Rank
  split <;> split <;> omega

/-- Comparing strings by code unit and by code point differs exactly where the first characters in
which they differ are crossed. -/
theorem utf16_order_iff {l l' : List Char} :
    (l.map utf16Rank < l'.map utf16Rank ↔ l.map Char.toNat < l'.map Char.toNat) ↔
      ¬Differs Crossed l l' ∧ ¬Differs Crossed l' l := by
  induction l generalizing l' with
  | nil => cases l' <;> simp
  | cons c l ih =>
    cases l' with
    | nil => simp
    | cons d l' =>
      simp only [List.map_cons, List.cons_lt_cons_iff, differs_cons, utf16Rank_injective.eq_iff,
        char_toNat_injective.eq_iff]
      by_cases heq : c = d
      · subst heq
        have hself : ¬Crossed c c := fun h => absurd h.rank.1 (lt_irrefl _)
        simpa [hself] using ih
      · by_cases hcd : Crossed c d
        · have hrank := hcd.rank
          have hnot : ¬utf16Rank c < utf16Rank d := by omega
          simp [heq, hcd, hrank.1, hnot]
        · by_cases hdc : Crossed d c
          · have hrank := hdc.rank
            have hnot : ¬c.toNat < d.toNat := by omega
            simp [heq, hdc, hrank.2, hnot]
          · simp [heq, Ne.symm heq, hcd, hdc, utf16Rank_lt_iff hcd hdc]

theorem utf16Units_lt_iff {s t : String} :
    (utf16Units s < utf16Units t ↔ s < t) ↔
      ¬Differs Crossed s.toList t.toList ∧ ¬Differs Crossed t.toList s.toList := by
  rw [utf16Units, utf16Units, units_lt_iff ranked_utf16 utf16Rank_injective utf16_ne_nil,
    String.lt_iff_toList_lt, ← map_toNat_lt_iff]
  exact utf16_order_iff

theorem utf16Units_injective : Function.Injective utf16Units := by
  intro s t h
  have hnot : ∀ s t : String, utf16Units s = utf16Units t →
      ¬s.toList.map utf16Rank < t.toList.map utf16Rank := by
    intro s t h hlt
    rw [← units_lt_iff ranked_utf16 utf16Rank_injective utf16_ne_nil] at hlt
    exact absurd h (ne_of_lt hlt)
  have heq := le_antisymm (not_lt.mp (hnot t s h.symm)) (not_lt.mp (hnot s t h))
  exact String.toList_injective (List.map_injective_iff.mpr utf16Rank_injective heq)

end Ucf
