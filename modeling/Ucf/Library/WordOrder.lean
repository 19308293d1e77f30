import Mathlib.Data.List.Lex
import Mathlib.Data.String.Basic

/-! The order of texts that go on after a word with a separator that is below every character of
the words: the words decide it. -/

namespace Ucf

section Lists

variable {α : Type} [LinearOrder α] {sep : α}

/-- The words decide when what follows the first one is empty or starts with the separator. -/
theorem append_lt_of_word_lt {a b rest rest' : List α} (ha : ∀ x ∈ a, sep < x)
    (hb : ∀ x ∈ b, sep < x) (hrest : ∀ x ∈ rest.head?, x = sep) (h : a < b) :
    a ++ rest < b ++ rest' := by
  induction a generalizing b with
  | nil =>
    cases b with
    | nil => exact absurd h (lt_irrefl _)
    | cons y b =>
      rw [List.nil_append, List.cons_append]
      cases rest with
      | nil => exact List.nil_lt_cons _ _
      | cons x rest =>
        rw [List.cons_lt_cons_iff, hrest x rfl]
        exact .inl (hb y (by simp))
  | cons x a ih =>
    cases b with
    | nil => exact absurd h (List.not_lt_nil _)
    | cons y b =>
      rw [List.cons_append, List.cons_append, List.cons_lt_cons_iff]
      rw [List.cons_lt_cons_iff] at h
      refine h.imp id fun ⟨hxy, hlt⟩ => ⟨hxy, ?_⟩
      exact ih (fun z hz => ha z (by simp [hz])) (fun z hz => hb z (by simp [hz])) hlt

theorem append_word_lt_iff {a b rest rest' : List α} (ha : ∀ x ∈ a, sep < x)
    (hb : ∀ x ∈ b, sep < x) (hrest : ∀ x ∈ rest.head?, x = sep)
    (hrest' : ∀ x ∈ rest'.head?, x = sep) (hne : a ≠ b) : a ++ rest < b ++ rest' ↔ a < b := by
  refine ⟨fun h => ?_, append_lt_of_word_lt ha hb hrest⟩
  rcases lt_trichotomy a b with hlt | heq | hgt
  · exact hlt
  · exact absurd heq hne
  · exact absurd (h.trans (append_lt_of_word_lt hb ha hrest' hgt)) (lt_irrefl _)

/-- Different words order the texts that go on after them. -/
theorem append_separator_lt_iff {a b rest rest' : List α} (ha : ∀ x ∈ a, sep < x)
    (hb : ∀ x ∈ b, sep < x) (hne : a ≠ b) : a ++ sep :: rest < b ++ sep :: rest' ↔ a < b :=
  append_word_lt_iff ha hb (by simp) (by simp) hne

theorem append_lt_append_left_iff {common l l' : List α} : common ++ l < common ++ l' ↔ l < l' := by
  induction common with
  | nil => exact Iff.rfl
  | cons a common ih =>
    rw [List.cons_append, List.cons_append, List.cons_lt_cons_iff, ih]
    simp

end Lists

/-- The characters of a word come after the separator. -/
def WordAfter (sep : Char) (s : String) : Prop := ∀ c ∈ s.toList, sep < c

instance (sep : Char) (s : String) : Decidable (WordAfter sep s) :=
  decidable_of_iff ((s.toList.all fun c => sep < c) = true)
    (by simp only [List.all_eq_true, decide_eq_true_eq, WordAfter])

theorem prefix_lt_prefix_iff {start s t : String} : start ++ s < start ++ t ↔ s < t := by
  rw [String.lt_iff_toList_lt, String.lt_iff_toList_lt, String.toList_append,
    String.toList_append]
  exact append_lt_append_left_iff

/-- Sentences with the same start that go on with different words are ordered as these words. -/
theorem sentence_lt_iff {sep : Char} {start a b rest rest' : String} {cs cs' : List Char}
    (ha : WordAfter sep a) (hb : WordAfter sep b) (hne : a ≠ b) (hrest : rest.toList = sep :: cs)
    (hrest' : rest'.toList = sep :: cs') :
    start ++ a ++ rest < start ++ b ++ rest' ↔ a < b := by
  rw [String.append_assoc, String.append_assoc, prefix_lt_prefix_iff, String.lt_iff_toList_lt,
    String.lt_iff_toList_lt, String.toList_append, String.toList_append, hrest, hrest']
  exact append_separator_lt_iff ha hb fun h => hne (String.toList_inj.mp h)

end Ucf
