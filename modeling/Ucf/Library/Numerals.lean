import Mathlib.Data.List.Lex
import Mathlib.Data.Prod.Lex
import Mathlib.Tactic.Ring

/-! Numbers written with digits, the highest first. Without leading zeros, the shorter of two texts is
the lower number, and two texts of one length are ordered as their numbers. -/

namespace Ucf.Numerals

variable {α : Type} (digit : α → Nat) (base : Nat)

/-- The number that digits write. -/
def value : List α → Nat
  | [] => 0
  | d :: ds => digit d * base ^ ds.length + value ds

theorem foldl_eq_value {ds : List α} {n : Nat} :
    ds.foldl (fun n d => base * n + digit d) n = n * base ^ ds.length + value digit base ds := by
  induction ds generalizing n with
  | nil => simp [value]
  | cons d ds ih =>
    rw [List.foldl_cons, ih, value, List.length_cons]
    ring

variable {digit base}

theorem pow_le_value {d : α} {ds : List α} (hd : digit d ≠ 0) :
    base ^ ds.length ≤ value digit base (d :: ds) := by
  have hpos : 1 * base ^ ds.length ≤ digit d * base ^ ds.length :=
    Nat.mul_le_mul_right _ (Nat.pos_of_ne_zero hd)
  rw [value]
  omega

variable [LinearOrder α] {IsDigit : α → Prop}

/-- The digits of a base, in the order of their numbers. -/
structure Digits (digit : α → Nat) (base : Nat) (IsDigit : α → Prop) : Prop where
  lt_base : ∀ d, IsDigit d → digit d < base
  lt_iff : ∀ d e, IsDigit d → IsDigit e → (digit d < digit e ↔ d < e)

/-- Digits without a leading zero. -/
structure Normal (digit : α → Nat) (IsDigit : α → Prop) (ds : List α) : Prop where
  digits : ∀ d ∈ ds, IsDigit d
  ne_nil : ds ≠ []
  leading : ds.length = 1 ∨ ∀ d ∈ ds.head?, digit d ≠ 0

namespace Digits

variable (h : Digits digit base IsDigit)
include h

theorem digit_inj {d e : α} (hd : IsDigit d) (he : IsDigit e) (heq : digit d = digit e) : d = e := by
  have hlt := h.lt_iff d e hd he
  have hgt := h.lt_iff e d he hd
  rcases lt_trichotomy d e with hde | hde | hde
  · have hdigit := hlt.mpr hde
    omega
  · exact hde
  · have hdigit := hgt.mpr hde
    omega

theorem value_lt_pow {ds : List α} (hds : ∀ d ∈ ds, IsDigit d) :
    value digit base ds < base ^ ds.length := by
  induction ds with
  | nil => simp [value]
  | cons d ds ih =>
    rw [List.forall_mem_cons] at hds
    have htail := ih hds.2
    have hhead : digit d + 1 ≤ base := h.lt_base d hds.1
    calc value digit base (d :: ds)
        < digit d * base ^ ds.length + base ^ ds.length := Nat.add_lt_add_left htail _
      _ = (digit d + 1) * base ^ ds.length := by ring
      _ ≤ base * base ^ ds.length := Nat.mul_le_mul_right _ hhead
      _ = base ^ (d :: ds).length := by rw [List.length_cons, pow_succ, Nat.mul_comm]

/-- Two texts of one length are ordered as their numbers. -/
theorem value_lt_iff_of_length {ds es : List α} (hlength : ds.length = es.length)
    (hds : ∀ d ∈ ds, IsDigit d) (hes : ∀ e ∈ es, IsDigit e) :
    value digit base ds < value digit base es ↔ ds < es := by
  induction ds generalizing es with
  | nil =>
    cases es with
    | nil => simp
    | cons e es => cases hlength
  | cons d ds ih =>
    cases es with
    | nil => cases hlength
    | cons e es =>
      rw [List.forall_mem_cons] at hds hes
      have hlength : ds.length = es.length := Nat.succ.inj hlength
      have hd := h.value_lt_pow hds.2
      have he := h.value_lt_pow hes.2
      rw [List.cons_lt_cons_iff, value, value, ← ih hlength hds.2 hes.2, hlength]
      rw [hlength] at hd
      -- the tails are below the weight of the leading digit
      have hstep : ∀ {m n x y : Nat}, m < n → x < base ^ es.length →
          m * base ^ es.length + x < n * base ^ es.length + y := by
        intro m n x y hlt hx
        have hmul : (m + 1) * base ^ es.length ≤ n * base ^ es.length := Nat.mul_le_mul_right _ hlt
        rw [Nat.add_mul, Nat.one_mul] at hmul
        omega
      rcases lt_trichotomy (digit d) (digit e) with hlt | heq | hgt
      · exact iff_of_true (hstep hlt hd) (.inl ((h.lt_iff d e hds.1 hes.1).mp hlt))
      · have hde := h.digit_inj hds.1 hes.1 heq
        rw [heq, Nat.add_lt_add_iff_left]
        simp [hde]
      · have hed := (h.lt_iff e d hes.1 hds.1).mp hgt
        refine iff_of_false (hstep hgt he).asymm ?_
        rintro (hde | ⟨rfl, -⟩)
        · exact hed.asymm hde
        · exact lt_irrefl _ hed

/-- A longer text without leading zeros is a higher number. -/
theorem value_lt_of_length_lt {ds es : List α} (hds : ∀ d ∈ ds, IsDigit d)
    (hes : Normal digit IsDigit es) (hne : ds ≠ []) (hlt : ds.length < es.length) :
    value digit base ds < value digit base es := by
  cases es with
  | nil => exact absurd rfl hes.ne_nil
  | cons e es =>
    have hpos : 0 < ds.length := List.length_pos_of_ne_nil hne
    rcases hes.leading with hone | hleading
    · rw [hone] at hlt
      omega
    · rw [List.length_cons] at hlt
      calc value digit base ds
          < base ^ ds.length := h.value_lt_pow hds
        _ ≤ base ^ es.length := by
          have hbase := h.lt_base e (hes.digits e List.mem_cons_self)
          exact Nat.pow_le_pow_right (by omega) (by omega)
        _ ≤ value digit base (e :: es) := pow_le_value (hleading e rfl)

/-- The length and then the text order numbers without leading zeros. -/
theorem value_lt_iff {ds es : List α} (hds : Normal digit IsDigit ds)
    (hes : Normal digit IsDigit es) :
    value digit base ds < value digit base es ↔ toLex (ds.length, ds) < toLex (es.length, es) := by
  rw [Prod.Lex.toLex_lt_toLex]
  rcases lt_trichotomy ds.length es.length with hlt | heq | hgt
  · exact iff_of_true (h.value_lt_of_length_lt hds.digits hes hds.ne_nil hlt) (.inl hlt)
  · rw [h.value_lt_iff_of_length heq hds.digits hes.digits]
    simp [heq]
  · refine iff_of_false (h.value_lt_of_length_lt hes.digits hds hes.ne_nil hgt).asymm ?_
    rintro (hlt | ⟨heq, -⟩)
    · exact hgt.asymm hlt
    · exact hgt.ne' heq

/-- A number has one text without leading zeros. -/
theorem value_inj {ds es : List α} (hds : Normal digit IsDigit ds) (hes : Normal digit IsDigit es) :
    value digit base ds = value digit base es ↔ ds = es := by
  refine ⟨fun heq => ?_, fun heq => by rw [heq]⟩
  rcases lt_trichotomy (toLex (ds.length, ds)) (toLex (es.length, es)) with hlt | hkey | hgt
  · exact absurd heq ((h.value_lt_iff hds hes).mpr hlt).ne
  · exact (Prod.mk.inj (toLex.injective hkey)).2
  · exact absurd heq ((h.value_lt_iff hes hds).mpr hgt).ne'

end Digits

end Ucf.Numerals
