import Mathlib.Algebra.Group.Nat.Defs
import Mathlib.Data.List.Induction
import Mathlib.Tactic.Common

/-! Numbers written with a fixed count of lower-case hexadecimal digits. -/

namespace Ucf

/-- `0123456789abcdef` -/
def hexChar (n : Nat) : Char :=
  if n < 10 then Char.ofNat (48 + n) else Char.ofNat (87 + n)

/-- The number of a lower-case hexadecimal digit. -/
def hexDigit? (c : Char) : Option Nat :=
  if 48 ≤ c.toNat ∧ c.toNat ≤ 57 then some (c.toNat - 48)
  else if 97 ≤ c.toNat ∧ c.toNat ≤ 102 then some (c.toNat - 87)
  else none

theorem hexDigit?_hexChar {n : Nat} (h : n < 16) : hexDigit? (hexChar n) = some n := by
  revert n
  decide

theorem hexDigit?_eq_some {c : Char} {n : Nat} :
    hexDigit? c = some n ↔ n < 16 ∧ c = hexChar n := by
  constructor
  · intro h
    have hn : n < 16 ∧ c.toNat = (hexChar n).toNat := by
      unfold hexDigit? at h
      split at h
      · rename_i hrange
        obtain rfl : c.toNat - 48 = n := by simpa using h
        refine ⟨by omega, ?_⟩
        have hchar : ∀ k, k < 10 → (hexChar k).toNat = 48 + k := by decide
        rw [hchar _ (by omega)]
        omega
      · split at h
        · rename_i hrange
          obtain rfl : c.toNat - 87 = n := by simpa using h
          refine ⟨by omega, ?_⟩
          have hchar : ∀ k, k < 16 → 10 ≤ k → (hexChar k).toNat = 87 + k := by decide
          rw [hchar _ (by omega) (by omega)]
          omega
        · simp at h
    exact ⟨hn.1, Char.ext (UInt32.toNat_inj.mp hn.2)⟩
  · rintro ⟨hn, rfl⟩
    exact hexDigit?_hexChar hn

/-- The last `count` hexadecimal digits of a number. -/
def hexChars : Nat → Nat → List Char
  | 0, _ => []
  | count + 1, n => hexChars count (n / 16) ++ [hexChar (n % 16)]

/-- The number that hexadecimal digits write. -/
def hexNumber? (cs : List Char) : Option Nat :=
  cs.foldl (fun n c => n.bind fun n => (hexDigit? c).map fun d => 16 * n + d) (some 0)

@[simp] theorem length_hexChars (count n : Nat) : (hexChars count n).length = count := by
  induction count generalizing n with
  | zero => rfl
  | succ count ih => simp [hexChars, ih]

theorem hexNumber?_append (cs : List Char) (c : Char) :
    hexNumber? (cs ++ [c]) =
      (hexNumber? cs).bind fun n => (hexDigit? c).map fun d => 16 * n + d := by
  simp [hexNumber?]

theorem hexNumber?_hexChars {count n : Nat} (h : n < 16 ^ count) :
    hexNumber? (hexChars count n) = some n := by
  induction count generalizing n with
  | zero =>
    obtain rfl : n = 0 := by simpa using h
    rfl
  | succ count ih =>
    have hdiv : n / 16 < 16 ^ count := by
      rw [Nat.div_lt_iff_lt_mul (by decide)]
      rwa [Nat.pow_succ] at h
    rw [hexChars, hexNumber?_append, ih hdiv,
      hexDigit?_hexChar (Nat.mod_lt n (by decide))]
    simp only [Option.bind_some, Option.map_some, Option.some.injEq]
    omega

/-- The digits that write a number are its digits. -/
theorem hexNumber?_eq_some {cs : List Char} {n : Nat} :
    hexNumber? cs = some n ↔ n < 16 ^ cs.length ∧ cs = hexChars cs.length n := by
  constructor
  · induction cs using List.reverseRecOn generalizing n with
    | nil =>
      intro h
      obtain rfl : 0 = n := by simpa [hexNumber?] using h
      exact ⟨by decide, rfl⟩
    | append_singleton cs c ih =>
      intro h
      rw [hexNumber?_append] at h
      simp only [Option.bind_eq_some_iff, Option.map_eq_some_iff] at h
      obtain ⟨m, hm, d, hd, rfl⟩ := h
      obtain ⟨hmlt, hcs⟩ := ih hm
      obtain ⟨hdlt, rfl⟩ := hexDigit?_eq_some.mp hd
      rw [List.length_append, List.length_singleton, Nat.pow_succ]
      refine ⟨by omega, ?_⟩
      rw [hexChars, show (16 * m + d) / 16 = m by omega, show (16 * m + d) % 16 = d by omega,
        ← hcs]
  · rintro ⟨hlt, hcs⟩
    rw [hcs]
    exact hexNumber?_hexChars hlt

end Ucf
