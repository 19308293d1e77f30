import Mathlib.Data.List.Basic

/-! Base64 with the standard alphabet and padding. -/

namespace Ucf

def b64Alphabet : List Char :=
  "ABCDEFGHIJKLMNOPQRSTUVWXYZabcdefghijklmnopqrstuvwxyz0123456789+/".toList

/-- The character of six bits. -/
def b64Char (n : Nat) : Char := b64Alphabet.getD n 'A'

/-- The six bits of a character. -/
def b64Value (c : Char) : Option Nat := b64Alphabet.findIdx? fun a => a = c

/-- `base64.b64encode(content).decode("ascii")` -/
def b64encode : List UInt8 → List Char
  | [] => []
  | [a] =>
    let n := a.toNat * 16
    [b64Char (n / 64), b64Char (n % 64), '=', '=']
  | [a, b] =>
    let n := (a.toNat * 256 + b.toNat) * 4
    [b64Char (n / 4096), b64Char (n / 64 % 64), b64Char (n % 64), '=']
  | a :: b :: c :: rest =>
    let n := (a.toNat * 256 + b.toNat) * 256 + c.toNat
    b64Char (n / 262144) :: b64Char (n / 4096 % 64) :: b64Char (n / 64 % 64) :: b64Char (n % 64) ::
      b64encode rest

/-- `base64.b64decode(text, validate=True)`; the bits that padding leaves over are not looked at. -/
def b64decode : List Char → Option (List UInt8)
  | [] => some []
  | w :: x :: y :: z :: rest => do
    let p ← b64Value w
    let q ← b64Value x
    if z = '=' then
      if rest ≠ [] then none
      else if y = '=' then pure [UInt8.ofNat ((p * 64 + q) / 16)]
      else
        let r ← b64Value y
        let n := (p * 64 + q) * 64 + r
        pure [UInt8.ofNat (n / 1024), UInt8.ofNat (n / 4 % 256)]
    else
      let r ← b64Value y
      let s ← b64Value z
      let n := ((p * 64 + q) * 64 + r) * 64 + s
      let bytes ← b64decode rest
      pure (UInt8.ofNat (n / 65536) :: UInt8.ofNat (n / 256 % 256) :: UInt8.ofNat (n % 256) :: bytes)
  | _ => none

/-- The alphabet as a list of characters, so that no evaluation decodes the string again. -/
theorem b64Alphabet_eq : b64Alphabet =
    ['A', 'B', 'C', 'D', 'E', 'F', 'G', 'H', 'I', 'J', 'K', 'L', 'M', 'N', 'O', 'P',
      'Q', 'R', 'S', 'T', 'U', 'V', 'W', 'X', 'Y', 'Z', 'a', 'b', 'c', 'd', 'e', 'f',
      'g', 'h', 'i', 'j', 'k', 'l', 'm', 'n', 'o', 'p', 'q', 'r', 's', 't', 'u', 'v',
      'w', 'x', 'y', 'z', '0', '1', '2', '3', '4', '5', '6', '7', '8', '9', '+', '/'] :=
  String.toList_ofList

theorem b64Value_b64Char : ∀ n < 64, b64Value (b64Char n) = some n := by
  simp only [b64Value, b64Char, b64Alphabet_eq]
  decide +kernel

theorem b64Char_ne_pad : ∀ n < 64, b64Char n ≠ '=' := by
  simp only [b64Char, b64Alphabet_eq]
  decide +kernel

theorem ofNat_eq_of_toNat {a : UInt8} {n : Nat} (h : n = a.toNat) : UInt8.ofNat n = a := by
  rw [h, UInt8.ofNat_toNat]

/-- Decoding undoes encoding. -/
@[simp] theorem b64decode_b64encode (bytes : List UInt8) :
    b64decode (b64encode bytes) = some bytes := by
  induction bytes using b64encode.induct with
  | case1 => rfl
  | case2 a =>
    have ha := a.toNat_lt
    rw [b64encode, b64decode, b64Value_b64Char _ (by omega), b64Value_b64Char _ (by omega)]
    simp only [Option.bind_eq_bind, Option.bind_some, ne_eq, not_true_eq_false, if_true, if_false,
      Option.pure_def]
    rw [ofNat_eq_of_toNat (a := a) (by omega)]
  | case3 a b =>
    have ha := a.toNat_lt
    have hb := b.toNat_lt
    rw [b64encode, b64decode, b64Value_b64Char _ (by omega), b64Value_b64Char _ (by omega),
      b64Value_b64Char _ (by omega)]
    simp only [Option.bind_eq_bind, Option.bind_some, ne_eq, not_true_eq_false, if_true, if_false,
      Option.pure_def, b64Char_ne_pad _ (Nat.mod_lt _ (by decide : 0 < 64))]
    rw [ofNat_eq_of_toNat (a := a) (by omega), ofNat_eq_of_toNat (a := b) (by omega)]
  | case4 a b c rest ih =>
    have ha := a.toNat_lt
    have hb := b.toNat_lt
    have hc := c.toNat_lt
    rw [b64encode, b64decode, b64Value_b64Char _ (by omega), b64Value_b64Char _ (by omega),
      b64Value_b64Char _ (by omega), b64Value_b64Char _ (by omega), ih]
    simp only [Option.bind_eq_bind, Option.bind_some, if_false, Option.pure_def,
      b64Char_ne_pad _ (Nat.mod_lt _ (by decide : 0 < 64))]
    rw [ofNat_eq_of_toNat (a := a) (by omega), ofNat_eq_of_toNat (a := b) (by omega),
      ofNat_eq_of_toNat (a := c) (by omega)]

end Ucf
