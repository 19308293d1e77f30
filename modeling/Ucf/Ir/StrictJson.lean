import Ucf.Ir.Codec
import Ucf.Library.Rfc8259

/-! The core's strict JSON decoder over strings of code points. A Python `str` may hold a lone
surrogate, which a text can spell with an escape, so this module keeps strings as lists of code
points where `Ir.Codec` has strings of characters. That module has the errors, which are all `none`
here. -/

namespace Ucf.Core

open Rfc8259

/-- What the decoder gives: a `float` keeps its token. -/
inductive PyValue where
  | none
  | bool (value : Bool)
  | int (value : Int)
  | float (token : Number)
  | str (codePoints : List Nat)
  | list (items : List PyValue)
  | dict (items : List (List Nat × PyValue))

/-- The code points that UTF-16 units stand for: a high surrogate joins the low one after it. -/
def joinSurrogates : List Nat → List Nat
  | [] => []
  | [unit] => [unit]
  | high :: low :: rest =>
    if 0xd800 ≤ high ∧ high < 0xdc00 ∧ 0xdc00 ≤ low ∧ low < 0xe000 then
      (0x10000 + (high - 0xd800) * 0x400 + (low - 0xdc00)) :: joinSurrogates rest
    else high :: joinSurrogates (low :: rest)

/-- `_unique_object` -/
def uniqueObject (pairs : List (List Nat × PyValue)) : Option (List (List Nat × PyValue)) :=
  pairs.foldlM (fun result pair =>
    if pair.1 ∈ result.map Prod.fst then .none else some (result ++ [pair])) []

/-- `int(token)` -/
def intOf (token : List Nat) : Int :=
  if token.head? = some minus then -(natOfDigits token.tail : Int) else natOfDigits token

/-- `_parse_integer` -/
def parseInteger (token : List Nat) : Option Int :=
  if token = [minus, zero] then .none
  else if 16 < (unsigned token).length then .none
  else if -(maxSafeInteger : Int) ≤ intOf token ∧ intOf token ≤ maxSafeInteger then
    some (intOf token)
  else .none

mutual

/-- What `json.loads` makes of a value with the hooks of `decode_strict_json_object`. -/
def construct : Doc → Option PyValue
  | .null => some .none
  | .bool value => some (.bool value)
  | .number n =>
    if n.fraction = [] ∧ n.exponent = [] then (parseInteger n.text).map .int else some (.float n)
  | .string units => some (.str (joinSurrogates units))
  | .array items => (constructItems items).map .list
  | .object members => (constructMembers members).bind fun pairs => (uniqueObject pairs).map .dict

def constructItems : List Doc → Option (List PyValue)
  | [] => some []
  | item :: items =>
    (construct item).bind fun item => (constructItems items).map fun items => item :: items

def constructMembers : List (List Nat × Doc) → Option (List (List Nat × PyValue))
  | [] => some []
  | (name, value) :: members =>
    (construct value).bind fun value =>
      (constructMembers members).map fun pairs => (joinSurrogates name, value) :: pairs

end

/-- `json.loads` with the hooks of `decode_strict_json_object`. The numbers that it reads beyond the
standard (`NaN`, `Infinity`) are refused by `_reject_non_finite`. -/
def loads (text : List Nat) : Option PyValue := (read text).bind construct

mutual

def PyValue.size : PyValue → Nat
  | .list items => sizeItems items + 1
  | .dict items => sizeFields items + 1
  | _ => 1

def sizeItems : List PyValue → Nat
  | [] => 0
  | item :: items => item.size + sizeItems items

def sizeFields : List (List Nat × PyValue) → Nat
  | [] => 0
  | (_, value) :: items => value.size + sizeFields items

end

/-- How much is still to look at. -/
def pendingSize (pending : List (PyValue × Nat)) : Nat := (pending.map fun p => p.1.size).sum

theorem PyValue.size_pos (value : PyValue) : 0 < value.size := by
  cases value <;> simp [PyValue.size]

@[simp] theorem pendingSize_cons (value : PyValue) (depth : Nat) (pending : List (PyValue × Nat)) :
    pendingSize ((value, depth) :: pending) = value.size + pendingSize pending := by
  simp [pendingSize]

/-- What the loop puts in front for a value: its parts, one deeper, the first of them on top. -/
def nested (depth : Nat) : PyValue → List (PyValue × Nat)
  | .dict items => items.map fun item => (item.2, depth + 1)
  | .list items => items.map fun item => (item, depth + 1)
  | _ => []

theorem pendingSize_items (items : List PyValue) (depth : Nat) (pending : List (PyValue × Nat)) :
    pendingSize (items.map (fun item => (item, depth)) ++ pending) =
      sizeItems items + pendingSize pending := by
  induction items with
  | nil => simp [sizeItems]
  | cons item items ih =>
    rw [List.map_cons, List.cons_append, pendingSize_cons, ih, sizeItems]
    omega

theorem pendingSize_fields (items : List (List Nat × PyValue)) (depth : Nat)
    (pending : List (PyValue × Nat)) :
    pendingSize (items.map (fun item => (item.2, depth)) ++ pending) =
      sizeFields items + pendingSize pending := by
  induction items with
  | nil => simp [sizeFields]
  | cons item items ih =>
    rw [List.map_cons, List.cons_append, pendingSize_cons, ih, sizeFields]
    omega

theorem pendingSize_nested (depth : Nat) (current : PyValue) (pending : List (PyValue × Nat)) :
    pendingSize (nested depth current ++ pending) < pendingSize ((current, depth) :: pending) := by
  have hpos := current.size_pos
  rw [pendingSize_cons]
  cases current with
  | dict items =>
    rw [nested, pendingSize_fields, PyValue.size]
    omega
  | list items =>
    rw [nested, pendingSize_items, PyValue.size]
    omega
  | _ => simpa [nested] using hpos

/-- The loop of `_validate_number_profile`, with the values that are pending and their depths. -/
def validateNumberProfile : List (PyValue × Nat) → Bool
  | [] => true
  | (current, depth) :: pending =>
    if maxJsonNesting < depth then false
    else
      match current with
      | .float _ => false
      | current => validateNumberProfile (nested depth current ++ pending)
termination_by pending => pendingSize pending
decreasing_by exact pendingSize_nested depth _ pending

/-- `decode_strict_json_object` -/
def decodeStrictJsonObject (text : List Char) : Option (List (List Nat × PyValue)) :=
  if text.head? = some (Char.ofNat 0xfeff) then .none
  else
    match loads (codes text) with
    | some (.dict items) =>
      if validateNumberProfile [(.dict items, 0)] then some items else .none
    | _ => .none

end Ucf.Core
