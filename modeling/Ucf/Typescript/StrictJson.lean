import Ucf.Library.Check
import Ucf.Library.Rfc8259

/-! The TypeScript adapter's strict JSON parser. Its position is kept as the units that are left. -/

namespace Ucf.Typescript

open Rfc8259

/-- `JsonValue`, with strings as UTF-16 units and an object as its own properties. -/
inductive JsonValue where
  | null
  | boolean (value : Bool)
  | number (value : Int)
  | string (units : List Nat)
  | array (items : List JsonValue)
  | object (members : List (List Nat × JsonValue))

/-- What ends a parse without a value. Only the model can run out of fuel. -/
inductive Thrown where
  | syntaxError (message : String)
  | outOfFuel
  deriving DecidableEq

abbrev Parsed (α : Type) : Type := Except Thrown (α × List Nat)

/-- `MAX_SAFE_INTEGER` -/
def maxSafe : Int := 9007199254740991

/-- `MAX_DEPTH` -/
def maxDepth : Nat := 128

/-- `skipWhitespace` -/
def skipWhitespace : List Nat → List Nat
  | [] => []
  | c :: text => if c ∈ [0x20, 0x09, 0x0a, 0x0d] then skipWhitespace text else c :: text

/-- The loop of `parseString`: the units up to and with the closing quotation mark. -/
def scanString (escaped : Bool) : List Nat → Option (List Nat × List Nat)
  | [] => none
  | c :: text =>
    if escaped then (scanString false text).map fun (token, rest) => (c :: token, rest)
    else if c = escape then (scanString true text).map fun (token, rest) => (c :: token, rest)
    else if c = quotationMark then some ([c], text)
    else if c < 0x20 then none
    else (scanString false text).map fun (token, rest) => (c :: token, rest)

/-- `JSON.parse` on a token that begins with a quotation mark, after that mark. -/
def parseToken (token : List Nat) : Option (List Nat) :=
  match readChars .plain token with
  | some (units, []) => some units
  | _ => none

/-- `parseString`, after the opening quotation mark. -/
def parseString (text : List Nat) : Parsed (List Nat) :=
  match scanString false text with
  | none => .error (.syntaxError "invalid JSON string")
  | some (token, rest) =>
    match parseToken token with
    | some units => .ok (units, rest)
    | none => .error (.syntaxError "")

/-- The double nearest to a natural number, ties to the even significand. What is at least the
greatest double plus half a step is infinite in the source and just as unsafe. -/
def nearestDouble (n : Nat) : Nat :=
  let step := 2 ^ (n.log2 - 52)
  let below := n / step
  if 2 * (n % step) < step ∨ 2 * (n % step) = step ∧ below % 2 = 0 then below * step
  else (below + 1) * step

/-- `Number(token)` for the token of an integer. -/
def numberOf (token : List Nat) : Int :=
  if token.head? = some minus then -(nearestDouble (natOfDigits token.tail) : Int)
  else nearestDouble (natOfDigits token)

/-- The part of `parseScalar` after the regular expression has matched. -/
def parseInteger (token rest : List Nat) : Parsed JsonValue :=
  if token = [minus, zero] ∨ decimalPoint ∈ token ∨ token.any isExponentMark then
    .error (.syntaxError "number is outside the exact integer profile")
  else if numberOf token < -maxSafe ∨ maxSafe < numberOf token then
    .error (.syntaxError "integer is outside the exact range")
  else .ok (.number (numberOf token), rest)

/-- `parseScalar` -/
def parseScalar (text : List Nat) : Parsed JsonValue :=
  match List.isPrefixOf? (codes "true".toList) text with
  | some rest => .ok (.boolean true, rest)
  | none =>
    match List.isPrefixOf? (codes "false".toList) text with
    | some rest => .ok (.boolean false, rest)
    | none =>
      match List.isPrefixOf? (codes "null".toList) text with
      | some rest => .ok (.null, rest)
      | none =>
        match Rfc8259.matchNumber text with
        | none => .error (.syntaxError "invalid JSON token")
        | some (n, rest) => parseInteger n.text rest

/-- `parseArray` with its loop, after the opening bracket. -/
def parseArray (loop : List Nat → Parsed (List JsonValue)) (text : List Nat) : Parsed JsonValue :=
  match skipWhitespace text with
  | endArray :: rest => .ok (.array [], rest)
  | text => (loop text).map fun (items, rest) => (.array items, rest)

/-- `parseObject` with its loop, after the opening brace. -/
def parseObject (loop : List Nat → Parsed (List (List Nat × JsonValue))) (text : List Nat) :
    Parsed JsonValue :=
  match skipWhitespace text with
  | endObject :: rest => .ok (.object [], rest)
  | text => (loop text).map fun (members, rest) => (.object members, rest)

mutual

/-- `parseValue` -/
def parseValue : Nat → Nat → List Nat → Parsed JsonValue
  | 0, _, _ => .error .outOfFuel
  | fuel + 1, depth, text =>
    if maxDepth < depth then .error (.syntaxError "JSON nesting exceeds 128")
    else
      match skipWhitespace text with
      | quotationMark :: text => (parseString text).map fun (units, rest) => (.string units, rest)
      | beginArray :: text => parseArray (parseItems fuel depth) text
      | beginObject :: text => parseObject (parseMembers fuel depth []) text
      | text => parseScalar text

/-- The loop of `parseArray`: the items that it still pushes. -/
def parseItems : Nat → Nat → List Nat → Parsed (List JsonValue)
  | 0, _, _ => .error .outOfFuel
  | fuel + 1, depth, text =>
    (parseValue fuel (depth + 1) text).bind fun (item, rest) =>
      match skipWhitespace rest with
      | endArray :: rest => .ok ([item], rest)
      | valueSeparator :: rest =>
        (parseItems fuel depth rest).map fun (items, rest) => (item :: items, rest)
      | _ => .error (.syntaxError "invalid JSON array")

/-- The loop of `parseObject`: the members that it still adds, with the names so far. -/
def parseMembers : Nat → Nat → List (List Nat) → List Nat → Parsed (List (List Nat × JsonValue))
  | 0, _, _, _ => .error .outOfFuel
  | fuel + 1, depth, names, text =>
    match skipWhitespace text with
    | quotationMark :: text =>
      (parseString text).bind fun (name, rest) =>
        if name ∈ names then .error (.syntaxError "duplicate object member")
        else
          match skipWhitespace rest with
          | nameSeparator :: rest =>
            (parseValue fuel (depth + 1) rest).bind fun (value, rest) =>
              match skipWhitespace rest with
              | endObject :: rest => .ok ([(name, value)], rest)
              | valueSeparator :: rest =>
                (parseMembers fuel depth (name :: names) rest).map fun (members, rest) =>
                  ((name, value) :: members, rest)
              | _ => .error (.syntaxError "invalid JSON object")
          | _ => .error (.syntaxError "object member requires a colon")
    | _ => .error (.syntaxError "object member must be a string")

end

/-- `parse` of the parser, with this much fuel. -/
def parseWith (fuel : Nat) (text : List Nat) : Except Thrown JsonValue :=
  if text.head? = some 0xfeff then .error (.syntaxError "UTF-8 BOM is not permitted")
  else
    (parseValue fuel 0 text).bind fun (decoded, rest) =>
      if skipWhitespace rest = [] then .ok decoded
      else .error (.syntaxError "trailing JSON content")

/-- `parseStrictJson` on the UTF-16 units of a text. -/
def parseStrictJson (text : List Nat) : Except Thrown JsonValue :=
  parseWith (2 * text.length + 2) text

end Ucf.Typescript
