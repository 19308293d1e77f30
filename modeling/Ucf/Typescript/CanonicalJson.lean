import Ucf.Library.CodeUnits
import Ucf.Library.JsonOrder

/-! The canonical JSON writer of the TypeScript adapter. Its strings are sequences of UTF-16 code
units; the text that it gives is ASCII. -/

namespace Ucf.Typescript

/-- A number, as far as the writer tells them apart. -/
inductive JsNumber where
  | integer (value : Int)
  | negativeZero
  /-- A fraction, an infinity or not a number. -/
  | other

/-- `JsonValue`. The members of an object stand in the order of `Object.keys`. -/
inductive JsValue where
  | null
  | boolean (value : Bool)
  | number (value : JsNumber)
  | string (units : List Nat)
  | array (items : List JsValue)
  | object (members : List (List Nat × JsValue))

/-- The body of the loop of `encodeString`, for one code unit. -/
def encodeUnit (code : Nat) : List Char :=
  if code = 0x08 then ['\\', 'b']
  else if code = 0x09 then ['\\', 't']
  else if code = 0x0a then ['\\', 'n']
  else if code = 0x0c then ['\\', 'f']
  else if code = 0x0d then ['\\', 'r']
  else if code = 0x22 then ['\\', '"']
  else if code = 0x5c then ['\\', '\\']
  else if code < 0x20 ∨ code > 0x7e then '\\' :: 'u' :: hexChars 4 code
  else [Char.ofNat code]

/-- `encodeString` -/
def encodeString (units : List Nat) : List Char := '"' :: units.flatMap encodeUnit ++ ['"']

/-- `parts.join(",")` -/
def join (parts : List (List Char)) : List Char := List.intercalate [','] parts

mutual

/-- `encode`; it throws for a number that is not an exact integer. -/
def encode : JsValue → Option (List Char)
  | .null => some ['n', 'u', 'l', 'l']
  | .boolean true => some ['t', 'r', 'u', 'e']
  | .boolean false => some ['f', 'a', 'l', 's', 'e']
  | .number (.integer n) => if Json.SafeInt n then some (Json.writeInt n) else none
  | .number _ => none
  | .string units => some (encodeString units)
  | .array items => do
    let parts ← encodeItems items
    return '[' :: join parts ++ [']']
  | .object members => do
    let parts ← encodeMembers members
    -- `sort()` compares the code units of the names
    return '{' :: join ((sortedBy Prod.fst parts).map Prod.snd) ++ ['}']

def encodeItems : List JsValue → Option (List (List Char))
  | [] => some []
  | item :: items => do
    let part ← encode item
    let parts ← encodeItems items
    return part :: parts

/-- The text of each member, by its name. -/
def encodeMembers : List (List Nat × JsValue) → Option (List (List Nat × List Char))
  | [] => some []
  | (name, value) :: members => do
    let part ← encode value
    let parts ← encodeMembers members
    return (name, encodeString name ++ ':' :: part) :: parts

end

/-- `canonicalJson` -/
def canonicalJson (value : JsValue) : Option (List Char) := do
  let encoded ← encode value
  return encoded ++ ['\n']

mutual

/-- The value that the adapter holds for a JSON value. -/
def JsValue.ofJson : Json → JsValue
  | .null => .null
  | .bool value => .boolean value
  | .int n => .number (.integer n)
  | .float _ => .number .other
  | .str value => .string (utf16Units value)
  | .arr items => .array (ofJsonItems items)
  | .obj fields => .object (ofJsonFields fields)

def JsValue.ofJsonItems : List Json → List JsValue
  | [] => []
  | item :: items => ofJson item :: ofJsonItems items

def JsValue.ofJsonFields : List (String × Json) → List (List Nat × JsValue)
  | [] => []
  | (name, value) :: fields => (utf16Units name, ofJson value) :: ofJsonFields fields

end

end Ucf.Typescript
