import Ucf.Library.CodeUnits
import Ucf.Library.JsonOrder

/-! The canonical JSON writer of the Go adapter. It appends bytes, all of them ASCII, which are given
here as characters. -/

namespace Ucf.Go

/-- What an `any` can hold: a string is valid UTF-8, and a map has its members in any order. -/
inductive GoValue where
  | nil
  | bool (value : Bool)
  | int (value : Int)
  /-- `json.Number`: the text of the token. -/
  | number (token : List Char)
  | string (value : String)
  | slice (items : List GoValue)
  | map (members : List (String × GoValue))

/-- A number's digits, without its sign. -/
def digitsOf (token : List Char) : List Char :=
  if token.head? = some '-' then token.tail else token

/-- `integerPattern`: `^(?:0|-[1-9][0-9]*|[1-9][0-9]*)$` -/
def integerPattern (token : List Char) : Bool :=
  token = ['0'] ||
    ((digitsOf token).head?.any fun c => '1' ≤ c && c ≤ '9') && (digitsOf token).all Json.isDecimal

/-- `validSafeInteger` -/
def validSafeInteger (token : List Char) : Bool :=
  integerPattern token && token ≠ ['-', '0'] &&
    Json.natOfDigits (digitsOf token) ≤ 9007199254740991

/-- `appendUnicodeEscape` -/
def appendUnicodeEscape (destination : List Char) (value : Nat) : List Char :=
  destination ++ ['\\', 'u', hexChar (value / 0x1000 % 0x10), hexChar (value / 0x100 % 0x10),
    hexChar (value / 0x10 % 0x10), hexChar (value % 0x10)]

/-- The body of the loop of `appendJSONString`. -/
def appendCharacter (destination : List Char) (character : Char) : List Char :=
  let n := character.toNat
  if character = '"' ∨ character = '\\' then destination ++ ['\\', character]
  else if n = 8 then destination ++ ['\\', 'b']
  else if n = 12 then destination ++ ['\\', 'f']
  else if character = '\n' then destination ++ ['\\', 'n']
  else if character = '\r' then destination ++ ['\\', 'r']
  else if character = '\t' then destination ++ ['\\', 't']
  else if n < 0x20 then appendUnicodeEscape destination n
  else if n ≤ 0x7f then destination ++ [character]
  else if n ≤ 0xffff then appendUnicodeEscape destination n
  else
    appendUnicodeEscape
      (appendUnicodeEscape destination (0xd800 + (n - 0x10000) / 0x400))
      (0xdc00 + (n - 0x10000) % 0x400)

/-- `appendJSONString` -/
def appendJSONString (destination : List Char) (value : String) : List Char :=
  value.toList.foldl appendCharacter (destination ++ ['"']) ++ ['"']

/-- What writes one item. -/
abbrev Append := List Char → Option (List Char)

/-- The items after the first one of an array or an object. -/
def appendRest : List Append → Append
  | [], destination => some destination
  | item :: items, destination => do
    let destination ← item (destination ++ [','])
    appendRest items destination

/-- The loops over the items of an array and the members of an object: a comma comes before every
item whose index is not zero. -/
def appendEach : List Append → Append
  | [], destination => some destination
  | item :: items, destination => do
    let destination ← item destination
    appendRest items destination

mutual

/-- `appendCanonicalJSON` -/
def appendCanonicalJSON : GoValue → Append
  | .nil, destination => some (destination ++ ['n', 'u', 'l', 'l'])
  | .bool true, destination => some (destination ++ ['t', 'r', 'u', 'e'])
  | .bool false, destination => some (destination ++ ['f', 'a', 'l', 's', 'e'])
  | .int value, destination => some (destination ++ Json.writeInt value)
  | .number token, destination =>
    if validSafeInteger token then some (destination ++ token) else none
  | .string value, destination => some (appendJSONString destination value)
  | .slice items, destination => do
    let destination ← appendEach (appendItems items) (destination ++ ['['])
    return destination ++ [']']
  | .map members, destination => do
    -- `sort.Strings` compares the bytes of the names
    let sorted := sortedBy (fun member => utf8Units member.1) (appendMembers members)
    let destination ← appendEach (sorted.map Prod.snd) (destination ++ ['{'])
    return destination ++ ['}']

def appendItems : List GoValue → List Append
  | [] => []
  | item :: items => appendCanonicalJSON item :: appendItems items

/-- What writes each member, by its name. -/
def appendMembers : List (String × GoValue) → List (String × Append)
  | [] => []
  | (name, value) :: members =>
    (name, fun destination =>
      appendCanonicalJSON value (appendJSONString destination name ++ [':'])) ::
        appendMembers members

end

mutual

/-- The value that the adapter holds for a JSON value. An integer is an `int` where the adapter made
it and a `json.Number` where it decoded it. -/
def GoValue.ofJson (made : Int → Bool) : Json → GoValue
  | .null => .nil
  | .bool value => .bool value
  | .int n => if made n then .int n else .number (Json.writeInt n)
  | .float token => .number token.toList
  | .str value => .string value
  | .arr items => .slice (ofJsonItems made items)
  | .obj fields => .map (ofJsonFields made fields)

def GoValue.ofJsonItems (made : Int → Bool) : List Json → List GoValue
  | [] => []
  | item :: items => ofJson made item :: ofJsonItems made items

def GoValue.ofJsonFields (made : Int → Bool) : List (String × Json) → List (String × GoValue)
  | [] => []
  | (name, value) :: fields => (name, ofJson made value) :: ofJsonFields made fields

end

end Ucf.Go
