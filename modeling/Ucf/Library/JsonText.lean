import Mathlib.Data.Nat.Digits.Defs
import Ucf.Library.Hex
import Ucf.Library.Schema

/-! JSON as text: the writer with `ensure_ascii=True` and the separators `,` and `:`, and the strict
reader, which refuses repeated members, constants such as `NaN`, and integers that are not exact
everywhere. -/

namespace Ucf

namespace Json

/-! ### Writing -/

/-- One character inside a string literal. -/
def escapeChar (c : Char) : List Char :=
  let n := c.toNat
  if c = '"' then ['\\', '"']
  else if c = '\\' then ['\\', '\\']
  else if c = '\n' then ['\\', 'n']
  else if c = '\r' then ['\\', 'r']
  else if c = '\t' then ['\\', 't']
  else if n = 8 then ['\\', 'b']
  else if n = 12 then ['\\', 'f']
  else if 0x20 ≤ n ∧ n ≤ 0x7e then [c]
  else if n ≤ 0xffff then '\\' :: 'u' :: hexChars 4 n
  else
    '\\' :: 'u' :: hexChars 4 (0xd800 + (n - 0x10000) / 0x400) ++
      '\\' :: 'u' :: hexChars 4 (0xdc00 + (n - 0x10000) % 0x400)

/-- A string literal. -/
def writeString (s : String) : List Char := '"' :: s.toList.flatMap escapeChar ++ ['"']

/-- The decimal digits of a number. -/
def writeNat (n : Nat) : List Char :=
  if n = 0 then ['0'] else (Nat.digits 10 n).reverse.map fun d => Char.ofNat (48 + d)

def writeInt : Int → List Char
  | .ofNat n => writeNat n
  | .negSucc n => '-' :: writeNat (n + 1)

mutual

/-- `json.dumps(value, ensure_ascii=True, allow_nan=False, separators=(",", ":"))` -/
def write : Json → List Char
  | .null => ['n', 'u', 'l', 'l']
  | .bool true => ['t', 'r', 'u', 'e']
  | .bool false => ['f', 'a', 'l', 's', 'e']
  | .int n => writeInt n
  | .float token => token.toList
  | .str s => writeString s
  | .arr items => '[' :: writeItems items ++ [']']
  | .obj fields => '{' :: writeFields fields ++ ['}']

def writeItems : List Json → List Char
  | [] => []
  | [item] => write item
  | item :: items => write item ++ ',' :: writeItems items

def writeFields : List (String × Json) → List Char
  | [] => []
  | [(name, value)] => writeString name ++ ':' :: write value
  | (name, value) :: fields => writeString name ++ ':' :: write value ++ ',' :: writeFields fields

end

/-- `json.dumps(value, ..., sort_keys=True) + "\n"` -/
def canonicalLine (j : Json) : List Char := j.canonical.write ++ ['\n']

/-! ### Reading -/

/-- Why a text is not accepted. -/
inductive ReadError where
  | duplicateMember (name : String)
  | nonFiniteNumber (token : String)
  | nonCanonicalInteger (token : String)
  | unsafeInteger
  | loneSurrogate
  | malformed
deriving DecidableEq, Repr

/-- Skip spaces, tabs and line breaks. -/
def skipSpace : List Char → List Char
  | [] => []
  | c :: cs => if c = ' ' ∨ c = '\t' ∨ c = '\n' ∨ c = '\r' then skipSpace cs else c :: cs

/-- The number written by four hexadecimal digits of either case. -/
def hexNumber4? (a b c d : Char) : Option Nat :=
  hexNumber? ([a, b, c, d].map Char.toLower)

/-- The character with a code point that is not a surrogate. -/
def charOfCodePoint (n : Nat) : Except ReadError Char :=
  if 0xd800 ≤ n ∧ n ≤ 0xdfff then .error .loneSurrogate else .ok (Char.ofNat n)

/-- The rest of a string literal after its opening quote. -/
def readString : List Char → Except ReadError (List Char × List Char)
  | [] => .error .malformed
  | '"' :: rest => .ok ([], rest)
  | '\\' :: 'u' :: a :: b :: c :: d :: '\\' :: 'u' :: a' :: b' :: c' :: d' :: rest =>
    match hexNumber4? a b c d, hexNumber4? a' b' c' d' with
    | some high, some low =>
      if 0xd800 ≤ high ∧ high ≤ 0xdbff ∧ 0xdc00 ≤ low ∧ low ≤ 0xdfff then do
        let (cs, rest) ← readString rest
        .ok (Char.ofNat (0x10000 + (high - 0xd800) * 0x400 + (low - 0xdc00)) :: cs, rest)
      else do
        let char ← charOfCodePoint high
        let (cs, rest) ← readString ('\\' :: 'u' :: a' :: b' :: c' :: d' :: rest)
        .ok (char :: cs, rest)
    | some high, none => do
      let char ← charOfCodePoint high
      let (cs, rest) ← readString ('\\' :: 'u' :: a' :: b' :: c' :: d' :: rest)
      .ok (char :: cs, rest)
    | none, _ => .error .malformed
  | '\\' :: 'u' :: a :: b :: c :: d :: rest =>
    match hexNumber4? a b c d with
    | some n => do
      let char ← charOfCodePoint n
      let (cs, rest) ← readString rest
      .ok (char :: cs, rest)
    | none => .error .malformed
  | '\\' :: c :: rest =>
    match [('"', '"'), ('\\', '\\'), ('/', '/'), ('b', Char.ofNat 8), ('f', Char.ofNat 12),
      ('n', '\n'), ('r', '\r'), ('t', '\t')].lookup c with
    | some char => do
      let (cs, rest) ← readString rest
      .ok (char :: cs, rest)
    | none => .error .malformed
  | c :: rest =>
    if c.toNat < 0x20 ∨ c = '\\' then .error .malformed
    else do
      let (cs, rest) ← readString rest
      .ok (c :: cs, rest)

def isDecimal (c : Char) : Bool := '0' ≤ c && c ≤ '9'

/-- The number that decimal digits write. -/
def natOfDigits (cs : List Char) : Nat := cs.foldl (fun n c => 10 * n + (c.toNat - 48)) 0

/-- `_parse_integer` -/
def parseInteger (negative : Bool) (digits : List Char) : Except ReadError Json :=
  if negative ∧ digits = ['0'] then .error (.nonCanonicalInteger "-0")
  else if digits.length > 16 then .error .unsafeInteger
  else
    let value : Int := if negative then -(natOfDigits digits : Int) else natOfDigits digits
    if SafeInt value then .ok (.int value) else .error .unsafeInteger

/-- `(\.\d+)?` -/
def readFraction : List Char → List Char × List Char
  | '.' :: cs =>
    match cs.takeWhile isDecimal with
    | [] => ([], '.' :: cs)
    | digits => ('.' :: digits, cs.dropWhile isDecimal)
  | cs => ([], cs)

/-- `([eE][-+]?\d+)?` -/
def readExponent : List Char → List Char × List Char
  | e :: cs =>
    if e = 'e' ∨ e = 'E' then
      let sign := cs.takeWhile fun c => c = '-' || c = '+'
      let cs' := cs.drop sign.length
      let digits := cs'.takeWhile isDecimal
      if sign.length ≤ 1 ∧ digits ≠ [] then (e :: sign ++ digits, cs'.dropWhile isDecimal)
      else ([], e :: cs)
    else ([], e :: cs)
  | [] => ([], [])

/-- A number whose sign has been read. -/
def readNumber (negative : Bool) (cs : List Char) : Except ReadError (Json × List Char) :=
  match cs with
  | [] => .error .malformed
  | c :: rest =>
    if isDecimal c then do
      let digits := if c = '0' then ['0'] else c :: rest.takeWhile isDecimal
      let rest := if c = '0' then rest else rest.dropWhile isDecimal
      let (fraction, rest) := readFraction rest
      let (exponent, rest) := readExponent rest
      if fraction = [] ∧ exponent = [] then
        let value ← parseInteger negative digits
        .ok (value, rest)
      else
        let sign := if negative then ['-'] else []
        .ok (.float (String.ofList (sign ++ digits ++ fraction ++ exponent)), rest)
    else .error .malformed

/-- `_unique_object` -/
def uniqueObject (fields : List (String × Json)) : Except ReadError Json :=
  match fields.zipIdx.find? fun p => p.1.1 ∈ (fields.take p.2).map Prod.fst with
  | some p => .error (.duplicateMember p.1.1)
  | none => .ok (.obj fields)

mutual

/-- One value at the start of a text. The first argument bounds the nesting and the length of
what is read; the length of the text is enough. -/
def readValue : Nat → List Char → Except ReadError (Json × List Char)
  | 0, _ => .error .malformed
  | fuel + 1, cs =>
    match cs with
    | '"' :: cs => do
      let (s, rest) ← readString cs
      .ok (.str (String.ofList s), rest)
    | '{' :: cs =>
      match skipSpace cs with
      | '}' :: rest => .ok (.obj [], rest)
      | cs => do
        let (fields, rest) ← readMembers fuel cs
        let value ← uniqueObject fields
        .ok (value, rest)
    | '[' :: cs =>
      match skipSpace cs with
      | ']' :: rest => .ok (.arr [], rest)
      | cs => do
        let (items, rest) ← readElements fuel cs
        .ok (.arr items, rest)
    | 'n' :: 'u' :: 'l' :: 'l' :: rest => .ok (.null, rest)
    | 't' :: 'r' :: 'u' :: 'e' :: rest => .ok (.bool true, rest)
    | 'f' :: 'a' :: 'l' :: 's' :: 'e' :: rest => .ok (.bool false, rest)
    | 'N' :: 'a' :: 'N' :: _ => .error (.nonFiniteNumber "NaN")
    | 'I' :: 'n' :: 'f' :: 'i' :: 'n' :: 'i' :: 't' :: 'y' :: _ =>
      .error (.nonFiniteNumber "Infinity")
    | '-' :: 'I' :: 'n' :: 'f' :: 'i' :: 'n' :: 'i' :: 't' :: 'y' :: _ =>
      .error (.nonFiniteNumber "-Infinity")
    | '-' :: cs => readNumber true cs
    | cs => readNumber false cs

/-- The elements of an array after its opening bracket. -/
def readElements : Nat → List Char → Except ReadError (List Json × List Char)
  | 0, _ => .error .malformed
  | fuel + 1, cs => do
    let (item, rest) ← readValue fuel cs
    match skipSpace rest with
    | ']' :: rest => .ok ([item], rest)
    | ',' :: rest =>
      let (items, rest) ← readElements fuel (skipSpace rest)
      .ok (item :: items, rest)
    | _ => .error .malformed

/-- The members of an object after its opening brace. -/
def readMembers : Nat → List Char → Except ReadError (List (String × Json) × List Char)
  | 0, _ => .error .malformed
  | fuel + 1, cs =>
    match cs with
    | '"' :: cs => do
      let (name, rest) ← readString cs
      match skipSpace rest with
      | ':' :: rest =>
        let (value, rest) ← readValue fuel (skipSpace rest)
        match skipSpace rest with
        | '}' :: rest => .ok ([(String.ofList name, value)], rest)
        | ',' :: rest =>
          let (fields, rest) ← readMembers fuel (skipSpace rest)
          .ok ((String.ofList name, value) :: fields, rest)
        | _ => .error .malformed
      | _ => .error .malformed
    | _ => .error .malformed

end

/-- `json.loads` with the hooks of the strict profile. -/
def loads (text : List Char) : Except ReadError Json := do
  let (value, rest) ← readValue (2 * text.length + 2) (skipSpace text)
  if skipSpace rest = [] then .ok value else .error .malformed

end Json

end Ucf
