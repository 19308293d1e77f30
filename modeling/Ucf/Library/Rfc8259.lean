import Mathlib.Data.List.Basic
import Ucf.Library.CodeUnits

/-! RFC 8259: the grammar of JSON texts over code points or code units, and a reader for it. The
strings of a document are UTF-16 code units, so that an escape may spell a lone surrogate. -/

namespace Ucf.Rfc8259

/-! ### Characters -/

@[match_pattern] abbrev quotationMark : Nat := 0x22
@[match_pattern] abbrev plus : Nat := 0x2b
@[match_pattern] abbrev valueSeparator : Nat := 0x2c
@[match_pattern] abbrev minus : Nat := 0x2d
@[match_pattern] abbrev decimalPoint : Nat := 0x2e
@[match_pattern] abbrev zero : Nat := 0x30
@[match_pattern] abbrev nameSeparator : Nat := 0x3a
@[match_pattern] abbrev beginArray : Nat := 0x5b
@[match_pattern] abbrev escape : Nat := 0x5c
@[match_pattern] abbrev endArray : Nat := 0x5d
@[match_pattern] abbrev beginObject : Nat := 0x7b
@[match_pattern] abbrev endObject : Nat := 0x7d

/-- The code points of a text. -/
def codes (text : List Char) : List Nat := text.map Char.toNat

def isSpace (c : Nat) : Bool := c = 0x20 || c = 0x09 || c = 0x0a || c = 0x0d

def isDigit (c : Nat) : Bool := 0x30 ≤ c && c ≤ 0x39

def isExponentMark (c : Nat) : Bool := c = 0x65 || c = 0x45

def hexValue? (c : Nat) : Option Nat :=
  if 0x30 ≤ c ∧ c ≤ 0x39 then some (c - 0x30)
  else if 0x61 ≤ c ∧ c ≤ 0x66 then some (c - 0x61 + 10)
  else if 0x41 ≤ c ∧ c ≤ 0x46 then some (c - 0x41 + 10)
  else none

/-- What the character after a reverse solidus stands for, `u` apart. -/
def shortEscape? (c : Nat) : Option Nat :=
  if c = 0x22 ∨ c = 0x5c ∨ c = 0x2f then some c
  else if c = 0x62 then some 0x08
  else if c = 0x66 then some 0x0c
  else if c = 0x6e then some 0x0a
  else if c = 0x72 then some 0x0d
  else if c = 0x74 then some 0x09
  else none

/-- The UTF-16 code units of a code point. A surrogate is its own unit. -/
def unitsOf (c : Nat) : List Nat :=
  if c < 0x10000 then [c]
  else [0xd800 + (c - 0x10000) / 0x400 % 0x400, 0xdc00 + (c - 0x10000) % 0x400]

/-- The UTF-16 code units of a text of code points. -/
def inUnits (text : List Nat) : List Nat := text.flatMap unitsOf

/-! ### Documents -/

/-- The parts of a number: the digits before the point, the point with its digits, and the exponent
with its mark. -/
structure Number where
  negative : Bool
  whole : List Nat
  fraction : List Nat
  exponent : List Nat
  deriving DecidableEq

/-- The sign in front of a number. -/
def signOf (negative : Bool) : List Nat := if negative then [minus] else []

/-- The token that writes a number. -/
def Number.text (n : Number) : List Nat :=
  signOf n.negative ++ (n.whole ++ (n.fraction ++ n.exponent))

/-- A token without its sign. -/
def unsigned (token : List Nat) : List Nat :=
  if token.head? = some minus then token.tail else token

def natOfDigits (digits : List Nat) : Nat := digits.foldl (fun n d => 10 * n + (d - zero)) 0

/-- `int` of the grammar. -/
def IsWhole (text : List Nat) : Prop :=
  text = [zero] ∨ ∃ c digits, text = c :: digits ∧ isDigit c ∧ c ≠ zero ∧ ∀ d ∈ digits, isDigit d

/-- `frac` of the grammar, which may be missing. -/
def IsFraction (text : List Nat) : Prop :=
  text = [] ∨ ∃ digits, text = decimalPoint :: digits ∧ digits ≠ [] ∧ ∀ d ∈ digits, isDigit d

/-- `exp` of the grammar, which may be missing. -/
def IsExponent (text : List Nat) : Prop :=
  text = [] ∨ ∃ mark sign digits, text = mark :: (sign ++ digits) ∧ isExponentMark mark ∧
    (sign = [] ∨ sign = [plus] ∨ sign = [minus]) ∧ digits ≠ [] ∧ ∀ d ∈ digits, isDigit d

structure Number.WellFormed (n : Number) : Prop where
  whole : IsWhole n.whole
  fraction : IsFraction n.fraction
  exponent : IsExponent n.exponent

/-- A JSON value as the grammar has it: the members of an object in their order, with the names that
occur twice, and numbers as they are written. -/
inductive Doc where
  | null
  | bool (value : Bool)
  | number (number : Number)
  | string (units : List Nat)
  | array (items : List Doc)
  | object (members : List (List Nat × Doc))

/-- Induction over a document. -/
@[elab_as_elim]
theorem Doc.induction {motive : Doc → Prop} (null : motive .null) (bool : ∀ b, motive (.bool b))
    (number : ∀ n, motive (.number n)) (string : ∀ units, motive (.string units))
    (array : ∀ items, (∀ item ∈ items, motive item) → motive (.array items))
    (object : ∀ members, (∀ member ∈ members, motive member.2) → motive (.object members)) :
    ∀ doc, motive doc := by
  intro doc
  refine @Doc.rec motive (fun items => ∀ item ∈ items, motive item)
    (fun members => ∀ member ∈ members, motive member.2) (fun member => motive member.2)
    null bool number string array object ?_ ?_ ?_ ?_ ?_ doc
  · simp
  · intro head tail hhead htail
    simpa using ⟨hhead, htail⟩
  · simp
  · intro head tail hhead htail member hmember
    rcases List.mem_cons.mp hmember with rfl | hmember
    · exact hhead
    · exact htail member hmember
  · exact fun _ _ h => h

/-- The first document occurs in the second one, so many levels deep. -/
inductive Occurs : Nat → Doc → Doc → Prop
  | here (doc : Doc) : Occurs 0 doc doc
  | item {depth : Nat} {doc item : Doc} {items : List Doc} : item ∈ items →
      Occurs depth doc item → Occurs (depth + 1) doc (.array items)
  | member {depth : Nat} {doc : Doc} {member : List Nat × Doc} {members : List (List Nat × Doc)} :
      member ∈ members → Occurs depth doc member.2 → Occurs (depth + 1) doc (.object members)

mutual

/-- The numbers of the document are numbers of the grammar and its strings are units. -/
def Doc.WellFormed : Doc → Prop
  | .number n => n.WellFormed
  | .string units => ∀ unit ∈ units, unit < 0x10000
  | .array items => ItemsWellFormed items
  | .object members => MembersWellFormed members
  | _ => True

def ItemsWellFormed : List Doc → Prop
  | [] => True
  | item :: items => item.WellFormed ∧ ItemsWellFormed items

def MembersWellFormed : List (List Nat × Doc) → Prop
  | [] => True
  | (name, value) :: members =>
    (∀ unit ∈ name, unit < 0x10000) ∧ value.WellFormed ∧ MembersWellFormed members

end

/-! ### The grammar -/

/-- `chars` are the characters between the quotation marks of a string that has these units. -/
inductive Chars : List Nat → List Nat → Prop
  | nil : Chars [] []
  | unescaped {c : Nat} {chars units : List Nat} :
      0x20 ≤ c → c ≠ quotationMark → c ≠ escape → Chars chars units →
      Chars (c :: chars) (unitsOf c ++ units)
  | short {c unit : Nat} {chars units : List Nat} :
      shortEscape? c = some unit → Chars chars units →
      Chars (escape :: c :: chars) (unit :: units)
  | unit {a b c d x y z w : Nat} {chars units : List Nat} :
      hexValue? a = some x → hexValue? b = some y → hexValue? c = some z → hexValue? d = some w →
      Chars chars units →
      Chars (escape :: 0x75 :: a :: b :: c :: d :: chars)
        ((16 * (16 * (16 * x + y) + z) + w) :: units)

/-- Whitespace, which may be missing. -/
def Space (text : List Nat) : Prop := ∀ c ∈ text, isSpace c

mutual

/-- `value` of the grammar. -/
inductive Value : List Nat → Doc → Prop
  | null : Value [0x6e, 0x75, 0x6c, 0x6c] .null
  | true : Value [0x74, 0x72, 0x75, 0x65] (.bool true)
  | false : Value [0x66, 0x61, 0x6c, 0x73, 0x65] (.bool false)
  | number {n : Number} : n.WellFormed → Value n.text (.number n)
  | string {chars units : List Nat} : Chars chars units →
      Value (quotationMark :: (chars ++ [quotationMark])) (.string units)
  | emptyArray {space : List Nat} : Space space → Value (beginArray :: (space ++ [endArray]))
      (.array [])
  | array {text : List Nat} {items : List Doc} : Items text items →
      Value (beginArray :: (text ++ [endArray])) (.array items)
  | emptyObject {space : List Nat} : Space space → Value (beginObject :: (space ++ [endObject]))
      (.object [])
  | object {text : List Nat} {members : List (List Nat × Doc)} : Members text members →
      Value (beginObject :: (text ++ [endObject])) (.object members)

/-- A value with the whitespace around it. -/
inductive Element : List Nat → Doc → Prop
  | mk {before text after : List Nat} {doc : Doc} : Space before → Value text doc → Space after →
      Element (before ++ (text ++ after)) doc

/-- The items of an array that is not empty. -/
inductive Items : List Nat → List Doc → Prop
  | one {text : List Nat} {doc : Doc} : Element text doc → Items text [doc]
  | cons {text rest : List Nat} {doc : Doc} {items : List Doc} : Element text doc →
      Items rest items → Items (text ++ valueSeparator :: rest) (doc :: items)

/-- A member of an object with the whitespace around it. -/
inductive Member : List Nat → List Nat × Doc → Prop
  | mk {before chars units after text : List Nat} {doc : Doc} : Space before → Chars chars units →
      Space after → Element text doc →
      Member (before ++ quotationMark ::
        (chars ++ quotationMark :: (after ++ nameSeparator :: text))) (units, doc)

/-- The members of an object that is not empty. -/
inductive Members : List Nat → List (List Nat × Doc) → Prop
  | one {text : List Nat} {member : List Nat × Doc} : Member text member → Members text [member]
  | cons {text rest : List Nat} {member : List Nat × Doc} {members : List (List Nat × Doc)} :
      Member text member → Members rest members →
      Members (text ++ valueSeparator :: rest) (member :: members)

end

/-! ### The reader -/

def skipSpace (text : List Nat) : List Nat := text.dropWhile isSpace

/-- `-?(?:0|[1-9][0-9]*)` after the sign. -/
def matchWhole : List Nat → Option (List Nat × List Nat)
  | [] => none
  | c :: text =>
    if c = zero then some ([zero], text)
    else if isDigit c then some (c :: text.takeWhile isDigit, text.dropWhile isDigit)
    else none

/-- `[0-9]+` -/
def matchDigits (text : List Nat) : Option (List Nat × List Nat) :=
  if text.takeWhile isDigit = [] then none
  else some (text.takeWhile isDigit, text.dropWhile isDigit)

/-- `(\.[0-9]+)?` -/
def matchFraction (text : List Nat) : List Nat × List Nat :=
  match text with
  | decimalPoint :: rest =>
    match matchDigits rest with
    | some (digits, rest) => (decimalPoint :: digits, rest)
    | none => ([], text)
  | _ => ([], text)

/-- `[-+]?` -/
def matchSign (text : List Nat) : List Nat × List Nat :=
  match text with
  | c :: rest => if c = plus ∨ c = minus then ([c], rest) else ([], text)
  | [] => ([], text)

/-- `([eE][-+]?[0-9]+)?` -/
def matchExponent (text : List Nat) : List Nat × List Nat :=
  match text with
  | mark :: rest =>
    if isExponentMark mark then
      match matchDigits (matchSign rest).2 with
      | some (digits, after) => (mark :: ((matchSign rest).1 ++ digits), after)
      | none => ([], text)
    else ([], text)
  | [] => ([], text)

/-- The longest number at the beginning of a text, and what follows it. -/
def matchNumber (text : List Nat) : Option (Number × List Nat) :=
  let negative := text.head? = some minus
  (matchWhole (if negative then text.tail else text)).map fun (whole, rest) =>
    let (fraction, rest) := matchFraction rest
    let (exponent, rest) := matchExponent rest
    ({ negative, whole, fraction, exponent }, rest)

/-- How far the reading of a string has come: between characters, after a reverse solidus, or in
a hexadecimal number with `left` more digits to come after the next. -/
inductive CharState where
  | plain
  | escaped
  | unit (left value : Nat)

/-- Reads the characters of a string up to and with its closing quotation mark. -/
def readChars : CharState → List Nat → Option (List Nat × List Nat)
  | _, [] => none
  | .plain, c :: text =>
    if c = quotationMark then some ([], text)
    else if c = escape then readChars .escaped text
    else if c < 0x20 then none
    else (readChars .plain text).map fun (units, rest) => (unitsOf c ++ units, rest)
  | .escaped, c :: text =>
    if c = 0x75 then readChars (.unit 3 0) text
    else (shortEscape? c).bind fun unit =>
      (readChars .plain text).map fun (units, rest) => (unit :: units, rest)
  | .unit left value, c :: text =>
    (hexValue? c).bind fun digit =>
      match left with
      | 0 => (readChars .plain text).map fun (units, rest) => ((16 * value + digit) :: units, rest)
      | left + 1 => readChars (.unit left (16 * value + digit)) text

/-- Reads a literal name or a number. -/
def readScalar (text : List Nat) : Option (Doc × List Nat) :=
  match List.isPrefixOf? [0x74, 0x72, 0x75, 0x65] text with
  | some rest => some (.bool true, rest)
  | none =>
    match List.isPrefixOf? [0x66, 0x61, 0x6c, 0x73, 0x65] text with
    | some rest => some (.bool false, rest)
    | none =>
      match List.isPrefixOf? [0x6e, 0x75, 0x6c, 0x6c] text with
      | some rest => some (.null, rest)
      | none => (matchNumber text).map fun (n, rest) => (.number n, rest)

mutual

/-- Reads the value at the beginning of a text. -/
def readValue : Nat → List Nat → Option (Doc × List Nat)
  | 0, _ => none
  | fuel + 1, text =>
    match text with
    | quotationMark :: rest =>
      (readChars .plain rest).map fun (units, rest) => (.string units, rest)
    | beginArray :: rest =>
      match skipSpace rest with
      | endArray :: rest => some (.array [], rest)
      | rest => (readItems fuel rest).map fun (items, rest) => (.array items, rest)
    | beginObject :: rest =>
      match skipSpace rest with
      | endObject :: rest => some (.object [], rest)
      | rest => (readMembers fuel rest).map fun (members, rest) => (.object members, rest)
    | _ => readScalar text

/-- Reads the items of an array up to and with its end. -/
def readItems : Nat → List Nat → Option (List Doc × List Nat)
  | 0, _ => none
  | fuel + 1, text =>
    (readValue fuel (skipSpace text)).bind fun (item, rest) =>
      match skipSpace rest with
      | endArray :: rest => some ([item], rest)
      | valueSeparator :: rest =>
        (readItems fuel rest).map fun (items, rest) => (item :: items, rest)
      | _ => none

/-- Reads the members of an object up to and with its end. -/
def readMembers : Nat → List Nat → Option (List (List Nat × Doc) × List Nat)
  | 0, _ => none
  | fuel + 1, text =>
    match skipSpace text with
    | quotationMark :: rest =>
      (readChars .plain rest).bind fun (name, rest) =>
        match skipSpace rest with
        | nameSeparator :: rest =>
          (readValue fuel (skipSpace rest)).bind fun (value, rest) =>
            match skipSpace rest with
            | endObject :: rest => some ([(name, value)], rest)
            | valueSeparator :: rest =>
              (readMembers fuel rest).map fun (members, rest) => ((name, value) :: members, rest)
            | _ => none
        | _ => none
    | _ => none

end

/-- Reads a whole text: a value with whitespace around it. -/
def readWith (fuel : Nat) (text : List Nat) : Option Doc :=
  (readValue fuel (skipSpace text)).bind fun (doc, rest) =>
    if skipSpace rest = [] then some doc else none

def read (text : List Nat) : Option Doc := readWith (text.length + 1) text

end Ucf.Rfc8259
