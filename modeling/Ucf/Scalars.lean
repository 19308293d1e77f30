import Ucf.Library.Schema

/-! The strings and numbers that documents are made of, each with the constraints that the models
put on it. -/

namespace Ucf

/-- A string in which `check` finds no error. -/
abbrev Checked (check : String → Option String) : Type := { s : String // check s = none }

/-- `StringConstraints(min_length, max_length, pattern)`: the type of the first error. -/
def stringConstraints (minLength : Nat) (maxLength : Option Nat) (isMatch : List Char → Bool)
    (s : String) : Option String :=
  let chars := s.toList
  if chars.length < minLength then some "string_too_short"
  else if maxLength.any fun limit => limit < chars.length then some "string_too_long"
  else if isMatch chars then none
  else some "string_pattern_mismatch"

/-- A field validator that runs after the constraints of the field's type. -/
def andThen (check : String → Option String) (isValid : List Char → Bool) (s : String) :
    Option String :=
  match check s with
  | some type => some type
  | none => if isValid s.toList then none else some "value_error"

/-! ### Character classes and patterns -/

def isLower (c : Char) : Bool := 'a' ≤ c && c ≤ 'z'

def isDigit (c : Char) : Bool := '0' ≤ c && c ≤ '9'

def isLowerAlnum (c : Char) : Bool := isLower c || isDigit c

/-- `\s`: the characters with the Unicode property White_Space. -/
def isSpace (c : Char) : Bool :=
  let n := c.toNat
  (9 ≤ n && n ≤ 13) || n = 0x20 || n = 0x85 || n = 0xa0 || n = 0x1680 ||
    (0x2000 ≤ n && n ≤ 0x200a) || n = 0x2028 || n = 0x2029 || n = 0x202f || n = 0x205f ||
    n = 0x3000

/-- `[a-z0-9]*(?:<separator>[a-z0-9]+)*`, where `pending` says that a letter or digit must follow. -/
def matchSegments (isSeparator : Char → Bool) (pending : Bool) : List Char → Bool
  | [] => !pending
  | c :: cs =>
    if isLowerAlnum c then matchSegments isSeparator false cs
    else !pending && isSeparator c && matchSegments isSeparator true cs

/-- `[a-z][a-z0-9]*(?:<separator>[a-z0-9]+)*` -/
def matchName (isSeparator : Char → Bool) : List Char → Bool
  | [] => false
  | c :: cs => isLower c && matchSegments isSeparator false cs

theorem matchSegments_append {isSeparator : Char → Bool} {cs ds : List Char}
    (h : cs.all isLowerAlnum = true) (hne : cs ≠ []) {pending : Bool} :
    matchSegments isSeparator pending (cs ++ ds) = matchSegments isSeparator false ds := by
  induction cs generalizing pending with
  | nil => exact absurd rfl hne
  | cons c cs ih =>
    rw [List.all_cons, Bool.and_eq_true] at h
    rw [List.cons_append, matchSegments, if_pos h.1]
    by_cases hcs : cs = []
    · rw [hcs, List.nil_append]
    · exact ih h.2 hcs

/-- The parts of a text between separators. -/
def splitOn (separator : Char) : List Char → List (List Char)
  | [] => [[]]
  | c :: cs =>
    match splitOn separator cs with
    | [] => [[]]
    | part :: parts => if c = separator then [] :: part :: parts else (c :: part) :: parts

/-- `0|[1-9][0-9]*` -/
def matchNumber (cs : List Char) : Bool :=
  cs ≠ [] && cs.all isDigit && (cs.length = 1 || cs.head? ≠ some '0')

/-- `(0|[1-9][0-9]*)\.(0|[1-9][0-9]*)\.(0|[1-9][0-9]*)` -/
def matchVersion (cs : List Char) : Bool :=
  let parts := splitOn '.' cs
  parts.length = 3 && parts.all matchNumber

/-- The characters after the last separator. -/
def afterLast (isSeparator : Char → Bool) (cs : List Char) : List Char :=
  (cs.reverse.takeWhile fun c => !isSeparator c).reverse

/-- `[a-z][a-z0-9+.-]*:[^\s]+` -/
def matchUri (cs : List Char) : Bool :=
  let scheme := cs.takeWhile fun c => c ≠ ':'
  let rest := (cs.dropWhile fun c => c ≠ ':').drop 1
  (scheme.head?.any isLower) && (scheme.all fun c => isLowerAlnum c || c ∈ ['+', '.', '-']) &&
    cs.length ≠ scheme.length && rest ≠ [] && rest.all fun c => !isSpace c

/-- `(?:[:/])<version>$` -/
def matchVersionedUri (cs : List Char) : Bool :=
  let isSeparator c := c = ':' || c = '/'
  cs.any isSeparator && matchVersion (afterLast isSeparator cs)

/-- `^(?:0|1|0\.[0-9]*[1-9])$` -/
def matchConfidence (cs : List Char) : Bool :=
  match cs with
  | ['0'] => true
  | ['1'] => true
  | '0' :: '.' :: digits =>
    digits.all isDigit && (digits.getLast?.any fun c => c ≠ '0')
  | _ => false

/-- `^(?:0|[1-9][0-9]*|-[1-9][0-9]*|-?(?:0|[1-9][0-9]*)\.[0-9]*[1-9])$` -/
def matchDecimal (cs : List Char) : Bool :=
  let unsigned := if cs.head? = some '-' then cs.drop 1 else cs
  match splitOn '.' unsigned with
  | [whole] => matchNumber whole && (cs.head? ≠ some '-' || whole ≠ ['0'])
  | [whole, fraction] =>
    matchNumber whole && fraction.all isDigit && fraction.getLast?.any fun c => c ≠ '0'
  | _ => false

/-- The number that decimal digits stand for. -/
def decimalValue (cs : List Char) : Nat :=
  cs.foldl (fun n c => 10 * n + (c.toNat - '0'.toNat)) 0

/-- `[0-9]{4}-[0-9]{2}-[0-9]{2}T[0-9]{2}:[0-9]{2}:[0-9]{2}Z` -/
def matchTimestamp (cs : List Char) : Bool :=
  match cs with
  | [y₁, y₂, y₃, y₄, '-', o₁, o₂, '-', d₁, d₂, 'T', h₁, h₂, ':', m₁, m₂, ':', s₁, s₂, 'Z'] =>
    [y₁, y₂, y₃, y₄, o₁, o₂, d₁, d₂, h₁, h₂, m₁, m₂, s₁, s₂].all isDigit
  | _ => false

/-- The number of days of a month. -/
def daysInMonth (year month : Nat) : Nat :=
  if month = 2 then
    if year % 4 = 0 && (year % 100 ≠ 0 || year % 400 = 0) then 29 else 28
  else if month ∈ [4, 6, 9, 11] then 30 else 31

/-- `datetime.strptime(value, "%Y-%m-%dT%H:%M:%SZ")` returns. -/
def isUtcTimestamp (cs : List Char) : Bool :=
  let number start count := decimalValue ((cs.drop start).take count)
  let year := number 0 4
  let month := number 5 2
  let day := number 8 2
  1 ≤ year && 1 ≤ month && month ≤ 12 && 1 ≤ day && day ≤ daysInMonth year month &&
    number 11 2 ≤ 23 && number 14 2 ≤ 59 && number 17 2 ≤ 59

/-! ### The string types -/

abbrev Identifier : Type :=
  Checked (stringConstraints 1 (some 255) (matchName fun c => c ∈ ['.', '_', '-']))

instance lawfulBEqIdentifier : LawfulBEq Identifier := inferInstance

/-- Semantic tokens have the constraints of identifiers. -/
abbrev SemanticToken : Type := Identifier

abbrev QualifiedName : Type :=
  Checked (stringConstraints 3 (some 255) fun cs =>
    let parts := splitOn '.' cs
    2 ≤ parts.length && parts.all (matchName fun c => c = '-'))

/-- The constraints of `URI`. -/
def uriConstraints : String → Option String := stringConstraints 3 (some 2048) matchUri

abbrev URI : Type := Checked uriConstraints

/-- A URI that must end in a version after `:` or `/`. -/
abbrev VersionedURI : Type := Checked (andThen uriConstraints matchVersionedUri)

/-- A URI whose last part after `:` must be a version. -/
abbrev ProcedureURI : Type :=
  Checked (andThen uriConstraints fun cs => matchVersion (afterLast (fun c => c = ':') cs))

abbrev NormalizedVersion : Type := Checked (stringConstraints 0 none matchVersion)

abbrev Timestamp : Type :=
  Checked (andThen (stringConstraints 0 none matchTimestamp) isUtcTimestamp)

abbrev CanonicalDecimal : Type := Checked (stringConstraints 0 none matchDecimal)

abbrev ConfidenceValue : Type := Checked (stringConstraints 0 (some 64) matchConfidence)

/-- `StringConstraints(min_length=1, max_length=255)` -/
abbrev ShortText : Type := Checked (stringConstraints 1 (some 255) fun _ => true)

/-- `StringConstraints(min_length=1, max_length=512)` -/
abbrev DecisionReason : Type := Checked (stringConstraints 1 (some 512) fun _ => true)

/-- `StringConstraints(min_length=1)` -/
abbrev NonEmptyText : Type := Checked (stringConstraints 1 none fun _ => true)

/-- `MAX_SAFE_INTEGER` -/
def maxSafeInteger : Nat := 9007199254740991

/-- `Annotated[SafeInteger, Field(ge=lower)]` -/
abbrev SafeNat (lower : Nat) : Type := { n : Nat // lower ≤ n ∧ n ≤ maxSafeInteger }

instance (lower : Nat) : Model (SafeNat lower) := ⟨.nat lower maxSafeInteger le_rfl, fun _ => nofun⟩

theorem zero_safe : 0 ≤ 0 ∧ 0 ≤ maxSafeInteger := by decide

theorem one_safe : 0 ≤ 1 ∧ 1 ≤ maxSafeInteger := by decide

theorem two_safe : 0 ≤ 2 ∧ 2 ≤ maxSafeInteger := by decide

/-- A safe integer from a number, or the error type of one out of bounds. -/
def SafeNat.ofNat (lower n : Nat) : Except (List Issue) (SafeNat lower) :=
  if h : lower ≤ n then
    if h' : n ≤ maxSafeInteger then .ok ⟨n, h, h'⟩ else .error [⟨"less_than_equal", []⟩]
  else .error [⟨"greater_than_equal", []⟩]

theorem SafeNat.ofNat_eq_ok {lower n : Nat} {m : SafeNat lower} :
    SafeNat.ofNat lower n = .ok m ↔ m.val = n := by
  obtain ⟨m, hlower, hupper⟩ := m
  unfold SafeNat.ofNat
  split
  · split
    · simp [eq_comm]
    · simp only [reduceCtorEq, false_iff]
      omega
  · simp only [reduceCtorEq, false_iff]
    omega

/-- A URI that passes a further check, as a URI. -/
def Checked.toUri {isValid : List Char → Bool} (uri : Checked (andThen uriConstraints isValid)) :
    URI :=
  ⟨uri.val, by
    have h := uri.property
    unfold andThen at h
    split at h
    · cases h
    · assumption⟩

/-- `SafeInteger` -/
abbrev SafeInteger : Type := { n : Int // Json.SafeInt n }

instance : Model SafeInteger := ⟨.safeInt, fun _ => nofun⟩

end Ucf
