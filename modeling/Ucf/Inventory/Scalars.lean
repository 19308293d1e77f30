import Mathlib.Data.Prod.Lex
import Ucf.Digests

/-! The strings of inventory documents: repository paths that name the same file everywhere, and
the identifiers of records. -/

namespace Ucf

/-- `unicodedata.normalize("NFC", value)`. The model takes Unicode normalization as a parameter. -/
class Unicodedata where
  normalizeNfc : String → String

/-- `_WINDOWS_RESERVED_BASENAMES` -/
def windowsReservedBasenames : List String :=
  ["AUX", "CON", "NUL", "PRN", "COM1", "COM2", "COM3", "COM4", "COM5", "COM6", "COM7", "COM8",
    "COM9", "LPT1", "LPT2", "LPT3", "LPT4", "LPT5", "LPT6", "LPT7", "LPT8", "LPT9"]

/-- `_validate_portable_path_segment`. Upper-casing outside ASCII cannot give a reserved name. -/
def isPortablePathSegment (cs : List Char) : Bool :=
  cs.length ≤ 255 && ':' ∉ cs && (cs.all fun c => c ∉ ['<', '>', '"', '|', '?', '*']) &&
    cs.getLast? ≠ some ' ' && cs.getLast? ≠ some '.' &&
    (cs.all fun c => 32 ≤ c.toNat && c.toNat ≠ 127) &&
    String.ofList ((cs.takeWhile fun c => c ≠ '.').map Char.toUpper) ∉ windowsReservedBasenames

/-- `PurePosixPath(value).parts` of a relative path -/
def posixParts (cs : List Char) : List (List Char) :=
  (splitOn '/' cs).filter fun part => part ≠ [] && part ≠ ['.']

/-- `str(PurePosixPath(value))` of a relative path -/
def posixString (cs : List Char) : List Char :=
  match posixParts cs with
  | [] => ['.']
  | parts => ['/'].intercalate parts

/-- Two slashes in a row. -/
def hasDoubleSlash : List Char → Bool
  | '/' :: '/' :: _ => true
  | _ :: cs => hasDoubleSlash cs
  | [] => false

/-- `validate_repository_path` -/
def isRepositoryPath [Unicodedata] (s : String) : Bool :=
  let cs := s.toList
  cs ≠ [] && cs.head? ≠ some '/' && '\\' ∉ cs && Char.ofNat 0 ∉ cs && !hasDoubleSlash cs &&
    Unicodedata.normalizeNfc s = s &&
    (cs = ['.'] ||
      ((posixParts cs).all fun part => part ≠ ['.', '.']) && posixString cs = cs &&
        (posixParts cs).all isPortablePathSegment)

/-- `validate_path_segment` -/
def isPathSegment [Unicodedata] (s : String) : Bool :=
  let cs := s.toList
  cs ≠ [] && cs ≠ ['.'] && cs ≠ ['.', '.'] && '/' ∉ cs && '\\' ∉ cs && Char.ofNat 0 ∉ cs &&
    Unicodedata.normalizeNfc s = s && isPortablePathSegment cs

/-- A field validator on the string itself. -/
def andThenString (check : String → Option String) (isValid : String → Bool) (s : String) :
    Option String :=
  match check s with
  | some type => some type
  | none => if isValid s then none else some "value_error"

abbrev RepositoryPath [Unicodedata] : Type :=
  Checked (andThenString (stringConstraints 1 (some 1024) fun _ => true) isRepositoryPath)

abbrev PathSegment [Unicodedata] : Type :=
  Checked (andThenString (stringConstraints 1 (some 255) fun _ => true) isPathSegment)

/-- A path other than the repository root. -/
abbrev PrefixPath [Unicodedata] : Type :=
  Checked (andThenString (andThenString (stringConstraints 1 (some 1024) fun _ => true)
    isRepositoryPath) fun s => s ≠ ".")

abbrev InventorySubjectURI : Type :=
  Checked (andThen uriConstraints fun cs => (cs.takeWhile fun c => c ≠ ':') ≠ "file".toList)

/-! ### Record identifiers -/

/-- `_RECORD_PREFIX_BY_KIND`, in the order of the prefixes. -/
inductive RecordPrefix where
  | api
  | diagnostic
  | entry
  | ignore
  | interface
  | manifest
  | provenance
  | test
deriving DecidableEq, Repr

namespace RecordPrefix

def value : RecordPrefix → String
  | api => "api"
  | diagnostic => "diagnostic"
  | entry => "entry"
  | ignore => "ignore"
  | interface => "interface"
  | manifest => "manifest"
  | provenance => "provenance"
  | test => "test"

def all : List RecordPrefix :=
  [api, diagnostic, entry, ignore, interface, manifest, provenance, test]

theorem mem_all (p : RecordPrefix) : p ∈ all := by
  cases p <;> decide

/-- The position of a prefix in their order as strings. -/
def rank : RecordPrefix → Nat
  | api => 0
  | diagnostic => 1
  | entry => 2
  | ignore => 3
  | interface => 4
  | manifest => 5
  | provenance => 6
  | test => 7

theorem rank_injective : Function.Injective rank := by
  intro p q
  cases p <;> cases q <;> decide

instance : LinearOrder RecordPrefix := LinearOrder.lift' rank rank_injective

/-- The characters of the prefix and the dot after it. -/
def chars : RecordPrefix → List Char
  | api => ['a', 'p', 'i', '.']
  | diagnostic => ['d', 'i', 'a', 'g', 'n', 'o', 's', 't', 'i', 'c', '.']
  | entry => ['e', 'n', 't', 'r', 'y', '.']
  | ignore => ['i', 'g', 'n', 'o', 'r', 'e', '.']
  | interface => ['i', 'n', 't', 'e', 'r', 'f', 'a', 'c', 'e', '.']
  | manifest => ['m', 'a', 'n', 'i', 'f', 'e', 's', 't', '.']
  | provenance => ['p', 'r', 'o', 'v', 'e', 'n', 'a', 'n', 'c', 'e', '.']
  | test => ['t', 'e', 's', 't', '.']

theorem eq_of_chars_prefix {p q : RecordPrefix} (h : p.chars <+: q.chars) : p = q := by
  revert h
  cases p <;> cases q <;> decide

end RecordPrefix

/-- The identifier of an inventory record, ordered as its text is. -/
@[ext] structure InventoryRecordId where
  recordPrefix : RecordPrefix
  digest : DigestValue
deriving DecidableEq

namespace InventoryRecordId

instance : LinearOrder InventoryRecordId :=
  LinearOrder.lift' (fun id => toLex (id.recordPrefix, id.digest)) fun a b h => by
    rw [toLex_inj, Prod.mk.injEq] at h
    exact InventoryRecordId.ext h.1 h.2

/-- The identifier as characters. -/
def chars (id : InventoryRecordId) : List Char := id.recordPrefix.chars ++ hexChars 64 id.digest.number

/-- The identifier as a string. -/
def text (id : InventoryRecordId) : String := String.ofList id.chars

/-- An identifier with a given prefix from its text. -/
def parseWith (cs : List Char) (p : RecordPrefix) : Option InventoryRecordId :=
  (ContentId.dropPrefix p.chars cs).bind fun digits =>
    match DigestValue.parse digits with
    | .ok digest => some ⟨p, digest⟩
    | .error _ => none

theorem parseWith_eq_some {cs : List Char} {p : RecordPrefix} {id : InventoryRecordId} :
    parseWith cs p = some id ↔ id.recordPrefix = p ∧ cs = id.chars := by
  rw [parseWith, Option.bind_eq_some_iff]
  constructor
  · rintro ⟨digits, hdrop, hparse⟩
    split at hparse
    · rename_i digest hdigest
      rw [Option.some.injEq] at hparse
      rw [← hparse, chars, ContentId.dropPrefix_eq_some.mp hdrop,
        DigestValue.parse_eq_ok.mp hdigest]
      exact ⟨rfl, rfl⟩
    · cases hparse
  · rintro ⟨rfl, hcs⟩
    refine ⟨_, ContentId.dropPrefix_eq_some.mpr hcs, ?_⟩
    rw [DigestValue.parse_eq_ok.mpr rfl]

/-- An identifier from its text. -/
def parse (s : String) : Except String InventoryRecordId :=
  orRaise (RecordPrefix.all.findSome? (parseWith s.toList)) "string_pattern_mismatch"

theorem parse_eq_ok {s : String} {id : InventoryRecordId} : parse s = .ok id ↔ s = id.text := by
  have htext : s = id.text ↔ s.toList = id.chars := by
    rw [← String.toList_inj, text, String.toList_ofList]
  rw [parse, orRaise_eq_ok, htext]
  constructor
  · intro h
    obtain ⟨p, _, hp⟩ := List.exists_of_findSome?_eq_some h
    exact (parseWith_eq_some.mp hp).2
  · intro h
    have hsome : (RecordPrefix.all.findSome? (parseWith s.toList)).isSome := by
      rw [List.findSome?_isSome_iff]
      exact ⟨id.recordPrefix, RecordPrefix.mem_all _, by
        rw [parseWith_eq_some.mpr ⟨rfl, h⟩]
        rfl⟩
    obtain ⟨id', hid'⟩ := Option.isSome_iff_exists.mp hsome
    rw [hid', Option.some.injEq]
    obtain ⟨p, _, hp⟩ := List.exists_of_findSome?_eq_some hid'
    have hchars : id'.chars = id.chars := (parseWith_eq_some.mp hp).2.symm.trans h
    have hsameTag : id'.recordPrefix = id.recordPrefix := by
      have h₁ : id'.recordPrefix.chars <+: id.chars := by
        rw [← hchars]
        exact List.prefix_append _ _
      have h₂ : id.recordPrefix.chars <+: id.chars := List.prefix_append _ _
      rcases List.prefix_or_prefix_of_prefix h₁ h₂ with hle | hle
      · exact RecordPrefix.eq_of_chars_prefix hle
      · exact (RecordPrefix.eq_of_chars_prefix hle).symm
    have hid : parseWith s.toList id.recordPrefix = some id := parseWith_eq_some.mpr ⟨rfl, h⟩
    have hid'' : parseWith s.toList id.recordPrefix = some id' :=
      parseWith_eq_some.mpr ⟨hsameTag, h.trans hchars.symm⟩
    rw [hid, Option.some.injEq] at hid''
    exact hid''.symm

end InventoryRecordId

instance : Model InventoryRecordId where
  schema := .ofString InventoryRecordId.text InventoryRecordId.parse fun _ _ =>
    InventoryRecordId.parse_eq_ok
  notNull _ := nofun

end Ucf
