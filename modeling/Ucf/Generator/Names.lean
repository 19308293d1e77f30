import Ucf.Generator.Plugin
import Ucf.Generator.Rendering
import Ucf.Library.JsonDiff

/-! The names that the pytest plugin makes from the names of a specification. -/

namespace Ucf.Spec

/-- `str.capitalize`, which follows the case mappings of Unicode. -/
class Capitalize where
  capitalize : String → String

export Capitalize (capitalize)

/-- What Python reads as one name and as one string. -/
class PythonText where
  /-- The text is an identifier. -/
  isIdentifier : String → Bool
  /-- The name that an identifier stands for, its Unicode normal form. -/
  nameOf : String → String
  /-- The text between triple quotes is one string literal. -/
  isDocstring : String → Bool

export PythonText (isIdentifier nameOf isDocstring)

/-! ### Class names -/

section Classes

variable [Capitalize]

/-- `"".join(part.capitalize() for part in name.split(separator))` -/
def capitalizeParts (separator : Char) (name : String) : String :=
  String.join ((name.toList.splitOn separator).map fun part => capitalize (String.ofList part))

/-- `_to_pascal` -/
def toPascal (name : String) : String := capitalizeParts '-' name

end Classes

/-! ### Method names -/

/-- `re.sub(r"_+", "_", text)`, where `after` says that an underscore comes before -/
def collapse (after : Bool) : List Char → List Char
  | [] => []
  | c :: cs =>
    if c = '_' then if after then collapse true cs else '_' :: collapse true cs
    else c :: collapse false cs

/-- `text.strip("_")` -/
def stripUnderscores (text : List Char) : List Char :=
  ((text.dropWhile (· = '_')).reverse.dropWhile (· = '_')).reverse

/-- `text.rfind("_")`, where there is an underscore -/
def lastUnderscore (text : List Char) : Option Nat :=
  (List.range text.length).reverse.find? fun i => text[i]? = some '_'

/-- `max_len`, as `_truncate_name` is called -/
def maxNameLength : Nat := 60

/-- `_truncate_name`. Its `strip` removes nothing but what becomes an underscore at an end. -/
def truncateName [Lowercase] (raw : String) : String :=
  let safe := stripUnderscores (collapse false
    ((lower raw).toList.map fun c => if isSafe c then c else '_'))
  if safe.length ≤ maxNameLength then String.ofList safe
  else
    let truncated := safe.take maxNameLength
    match lastUnderscore truncated with
    | some i => String.ofList (if maxNameLength / 2 < i then truncated.take i else truncated)
    | none => String.ofList truncated

/-- `unique_name`: the first of `name`, `name_2`, `name_3` and so on that is not used. -/
def uniqueName (used : List String) (name : String) : String :=
  ((name :: (List.range used.length).map fun i => name ++ "_" ++ toString (i + 2)).find?
    fun candidate => candidate ∉ used).getD name

theorem nodup_candidates (name : String) (count : Nat) :
    (name :: (List.range count).map fun i => name ++ "_" ++ toString (i + 2)).Nodup := by
  refine List.nodup_cons.mpr ⟨fun hmem => ?_, List.nodup_range.map fun i j heq => ?_⟩
  · obtain ⟨i, -, heq⟩ := List.mem_map.mp hmem
    have hlength := congrArg String.length heq
    simp only [String.length_append] at hlength
    have hmark : "_".length = 1 := rfl
    omega
  · rw [String.append_right_inj] at heq
    have hsuffix : i + 2 = j + 2 := Json.toString_nat_inj heq
    omega

theorem prefix_uniqueName (used : List String) (name : String) :
    name.toList <+: (uniqueName used name).toList := by
  rw [uniqueName]
  cases hfind : ((name :: (List.range used.length).map fun i =>
      name ++ "_" ++ toString (i + 2)).find? fun candidate => candidate ∉ used) with
  | none => exact List.prefix_rfl
  | some candidate =>
    rcases List.mem_cons.mp (List.mem_of_find?_eq_some hfind) with rfl | hmem
    · exact List.prefix_rfl
    · obtain ⟨i, -, rfl⟩ := List.mem_map.mp hmem
      rw [Option.getD_some, String.append_assoc, String.toList_append]
      exact List.prefix_append _ _

/-- One of the candidates is not used. -/
theorem uniqueName_notMem (used : List String) (name : String) : uniqueName used name ∉ used := by
  have hlonger : ¬(name :: (List.range used.length).map fun i =>
      name ++ "_" ++ toString (i + 2)) ⊆ used := by
    intro hsub
    have hle := (nodup_candidates name used.length).length_le_of_subset hsub
    simp at hle
  rw [uniqueName]
  cases hfind : ((name :: (List.range used.length).map fun i =>
      name ++ "_" ++ toString (i + 2)).find? fun candidate => candidate ∉ used) with
  | none =>
    refine absurd (fun candidate hcandidate => ?_) hlonger
    have hused := List.find?_eq_none.mp hfind candidate hcandidate
    simpa using hused
  | some candidate =>
    have hfree := List.find?_some hfind
    simpa using hfree

end Ucf.Spec
