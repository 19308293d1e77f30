import Ucf.Ir.Capabilities
import Ucf.Library.JsonLeaves
import Ucf.Spec.Models

/-! The arguments that the pytest plugin writes into generated calls: the expressions that stand for
the bindings of a specification, and their text. -/

namespace Ucf.Spec

/-- `_to_snake` -/
def toSnake (name : String) : String :=
  String.ofList (name.toList.map fun c => if c = '-' then '_' else c)

/-- `value.startswith("$")` -/
def isReference (text : String) : Bool := text.toList.head? = some '$'

/-- `val[1:].split(".")` -/
def referenceParts (text : String) : List String :=
  (text.toList.tail.splitOn '.').map String.ofList

/-! ### Expressions -/

/-- A Python expression in a generated call. A step and a component are read from the variables with
their names in snake case. -/
inductive PyExpr where
  | inputs (keys : List String)
  | step (id : String) (path : List String)
  | component (name : String) (path : List String)
  | identifier (text : String)
  | literal (value : Json)
  | chunks (parts : List String)
  | dict (items : List (String × PyExpr))

/-- The branches of `_resolve_binding` for a text that starts with a dollar sign -/
def resolveParts (text : String) : List String → PyExpr
  | "inputs" :: key :: keys => .inputs (key :: keys)
  | "steps" :: id :: field :: fields => .step id (field :: fields)
  | "requires" :: name :: path => .component name path
  | first :: second :: _ => .component first [second]
  | _ => .identifier (toSnake text)

/-- `_resolve_binding` -/
def resolveBinding (text : String) : PyExpr :=
  if isReference text then resolveParts text (referenceParts text) else .literal (.str text)

/-- `remaining.rfind(" ", 0, width + 1)`, where there is a space -/
def lastSpace (width : Nat) (remaining : List Char) : Option Nat :=
  (List.range (width + 1)).reverse.find? fun i => remaining[i]? = some ' '

/-- `split_at` -/
def splitAt (width : Nat) (remaining : List Char) : Nat :=
  match lastSpace width remaining with
  | some (i + 1) => i + 2
  | _ => width

/-- `width`, as `_split_string_literal` is called -/
def chunkWidth : Nat := 56

theorem splitAt_pos (remaining : List Char) : 0 < splitAt chunkWidth remaining := by
  rw [splitAt]
  split
  · omega
  · decide

/-- `_split_string_literal` -/
def splitStringLiteral (remaining : List Char) : List (List Char) :=
  if chunkWidth < remaining.length then
    remaining.take (splitAt chunkWidth remaining) ::
      splitStringLiteral (remaining.drop (splitAt chunkWidth remaining))
  else [remaining]
termination_by remaining.length
decreasing_by
  have hpos := splitAt_pos remaining
  rw [List.length_drop]
  omega

section Text

variable [ReprText]

/-- A key and its text do not fit into a line of 88 characters. -/
def isLong (indent : Nat) (key text : String) : Bool :=
  88 < 4 * (indent + 1) + (reprText key).length + (reprText text).length + 4

mutual

/-- The value of a key in `_build_dict_literal` -/
def dictValue (indent : Nat) (key : String) : Json → PyExpr
  | .str text =>
    if isReference text then resolveBinding text
    else if isLong indent key text then .chunks ((splitStringLiteral text.toList).map String.ofList)
    else .literal (.str text)
  | .obj fields => .dict (buildDictLiteral (indent + 1) fields)
  | value => .literal value

/-- `_build_dict_literal` -/
def buildDictLiteral (indent : Nat) : List (String × Json) → List (String × PyExpr)
  | [] => []
  | (key, value) :: fields => (key, dictValue indent key value) :: buildDictLiteral indent fields

end

/-- The argument for a binding -/
def argument : Json → PyExpr
  | .obj fields => .dict (buildDictLiteral 0 fields)
  | .str text => if isReference text then resolveBinding text else .literal (.str text)
  | value => .literal value

/-- `_build_step_args`, by the name of each argument -/
def buildStepArgs (input : Dict String Json) : List (String × PyExpr) :=
  input.items.map fun (name, binding) => (toSnake name, argument binding)

/-! ### Text -/

mutual

/-- `repr(value)` -/
def reprValue : Json → String
  | .null => "None"
  | .bool b => if b then "True" else "False"
  | .int n => toString n
  | .float text => text
  | .str text => reprText text
  | .arr items => "[" ++ ", ".intercalate (reprItems items) ++ "]"
  | .obj fields => "\x7b" ++ ", ".intercalate (reprFields fields) ++ "\x7d"

def reprItems : List Json → List String
  | [] => []
  | item :: items => reprValue item :: reprItems items

def reprFields : List (String × Json) → List String
  | [] => []
  | (key, value) :: fields => (reprText key ++ ": " ++ reprValue value) :: reprFields fields

end

def spaces (n : Nat) : String := String.ofList (List.replicate n ' ')

mutual

/-- The lines of an expression, the first of them behind `before` and the last before `after`. -/
def PyExpr.lines (indent : Nat) (before after : String) : PyExpr → List String
  | .inputs keys =>
    [before ++ "inputs" ++ String.join (keys.map fun key => "[" ++ reprText key ++ "]") ++ after]
  | .step id path => [before ++ ".".intercalate ((id :: path).map toSnake) ++ after]
  | .component name path => [before ++ ".".intercalate ((name :: path).map toSnake) ++ after]
  | .identifier text => [before ++ text ++ after]
  | .literal value => [before ++ reprValue value ++ after]
  | .chunks parts =>
    [before ++ "("] ++ parts.map (fun part => spaces (4 * indent + 4) ++ reprText part) ++
      [spaces (4 * indent) ++ ")" ++ after]
  | .dict items => [before ++ "\x7b"] ++ itemLines (indent + 1) items ++ [spaces (4 * indent) ++ "\x7d" ++ after]

def PyExpr.itemLines (indent : Nat) : List (String × PyExpr) → List String
  | [] => []
  | (key, value) :: items =>
    value.lines indent (spaces (4 * indent) ++ reprText key ++ ": ") "," ++ itemLines indent items

end

/-- An argument as it is kept in `StepCall.args` -/
def argumentText (arg : String × PyExpr) : String :=
  "\n".intercalate (arg.2.lines 0 (arg.1 ++ "=") "")

end Text

/-! ### References -/

/-- `[a-zA-Z0-9_-]` -/
def isStepIdChar (c : Char) : Bool :=
  ('a' ≤ c && c ≤ 'z') || ('A' ≤ c && c ≤ 'Z') || ('0' ≤ c && c ≤ '9') || c = '_' || c = '-'

/-- `re.findall(r"\$steps\.([a-zA-Z0-9_-]+)", value)` -/
def findStepRefs : List Char → List String
  | [] => []
  | c :: cs =>
    let rest := (c :: cs).drop "$steps.".toList.length
    let id := rest.takeWhile isStepIdChar
    if _h : "$steps.".toList.isPrefixOf (c :: cs) ∧ id ≠ [] then
      String.ofList id :: findStepRefs (rest.drop id.length)
    else findStepRefs cs
termination_by text => text.length
decreasing_by
  · simp only [List.length_drop, List.length_cons]
    have hpos : 0 < "$steps.".toList.length := by decide
    omega
  · simp

/-- `_collect_step_refs` -/
def collectStepRefs (value : Json) : List String :=
  value.leaves.flatMap fun leaf =>
    match leaf with
    | .str text => findStepRefs text.toList
    | _ => []

end Ucf.Spec
