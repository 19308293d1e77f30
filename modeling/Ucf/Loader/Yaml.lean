import Ucf.Ir.Capabilities

/-! What a YAML file holds, and the traversal that puts something in place of each reference: a
mapping with the only key `$ref`. -/

namespace Ucf.Loader

/-- A scalar as the YAML loader makes it. -/
inductive Scalar where
  | null
  | bool (b : Bool)
  | int (n : Int)
  /-- A number with a decimal text -/
  | float (text : String)
  /-- `nan`, `inf` or `-inf` -/
  | nonFinite (text : String)
  | str (text : String)
  /-- A `date` or a `datetime`, by its type's name and its text -/
  | date (typeName text : String)
deriving DecidableEq, Repr

/-- A value of a YAML file. The keys of a mapping are hashable. -/
inductive Yaml where
  | scalar (value : Scalar)
  | seq (items : List Yaml)
  | mapping (items : List (Scalar × Yaml))

namespace Scalar

/-- `type(value).__name__` -/
def typeName : Scalar → String
  | null => "NoneType"
  | bool _ => "bool"
  | int _ => "int"
  | float _ | nonFinite _ => "float"
  | str _ => "str"
  | date name _ => name

/-- The integer has more decimal digits than Python converts to text. -/
def TooLong (n : Int) : Prop := 10 ^ maxStrDigits ≤ n.natAbs

instance (n : Int) : Decidable (TooLong n) := inferInstanceAs (Decidable (_ ≤ _))

/-- `str(value)`; `none` when it raises `ValueError`. -/
def text : Scalar → Option String
  | null => some "None"
  | bool true => some "True"
  | bool false => some "False"
  | int n => if TooLong n then none else some (toString n)
  | float text | nonFinite text | str text => some text
  | date _ text => some text

end Scalar

/-- What the exceptions of `json.dumps` are about. -/
inductive DumpError where
  /-- `TypeError`: a value of this type -/
  | unserializable (typeName : String)
  /-- `TypeError`: a key of this type -/
  | badKey (typeName : String)
  /-- `ValueError`: a number that is not finite -/
  | outOfRange (text : String)
  /-- `ValueError`: an integer that is too long -/
  | tooLong
deriving DecidableEq, Repr

/-- The texts that the interpreter gives to a list or a dictionary, by the `repr` of what it holds,
and to the exceptions of `json.dumps`. A list or a dictionary has none when an integer in it is too
long. -/
class PythonTexts where
  reprYaml : Yaml → Option String
  dumpErrorText : DumpError → String

export PythonTexts (reprYaml dumpErrorText)

namespace Yaml

/-- `type(value).__name__` -/
def typeName : Yaml → String
  | scalar value => value.typeName
  | seq _ => "list"
  | mapping _ => "dict"

/-- `str(value)`; `none` when it raises `ValueError`. -/
def text [PythonTexts] : Yaml → Option String
  | scalar value => value.text
  | data => reprYaml data

/-- `value == expected` for a text -/
def isText (data : Yaml) (expected : String) : Bool :=
  match data with
  | scalar value => value = .str expected
  | _ => false

end Yaml

/-- The items of a mapping -/
abbrev Mapping : Type := List (Scalar × Yaml)

/-- `data.get(key)` -/
def Mapping.get? (items : Mapping) (key : String) : Option Yaml :=
  (items.find? fun item => item.1 = .str key).map Prod.snd

/-- `data["$ref"]`, where `"$ref" in data and len(data) == 1` -/
def refOf? : Mapping → Option Yaml
  | [(.str "$ref", ref)] => some ref
  | _ => none

/-! ### Traversal -/

section Walk

variable {m : Type → Type} [Monad m] (load : Yaml → m Yaml)

mutual

/-- The tree with what `load` returns in place of each reference. -/
def walk : Yaml → m Yaml
  | .scalar value => pure (.scalar value)
  | .seq items => do
    let items ← walkItems items
    pure (.seq items)
  | .mapping items =>
    match refOf? items with
    | some ref => load ref
    | none => do
      let items ← walkFields items
      pure (.mapping items)

def walkItems : List Yaml → m (List Yaml)
  | [] => pure []
  | item :: items => do
    let item ← walk item
    let items ← walkItems items
    pure (item :: items)

def walkFields : List (Scalar × Yaml) → m (List (Scalar × Yaml))
  | [] => pure []
  | (key, value) :: items => do
    let value ← walk value
    let items ← walkFields items
    pure ((key, value) :: items)

end

end Walk

/-- The tree with `f ref` in place of each reference. -/
def substitute (f : Yaml → Yaml) (data : Yaml) : Yaml := walk (m := Id) f data

mutual

/-- The references of a tree, in the order of the traversal. -/
def refsOf : Yaml → List Yaml
  | .scalar _ => []
  | .seq items => refsOfItems items
  | .mapping items =>
    match refOf? items with
    | some ref => [ref]
    | none => refsOfFields items

def refsOfItems : List Yaml → List Yaml
  | [] => []
  | item :: items => refsOf item ++ refsOfItems items

def refsOfFields : List (Scalar × Yaml) → List Yaml
  | [] => []
  | (_, value) :: items => refsOf value ++ refsOfFields items

end

end Ucf.Loader
