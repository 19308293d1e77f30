import Ucf.Library.Check
import Ucf.Library.Dict
import Ucf.Library.Json
import Ucf.Loader.Yaml
import Ucf.Spec.Models

/-! From the value of a YAML file to a spec: the kind, the JSON of the value, and the model's check
of that JSON. The models are pydantic's and are a parameter here; what the parser itself does before
and after them is not. -/

namespace Ucf.Loader

open Spec (Kind)

/-! ### Exceptions -/

structure SpecParseError where
  message : String
  path : Option String
deriving DecidableEq, Repr

/-- The reason of a `RefResolutionError`. Paths are texts. -/
inductive RefReason where
  | depthExceeded
  | notString (typeName : String)
  | notFound (path : String)
  | outside (path : String)
  | identityMismatch (expectedKind expectedName actualKind actualName : String)
deriving DecidableEq, Repr

structure RefResolutionError where
  ref : Yaml
  source : String
  reason : RefReason
  message : String

/-- What loading a file raises. -/
inductive LoadError where
  | specParse (error : SpecParseError)
  | refResolution (error : RefResolutionError)
  /-- `yaml.YAMLError` -/
  | yaml (message : String)
  /-- The `TypeError` of an unhashable key -/
  | typeError
  /-- The `ValueError` of an integer that is too long for a text -/
  | valueError
  | isADirectory

/-! ### JSON -/

/-- `json.dumps(value, allow_nan=False)` of a scalar -/
def Scalar.dump : Scalar → Except DumpError Json
  | null => .ok .null
  | bool b => .ok (.bool b)
  | int n => if TooLong n then .error .tooLong else .ok (.int n)
  | float text => .ok (.float text)
  | nonFinite text => .error (.outOfRange text)
  | str text => .ok (.str text)
  | date typeName _ => .error (.unserializable typeName)

/-- The member name that `json.dumps` makes of a key. -/
def Scalar.dumpKey : Scalar → Except DumpError String
  | null => .ok "null"
  | bool true => .ok "true"
  | bool false => .ok "false"
  | int n => if TooLong n then .error .tooLong else .ok (toString n)
  | float text => .ok text
  | nonFinite text => .error (.outOfRange text)
  | str text => .ok text
  | date typeName _ => .error (.badKey typeName)

mutual

/-- `json.dumps(data, allow_nan=False)`, as the value that its text holds -/
def Yaml.dump : Yaml → Except DumpError Json
  | .scalar value => value.dump
  | .seq items => do
    let items ← dumpItems items
    pure (.arr items)
  | .mapping items => do
    let fields ← dumpFields items
    pure (.obj fields)

def dumpItems : List Yaml → Except DumpError (List Json)
  | [] => pure []
  | item :: items => do
    let item ← item.dump
    let items ← dumpItems items
    pure (item :: items)

def dumpFields : List (Scalar × Yaml) → Except DumpError (List (String × Json))
  | [] => pure []
  | (key, value) :: items => do
    let name ← key.dumpKey
    let value ← value.dump
    let fields ← dumpFields items
    pure ((name, value) :: fields)

end

mutual

/-- `json.loads` of the text: of two members with one name the later is kept. -/
def normalized : Json → Json
  | .arr items => .arr (normalizedItems items)
  | .obj fields => .obj (Dict.ofList (normalizedFields fields)).items
  | j => j

def normalizedItems : List Json → List Json
  | [] => []
  | item :: items => normalized item :: normalizedItems items

def normalizedFields : List (String × Json) → List (String × Json)
  | [] => []
  | (name, value) :: fields => (name, normalized value) :: normalizedFields fields

end

/-! ### Models -/

/-- A field of a model class -/
structure FieldInfo where
  name : String
  alias? : Option String
deriving DecidableEq, Repr

/-- `field.alias if isinstance(field.alias, str) else field_name` -/
def FieldInfo.publicName (field : FieldInfo) : String := field.alias?.getD field.name

/-- A validated value: a model with its fields, a list, a dictionary or a value without parts -/
inductive Validated where
  | model (fields : List (FieldInfo × Validated))
  | list (items : List Validated)
  | dict (items : List (String × Validated))
  | leaf

/-- The models of the specs. -/
class SpecModels where
  /-- `model_cls.model_validate_json(json_data, strict=True)`, where the JSON is given by the value
  that it holds; the text of the `ValidationError` when there is one -/
  validateJson : Kind → Json → Except String Validated

export SpecModels (validateJson)

/-- A part of a path into the data -/
inductive PathPart where
  | name (name : String)
  | index (index : Nat)
deriving DecidableEq, Repr

/-- `str(part)` -/
def PathPart.text : PathPart → String
  | name text => text
  | index i => toString i

mutual

/-- `_find_internal_field_name` -/
def findInternalFieldName (path : List PathPart) :
    Json → Validated → Option (List PathPart × String)
  | .obj raw, .model fields => findInFields path raw fields
  | .arr raw, .list items => findInItems path 0 raw items
  | .obj raw, .dict items => findInEntries path raw items
  | _, _ => none

def findInFields (path : List PathPart) (raw : List (String × Json)) :
    List (FieldInfo × Validated) → Option (List PathPart × String)
  | [] => none
  | (field, value) :: fields =>
    if field.publicName ≠ field.name ∧ field.name ∈ raw.map Prod.fst then
      some (path ++ [.name field.name], field.publicName)
    else
      match (Json.obj raw).get? field.publicName with
      | none => findInFields path raw fields
      | some rawValue =>
        match findInternalFieldName (path ++ [.name field.publicName]) rawValue value with
        | some invalid => some invalid
        | none => findInFields path raw fields

def findInItems (path : List PathPart) : Nat → List Json → List Validated →
    Option (List PathPart × String)
  | index, rawItem :: raw, item :: items =>
    match findInternalFieldName (path ++ [.index index]) rawItem item with
    | some invalid => some invalid
    | none => findInItems path (index + 1) raw items
  | _, _, _ => none

def findInEntries (path : List PathPart) (raw : List (String × Json)) :
    List (String × Validated) → Option (List PathPart × String)
  | [] => none
  | (key, value) :: items =>
    match (Json.obj raw).get? key with
    | none => findInEntries path raw items
    | some rawValue =>
      match findInternalFieldName (path ++ [.name key]) rawValue value with
      | some invalid => some invalid
      | none => findInEntries path raw items

end

/-! ### Specs -/

/-- A spec as it is parsed: an instance of the model class of its kind -/
structure ParsedSpec where
  kind : Kind
  model : Validated

/-- The keys of `_KIND_MAP` -/
def kinds : List Kind := [.action, .event, .component, .protocol, .usecase, .invariant]

/-- `_KIND_MAP.get(kind)`. A list or a dictionary is not hashable. -/
def lookupKind : Yaml → Except LoadError (Option Kind)
  | .scalar (.str text) => .ok (kinds.find? fun kind => kind.value = text)
  | .scalar _ => .ok none
  | .seq _ | .mapping _ => .error .typeError

/-- `", ".join(sorted(_KIND_MAP))` -/
def validKinds : String := "action, component, event, invariant, protocol, usecase"

section Parse

variable [PythonTexts] [SpecModels]

/-- `parse_spec` from the JSON encoding on, with the model class of `kind` -/
def validateSpec (kind : Kind) (data : Yaml) (sourcePath : Option String) :
    Except LoadError ParsedSpec :=
  match data.dump with
  | .error error =>
    .error (.specParse ⟨"Spec contains a non-JSON value: " ++ dumpErrorText error, sourcePath⟩)
  | .ok json =>
    match validateJson kind json with
    | .error text =>
      .error (.specParse ⟨"Validation error in '" ++ kind.value ++ "' spec: " ++ text, sourcePath⟩)
    | .ok model =>
      match findInternalFieldName [] (normalized json) model with
      | some (inputPath, publicAlias) =>
        .error (.specParse ⟨"Validation error in '" ++ kind.value ++
          "' spec: internal field name '" ++ ((inputPath.getLast?.map PathPart.text).getD "") ++
          "' at '" ++ ".".intercalate (inputPath.map PathPart.text) ++
          "' is not allowed; use public alias '" ++ publicAlias ++ "'", sourcePath⟩)
      | none => .ok ⟨kind, model⟩

/-- `parse_spec` -/
def parseSpec (data : Yaml) (sourcePath : Option String) : Except LoadError ParsedSpec :=
  match data with
  | .mapping items =>
    match (Mapping.get? items "kind").getD (.scalar .null) with
    | .scalar .null => .error (.specParse ⟨"Missing 'kind' field", sourcePath⟩)
    | kind => do
      match ← lookupKind kind with
      | some model => validateSpec model data sourcePath
      | none =>
        let text ← orRaise kind.text .valueError
        .error (.specParse
          ⟨"Unknown kind '" ++ text ++ "'. Valid kinds: " ++ validKinds, sourcePath⟩)
  | data => .error (.specParse ⟨"Expected a YAML mapping, got " ++ data.typeName, sourcePath⟩)

end Parse

end Ucf.Loader
