import Ucf.Generator.Directories
import Ucf.Library.Stateful
import Ucf.Loader.ParseSpec

/-! The loader of spec files: it reads a file, puts the files that it refers to in place of the
references, and parses the result. Files that were read stay in a cache. -/

namespace Ucf.Loader

open Spec (FilePath Inside)

/-! ### Files -/

/-- What is found at a path. -/
inductive Entry where
  | directory
  /-- A file that is not YAML, with the text of the `YAMLError` -/
  | malformed (message : String)
  | file (data : Yaml)

def Entry.isFile : Entry → Bool
  | directory => false
  | malformed _ | file _ => true

/-- The file system, by what is found at each resolved path. -/
structure FileSystem where
  /-- `path.resolve()` -/
  resolve : FilePath → FilePath
  /-- `path.exists()` -/
  pathExists : FilePath → Bool
  entries : Dict FilePath Entry
  resolved : ∀ path, (resolve path).Resolved
  resolve_resolve : ∀ path, resolve (resolve path) = resolve path
  exists_resolve : ∀ path, pathExists (resolve path) = (entries.get? (resolve path)).isSome

/-- `path.parent` -/
def parent (path : FilePath) : FilePath := path.dropLast

/-- `str(path)` -/
def pathText (path : FilePath) : String := String.ofList path.text

/-- `SpecLoader`. Its base directory is not a file. -/
structure SpecLoader where
  files : FileSystem
  baseDir : FilePath
  base_directory : ∀ entry, files.entries.get? (files.resolve baseDir) = some entry →
    entry.isFile = false

/-- What a loader changes: its cache and, as a record, the files that it has opened. -/
structure LoaderState where
  cache : Dict FilePath Mapping
  opened : List FilePath

/-- `SpecLoader(base_dir)` -/
def LoaderState.init : LoaderState := ⟨.empty, []⟩

/-- A method of the loader -/
abbrev LoaderM : Type → Type := Stateful LoaderState LoadError

/-! ### References -/

/-- `_LOGICAL_REF_KINDS` -/
def logicalRefKinds : List (String × String) :=
  [("action", "action"), ("actions", "action"), ("event", "event"), ("events", "event"),
    ("component", "component"), ("components", "component"), ("protocol", "protocol"),
    ("protocols", "protocol"), ("usecase", "usecase"), ("use-cases", "usecase"),
    ("invariant", "invariant"), ("invariants", "invariant")]

/-- `_LOGICAL_REF_DIRECTORIES` -/
def logicalRefDirectories : List (String × String) :=
  [("action", "actions"), ("actions", "actions"), ("event", "events"), ("events", "events"),
    ("component", "components"), ("components", "components"), ("protocol", "protocols"),
    ("protocols", "protocols"), ("usecase", "use-cases"), ("use-cases", "use-cases"),
    ("invariant", "invariants"), ("invariants", "invariants")]

/-- `SpecLoader.MAX_REF_DEPTH` -/
def maxRefDepth : Nat := 3

/-- `ref.endswith((".yaml", ".yml"))` -/
def hasYamlSuffix (ref : String) : Bool :=
  ".yaml".toList.isSuffixOf ref.toList || ".yml".toList.isSuffixOf ref.toList

/-- `ref.split("/")` -/
def refParts (ref : String) : List String := (ref.toList.splitOn '/').map String.ofList

/-- The text of the reason in a `RefResolutionError` -/
def RefReason.text : RefReason → String
  | depthExceeded => "Maximum $ref depth (" ++ toString maxRefDepth ++ ") exceeded"
  | notString typeName => "$ref must be a string, got " ++ typeName
  | notFound path => "File not found: " ++ path
  | outside path => "$ref resolves outside base directory: " ++ path
  | identityMismatch expectedKind expectedName actualKind actualName =>
    "Logical identity mismatch: expected " ++ expectedKind ++ "/" ++ expectedName ++ ", loaded " ++
      actualKind ++ "/" ++ actualName

/-- The reference with the directory of its kind: `ref = f"{directory}/{parts[1]}"` -/
def inKindDirectory (ref : String) : String :=
  match refParts ref with
  | [kind, name] =>
    match logicalRefDirectories.lookup kind with
    | some directory => directory ++ "/" ++ name
    | none => ref
  | _ => ref

/-- `metadata.get("name") if isinstance(metadata, dict) else None` -/
def metadataName (raw : Mapping) : Yaml :=
  match Mapping.get? raw "metadata" with
  | some (.mapping metadata) => (Mapping.get? metadata "name").getD (.scalar .null)
  | _ => .scalar .null

section Errors

variable [PythonTexts]

/-- `RefResolutionError(ref, str(source), reason)` -/
def refError (ref : Yaml) (source : FilePath) (reason : RefReason) : LoadError :=
  match ref.text with
  | none => .valueError
  | some text => .refResolution ⟨ref, pathText source, reason,
      "Cannot resolve '$ref: " ++ text ++ "' in " ++ pathText source ++ ": " ++ reason.text⟩

/-- `_validate_logical_ref_identity` -/
def validateLogicalRefIdentity (ref : String) (raw : Mapping) (source : FilePath) :
    Except LoadError Unit :=
  if hasYamlSuffix ref then .ok ()
  else
    match refParts ref with
    | [kind, name] =>
      match logicalRefKinds.lookup kind with
      | none => .ok ()
      | some expectedKind =>
        let actualKind := (Mapping.get? raw "kind").getD (.scalar .null)
        let actualName := metadataName raw
        if actualKind.isText expectedKind && actualName.isText name then .ok ()
        else
          match actualKind.text, actualName.text with
          | some kindText, some nameText =>
            .error (refError (.scalar (.str ref)) source
              (.identityMismatch expectedKind name kindText nameText))
          | _, _ => .error .valueError
    | _ => .ok ()

namespace SpecLoader

variable (loader : SpecLoader)

/-- The reference that `_resolve_ref_path` looks for. -/
def namedRef (ref : String) : String := if hasYamlSuffix ref then ref else inKindDirectory ref

/-- The candidate of `_resolve_ref_path` -/
def candidate (ref : String) (source : FilePath) : FilePath :=
  if hasYamlSuffix ref then (parent source).join ref.toList
  else
    let named := (namedRef ref).toList
    let first := loader.baseDir.join (named ++ ".yaml".toList)
    let candidates := [first, (parent source).join (named ++ ".yaml".toList),
      loader.baseDir.join (named ++ ".yml".toList), (parent source).join (named ++ ".yml".toList)]
    (candidates.find? loader.files.pathExists).getD first

/-- `_resolve_ref_path` -/
def resolveRefPath (ref : String) (source : FilePath) : Except LoadError FilePath :=
  let resolved := loader.files.resolve (loader.candidate ref source)
  let base := loader.files.resolve loader.baseDir
  if Inside base resolved ∨ resolved = base then .ok resolved
  else .error (refError (.scalar (.str (namedRef ref))) source (.outside (pathText resolved)))

/-! ### Reading -/

/-- `_read_yaml` past the cache -/
def readFile (path : FilePath) : Except LoadError Mapping :=
  match loader.files.entries.get? (loader.files.resolve path) with
  | none => .error (.specParse ⟨"File not found: " ++ pathText path, some (pathText path)⟩)
  | some .directory => .error .isADirectory
  | some (.malformed message) => .error (.yaml message)
  | some (.file (.mapping data)) => .ok data
  | some (.file data) =>
    .error (.specParse ⟨"Expected YAML mapping, got " ++ data.typeName, some (pathText path)⟩)

/-- The files that are opened when `resolved` is read. -/
def opens (resolved : FilePath) : List FilePath :=
  if (loader.files.entries.get? resolved).any Entry.isFile then [resolved] else []

/-- `_read_yaml` -/
def readYaml (path : FilePath) : LoaderM Mapping := do
  let resolved := loader.files.resolve path
  match (← get).cache.get? resolved with
  | some data => pure data
  | none =>
    modify fun s => { s with opened := s.opened ++ loader.opens resolved }
    let data ← MonadExcept.ofExcept (loader.readFile path)
    modify fun s => { s with cache := s.cache.insert resolved data }
    pure data

/-! ### Expansion -/

section Expansion

variable {m : Type → Type} [Monad m] [MonadExcept LoadError m] (read : FilePath → m Mapping)

/-- `_load_ref` up to the expansion of what is loaded: the file and its data -/
def openRef (source : FilePath) (ref : Yaml) : m (FilePath × Mapping) :=
  match ref with
  | .scalar (.str text) => do
    let path ← MonadExcept.ofExcept (loader.resolveRefPath text source)
    if loader.files.pathExists path then
      let raw ← read path
      MonadExcept.ofExcept (validateLogicalRefIdentity text raw source)
      pure (path, raw)
    else throw (refError ref source (.notFound (pathText path)))
  | ref => throw (refError ref source (.notString ref.typeName))

/-- `_resolve_refs`, with `_load_ref` at the references. The depth grows at a reference and stays
within a file. -/
def resolveRefs (depth : Nat) (source : FilePath) (data : Yaml) : m Yaml :=
  if maxRefDepth ≤ depth then
    throw (refError (.scalar (.str "<nested>")) source .depthExceeded)
  else
    walk (fun ref => do
      let (path, raw) ← loader.openRef read source ref
      resolveRefs (depth + 1) path (.mapping raw)) data
termination_by maxRefDepth - depth

end Expansion

/-- `load_file` up to the parsing -/
def loadTree (path : FilePath) : LoaderM Yaml := do
  let raw ← loader.readYaml path
  loader.resolveRefs loader.readYaml 0 path (.mapping raw)

variable [SpecModels]

/-- `load_file` -/
def loadFile (path : FilePath) : LoaderM ParsedSpec := do
  let resolved ← loader.loadTree path
  MonadExcept.ofExcept (parseSpec resolved (some (pathText path)))

end SpecLoader

end Errors

/-! ### All files -/

/-- `str(exc)` of the exceptions that the loops over the files catch -/
def LoadError.caught? : LoadError → Option String
  | specParse error => some error.message
  | refResolution error => some error.message
  | yaml message => some message
  | typeError | valueError | isADirectory => none

namespace SpecLoader

variable [PythonTexts] [SpecModels] (loader : SpecLoader)

/-- `load_all_tolerant` over the paths of the files -/
def loadAllTolerant :
    List FilePath → LoaderM (List (FilePath × ParsedSpec) × List SpecParseError)
  | [] => pure ([], [])
  | path :: paths => do
    match ← Stateful.attempt (loader.loadFile path) with
    | .ok spec =>
      let (results, errors) ← loadAllTolerant paths
      pure ((path, spec) :: results, errors)
    | .error error =>
      match error.caught? with
      | some text =>
        let (results, errors) ← loadAllTolerant paths
        pure (results, ⟨text, some (pathText path)⟩ :: errors)
      | none => throw error

/-- `load_all` over the paths of the files -/
def loadAll (paths : List FilePath) : LoaderM (List (FilePath × ParsedSpec)) := do
  let (results, errors) ← loader.loadAllTolerant paths
  if errors.isEmpty then pure results
  else
    throw (.specParse ⟨"Failed to load " ++ toString errors.length ++ " spec(s):\n" ++
      "\n".intercalate (errors.map fun e => "  - " ++ e.path.getD "None" ++ ": " ++ e.message),
      none⟩)

end SpecLoader

end Ucf.Loader
