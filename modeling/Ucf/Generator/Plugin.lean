import Ucf.Inventory.Paths
import Ucf.Library.DirectoryTree
import Ucf.Spec.Completeness
import Ucf.Spec.Registry

/-! The generator: a plugin makes the files of a use case, and the engine writes them into a
directory of its own. The output directory is a tree in which writes may fail. -/

namespace Ucf.Spec

/-! ### Paths -/

/-- The segments of an absolute path. -/
abbrev FilePath : Type := List (List Char)

/-- The path as text. -/
def FilePath.text (path : FilePath) : List Char :=
  if path = [] then ['/'] else path.flatMap ('/' :: ·)

/-- `base / text` -/
def FilePath.join (base : FilePath) (text : List Char) : FilePath :=
  (if text.head? = some '/' then [] else base) ++ posixParts text

/-- `path.resolve()`, where no directory is a link -/
def FilePath.resolve (path : FilePath) : FilePath :=
  path.foldl (fun resolved part =>
    if part = ['.', '.'] then resolved.dropLast else resolved ++ [part]) []

def isSafe (c : Char) : Bool :=
  ('a' ≤ c && c ≤ 'z') || ('0' ≤ c && c ≤ '9') || c = '_'

/-- `_safe_module_name` -/
def safeModuleName [Lowercase] (name : String) : List Char :=
  ((lower name).toList.map fun c => if c = '-' then '_' else c).map fun c =>
    if isSafe c then c else '_'

/-! ### Plugins -/

structure GeneratedFile where
  path : String
  content : String
  overwrite : Bool := true
deriving DecidableEq

/-- `GeneratorPlugin`, with the method of `SpecValidatingGeneratorPlugin` if it has it -/
structure GeneratorPlugin (ε : Type) where
  generateInterface : UseCaseSpec → SpecRegistry → Except ε GeneratedFile
  generateOrchestrator : UseCaseSpec → SpecRegistry → Except ε GeneratedFile
  generateImplStub : UseCaseSpec → SpecRegistry → Except ε GeneratedFile
  validateSpec : Option (UseCaseSpec → SpecRegistry → Except ε Unit)

structure GenerationResult where
  usecaseName : String
  filesWritten : List String
  filesSkipped : List String
deriving DecidableEq

/-- What generation raises. -/
inductive GenerationError (ε : Type) where
  | plugin (error : ε)
  | valueError (message : String)
  | osError

/-! ### Writing -/

abbrev OutputTree : Type := DirectoryTree (List Char) String

/-- A write that fails: the file is not opened, or it is left with what was written so far. -/
inductive Fault where
  | refused
  | cut (left : String)
deriving DecidableEq

/-- What fails while a use case is generated. -/
structure Faults where
  directory : Bool := false
  init : Option Fault := none
  interface : Option Fault := none
  orchestrator : Option Fault := none
  implStub : Option Fault := none

/-- What fails at the generated files. -/
def Faults.files (faults : Faults) : List (Option Fault) :=
  [faults.interface, faults.orchestrator, faults.implStub]

/-- `path.write_text(content, encoding="utf-8")`; `none` when it raises. -/
def writeText (t : OutputTree) (path : FilePath) (content : String) (fault : Option Fault) :
    Option Unit × OutputTree :=
  if h : t.CanWrite path then
    match fault with
    | none => (some (), t.put path content h)
    | some .refused => (none, t)
    | some (.cut left) => (none, t.put path left h)
  else (none, t)

/-- The file's path, `(uc_dir / gf.path).resolve()`. -/
def GeneratedFile.target (dir : FilePath) (file : GeneratedFile) : FilePath :=
  (dir.join file.path.toList).resolve

/-- `uc_dir / "__init__.py"` -/
def initFile (dir : FilePath) : FilePath := dir ++ ["__init__.py".toList]

/-- `str(target).startswith(str(uc_dir_resolved) + "/")` -/
def Inside (dir target : FilePath) : Prop := dir.text ++ ['/'] <+: target.text

instance (dir target : FilePath) : Decidable (Inside dir target) :=
  inferInstanceAs (Decidable (_ <+: _))

/-- The loop of `_generate_validated_usecase` over the generated files, each with what fails when
it is written. An error removes the files that were written. -/
def writeFiles {ε : Type} (dir : FilePath) : List (GeneratedFile × Option Fault) → OutputTree →
    List FilePath → GenerationResult → Except (GenerationError ε) GenerationResult × OutputTree
  | [], t, _, result => (.ok result, t)
  | (file, fault) :: files, t, written, result =>
    let target := file.target dir
    if ¬Inside dir.resolve target then
      (.error (.valueError ("Generated path escapes output directory: " ++ file.path)),
        t.unlinkAll written)
    else if t.Exists target ∧ file.overwrite = false then
      writeFiles dir files t written
        { result with filesSkipped := result.filesSkipped ++ [String.ofList target.text] }
    else
      match writeText t target file.content fault with
      | (none, t) => (.error .osError, t.unlinkAll written)
      | (some (), t) =>
        writeFiles dir files t (written ++ [target])
          { result with filesWritten := result.filesWritten ++ [String.ofList target.text] }

/-! ### The engine -/

/-- `GeneratorEngine`, whose output directory is absolute and resolved -/
structure GeneratorEngine (ε : Type) where
  registry : SpecRegistry
  plugin : GeneratorPlugin ε
  outputDir : FilePath
  resolved : ∀ part ∈ outputDir, IsSegment part ∧ part ≠ ['.', '.']

namespace GeneratorEngine

variable {ε : Type} (engine : GeneratorEngine ε)

/-- `_validate_plugin_support` -/
def validatePluginSupport (uc : UseCaseSpec) : Except (GenerationError ε) Unit :=
  match engine.plugin.validateSpec with
  | some validateSpec => (validateSpec uc engine.registry).mapError .plugin
  | none => .ok ()

/-- The files of a use case, in the order in which they are written. -/
def generatedFiles (uc : UseCaseSpec) : Except ε (List GeneratedFile) := do
  let interface ← engine.plugin.generateInterface uc engine.registry
  let orchestrator ← engine.plugin.generateOrchestrator uc engine.registry
  let implStub ← engine.plugin.generateImplStub uc engine.registry
  pure [interface, orchestrator, implStub]

variable [Lowercase]

/-- `uc_dir` -/
def usecaseDir (uc : UseCaseSpec) : FilePath :=
  engine.outputDir.join (safeModuleName uc.metadata.name)

/-- `_generate_validated_usecase` -/
def generateValidatedUsecase (uc : UseCaseSpec) (faults : Faults) (t : OutputTree) :
    Except (GenerationError ε) GenerationResult × OutputTree :=
  let dir := engine.usecaseDir uc
  match if faults.directory then none else t.makeDirectories dir with
  | none => (.error .osError, t)
  | some t =>
    let init := initFile dir
    match if t.Exists init then (some (), t) else writeText t init "" faults.init with
    | (none, t) => (.error .osError, t)
    | (some (), t) =>
      match engine.generatedFiles uc with
      | .error e => (.error (.plugin e), t)
      | .ok files => writeFiles dir (files.zip faults.files) t [] ⟨uc.metadata.name, [], []⟩

/-- `generate_usecase` -/
def generateUsecase (uc : UseCaseSpec) (faults : Faults) (t : OutputTree) :
    Except (GenerationError ε) GenerationResult × OutputTree :=
  match engine.validatePluginSupport uc with
  | .error e => (.error e, t)
  | .ok () => engine.generateValidatedUsecase uc faults t

/-- The use cases, generated one after the other. -/
def generateEach (faults : String → Faults) : List UseCaseSpec → OutputTree →
    Except (GenerationError ε) (List GenerationResult) × OutputTree
  | [], t => (.ok [], t)
  | uc :: ucs, t =>
    match engine.generateValidatedUsecase uc (faults uc.metadata.name) t with
    | (.error e, t) => (.error e, t)
    | (.ok result, t) =>
      match generateEach faults ucs t with
      | (.error e, t) => (.error e, t)
      | (.ok results, t) => (.ok (result :: results), t)

/-- `generate_all`; what fails may depend on the use case -/
def generateAll (faults : String → Faults) (t : OutputTree) :
    Except (GenerationError ε) (List GenerationResult) × OutputTree :=
  match engine.registry.usecases.forM engine.validatePluginSupport with
  | .error e => (.error e, t)
  | .ok () => engine.generateEach faults engine.registry.usecases t

end GeneratorEngine

end Ucf.Spec
