import Mathlib.Data.Finset.Sort
import Mathlib.Data.List.Lex
import Ucf.Generation.Validation
import Ucf.Library.ListedTree

/-! The trees in which generated files are published: how a tree is staged, and how an existing tree
is read. No other process acts on a tree here, so that nothing changes between two looks at it. -/

namespace Ucf.Generation

/-- `GENERATION_RECEIPT_NAME` -/
def generationReceiptName : String := ".ucf-generation-result.json"

/-- `GenerationPublicationErrorCode` -/
inductive GenerationPublicationErrorCode where
  | committedCleanupFailed
  | committedDurabilityUnknown
  | destinationConflict
  | invalidPriorTree
  | publishFailed
  | unsafeFilesystem
  | unsupportedPlatform
deriving DecidableEq, Repr

/-- What the operating system refuses. -/
inductive FileError where
  | fileExists
  | notDirectory
  | notFound
  | symbolicLink
  | invalidName
deriving DecidableEq, Repr

inductive PublicationError where
  | publication (code : GenerationPublicationErrorCode) (message location : String)
  | os (error : FileError)
  | raised (error : GenerationError)
deriving DecidableEq

/-- What stands at a path that is not a directory: a regular file with its number of links, a
symbolic link, or something else. -/
inductive FileEntry where
  | regular (links : Nat) (content : List UInt8)
  | symlink
  | special
deriving DecidableEq

/-- The names that an entry of a directory can have. -/
def IsEntryName (name : String) : Prop :=
  name ≠ "" ∧ name ≠ "." ∧ name ≠ ".." ∧ '/' ∉ name.toList ∧ Char.ofNat 0 ∉ name.toList

instance : DecidablePred IsEntryName := fun _ =>
  inferInstanceAs (Decidable (_ ∧ _ ∧ _ ∧ _ ∧ _))

abbrev GeneratedTree : Type := ListedTree IsEntryName FileEntry

instance (t : GeneratedTree) (path : List String) (name : String) :
    Decidable (t.CanAdd path name) :=
  inferInstanceAs (Decidable (_ ∧ _ ∧ _))

/-! ### Writing -/

/-- `os.mkdir(name, dir_fd=...)` and `os.open(name, O_CREAT | O_EXCL, dir_fd=...)`: add an entry to a
directory -/
def addEntry (t : GeneratedTree) (path : List String) (name : String) (entry : Node FileEntry) :
    Except FileError GeneratedTree :=
  if t.node (path ++ [name]) ≠ none then .error .fileExists
  else if h : t.CanAdd path name then .ok (t.add path name entry h)
  else .error .invalidName

/-- `os.mkdir(name, dir_fd=...)`, where `FileExistsError` is passed over -/
def makeDirectory (t : GeneratedTree) (path : List String) (name : String) :
    Except FileError GeneratedTree :=
  match addEntry t path name .directory with
  | .error .fileExists => .ok t
  | made => made

/-- The loop of `_write_relative_file` over the directories of a path -/
def enterDirectories (t : GeneratedTree) (path : List String) :
    List String → Except FileError (GeneratedTree × List String)
  | [] => .ok (t, path)
  | segment :: segments => do
    let t ← makeDirectory t path segment
    require (t.IsDirectory (path ++ [segment])) .notDirectory
    enterDirectories t (path ++ [segment]) segments

/-- `_write_relative_file` -/
def writeRelativeFile (t : GeneratedTree) (relative : String) (content : List UInt8) :
    Except FileError GeneratedTree := do
  let segments := splitPath relative
  let (t, path) ← enterDirectories t [] segments.dropLast
  addEntry t path (segments.getLastD "") (.file (.regular 1 content))

section Documents

variable [Hashlib]

/-- `_write_staged_tree`, into an empty directory -/
def writeStagedTree (result : GenerationResult) : Except PublicationError GeneratedTree := do
  let t ← result.files.items.foldlM (fun t item =>
    (writeRelativeFile t item.path.val (utf8Encode item.content.val.toList)).mapError .os) .empty
  let receipt ← (canonicalGenerationJson result).mapError .raised
  (writeRelativeFile t generationReceiptName receipt).mapError .os

/-! ### Reading -/

/-- `f"$destination/{relative}"` -/
def destination (relative : String) : String := "$destination/" ++ relative

/-- What `_scan_tree` asks of an entry -/
def scanEntry (t : GeneratedTree) (path : List String) : Except PublicationError Unit :=
  let location := destination (joinPath path)
  match t.node path with
  | some (.file .symlink) => .error (.publication .unsafeFilesystem
      "generation destination contains a symbolic link" location)
  | some (.file .special) => .error (.publication .unsafeFilesystem
      "generation destination contains a non-regular entry" location)
  | some (.file (.regular links _)) => require (links = 1) (.publication .unsafeFilesystem
      "generation destination file has more than one hard link" location)
  | _ => .ok ()

/-- `_scan_tree`: the paths of the entries, which are looked at in the order of their names -/
def scanTree (t : GeneratedTree) : Except PublicationError (Finset String) := do
  checkEach (fun (_ : Nat) path => scanEntry t path) ((t.paths.erase []).sort (· ≤ ·))
  pure ((t.paths.erase []).image joinPath)

/-- `_receipt_tree_entries` -/
def receiptTreeEntries (receipt : GenerationResult) : Finset String :=
  insert generationReceiptName
    (receipt.files.items.flatMap fun item => item.path.val :: ancestors item.path.val).toFinset

/-- The loop of `_read_regular_file` over the directories of a path -/
def openDirectories (t : GeneratedTree) (path : List String) :
    List String → Except PublicationError (List String)
  | [] => .ok path
  | segment :: segments => do
    require (t.IsDirectory (path ++ [segment])) (.os .notDirectory)
    openDirectories t (path ++ [segment]) segments

/-- `_read_regular_file` -/
def readRegularFile (t : GeneratedTree) (relative : String) :
    Except PublicationError (List UInt8) := do
  let segments := splitPath relative
  let path ← openDirectories t [] segments.dropLast
  let unsafeFile : PublicationError := .publication .unsafeFilesystem
    "generation destination file is not a single-link regular file" (destination relative)
  match t.node (path ++ [segments.getLastD ""]) with
  | none => .error (.os .notFound)
  | some (.file .symlink) => .error (.os .symbolicLink)
  | some (.file (.regular links content)) => do
    require (links = 1) unsafeFile
    pure content
  | some _ => .error unsafeFile

/-- `except ValueError`, of a receipt that cannot be parsed -/
def receiptError : GenerationError → PublicationError
  | .generation _ _ _ | .embedded (.ir _ _ _) | .embedded (.validation _) | .profile _ =>
    .publication .invalidPriorTree "generation destination receipt is invalid"
      (destination generationReceiptName)
  | error => .raised error

/-- `_read_existing_tree` -/
def readExistingTree (t : GeneratedTree) : Except PublicationError GenerationResult := do
  let actual ← scanTree t
  require (generationReceiptName ∈ actual) (.publication .invalidPriorTree
    "generation destination has no exact UCF receipt" "$destination")
  let bytes ← readRegularFile t generationReceiptName
  let receipt ← (parseGenerationResultJson bytes).mapError receiptError
  require (actual = receiptTreeEntries receipt) (.publication .invalidPriorTree
    "generation destination differs from its complete receipt" "$destination")
  checkEach (fun (_ : Nat) (item : GeneratedFile) => do
    let bytes ← readRegularFile t item.path.val
    require (bytes = utf8Encode item.content.val.toList) (.publication .invalidPriorTree
      "generated file differs from its receipt" (destination item.path.val))) receipt.files.items
  pure receipt

end Documents

end Ucf.Generation
