import Ucf.Change.Openspec
import Ucf.Ir.RoundTrip
import Ucf.Library.FileTree

/-! Importing an OpenSpec change from a directory tree, and exporting a proposal as one. Aliases,
hard links and files that change while they are read are not part of a tree. -/

namespace Ucf

/-- `ucf.change_lifecycle.errors.ChangeLifecycleErrorCode` -/
inductive ChangeLifecycleErrorCode where
  | brokenReference
  | contentIdentityMismatch
  | cyclicDependency
  | destinationConflict
  | documentIdentityMismatch
  | duplicateIdentity
  | duplicateJsonMember
  | evidenceContextInvalid
  | evidenceNotPassed
  | incompleteCoverage
  | incompleteDelta
  | incompleteTasks
  | invalidJson
  | invalidStructure
  | invalidTransition
  | nonCanonicalOrder
  | publishFailed
  | sourceChanged
  | unsafeFilesystem
  | unsupportedEvidenceProfile
  | unsupportedOpenspecProfile
  | wrongTargetKind
deriving DecidableEq, Repr

/-- `ucf.change_lifecycle.errors.ChangeLifecycleValidationError` -/
structure ChangeLifecycleError where
  code : ChangeLifecycleErrorCode
  message : String
  location : String
deriving DecidableEq, Repr

/-- `_fail` -/
def ChangeLifecycleError.filesystem (code : ChangeLifecycleErrorCode) (message : String) :
    ChangeLifecycleError :=
  ⟨code, message, "$filesystem"⟩

/-! ### Documents -/

/-- What `_parse_change_document` raises for a text that is not strict JSON. -/
def decodeError : PyError → ChangeLifecycleError
  | .ir .duplicateJsonMember message _ => ⟨.duplicateJsonMember, message, "$"⟩
  | .ir _ message _ => ⟨.invalidJson, message, "$"⟩
  | _ => ⟨.invalidJson, "", "$"⟩

/-- What `_parse_change_document` raises for a document that does not fit the model. -/
def structureError (issues : List Issue) : ChangeLifecycleError :=
  match issues with
  | issue :: _ => ⟨.invalidStructure, issue.type, formatLocation issue.loc⟩
  | [] => ⟨.invalidStructure, "", "$"⟩

/-- `_parse_change_document` -/
def parseChangeDocument {α : Type} [Model α] (payload : List Char) :
    Except ChangeLifecycleError α := do
  let decoded ← (decodeStrictJsonObject payload).mapError decodeError
  (modelValidate decoded : Except (List Issue) α).mapError structureError

/-- `_IR_ERROR_CODES`, with the code for all others -/
def behaviorErrorCode : IRErrorCode → ChangeLifecycleErrorCode
  | .brokenReference => .brokenReference
  | .documentIdentityMismatch => .documentIdentityMismatch
  | .duplicateCapability | .duplicateIdentity | .duplicateReference => .duplicateIdentity
  | .wrongTargetKind => .wrongTargetKind
  | _ => .invalidStructure

/-- What `validate_behavior_document` raises. -/
def behaviorError (location : String) : PyError → ChangeLifecycleError
  | .ir code message nested =>
    ⟨behaviorErrorCode code, message, location ++ String.ofList (nested.toList.drop 1)⟩
  | _ => ⟨.invalidStructure, "invalid Behavior IR structure", location⟩

/-- `validate_behavior_document` -/
def validateBehaviorDocument (document : BehaviorIR) (location : String) :
    Except ChangeLifecycleError Unit := do
  let _ ← (parseIrJson (canonicalIrJson document)).mapError (behaviorError location)

/-- `_behavior_ref` -/
def behaviorDocumentRef [Hashlib] (document : BehaviorIR) : BehaviorDocumentRef :=
  ⟨document.documentId, ⟨canonicalIrDigest document⟩⟩

section Proposals

variable [PyYaml] [HashlibBytes]

/-- `parse_change_proposal_json` -/
def parseChangeProposalJson (payload : List Char) : Except ChangeLifecycleError ChangeProposal :=
  parseChangeDocument payload

/-- `canonical_change_lifecycle_json` of a proposal -/
def canonicalChangeLifecycleJson (proposal : ChangeProposal) :
    Except ChangeLifecycleError (List Char) := do
  let encoded := (modelDump proposal).canonicalLine
  let _ ← parseChangeProposalJson encoded
  pure encoded

/-- `validate_change_proposal` -/
def validateChangeProposal [Hashlib] (proposal : ChangeProposal) (baseBehavior : BehaviorIR) :
    Except ChangeLifecycleError Unit := do
  let _ ← canonicalChangeLifecycleJson proposal
  validateBehaviorDocument baseBehavior "$.base_behavior"
  require (proposal.baseBehavior = behaviorDocumentRef baseBehavior)
    ⟨.documentIdentityMismatch, "proposal base behavior does not match the supplied document",
      "$.base_behavior"⟩

end Proposals

/-! ### Reading a tree -/

instance : DecidablePred IsSegment := fun part =>
  decidable_of_iff (part ≠ [] ∧ part ≠ ['.'] ∧ '/' ∉ part)
    ⟨fun ⟨h₁, h₂, h₃⟩ => ⟨h₁, h₂, h₃⟩, fun h => ⟨h.notEmpty, h.notDot, h.noSlash⟩⟩

/-- A directory tree of an OpenSpec workspace. -/
abbrev OpenSpecTree : Type := FileTree IsSegment (List UInt8)

/-- `_read_stable_regular_file` -/
def readStableRegularFile (content : List UInt8) : Except ChangeLifecycleError (List UInt8) := do
  require (content.length ≤ maxOpenspecArtifactBytes)
    (.filesystem .invalidStructure "OpenSpec artifact exceeds the byte limit")
  pure content

/-- `_walk_regular_files`: the files below a directory, in the order of their segments -/
def walkRegularFiles (tree : OpenSpecTree) (root : Path) :
    Except ChangeLifecycleError (List (Path × List UInt8)) := do
  let files := tree.files.filterMap fun file =>
    (relativeTo? root file.1).map fun relative => (relative, file.2)
  checkEach (fun position file => do
    let _ ← readStableRegularFile file.2
    require (position + 1 ≤ maxOpenspecArtifacts)
      (.filesystem .invalidStructure "OpenSpec artifact count exceeds the profile limit")) files
  pure files

/-- `_validate_real_directory_chain`, from the workspace root on -/
def validateRealDirectoryChain (tree : OpenSpecTree) (path : Path) :
    Except ChangeLifecycleError Unit :=
  checkEach (fun _ component => do
    require (tree.isDirectory component ∨ (tree.read? component).isSome)
      (.filesystem .unsafeFilesystem "OpenSpec change path component is not safely accessible")
    require (tree.isDirectory component) (.filesystem .unsafeFilesystem
      "OpenSpec change path must contain only real directories, not aliases")) path.inits.tail

/-- `_read_optional_regular_file` -/
def readOptionalRegularFile (tree : OpenSpecTree) (path : Path) :
    Except ChangeLifecycleError (Option (List UInt8)) :=
  match path.inits.tail.dropLast.find? fun parent => tree.isDirectory parent = false with
  | some parent =>
    if (tree.read? parent).isSome then
      throw (.filesystem .unsafeFilesystem "OpenSpec artifact parent must be a real directory")
    else pure none
  | none =>
    match tree.read? path with
    | some content => some <$> readStableRegularFile content
    | none =>
      if tree.isDirectory path then
        throw (.filesystem .unsafeFilesystem "OpenSpec artifact must be a real regular file")
      else pure none

/-! ### Import -/

section Exchange

variable [HashlibBytes]

/-- `_artifact` -/
def artifactOf (path : Path) (role : OpenSpecArtifactRole) (content : List UInt8) :
    Except ChangeLifecycleError OpenSpecArtifact :=
  let text := String.ofList (posixText path)
  let mediaType := artifactMediaType path
  let encoded := String.ofList (b64encode content)
  let digest : Digest := ⟨HashlibBytes.sha256Bytes content⟩
  if h : (andThenString (stringConstraints 1 (some 1024) fun _ => true)
        (fun s => isRelativePath s.toList) text = none) ∧
      (stringConstraints 0 (some maxOpenspecArtifactBase64) (fun _ => true) encoded = none) ∧
      validateArtifactContent mediaType encoded.toList digest = .ok () then
    .ok ⟨⟨text, h.1⟩, role, mediaType, ⟨encoded, h.2.1⟩, digest, h.2.2⟩
  else .error (.filesystem .invalidStructure
    "OpenSpec artifact does not satisfy the closed profile")

/-- The body of the loop over the files of a change -/
def importChangeFile (change : Path) (file : Path × List UInt8) :
    Except ChangeLifecycleError OpenSpecArtifact := do
  let role := (artifactMetadata (change ++ file.1) change).1
  require (¬ (file.1.head? = some "specs".toList ∧ posixSuffix file.1 = ".md".toList ∧
      role ≠ .deltaSpec))
    (.filesystem .unsupportedOpenspecProfile
      "nested or noncanonical delta-spec layout is unsupported")
  require (role = .deltaSpec → file.1.length = 3 ∧ file.1[2]? = some "spec.md".toList)
    (.filesystem .unsupportedOpenspecProfile
      "nested or noncanonical delta-spec layout is unsupported")
  artifactOf (change ++ file.1) role file.2

/-- The capability of a delta spec, `delta_capabilities.add(parts[1])` -/
def deltaCapability? (change relative : Path) : Option (List Char) :=
  if (artifactMetadata (change ++ relative) change).1 = .deltaSpec then relative[1]? else none

/-- An artifact that may be missing -/
def importOptional (tree : OpenSpecTree) (path : Path) (role : OpenSpecArtifactRole) :
    Except ChangeLifecycleError (List OpenSpecArtifact) := do
  match ← readOptionalRegularFile tree path with
  | some content => pure [← artifactOf path role content]
  | none => pure []

variable [PyYaml]

def OpenSpecProfileError.toLifecycle : OpenSpecProfileError → ChangeLifecycleError
  | invalid message => .filesystem .invalidStructure message
  | unsupported message => .filesystem .unsupportedOpenspecProfile message

/-- `ChangeProposal(...)` of the imported artifacts -/
def proposalOf (changeId : List Char) (baseBehavior : BehaviorDocumentRef)
    (artifacts : List OpenSpecArtifact) : Except ChangeLifecycleError ChangeProposal :=
  let invalid : ChangeLifecycleError := .filesystem .invalidStructure
    "OpenSpec import does not satisfy the closed profile"
  let id := String.ofList changeId
  let text := String.ofList (posixText (changePath changeId))
  if h : (andThenString (stringConstraints 1 (some 1024) fun _ => true)
        (fun s => isRelativePath s.toList) text = none) ∧
      1 ≤ artifacts.length ∧ artifacts.length ≤ maxOpenspecArtifacts ∧
      validateArtifactManifest artifacts = .ok () ∧
      stringConstraints 1 (some 255) matchChangeId id = none then
    let manifest : OpenSpecManifest :=
      ⟨⟨text, h.1⟩, ⟨artifacts, h.2.1, h.2.2.1⟩, h.2.2.2.1⟩
    if hvalid : validateOpenspecIdentity ⟨id, h.2.2.2.2⟩ manifest = .ok () then
      .ok ⟨⟨id, h.2.2.2.2⟩, baseBehavior, manifest, hvalid⟩
    else .error invalid
  else .error invalid

/-- `import_openspec_change` of `changes/<change_id>` below the root of the tree -/
def importOpenspecChange [Hashlib] (tree : OpenSpecTree) (changeId : List Char)
    (baseBehavior : BehaviorIR) : Except ChangeLifecycleError ChangeProposal := do
  validateBehaviorDocument baseBehavior "$.base_behavior"
  let change := changePath changeId
  validateRealDirectoryChain tree change
  let changeFiles ← walkRegularFiles tree change
  let changeArtifacts ← collect (importChangeFile change) changeFiles
  let capabilities := sortedSet (changeFiles.filterMap fun file => deltaCapability? change file.1)
  let configArtifacts ← importOptional tree configPath .projectConfig
  let baseArtifacts ← collect (fun capability =>
    importOptional tree (baseSpecPath capability) .baseSpec) capabilities
  let artifacts := changeArtifacts ++ configArtifacts ++ baseArtifacts.flatten
  require (artifacts.length ≤ maxOpenspecArtifacts)
    (.filesystem .invalidStructure "OpenSpec artifact count exceeds the profile limit")
  let artifacts := sortedBy (fun artifact : OpenSpecArtifact => artifact.path.val) artifacts
  (validateSpecDrivenProfile (profileArtifacts artifacts) change).mapError
    OpenSpecProfileError.toLifecycle
  proposalOf changeId (behaviorDocumentRef baseBehavior) artifacts

/-! ### Export -/

/-- The files of a proposal, `{PurePosixPath(path): content}`, in the order of their segments -/
def expectedFiles (proposal : ChangeProposal) : List (Path × List UInt8) :=
  sortedBy Prod.fst (proposal.openspec.artifacts.items.map fun artifact =>
    (artifact.segments, artifact.content))

/-- `_directory_contents` of a real directory -/
def directoryContents (tree : OpenSpecTree) :
    Except ChangeLifecycleError (List (Path × List UInt8)) :=
  walkRegularFiles tree []

/-- `_write_staged_tree`: every file is created in a new place -/
def writeStagedTree (expected : List (Path × List UInt8)) :
    Except ChangeLifecycleError OpenSpecTree :=
  orRaise ((FileTree.empty : OpenSpecTree).createAll expected)
    (.filesystem .publishFailed "cannot write staged OpenSpec artifact")

/-- `export_openspec_change`: what is at the destination afterwards, and whether it succeeds -/
def exportOpenspecChange (proposal : ChangeProposal) (destination : Option OpenSpecTree) :
    Option OpenSpecTree × Except ChangeLifecycleError Unit :=
  match canonicalChangeLifecycleJson proposal >>= parseChangeProposalJson with
  | .error e => (destination, .error e)
  | .ok proposal =>
    let expected := expectedFiles proposal
    match destination with
    | some existing =>
      (destination, do
        let contents ← directoryContents existing
        require (contents = expected) (.filesystem .destinationConflict
          "existing export destination is not the exact manifest"))
    | none =>
      let staged := do
        let stage ← writeStagedTree expected
        let contents ← directoryContents stage
        require (contents = expected) (.filesystem .publishFailed
          "staged OpenSpec tree differs from the proposal manifest")
        pure stage
      match staged with
      | .error e => (destination, .error e)
      | .ok stage => (some stage, .ok ())

end Exchange

end Ucf
