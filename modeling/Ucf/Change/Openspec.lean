import Ucf.Inventory.Paths
import Ucf.Ir.Trust
import Ucf.Library.Base64
import Ucf.Library.Bytes

/-! OpenSpec changes as proposals: artifacts with their paths, roles and bytes, the manifest of a
change, and the one profile of OpenSpec that is supported. -/

namespace Ucf

def changeLifecycleVersion : String := "1.0.0"

def changeProposalSchemaUri : String := "urn:ucf:change-lifecycle:proposal:1.0.0"

def openspecInteropProfile : String := "fission-ai.openspec/spec-driven@1"

def openspecTestedAgainstVersion : String := "1.6.0"

def maxOpenspecArtifacts : Nat := 256

def maxOpenspecArtifactBytes : Nat := 262144

def maxOpenspecArtifactBase64 : Nat := (maxOpenspecArtifactBytes + 2) / 3 * 4

/-- `hashlib.sha256(content).hexdigest()` of raw bytes -/
class HashlibBytes where
  sha256Bytes : List UInt8 → DigestValue

/-- What `yaml.load` makes of a text: a mapping, with the strings under its string keys, or
something else. -/
inductive YamlDocument where
  | mapping (strings : List (String × String))
  | other

/-- The YAML loader, which may raise. -/
class PyYaml where
  load : List Char → Option YamlDocument

/-- A path as its segments. -/
abbrev Path : Type := List (List Char)

/-- `PurePosixPath(path).suffix` -/
def posixSuffix (path : Path) : List Char :=
  let name := path.getLast?.getD []
  let dot := name.length - 1 - (name.reverse.takeWhile fun c => c ≠ '.').length
  if '.' ∈ name ∧ 0 < dot ∧ dot < name.length - 1 then name.drop dot else []

/-! ### Scalars -/

/-- `^[a-z][a-z0-9]*(?:-[a-z0-9]+)*$` -/
def matchChangeId (cs : List Char) : Bool :=
  (cs.head?.any isLower) &&
    (splitOn '-' cs).all fun part => part ≠ [] && part.all fun c => isLower c || isDigit c

abbrev OpenSpecChangeId : Type := Checked (stringConstraints 1 (some 255) matchChangeId)

/-- `_validate_relative_path` -/
def isRelativePath (cs : List Char) : Bool :=
  Char.ofNat 0 ∉ cs && '\\' ∉ cs && cs.head? ≠ some '/' &&
    (splitOn '/' cs).all fun segment => segment ∉ [[], ['.'], ['.', '.']]

abbrev RelativeArtifactPath : Type :=
  Checked (andThenString (stringConstraints 1 (some 1024) fun _ => true) fun s =>
    isRelativePath s.toList)

abbrev Base64ArtifactContent : Type :=
  Checked (stringConstraints 0 (some maxOpenspecArtifactBase64) fun _ => true)

/-- The segments of an artifact's path. -/
def RelativeArtifactPath.segments (path : RelativeArtifactPath) : Path := posixParts path.val.toList

inductive OpenSpecArtifactRole where
  | projectConfig
  | changeMetadata
  | proposal
  | design
  | tasks
  | deltaSpec
  | baseSpec
  | opaque_
deriving DecidableEq, Repr

namespace OpenSpecArtifactRole

def value : OpenSpecArtifactRole → String
  | projectConfig => "project_config"
  | changeMetadata => "change_metadata"
  | proposal => "proposal"
  | design => "design"
  | tasks => "tasks"
  | deltaSpec => "delta_spec"
  | baseSpec => "base_spec"
  | opaque_ => "opaque"

def all : List OpenSpecArtifactRole :=
  [projectConfig, changeMetadata, proposal, design, tasks, deltaSpec, baseSpec, opaque_]

end OpenSpecArtifactRole

instance : Model OpenSpecArtifactRole := .enum OpenSpecArtifactRole.all OpenSpecArtifactRole.value

inductive ArtifactMediaType where
  | octetStream
  | yaml
  | markdown
  | plain
deriving DecidableEq, Repr

def ArtifactMediaType.value : ArtifactMediaType → String
  | octetStream => "application/octet-stream"
  | yaml => "application/yaml;charset=utf-8"
  | markdown => "text/markdown;charset=utf-8"
  | plain => "text/plain;charset=utf-8"

instance : Model ArtifactMediaType :=
  .enum [.octetStream, .yaml, .markdown, .plain] ArtifactMediaType.value

/-! ### Roles and media types -/

/-- `_artifact_media_type` -/
def artifactMediaType (path : Path) : ArtifactMediaType :=
  let suffix := posixSuffix path
  if suffix = ".yaml".toList ∨ suffix = ".yml".toList then .yaml
  else if suffix = ".md".toList then .markdown
  else if suffix = ".txt".toList then .plain
  else .octetStream

/-- `PurePosixPath("config.yaml")` -/
def configPath : Path := ["config.yaml".toList]

/-- `changes/<change_id>` -/
def changePath (changeId : List Char) : Path := ["changes".toList, changeId]

/-- `specs/<capability>/spec.md` -/
def baseSpecPath (capability : List Char) : Path :=
  ["specs".toList, capability, "spec.md".toList]

/-- A path of the form `specs/<capability>/spec.md` -/
def specCapability? : Path → Option (List Char)
  | [specs, capability, spec] =>
    if specs = "specs".toList ∧ spec = "spec.md".toList then some capability else none
  | _ => none

/-- `_artifact_metadata` -/
def artifactMetadata (path change : Path) : OpenSpecArtifactRole × ArtifactMediaType :=
  let role : OpenSpecArtifactRole :=
    if path = configPath then .projectConfig
    else if path = change ++ [".openspec.yaml".toList] then .changeMetadata
    else if path = change ++ ["proposal.md".toList] then .proposal
    else if path = change ++ ["design.md".toList] then .design
    else if path = change ++ ["tasks.md".toList] then .tasks
    else if path.length = change.length + 3 ∧ path.take change.length = change ∧
        (specCapability? (path.drop change.length)).isSome then .deltaSpec
    else if (specCapability? path).isSome then .baseSpec
    else .opaque_
  (role, artifactMediaType path)

/-! ### The profile -/

/-- `InvalidOpenSpecProfileError` and `UnsupportedOpenSpecProfileError` -/
inductive OpenSpecProfileError where
  | invalid (message : String)
  | unsupported (message : String)
deriving DecidableEq, Repr

/-- What follows the change's path, `PurePosixPath(path).relative_to(change)`. -/
def relativeTo? (change path : Path) : Option Path :=
  if change.isPrefixOf path then some (path.drop change.length) else none

/-- A Markdown file of the delta specs that is not where a delta spec belongs. -/
def isMisplacedDelta (change path : Path) : Bool :=
  (relativeTo? change path).any fun relative =>
    relative.head? = some "specs".toList && posixSuffix path = ".md".toList &&
      (specCapability? relative).isNone

def deltaCapabilities (change : Path) (paths : List Path) : List (List Char) :=
  paths.filterMap fun path => (relativeTo? change path).bind specCapability?

variable [PyYaml]

/-- `validate_spec_driven_profile`, with the content of every path as base64 -/
def validateSpecDrivenProfile (artifacts : List (Path × List Char)) (change : Path) :
    Except OpenSpecProfileError Unit := do
  let paths := artifacts.map Prod.fst
  require (∀ path ∈ paths, isMisplacedDelta change path = false)
    (.unsupported "nested or noncanonical delta-spec layout is unsupported")
  let deltas := deltaCapabilities change paths
  let orphaned := sortedSet ((paths.filterMap specCapability?).filter fun capability =>
    capability ∉ deltas)
  require (orphaned = []) (.unsupported ("base specs require matching delta specs: " ++
    String.ofList ([',', ' '].intercalate orphaned)))
  let contents := Dict.ofList artifacts
  let selected := (contents.get? (change ++ [".openspec.yaml".toList])).or (contents.get? configPath)
  let content ← orRaise selected
    (.unsupported "supported import requires change metadata or config.yaml")
  let bytes ← orRaise (b64decode content) (.invalid "OpenSpec profile metadata is invalid")
  let text ← orRaise (utf8Decode bytes) (.invalid "OpenSpec profile metadata is invalid")
  let parsed ← orRaise (PyYaml.load text) (.invalid "OpenSpec profile metadata is invalid")
  match parsed with
  | .mapping strings =>
    require (("schema", "spec-driven") ∈ strings)
      (.unsupported "only the built-in spec-driven schema is supported")
  | .other => throw (.unsupported "only the built-in spec-driven schema is supported")

variable [HashlibBytes]

/-! ### Artifacts, manifests and proposals -/

/-- `OpenSpecArtifact.validate_content` -/
def validateArtifactContent (mediaType : ArtifactMediaType) (contentBase64 : List Char)
    (byteDigest : Digest) : Except String Unit := do
  let content ← orRaise (b64decode contentBase64)
    "artifact content is not canonical RFC 4648 base64"
  require (b64encode content = contentBase64) "artifact content is not in canonical base64 form"
  require (content.length ≤ maxOpenspecArtifactBytes) "artifact content exceeds the byte limit"
  require (mediaType ≠ .octetStream → (utf8Decode content).isSome)
    "artifact content is not valid UTF-8"
  require (byteDigest.value = HashlibBytes.sha256Bytes content)
    "artifact byte digest does not match its content"

structure OpenSpecArtifact where
  path : RelativeArtifactPath
  role : OpenSpecArtifactRole
  mediaType : ArtifactMediaType
  contentBase64 : Base64ArtifactContent
  byteDigest : Digest
  valid : validateArtifactContent mediaType contentBase64.val.toList byteDigest = .ok ()
deriving DecidableEq

instance : Model OpenSpecArtifact :=
  .recordWhere (.lit "kind" "openspec_artifact" <| .required "path" <| .required "role" <|
      .required "media_type" <| .required "content_base64" <| .required "byte_digest" .nil)
    (fun (_, _, mediaType, content, digest, ()) =>
      validateArtifactContent mediaType content.val.toList digest = .ok ())
    (fun a => ⟨(a.path, a.role, a.mediaType, a.contentBase64, a.byteDigest, ()), a.valid⟩)
    (fun ⟨(path, role, mediaType, content, digest, ()), h⟩ =>
      ⟨path, role, mediaType, content, digest, h⟩)

/-- `base64.b64decode(artifact.content_base64)` -/
def OpenSpecArtifact.content (artifact : OpenSpecArtifact) : List UInt8 :=
  (b64decode artifact.contentBase64.val.toList).getD []

/-- The segments of the artifact's path. -/
def OpenSpecArtifact.segments (artifact : OpenSpecArtifact) : Path := artifact.path.segments

/-- `OpenSpecManifest.validate_artifact_manifest` -/
def validateArtifactManifest (artifacts : List OpenSpecArtifact) : Except String Unit := do
  let paths : List String := artifacts.map fun artifact => artifact.path.val
  require paths.Nodup "OpenSpec manifest contains duplicate paths"
  let segments := artifacts.map OpenSpecArtifact.segments
  require (∀ path ∈ segments, ∀ parent ∈ path.inits.dropLast, parent ∉ segments)
    "OpenSpec manifest contains a file/directory path collision"
  require (paths = sortedBy id paths) "OpenSpec manifest artifacts are not in canonical path order"

structure OpenSpecManifest where
  changePath : RelativeArtifactPath
  artifacts : Tuple 1 maxOpenspecArtifacts OpenSpecArtifact
  valid : validateArtifactManifest artifacts.items = .ok ()
deriving DecidableEq

instance : Model OpenSpecManifest :=
  .recordWhere (.lit "kind" "openspec_manifest" <| .lit "profile" openspecInteropProfile <|
      .lit "tested_against_version" openspecTestedAgainstVersion <| .required "change_path" <|
      .required "artifacts" .nil)
    (fun (_, artifacts, ()) => validateArtifactManifest artifacts.items = .ok ())
    (fun m => ⟨(m.changePath, m.artifacts, ()), m.valid⟩)
    (fun ⟨(path, artifacts, ()), h⟩ => ⟨path, artifacts, h⟩)

/-- The artifacts as the profile sees them. -/
def profileArtifacts (artifacts : List OpenSpecArtifact) : List (Path × List Char) :=
  artifacts.map fun artifact => (artifact.segments, artifact.contentBase64.val.toList)

def OpenSpecProfileError.message : OpenSpecProfileError → String
  | invalid message => message
  | unsupported message => message

/-- `ChangeProposal.validate_openspec_identity` -/
def validateOpenspecIdentity (changeId : OpenSpecChangeId) (openspec : OpenSpecManifest) :
    Except String Unit := do
  let change := changePath changeId.val.toList
  require (openspec.changePath.val.toList = posixText change)
    "OpenSpec change path does not match the stable change ID"
  require ((openspec.artifacts.items.filter fun artifact => artifact.role = .proposal).map
      OpenSpecArtifact.segments = [change ++ ["proposal.md".toList]])
    "OpenSpec manifest must contain exactly the change proposal"
  checkEach (fun _ artifact => do
    let (role, mediaType) := artifactMetadata artifact.segments change
    require (artifact.segments = configPath ∨ role = .baseSpec ∨
        (change.isPrefixOf artifact.segments ∧ artifact.segments ≠ change))
      "OpenSpec artifact is outside the bounded profile paths"
    require (artifact.role = role ∧ artifact.mediaType = mediaType)
      ("OpenSpec artifact role, path, and media type do not match the closed profile: '" ++
        artifact.path.val ++ "'")) openspec.artifacts.items
  (validateSpecDrivenProfile (profileArtifacts openspec.artifacts.items) change).mapError
    OpenSpecProfileError.message

structure ChangeProposal where
  changeId : OpenSpecChangeId
  baseBehavior : BehaviorDocumentRef
  openspec : OpenSpecManifest
  valid : validateOpenspecIdentity changeId openspec = .ok ()

instance : Model ChangeProposal :=
  .recordWhere (.lit "kind" "change_proposal" <|
      .lit "change_lifecycle_version" changeLifecycleVersion <|
      .lit "schema_uri" changeProposalSchemaUri <| .required "change_id" <|
      .required "base_behavior" <| .required "openspec" .nil)
    (fun (changeId, _, openspec, ()) => validateOpenspecIdentity changeId openspec = .ok ())
    (fun p => ⟨(p.changeId, p.baseBehavior, p.openspec, ()), p.valid⟩)
    (fun ⟨(changeId, behavior, openspec, ()), h⟩ => ⟨changeId, behavior, openspec, h⟩)

end Ucf
