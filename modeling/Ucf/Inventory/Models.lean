import Ucf.Errors
import Ucf.Inventory.Scalars
import Ucf.Ir.Models
import Ucf.Library.Dict

/-! Inventory records: what was found in a repository, where, and how. -/

namespace Ucf

def inventoryVersion : String := "1.0.0"

theorem inventoryVersion_valid : stringConstraints 0 none matchVersion inventoryVersion = none := by
  decide

def inventoryCapability : String := "org.ucf.adapter.inventory"

theorem inventoryCapability_valid : (stringConstraints 3 (some 255) fun cs =>
    let parts := splitOn '.' cs
    2 ≤ parts.length && parts.all (matchName fun c => c = '-')) inventoryCapability = none := by
  decide

def inventorySchemaUri : String := "urn:ucf:schema:inventory:1.0.0"

def pathIdentity : String := "unicode-nfc-ascii-casefold-1"

def ignorePolicyVersion : String := "1.0.0"

def maxIgnoreRules : Nat := 256

def maxInventoryDiagnostics : Nat := 10000

/-- `MAX_REQUESTS_PER_SESSION - 2` -/
def maxInventoryRecords : Nat := 65534

/-- `ucf.adapter_protocol.CapabilitySelection` -/
structure CapabilitySelection where
  name : QualifiedName
  version : NormalizedVersion
deriving DecidableEq

instance : Model CapabilitySelection :=
  .record (.lit "kind" "capability" <| .required "name" <| .required "version" .nil)
    (fun c => (c.name, c.version, ())) (fun (name, version, ()) => ⟨name, version⟩)

inductive FactKind where
  | apiDescription
  | buildManifest
  | publicInterface
  | repositoryEntry
  | testAsset
deriving DecidableEq, Repr

def FactKind.value : FactKind → String
  | apiDescription => "api_description"
  | buildManifest => "build_manifest"
  | publicInterface => "public_interface"
  | repositoryEntry => "repository_entry"
  | testAsset => "test_asset"

/-- `tuple(FactKind)` -/
def FactKind.all : List FactKind :=
  [.apiDescription, .buildManifest, .publicInterface, .repositoryEntry, .testAsset]

instance : Model FactKind := .enum FactKind.all FactKind.value

inductive InventoryRecordKind where
  | apiDescription
  | buildManifest
  | inventoryDiagnostic
  | inventoryIgnoreMatch
  | inventoryProvenance
  | publicInterface
  | repositoryEntry
  | testAsset
deriving DecidableEq, Repr

namespace InventoryRecordKind

def value : InventoryRecordKind → String
  | apiDescription => "api_description"
  | buildManifest => "build_manifest"
  | inventoryDiagnostic => "inventory_diagnostic"
  | inventoryIgnoreMatch => "inventory_ignore_match"
  | inventoryProvenance => "inventory_provenance"
  | publicInterface => "public_interface"
  | repositoryEntry => "repository_entry"
  | testAsset => "test_asset"

/-- `_RECORD_PREFIX_BY_KIND` -/
def recordPrefix : InventoryRecordKind → RecordPrefix
  | apiDescription => .api
  | buildManifest => .manifest
  | inventoryDiagnostic => .diagnostic
  | inventoryIgnoreMatch => .ignore
  | inventoryProvenance => .provenance
  | publicInterface => .interface
  | repositoryEntry => .entry
  | testAsset => .test

end InventoryRecordKind

instance : Model InventoryRecordKind :=
  .enum [.apiDescription, .buildManifest, .inventoryDiagnostic, .inventoryIgnoreMatch,
    .inventoryProvenance, .publicInterface, .repositoryEntry, .testAsset]
    InventoryRecordKind.value

/-- Whether a part of a repository was examined in full. -/
inductive CoverageStatus where
  | complete
  | partial_
deriving DecidableEq, Repr

def CoverageStatus.value : CoverageStatus → String
  | complete => "complete"
  | partial_ => "partial"

instance : Model CoverageStatus := .enum [.complete, .partial_] CoverageStatus.value

inductive Severity where
  | info
  | warning
  | error
deriving DecidableEq, Repr

def Severity.value : Severity → String
  | info => "info"
  | warning => "warning"
  | error => "error"

instance : Model Severity := .enum [.info, .warning, .error] Severity.value

inductive EntryKind where
  | directory
  | file
  | symlink
deriving DecidableEq, Repr

def EntryKind.value : EntryKind → String
  | directory => "directory"
  | file => "file"
  | symlink => "symlink"

instance : Model EntryKind := .enum [.directory, .file, .symlink] EntryKind.value

structure InventoryRecordRef where
  targetKind : InventoryRecordKind
  targetId : InventoryRecordId
deriving DecidableEq

instance : Model InventoryRecordRef :=
  .record (.lit "kind" "inventory_record_ref" <| .required "target_kind" <|
      .required "target_id" .nil)
    (fun r => (r.targetKind, r.targetId, ())) (fun (kind, id, ()) => ⟨kind, id⟩)

structure InventoryConfidence where
  value : ConfidenceValue
  basis : VersionedURI
deriving DecidableEq

instance : Model InventoryConfidence :=
  .record (.lit "kind" "confidence" <| .lit "scale" "decimal-0-to-1" <| .required "value" <|
      .required "basis" .nil)
    (fun c => (c.value, c.basis, ())) (fun (value, basis, ()) => ⟨value, basis⟩)

/-- The end of a source span does not precede its start. -/
def isSpanOrdered (startLine startColumn endLine endColumn : SafeNat 1) : Prop :=
  startLine.val < endLine.val ∨ (startLine.val = endLine.val ∧ startColumn.val ≤ endColumn.val)

instance (startLine startColumn endLine endColumn : SafeNat 1) :
    Decidable (isSpanOrdered startLine startColumn endLine endColumn) :=
  inferInstanceAs (Decidable (_ ∨ _))

structure SourceSpan where
  startLine : SafeNat 1
  startColumn : SafeNat 1
  endLine : SafeNat 1
  endColumn : SafeNat 1
  ordered : isSpanOrdered startLine startColumn endLine endColumn
deriving DecidableEq

instance : Model SourceSpan :=
  .recordWhere (.lit "kind" "source_span" <| .required "start_line" <|
      .required "start_column" <| .required "end_line" <| .required "end_column" .nil)
    (fun (sl, sc, el, ec, ()) => isSpanOrdered sl sc el ec)
    (fun s => ⟨(s.startLine, s.startColumn, s.endLine, s.endColumn, ()), s.ordered⟩)
    (fun ⟨(sl, sc, el, ec, ()), h⟩ => ⟨sl, sc, el, ec, h⟩)

section Records

variable [Unicodedata]

/-- `PathPrefixMatcher` and `PathSegmentMatcher` -/
inductive IgnoreMatcher where
  | pathPrefix (path : PrefixPath)
  | pathSegment (segment : PathSegment)
deriving DecidableEq

def IgnoreMatcher.kind : IgnoreMatcher → String
  | pathPrefix _ => "path_prefix"
  | pathSegment _ => "path_segment"

/-- `_matcher_value` -/
def IgnoreMatcher.value : IgnoreMatcher → String
  | pathPrefix path => path.val
  | pathSegment segment => segment.val

instance : Model IgnoreMatcher where
  schema := .iso (.oneOf
      (.case "path_prefix" (.record (.lit "kind" "path_prefix" <| .required "path" .nil)
          (by simp)) (fun _ => rfl)
        (.case "path_segment" (.record (.lit "kind" "path_segment" <| .required "segment" .nil)
          (by simp)) (fun _ => rfl) .nil (of_decide_eq_false rfl)) (of_decide_eq_false rfl)))
    (fun
      | .pathPrefix path => .inl (path, ())
      | .pathSegment segment => .inr (.inl (segment, ())))
    (fun
      | .inl (path, ()) => .pathPrefix path
      | .inr (.inl (segment, ())) => .pathSegment segment)
    (by rintro (_ | _) <;> rfl) (by rintro (_ | _ | _) <;> first | rfl | contradiction)
  notNull
    | .pathPrefix _ => nofun
    | .pathSegment _ => nofun

structure IgnoreRule where
  id : Identifier
  reason : QualifiedName
  matcher : IgnoreMatcher
deriving DecidableEq

instance : Model IgnoreRule :=
  .record (.lit "kind" "ignore_rule" <| .required "id" <| .required "reason" <|
      .required "matcher" .nil)
    (fun r => (r.id, r.reason, r.matcher, ())) (fun (id, reason, matcher, ()) => ⟨id, reason, matcher⟩)

/-- `_portable_path_key` -/
def portablePathKey (path : String) : List Char :=
  path.toList.map fun c => if 'A' ≤ c ∧ c ≤ 'Z' then c.toLower else c

/-- `IgnorePolicy.validate_rules`: identifiers are unique and in order, matchers are unique. -/
def validIgnoreRules (rules : List IgnoreRule) : Prop :=
  let ids := rules.map IgnoreRule.id
  let identities := rules.map fun rule => (rule.matcher.kind, portablePathKey rule.matcher.value)
  ids.Nodup ∧ ids = sortedBy id ids ∧ identities.Nodup

instance (rules : List IgnoreRule) : Decidable (validIgnoreRules rules) :=
  inferInstanceAs (Decidable (_ ∧ _ ∧ _))

structure IgnorePolicy where
  rules : Tuple 0 maxIgnoreRules IgnoreRule
  valid : validIgnoreRules rules.items
deriving DecidableEq

instance : Model IgnorePolicy :=
  .recordWhere (.lit "kind" "ignore_policy" <| .lit "policy_version" ignorePolicyVersion <|
      .required "rules" .nil)
    (fun (rules, ()) => validIgnoreRules rules.items) (fun p => ⟨(p.rules, ()), p.valid⟩)
    (fun ⟨(rules, ()), h⟩ => ⟨rules, h⟩)

structure InventoryProvenance where
  id : InventoryRecordId
  sourcePath : RepositoryPath
  contentDigest : Option Digest
  sourceSpan : Option SourceSpan
  producer : Producer
  procedureUri : VersionedURI
  spanHasContent : sourceSpan ≠ none → contentDigest ≠ none
deriving DecidableEq

instance : Model InventoryProvenance :=
  .recordWhere (.lit "kind" "inventory_provenance" <| .required "id" <|
      .required "source_path" <| .nullable "content_digest" <| .nullable "source_span" <|
      .required "producer" <| .required "procedure_uri" .nil)
    (fun (_, _, digest, span, _, _, ()) => span ≠ none → digest ≠ none)
    (fun p => ⟨(p.id, p.sourcePath, p.contentDigest, p.sourceSpan, p.producer, p.procedureUri, ()),
      p.spanHasContent⟩)
    (fun ⟨(id, path, digest, span, producer, uri, ()), h⟩ =>
      ⟨id, path, digest, span, producer, uri, h⟩)

/-- `RepositoryEntryFact.validate_entry_coordinates` -/
def validEntryCoordinates (entryKind : EntryKind) (sizeBytes : Option (SafeNat 0))
    (contentDigest symlinkTargetDigest : Option Digest) : Prop :=
  match entryKind with
  | .directory => sizeBytes = none ∧ contentDigest = none ∧ symlinkTargetDigest = none
  | .file => sizeBytes ≠ none ∧ contentDigest ≠ none ∧ symlinkTargetDigest = none
  | .symlink => sizeBytes = none ∧ contentDigest = none ∧ symlinkTargetDigest ≠ none

instance (entryKind : EntryKind) (sizeBytes : Option (SafeNat 0))
    (contentDigest symlinkTargetDigest : Option Digest) :
    Decidable (validEntryCoordinates entryKind sizeBytes contentDigest symlinkTargetDigest) := by
  cases entryKind <;> exact inferInstanceAs (Decidable (_ ∧ _ ∧ _))

structure RepositoryEntryFact where
  id : InventoryRecordId
  provenance : InventoryRecordRef
  confidence : InventoryConfidence
  path : RepositoryPath
  entryKind : EntryKind
  sizeBytes : Option (SafeNat 0)
  contentDigest : Option Digest
  symlinkTargetDigest : Option Digest
  valid : validEntryCoordinates entryKind sizeBytes contentDigest symlinkTargetDigest
deriving DecidableEq

instance : Model RepositoryEntryFact :=
  .recordWhere (.required "id" <| .lit "level" "observed" <| .required "provenance" <|
      .required "confidence" <| .lit "kind" "repository_entry" <| .required "path" <|
      .required "entry_kind" <| .nullable "size_bytes" <| .nullable "content_digest" <|
      .nullable "symlink_target_digest" .nil)
    (fun (_, _, _, _, kind, size, content, symlink, ()) =>
      validEntryCoordinates kind size content symlink)
    (fun e => ⟨(e.id, e.provenance, e.confidence, e.path, e.entryKind, e.sizeBytes,
      e.contentDigest, e.symlinkTargetDigest, ()), e.valid⟩)
    (fun ⟨(id, provenance, confidence, path, kind, size, content, symlink, ()), h⟩ =>
      ⟨id, provenance, confidence, path, kind, size, content, symlink, h⟩)

structure BuildManifestFact where
  id : InventoryRecordId
  provenance : InventoryRecordRef
  confidence : InventoryConfidence
  entry : InventoryRecordRef
  dialectUri : URI
deriving DecidableEq

instance : Model BuildManifestFact :=
  .record (.required "id" <| .lit "level" "observed" <| .required "provenance" <|
      .required "confidence" <| .lit "kind" "build_manifest" <| .required "entry" <|
      .required "dialect_uri" .nil)
    (fun f => (f.id, f.provenance, f.confidence, f.entry, f.dialectUri, ()))
    (fun (id, provenance, confidence, entry, uri, ()) => ⟨id, provenance, confidence, entry, uri⟩)

structure PublicInterfaceFact where
  id : InventoryRecordId
  provenance : InventoryRecordRef
  confidence : InventoryConfidence
  entry : InventoryRecordRef
  interfaceKindUri : URI
  name : ShortText
  container : Option ShortText
  declarationDigest : Digest
deriving DecidableEq

instance : Model PublicInterfaceFact :=
  .record (.required "id" <| .lit "level" "observed" <| .required "provenance" <|
      .required "confidence" <| .lit "kind" "public_interface" <| .required "entry" <|
      .required "interface_kind_uri" <| .required "name" <| .nullable "container" <|
      .required "declaration_digest" .nil)
    (fun f => (f.id, f.provenance, f.confidence, f.entry, f.interfaceKindUri, f.name,
      f.container, f.declarationDigest, ()))
    (fun (id, provenance, confidence, entry, uri, name, container, digest, ()) =>
      ⟨id, provenance, confidence, entry, uri, name, container, digest⟩)

structure TestAssetFact where
  id : InventoryRecordId
  provenance : InventoryRecordRef
  confidence : InventoryConfidence
  entry : InventoryRecordRef
  testKindUri : URI
  name : Option ShortText
deriving DecidableEq

instance : Model TestAssetFact :=
  .record (.required "id" <| .lit "level" "observed" <| .required "provenance" <|
      .required "confidence" <| .lit "kind" "test_asset" <| .required "entry" <|
      .required "test_kind_uri" <| .nullable "name" .nil)
    (fun f => (f.id, f.provenance, f.confidence, f.entry, f.testKindUri, f.name, ()))
    (fun (id, provenance, confidence, entry, uri, name, ()) =>
      ⟨id, provenance, confidence, entry, uri, name⟩)

structure ApiDescriptionFact where
  id : InventoryRecordId
  provenance : InventoryRecordRef
  confidence : InventoryConfidence
  entry : InventoryRecordRef
  dialectUri : URI
  declaredVersion : Option ShortText
deriving DecidableEq

instance : Model ApiDescriptionFact :=
  .record (.required "id" <| .lit "level" "observed" <| .required "provenance" <|
      .required "confidence" <| .lit "kind" "api_description" <| .required "entry" <|
      .required "dialect_uri" <| .nullable "declared_version" .nil)
    (fun f => (f.id, f.provenance, f.confidence, f.entry, f.dialectUri, f.declaredVersion, ()))
    (fun (id, provenance, confidence, entry, uri, version, ()) =>
      ⟨id, provenance, confidence, entry, uri, version⟩)

structure InventoryDiagnostic where
  id : InventoryRecordId
  severity : Severity
  code : QualifiedName
  factKind : Option FactKind
  path : Option RepositoryPath
  stage : SemanticToken
  message : ShortText
  provenance : Option InventoryRecordRef
deriving DecidableEq

instance : Model InventoryDiagnostic :=
  .record (.lit "kind" "inventory_diagnostic" <| .required "id" <| .required "severity" <|
      .required "code" <| .nullable "fact_kind" <| .nullable "path" <| .required "stage" <|
      .required "message" <| .nullable "provenance" .nil)
    (fun d => (d.id, d.severity, d.code, d.factKind, d.path, d.stage, d.message, d.provenance, ()))
    (fun (id, severity, code, kind, path, stage, message, provenance, ()) =>
      ⟨id, severity, code, kind, path, stage, message, provenance⟩)

structure InventoryIgnoreMatch where
  id : InventoryRecordId
  ruleId : Identifier
  path : RepositoryPath
deriving DecidableEq

instance : Model InventoryIgnoreMatch :=
  .record (.lit "kind" "inventory_ignore_match" <| .required "id" <| .required "rule_id" <|
      .required "path" .nil)
    (fun m => (m.id, m.ruleId, m.path, ())) (fun (id, ruleId, path, ()) => ⟨id, ruleId, path⟩)

inductive InventoryRecord where
  | apiDescription (record : ApiDescriptionFact)
  | buildManifest (record : BuildManifestFact)
  | inventoryDiagnostic (record : InventoryDiagnostic)
  | inventoryIgnoreMatch (record : InventoryIgnoreMatch)
  | inventoryProvenance (record : InventoryProvenance)
  | publicInterface (record : PublicInterfaceFact)
  | repositoryEntry (record : RepositoryEntryFact)
  | testAsset (record : TestAssetFact)
deriving DecidableEq

namespace InventoryRecord

def id : InventoryRecord → InventoryRecordId
  | apiDescription r => r.id
  | buildManifest r => r.id
  | inventoryDiagnostic r => r.id
  | inventoryIgnoreMatch r => r.id
  | inventoryProvenance r => r.id
  | publicInterface r => r.id
  | repositoryEntry r => r.id
  | testAsset r => r.id

/-- `_record_kind` -/
def kind : InventoryRecord → InventoryRecordKind
  | apiDescription _ => .apiDescription
  | buildManifest _ => .buildManifest
  | inventoryDiagnostic _ => .inventoryDiagnostic
  | inventoryIgnoreMatch _ => .inventoryIgnoreMatch
  | inventoryProvenance _ => .inventoryProvenance
  | publicInterface _ => .publicInterface
  | repositoryEntry _ => .repositoryEntry
  | testAsset _ => .testAsset

/-- `_fact_kind` -/
def factKind : InventoryRecord → Option FactKind
  | apiDescription _ => some .apiDescription
  | buildManifest _ => some .buildManifest
  | publicInterface _ => some .publicInterface
  | repositoryEntry _ => some .repositoryEntry
  | testAsset _ => some .testAsset
  | _ => none

end InventoryRecord

instance : Model InventoryRecord :=
  .oneOf (.variant "api_description" <| .variant "build_manifest" <|
      .variant "inventory_diagnostic" <| .variant "inventory_ignore_match" <|
      .variant "inventory_provenance" <| .variant "public_interface" <|
      .variant "repository_entry" <| .variant "test_asset" .nil)
    (fun
      | .apiDescription r => .inl r
      | .buildManifest r => .inr (.inl r)
      | .inventoryDiagnostic r => .inr (.inr (.inl r))
      | .inventoryIgnoreMatch r => .inr (.inr (.inr (.inl r)))
      | .inventoryProvenance r => .inr (.inr (.inr (.inr (.inl r))))
      | .publicInterface r => .inr (.inr (.inr (.inr (.inr (.inl r)))))
      | .repositoryEntry r => .inr (.inr (.inr (.inr (.inr (.inr (.inl r))))))
      | .testAsset r => .inr (.inr (.inr (.inr (.inr (.inr (.inr (.inl r))))))))
    (fun
      | .inl r => .apiDescription r
      | .inr (.inl r) => .buildManifest r
      | .inr (.inr (.inl r)) => .inventoryDiagnostic r
      | .inr (.inr (.inr (.inl r))) => .inventoryIgnoreMatch r
      | .inr (.inr (.inr (.inr (.inl r)))) => .inventoryProvenance r
      | .inr (.inr (.inr (.inr (.inr (.inl r))))) => .publicInterface r
      | .inr (.inr (.inr (.inr (.inr (.inr (.inl r)))))) => .repositoryEntry r
      | .inr (.inr (.inr (.inr (.inr (.inr (.inr (.inl r))))))) => .testAsset r)

structure InventoryCoverage where
  factKind : FactKind
  status : CoverageStatus
  recordCount : SafeNat 0
deriving DecidableEq

instance : Model InventoryCoverage :=
  .record (.lit "kind" "inventory_coverage" <| .required "fact_kind" <| .required "status" <|
      .required "record_count" .nil)
    (fun c => (c.factKind, c.status, c.recordCount, ()))
    (fun (kind, status, count, ()) => ⟨kind, status, count⟩)

end Records

end Ucf
