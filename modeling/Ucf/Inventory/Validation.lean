import Ucf.Inventory.Models
import Ucf.Library.JsonText

/-! Inventory snapshots: the identifiers derived from record contents, the source revision, and the
validation of a snapshot's records against each other. -/

namespace Ucf

variable [Unicodedata] [Hashlib]

/-! ### Identities -/

/-- `derive_inventory_record_id` -/
def deriveInventoryRecordId (record : InventoryRecord) : InventoryRecordId :=
  ⟨record.kind.recordPrefix, identityDigest ((modelDump record).exclude ["id"])⟩

/-- `_record_key` -/
def recordKey (record : InventoryRecord) : String ×ₗ InventoryRecordId :=
  toLex (record.kind.value, record.id)

/-- `_semantic_fact_identity`; texts with sorted keys are equal when the values are. -/
def semanticFactIdentity (record : InventoryRecord) : InventoryRecordKind × Json :=
  (record.kind, ((modelDump record).exclude ["confidence", "id", "level", "provenance"]).canonical)

/-- `_diagnostic_identity` -/
def diagnosticIdentity (record : InventoryDiagnostic) : Json :=
  ((modelDump record).exclude ["id", "message"]).canonical

def InventoryRecord.entry? : InventoryRecord → Option RepositoryEntryFact
  | .repositoryEntry entry => some entry
  | _ => none

def InventoryRecord.interface? : InventoryRecord → Option PublicInterfaceFact
  | .publicInterface fact => some fact
  | _ => none

def InventoryRecord.diagnostic? : InventoryRecord → Option InventoryDiagnostic
  | .inventoryDiagnostic diagnostic => some diagnostic
  | _ => none

def InventoryRecord.ignoreMatch? : InventoryRecord → Option InventoryIgnoreMatch
  | .inventoryIgnoreMatch ignored => some ignored
  | _ => none

def InventoryRecord.provenance? : InventoryRecord → Option InventoryProvenance
  | .inventoryProvenance provenance => some provenance
  | _ => none

/-- The provenance that a record refers to. -/
def InventoryRecord.provenanceRef? : InventoryRecord → Option InventoryRecordRef
  | .apiDescription r => some r.provenance
  | .buildManifest r => some r.provenance
  | .publicInterface r => some r.provenance
  | .repositoryEntry r => some r.provenance
  | .testAsset r => some r.provenance
  | .inventoryDiagnostic r => r.provenance
  | _ => none

/-- The entry that a classification fact refers to. -/
def InventoryRecord.entryRef? : InventoryRecord → Option InventoryRecordRef
  | .apiDescription r => some r.entry
  | .buildManifest r => some r.entry
  | .publicInterface r => some r.entry
  | .testAsset r => some r.entry
  | _ => none

/-- A JSON value or null. -/
def dumpOrNull {α : Type} [Model α] : Option α → Json
  | some a => modelDump a
  | none => .null

/-- `derive_inventory_source_revision` -/
def deriveInventorySourceRevision (records : List InventoryRecord) : Digest :=
  let entries := sortedBy (fun entry : RepositoryEntryFact => entry.path.val)
    (records.filterMap InventoryRecord.entry?)
  let failures := (records.filterMap InventoryRecord.diagnostic?).filter fun record =>
    record.severity = .error ∧
      (record.factKind = none ∨ record.factKind = some .repositoryEntry)
  let entryProjections := entries.map fun entry => Json.obj [
    ("content_digest", dumpOrNull entry.contentDigest),
    ("entry_kind", modelDump entry.entryKind),
    ("path", modelDump entry.path),
    ("read_status", .str "observed"),
    ("size_bytes", dumpOrNull entry.sizeBytes),
    ("symlink_target_digest", dumpOrNull entry.symlinkTargetDigest)]
  let failureProjections := failures.map fun record => Json.obj [
    ("code", modelDump record.code),
    ("fact_kind", dumpOrNull record.factKind),
    ("path", dumpOrNull record.path),
    ("severity", modelDump record.severity),
    ("stage", modelDump record.stage)]
  ⟨identityDigest (.obj [
    ("entries", .arr entryProjections),
    ("failures", .arr (sortedBy Json.canonicalLine failureProjections))])⟩

/-! ### The checks of a snapshot -/

/-- `_matching_rule_ids`, the identifiers of the rules that a path matches -/
def matchingRuleIds (policy : IgnorePolicy) (path : List Char) : List Identifier :=
  let parts := if path = ['.'] then [] else posixParts path
  (policy.rules.items.filter fun rule =>
    match rule.matcher with
    | .pathPrefix given =>
      given.val.toList = ['.'] || path = given.val.toList ||
        (given.val.toList ++ ['/']).isPrefixOf path
    | .pathSegment segment => segment.val.toList ∈ parts).map IgnoreRule.id

/-- `str(PurePosixPath(path).parent)` -/
def posixParent (path : List Char) : List Char :=
  match (posixParts path).dropLast with
  | [] => ['.']
  | parts => ['/'].intercalate parts

/-- `_resolve_ref` -/
def resolveRef (reference : InventoryRecordRef) (records : Dict InventoryRecordId InventoryRecord)
    (expected : InventoryRecordKind) : Except String InventoryRecord :=
  match records.get? reference.targetId with
  | some target =>
    if reference.targetKind = expected ∧ target.kind = expected then .ok target
    else .error "inventory reference is broken or has wrong kind"
  | none => .error "inventory reference is broken or has wrong kind"

/-- `_validate_record_id` -/
def validateRecordId (record : InventoryRecord) : Except String Unit := do
  require (record.id.recordPrefix = record.kind.recordPrefix)
    "inventory record ID prefix does not match its kind"
  require (record.id = deriveInventoryRecordId record)
    "inventory record ID is not derived from its semantic identity"

/-- `_validate_snapshot_header` of a snapshot with all its records -/
def validateSnapshotHeader (capability : CapabilitySelection) (coverage : List InventoryCoverage)
    (records : List InventoryRecord) : Except String Unit := do
  require (capability.name.val = inventoryCapability ∧ capability.version.val = inventoryVersion)
    "inventory snapshot capability coordinates are incompatible"
  require (coverage.map InventoryCoverage.factKind = FactKind.all)
    "inventory coverage must contain every fact kind"
  require (∀ item ∈ coverage, item.recordCount.val =
      records.countP fun record => record.factKind = some item.factKind)
    "inventory coverage counts do not match records"
  let errors := (records.filterMap InventoryRecord.diagnostic?).filter fun record =>
    record.severity = .error
  let isPartial := fun kind =>
    errors.any (fun record => record.factKind = none) ||
      errors.any fun record => record.factKind = some kind
  require (∀ item ∈ coverage, item.status = .partial_ ↔ isPartial item.factKind)
    "inventory coverage status does not match error diagnostics"

/-- The identities that the loop over the records has met. -/
structure SeenIdentities where
  facts : List (InventoryRecordKind × Json)
  diagnostics : List Json
  ignored : List String

/-- The checks of a fact's provenance and entry. -/
def validateFact (policy : IgnorePolicy) (byId : Dict InventoryRecordId InventoryRecord)
    (record : InventoryRecord) (provenance : InventoryProvenance) : Except String Unit :=
  match record with
  | .repositoryEntry entry => do
    require (provenance.sourcePath = entry.path) "repository entry provenance path does not match"
    let expectedDigest := match entry.entryKind with
      | .file => entry.contentDigest
      | .symlink => entry.symlinkTargetDigest
      | .directory => none
    require (provenance.contentDigest = expectedDigest)
      "repository entry provenance digest does not match"
    require (provenance.sourceSpan = none) "repository entry provenance cannot have a source span"
    require (matchingRuleIds policy entry.path.val.toList = [])
      "repository entry records evidence below an ignored path"
  | record =>
    match record.entryRef? with
    | none => .ok ()
    | some reference => do
      let target ← resolveRef reference byId .repositoryEntry
      match target.entry? with
      | none => .error "assertion_error"
      | some entry =>
        require (entry.entryKind = .file) "inventory classification facts must reference a file"
        require (provenance.sourcePath = entry.path) "fact provenance path differs from its entry"
        require (provenance.contentDigest = entry.contentDigest)
          "fact provenance digest differs from its file entry"

/-- The body of the loop of `_validate_records` -/
def validateRecord (policy : IgnorePolicy) (producer : Producer)
    (byId : Dict InventoryRecordId InventoryRecord) (seen : SeenIdentities)
    (record : InventoryRecord) : Except String SeenIdentities := do
  validateRecordId record
  match record with
  | .inventoryProvenance provenance =>
    require (provenance.producer = producer) "inventory provenance producer differs from snapshot"
    require (matchingRuleIds policy provenance.sourcePath.val.toList = [])
      "inventory provenance records evidence below an ignored path"
    pure seen
  | .inventoryDiagnostic diagnostic =>
    let identity := diagnosticIdentity diagnostic
    require (identity ∉ seen.diagnostics) "diagnostic semantic coordinates must be unique"
    require (∀ path, diagnostic.path = some path → matchingRuleIds policy path.val.toList = [])
      "inventory diagnostic records evidence below an ignored path"
    match diagnostic.provenance with
    | none => pure ()
    | some reference =>
      let target ← resolveRef reference byId .inventoryProvenance
      match target.provenance? with
      | none => throw "assertion_error"
      | some provenance =>
        require (diagnostic.path = some provenance.sourcePath)
          "diagnostic provenance path does not match"
    pure { seen with diagnostics := identity :: seen.diagnostics }
  | .inventoryIgnoreMatch ignored =>
    require (ignored.ruleId ∈ policy.rules.items.map IgnoreRule.id)
      "ignore match references an unknown policy rule"
    let matching := matchingRuleIds policy ignored.path.val.toList
    require (ignored.ruleId ∈ matching) "ignore match path does not match its policy rule"
    require (∀ id ∈ matching, ignored.ruleId.val ≤ id.val)
      "ignore match must use the canonical rule for its pruned path"
    require (ignored.path.val ∉ seen.ignored)
      "each pruned path must have exactly one ignore match"
    pure { seen with ignored := ignored.path.val :: seen.ignored }
  | fact =>
    match fact.provenanceRef? with
    | none => pure seen
    | some reference =>
      let target ← resolveRef reference byId .inventoryProvenance
      match target.provenance? with
      | none => throw "assertion_error"
      | some provenance =>
        let identity := semanticFactIdentity fact
        require (identity ∉ seen.facts) "inventory facts must have unique semantic identities"
        validateFact policy byId fact provenance
        pure { seen with facts := identity :: seen.facts }

/-- `"/".join(parts[:index])` for every index from one on -/
def posixPrefixes (path : List Char) : List (List Char) :=
  (posixParts path).inits.tail.map fun parts => ['/'].intercalate parts

/-- The checks of `_validate_records` on repository entries and pruned paths. -/
def validateTopology (policy : IgnorePolicy) (records : List InventoryRecord) :
    Except String Unit := do
  let entries := records.filterMap InventoryRecord.entry?
  let paths : List String := entries.map fun entry => entry.path.val
  require paths.Nodup "repository entry paths must be unique"
  require (paths.map portablePathKey).Nodup "repository path identity collision"
  let entriesByPath := Dict.index (fun entry : RepositoryEntryFact => entry.path.val.toList) entries
  let isDirectory := fun path =>
    (entriesByPath.get? path).any fun entry => entry.entryKind = .directory
  require (isDirectory ['.']) "repository inventory must contain a root directory entry"
  require (∀ entry ∈ entries, entry.path.val ≠ "." → isDirectory (posixParent entry.path.val.toList))
    "repository entry parent must exist and be a directory"
  let ignoreMatches := records.filterMap InventoryRecord.ignoreMatch?
  require (ignoreMatches.map fun ignored => portablePathKey ignored.path.val).Nodup
    "ignore match path identity collision"
  require (∀ ignored ∈ ignoreMatches,
      let path := ignored.path.val.toList
      ((posixPrefixes path).find? fun pre => matchingRuleIds policy pre ≠ []) = some path ∧
        isDirectory (posixParent path))
    "ignore match is not a topology-bound minimal pruned path"

/-- `_validate_records` -/
def validateRecords (records : List InventoryRecord) (producer : Producer) (policy : IgnorePolicy)
    (sourceRevision : Digest) : Except String Unit := do
  require (records.map InventoryRecord.id).Nodup "inventory record IDs must be unique"
  require (records.map recordKey = sortedBy id (records.map recordKey))
    "inventory records must be canonically sorted"
  require ((records.filterMap InventoryRecord.diagnostic?).length ≤ maxInventoryDiagnostics)
    "inventory diagnostics exceed the profile limit"
  let byId := Dict.index InventoryRecord.id records
  let _ ← records.foldlM (validateRecord policy producer byId) ⟨[], [], []⟩
  validateTopology policy records
  let referenced : List InventoryRecordId := (records.filterMap InventoryRecord.provenanceRef?).map
    fun reference => reference.targetId
  let provenanceIds : List InventoryRecordId := (records.filterMap InventoryRecord.provenance?).map
    fun provenance => provenance.id
  require (provenanceIds ⊆ referenced ∧ referenced ⊆ provenanceIds)
    "inventory contains orphan provenance"
  require (sourceRevision = deriveInventorySourceRevision records)
    "inventory source revision is not derived from repository entries"

/-- `InventorySnapshot.validate_snapshot` -/
def validateSnapshot (sourceRevision : Digest) (producer : Producer)
    (capability : CapabilitySelection) (policy : IgnorePolicy) (coverage : List InventoryCoverage)
    (records : List InventoryRecord) : Except String Unit := do
  validateSnapshotHeader capability coverage records
  validateRecords records producer policy sourceRevision

/-- Everything that an inventory found, for one state of the repository. -/
structure InventorySnapshot where
  subjectUri : InventorySubjectURI
  sourceRevision : Digest
  producer : Producer
  capability : CapabilitySelection
  appliedPolicy : IgnorePolicy
  coverage : List InventoryCoverage
  records : Tuple 0 maxInventoryRecords InventoryRecord
  valid : validateSnapshot sourceRevision producer capability appliedPolicy coverage
    records.items = .ok ()

instance : Model InventorySnapshot :=
  .recordWhere (.lit "kind" "inventory_snapshot" <| .lit "inventory_version" inventoryVersion <|
      .lit "schema_uri" inventorySchemaUri <| .required "subject_uri" <|
      .lit "path_identity" pathIdentity <| .required "source_revision" <| .required "producer" <|
      .required "capability" <| .required "applied_policy" <| .required "coverage" <|
      .required "records" .nil)
    (fun (_, revision, producer, capability, policy, coverage, records, ()) =>
      validateSnapshot revision producer capability policy coverage records.items = .ok ())
    (fun s => ⟨(s.subjectUri, s.sourceRevision, s.producer, s.capability, s.appliedPolicy,
      s.coverage, s.records, ()), s.valid⟩)
    (fun ⟨(uri, revision, producer, capability, policy, coverage, records, ()), h⟩ =>
      ⟨uri, revision, producer, capability, policy, coverage, records, h⟩)

/-- `canonical_inventory_json(document)`, as the JSON value that is written -/
def canonicalInventoryDigest (inventory : InventorySnapshot) : Digest :=
  ⟨identityDigest (modelDump inventory)⟩

end Ucf
