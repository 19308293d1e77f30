import Ucf.Ratchet.V1.Closed

/-! The contents of inventory records: what is left of a record without its identifier, its path and
its source span, with what its references lead to. The normal form of a record is its content. -/

namespace Ucf.V1

variable [Unicodedata]

/-- The content of a repository entry. -/
structure EntryContent where
  confidence : InventoryConfidence
  entryKind : EntryKind
  sizeBytes : Option (SafeNat 0)
  contentDigest : Option Digest
  symlinkTargetDigest : Option Digest
  provenance : Option Digest

/-- What a classification fact says of its file. -/
inductive FactShape where
  | apiDescription (dialectUri : URI) (declaredVersion : Option ShortText)
  | buildManifest (dialectUri : URI)
  | publicInterface (interfaceKindUri : URI) (name : ShortText) (container : Option ShortText)
    (declarationDigest : Digest)
  | testAsset (testKindUri : URI) (name : Option ShortText)

/-- The content of a record. -/
inductive RecordContent where
  | provenance (digest : Option Digest)
  | entry (content : EntryContent)
  | fact (confidence : InventoryConfidence) (shape : FactShape) (content : EntryContent)
    (digest : Option Digest)

def entryContent (entry : RepositoryEntryFact) (provenance : InventoryProvenance) : EntryContent :=
  ⟨entry.confidence, entry.entryKind, entry.sizeBytes, entry.contentDigest,
    entry.symlinkTargetDigest, provenance.contentDigest⟩

/-- The confidence and the shape of a classification fact. -/
def factContent? : InventoryRecord → Option (InventoryConfidence × FactShape)
  | .apiDescription r => some (r.confidence, .apiDescription r.dialectUri r.declaredVersion)
  | .buildManifest r => some (r.confidence, .buildManifest r.dialectUri)
  | .publicInterface r => some (r.confidence,
      .publicInterface r.interfaceKindUri r.name r.container r.declarationDigest)
  | .testAsset r => some (r.confidence, .testAsset r.testKindUri r.name)
  | _ => none

/-- A record, with the records that it refers to, and its content. -/
inductive HasContent (records : List InventoryRecord) : InventoryRecord → RecordContent → Prop
  | provenance (provenance : InventoryProvenance) :
    HasContent records (.inventoryProvenance provenance) (.provenance provenance.contentDigest)
  | entry {entry : RepositoryEntryFact} {provenance : InventoryProvenance}
    (hmem : .inventoryProvenance provenance ∈ records)
    (hid : entry.provenance.targetId = provenance.id) :
    HasContent records (.repositoryEntry entry) (.entry (entryContent entry provenance))
  | fact {fact : InventoryRecord} {entryRef provenanceRef : InventoryRecordRef}
    {confidence : InventoryConfidence} {shape : FactShape} {entry : RepositoryEntryFact}
    {entryProvenance provenance : InventoryProvenance}
    (hshape : factContent? fact = some (confidence, shape))
    (hentryRef : fact.entryRef? = some entryRef)
    (hprovenanceRef : fact.provenanceRef? = some provenanceRef)
    (hentryMem : .repositoryEntry entry ∈ records) (hentryId : entryRef.targetId = entry.id)
    (hentryProvenance : .inventoryProvenance entryProvenance ∈ records)
    (hentryProvenanceId : entry.provenance.targetId = entryProvenance.id)
    (hmem : .inventoryProvenance provenance ∈ records)
    (hid : provenanceRef.targetId = provenance.id) :
    HasContent records fact (.fact confidence shape (entryContent entry entryProvenance)
      provenance.contentDigest)

/-! ### The normal form of a content -/

def provenanceJson (digest : Option Digest) : Json :=
  .obj [("kind", .str "inventory_provenance"), ("content_digest", dumpOrNull digest)]

def EntryContent.json (c : EntryContent) : Json :=
  .obj [("confidence", modelDump c.confidence), ("kind", .str "repository_entry"),
    ("entry_kind", modelDump c.entryKind), ("size_bytes", dumpOrNull c.sizeBytes),
    ("content_digest", dumpOrNull c.contentDigest),
    ("symlink_target_digest", dumpOrNull c.symlinkTargetDigest),
    ("provenance_content", provenanceJson c.provenance)]

/-- The fields of a shape. -/
def FactShape.fields : FactShape → List (String × Json)
  | apiDescription dialectUri declaredVersion => [("kind", .str "api_description"),
      ("dialect_uri", modelDump dialectUri), ("declared_version", dumpOrNull declaredVersion)]
  | buildManifest dialectUri =>
      [("kind", .str "build_manifest"), ("dialect_uri", modelDump dialectUri)]
  | publicInterface interfaceKindUri name container declarationDigest =>
      [("kind", .str "public_interface"), ("interface_kind_uri", modelDump interfaceKindUri),
        ("name", modelDump name), ("container", dumpOrNull container),
        ("declaration_digest", modelDump declarationDigest)]
  | testAsset testKindUri name => [("kind", .str "test_asset"),
      ("test_kind_uri", modelDump testKindUri), ("name", dumpOrNull name)]

def RecordContent.json : RecordContent → Json
  | .provenance digest => provenanceJson digest
  | .entry content => content.json
  | .fact confidence shape content digest =>
    .obj (("confidence", modelDump confidence) :: (shape.fields ++
      [("entry", content.json), ("provenance_content", provenanceJson digest)]))

section Injective

omit [Unicodedata]

theorem modelDump_inj {α : Type} [Model α] {a b : α} : modelDump a = modelDump b ↔ a = b :=
  ⟨fun h => modelDump_injective (h ▸ Json.Same.refl _), fun h => h ▸ rfl⟩

theorem dumpOrNull_inj {α : Type} [Model α] {a b : Option α} :
    dumpOrNull a = dumpOrNull b ↔ a = b := by
  cases a with
  | none =>
    cases b with
    | none => simp
    | some b => exact iff_of_false (Ne.symm (Model.notNull b)) (by simp)
  | some a =>
    cases b with
    | none => exact iff_of_false (Model.notNull a) (by simp)
    | some b => simpa [dumpOrNull] using modelDump_inj

theorem provenanceJson_inj {a b : Option Digest} : provenanceJson a = provenanceJson b ↔ a = b := by
  simp [provenanceJson, dumpOrNull_inj]

theorem EntryContent.json_inj {c d : EntryContent} : c.json = d.json ↔ c = d := by
  cases c
  cases d
  simp [EntryContent.json, modelDump_inj, dumpOrNull_inj, provenanceJson_inj]

theorem RecordContent.json_injective : Function.Injective RecordContent.json := by
  intro c d h
  cases c with
  | provenance digest =>
    cases d with
    | provenance => simpa [RecordContent.json, provenanceJson_inj] using h
    | entry => simp [RecordContent.json, provenanceJson, EntryContent.json] at h
    | fact => simp [RecordContent.json, provenanceJson] at h
  | entry content =>
    cases d with
    | provenance => simp [RecordContent.json, provenanceJson, EntryContent.json] at h
    | entry => simpa [RecordContent.json, EntryContent.json_inj] using h
    | fact _ shape =>
      cases shape <;> simp [RecordContent.json, EntryContent.json, FactShape.fields] at h
  | fact confidence shape entry provenance =>
    cases d with
    | provenance => simp [RecordContent.json, provenanceJson] at h
    | entry => cases shape <;> simp [RecordContent.json, EntryContent.json, FactShape.fields] at h
    | fact confidence' shape' entry' provenance' =>
      cases shape <;> cases shape' <;>
        simp [RecordContent.json, FactShape.fields, modelDump_inj, dumpOrNull_inj,
          provenanceJson_inj, EntryContent.json_inj] at h ⊢ <;> simp [h]

end Injective

/-! ### Contents and normal forms -/

theorem entryForm_eq (entry : RepositoryEntryFact) (provenance : InventoryProvenance) :
    entryForm entry provenance = (entryContent entry provenance).json := by
  obtain ⟨id, reference, confidence, path, kind, size, content, symlink, valid⟩ := entry
  obtain ⟨_, _, digest, _, _, _, _⟩ := provenance
  cases size <;> cases content <;> cases symlink <;> rfl

theorem factForm_eq {fact : InventoryRecord} {confidence : InventoryConfidence} {shape : FactShape}
    (h : factContent? fact = some (confidence, shape)) (content : EntryContent)
    (provenance : InventoryProvenance) : factForm fact content.json provenance =
      (RecordContent.fact confidence shape content provenance.contentDigest).json := by
  cases fact
  case inventoryProvenance | repositoryEntry | inventoryDiagnostic | inventoryIgnoreMatch =>
    cases h
  case apiDescription r =>
    obtain ⟨_, _, _, _, _, version⟩ := r
    cases h
    cases version <;> rfl
  case buildManifest r =>
    cases h
    rfl
  case publicInterface r =>
    obtain ⟨_, _, _, _, _, _, container, _⟩ := r
    cases h
    cases container <;> rfl
  case testAsset r =>
    obtain ⟨_, _, _, _, _, name⟩ := r
    cases h
    cases name <;> rfl

variable {records : List InventoryRecord} {record : InventoryRecord}

/-- The normal form of a record is the JSON form of its content. -/
theorem HasContent.normalizes {content : RecordContent} (h : HasContent records record content) :
    Normalizes records record content.json := by
  cases h with
  | provenance provenance => exact .provenance provenance
  | @entry entry provenance hmem hid =>
    rw [RecordContent.json, ← entryForm_eq]
    exact .entry hmem hid
  | @fact _ _ _ _ _ entry entryProvenance _ hshape hentryRef hprovenanceRef hentryMem hentryId
      hentryProvenance hentryProvenanceId hmem hid =>
    rw [← factForm_eq hshape, ← entryForm_eq]
    exact .fact hentryRef hprovenanceRef hentryMem hentryId
      (.entry hentryProvenance hentryProvenanceId) hmem hid

theorem exists_hasContent {form : Json} (h : Normalizes records record form) :
    ∃ content, HasContent records record content := by
  cases h with
  | provenance provenance => exact ⟨_, .provenance provenance⟩
  | entry hmem hid => exact ⟨_, .entry hmem hid⟩
  | @fact _ _ _ _ form _ hentryRef hprovenanceRef hentryMem hentryId hentry hmem hid =>
    have hshape : ∃ confidence shape, factContent? record = some (confidence, shape) := by
      cases record
      case inventoryProvenance | repositoryEntry | inventoryDiagnostic | inventoryIgnoreMatch =>
        cases hentryRef
      all_goals exact ⟨_, _, rfl⟩
    obtain ⟨confidence, shape, hshape⟩ := hshape
    cases hentry with
    | entry hentryProvenance hentryProvenanceId =>
      exact ⟨_, .fact hshape hentryRef hprovenanceRef hentryMem hentryId hentryProvenance
        hentryProvenanceId hmem hid⟩
    | fact hnone => cases hnone

theorem HasContent.kind_ne {content : RecordContent} (h : HasContent records record content) :
    record.kind ≠ .inventoryDiagnostic ∧ record.kind ≠ .inventoryIgnoreMatch := by
  cases h with
  | provenance => simp [InventoryRecord.kind]
  | entry => simp [InventoryRecord.kind]
  | fact _ hentryRef =>
    cases record <;> simp [InventoryRecord.kind, InventoryRecord.entryRef?] at hentryRef ⊢

end Ucf.V1
