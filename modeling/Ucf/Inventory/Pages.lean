import Ucf.Inventory.Structure

/-! Pages of an inventory: some of its records, with the coordinates of all of it and the cursors
where the page begins and ends. -/

namespace Ucf

def inventoryPageSchemaUri : String := "urn:ucf:adapter:inventory-page:1.0.0"

def maxPageRecords : Nat := 256

/-- `MAX_REQUESTS_PER_SESSION - 2` -/
def maxInventoryPages : Nat := 65534

variable [Unicodedata] [Hashlib]

/-- A position in an inventory: after the record with the given kind and identifier. -/
structure InventoryCursor where
  snapshotDigest : Digest
  afterKind : InventoryRecordKind
  afterId : InventoryRecordId
  valid : afterId.recordPrefix = afterKind.recordPrefix
deriving DecidableEq

instance : Model InventoryCursor :=
  .recordWhere (.lit "kind" "inventory_cursor" <| .required "snapshot_digest" <|
      .required "after_kind" <| .required "after_id" .nil)
    (fun (_, kind, id, ()) => id.recordPrefix = kind.recordPrefix)
    (fun c => ⟨(c.snapshotDigest, c.afterKind, c.afterId, ()), c.valid⟩)
    (fun ⟨(digest, kind, id, ()), h⟩ => ⟨digest, kind, id, h⟩)

/-- The cursor's position among record keys. -/
def InventoryCursor.key (cursor : InventoryCursor) : String ×ₗ InventoryRecordId :=
  toLex (cursor.afterKind.value, cursor.afterId)

/-- `_validate_snapshot_header` without records -/
def validatePageHeader (capability : CapabilitySelection) (coverage : List InventoryCoverage) :
    Except String Unit := do
  require (capability.name.val = inventoryCapability ∧ capability.version.val = inventoryVersion)
    "inventory snapshot capability coordinates are incompatible"
  require (coverage.map InventoryCoverage.factKind = FactKind.all)
    "inventory coverage must contain every fact kind"

/-- `InventoryPage.validate_page` -/
def validatePage (snapshotDigest : Digest) (capability : CapabilitySelection)
    (coverage : List InventoryCoverage) (requestCursor : Option InventoryCursor)
    (records : List InventoryRecord) (nextCursor : Option InventoryCursor) (complete : Bool) :
    Except String Unit := do
  validatePageHeader capability coverage
  checkEach (fun _ record => validateRecordId record) records
  let keys := records.map recordKey
  require (keys.Nodup ∧ keys = sortedBy id keys)
    "inventory page records must be unique and canonically sorted"
  require (complete = nextCursor.isNone) "inventory page completion does not match its cursor"
  require (∀ cursor, requestCursor = some cursor → cursor.snapshotDigest = snapshotDigest)
    "inventory page request cursor has a different snapshot"
  require (∀ cursor, requestCursor = some cursor → ∀ first, keys.head? = some first →
      cursor.key < first)
    "inventory page does not advance beyond its request cursor"
  require (∀ cursor, nextCursor = some cursor → ∀ last, records.getLast? = some last →
      cursor.snapshotDigest = snapshotDigest ∧ cursor.afterKind = last.kind ∧
        cursor.afterId = last.id)
    "inventory page cursor does not identify its last record"

/-- A page of an inventory. -/
structure InventoryPage where
  subjectUri : InventorySubjectURI
  sourceRevision : Digest
  snapshotDigest : Digest
  producer : Producer
  capability : CapabilitySelection
  appliedPolicy : IgnorePolicy
  coverage : List InventoryCoverage
  requestCursor : Option InventoryCursor
  records : Tuple 1 maxPageRecords InventoryRecord
  nextCursor : Option InventoryCursor
  complete : Bool
  valid : validatePage snapshotDigest capability coverage requestCursor records.items nextCursor
    complete = .ok ()

/-- `_page_header`, less the coordinates that are the same in every page. -/
structure PageHeader where
  subjectUri : InventorySubjectURI
  sourceRevision : Digest
  snapshotDigest : Digest
  producer : Producer
  capability : CapabilitySelection
  appliedPolicy : IgnorePolicy
  coverage : List InventoryCoverage
deriving DecidableEq

def InventoryPage.header (page : InventoryPage) : PageHeader :=
  ⟨page.subjectUri, page.sourceRevision, page.snapshotDigest, page.producer, page.capability,
    page.appliedPolicy, page.coverage⟩

/-- The header of the pages of an inventory. -/
def InventorySnapshot.header (s : InventorySnapshot) : PageHeader :=
  ⟨s.subjectUri, s.sourceRevision, canonicalInventoryDigest s, s.producer, s.capability,
    s.appliedPolicy, s.coverage⟩

theorem InventoryPage.ext_of_header {page page' : InventoryPage} (hheader : page.header = page'.header)
    (hrequest : page.requestCursor = page'.requestCursor)
    (hrecords : page.records.items = page'.records.items)
    (hnext : page.nextCursor = page'.nextCursor) (hcomplete : page.complete = page'.complete) :
    page = page' := by
  cases page with
  | mk _ _ _ _ _ _ _ _ records _ _ _ =>
    cases page' with
    | mk _ _ _ _ _ _ _ _ records' _ _ _ =>
      cases records
      cases records'
      simp only [InventoryPage.header, PageHeader.mk.injEq] at *
      simp_all

/-- What holds of the records and the cursors of a page. -/
structure ValidPage (snapshotDigest : Digest) (capability : CapabilitySelection)
    (coverage : List InventoryCoverage) (requestCursor : Option InventoryCursor)
    (records : List InventoryRecord) (nextCursor : Option InventoryCursor) (complete : Bool) :
    Prop where
  header : validatePageHeader capability coverage = .ok ()
  ids : ∀ record ∈ records, validateRecordId record = .ok ()
  sorted : SortedKeys recordKey records
  isComplete : complete = nextCursor.isNone
  request_digest : ∀ cursor, requestCursor = some cursor → cursor.snapshotDigest = snapshotDigest
  advances : ∀ cursor, requestCursor = some cursor → ∀ first, (records.map recordKey).head? =
    some first → cursor.key < first
  next_last : ∀ cursor, nextCursor = some cursor → ∀ last, records.getLast? = some last →
    cursor.snapshotDigest = snapshotDigest ∧ cursor.afterKind = last.kind ∧ cursor.afterId = last.id

theorem validatePage_eq_ok {snapshotDigest : Digest} {capability : CapabilitySelection}
    {coverage : List InventoryCoverage} {requestCursor : Option InventoryCursor}
    {records : List InventoryRecord} {nextCursor : Option InventoryCursor} {complete : Bool} :
    validatePage snapshotDigest capability coverage requestCursor records nextCursor complete =
        .ok () ↔
      ValidPage snapshotDigest capability coverage requestCursor records nextCursor complete := by
  have hids : checkEach (fun _ record => validateRecordId record) records = .ok () ↔
      ∀ record ∈ records, validateRecordId record = .ok () :=
    checkEach_eq_ok_of_iff fun _ _ => Iff.rfl
  simp only [validatePage, bind_eq_ok, require_eq_ok, hids, nodup_and_eq_sortedBy_iff,
    ← sortedKeys_iff]
  constructor
  · rintro ⟨_, hheader, _, hids, _, hsorted, _, hcomplete, _, hdigest, _, hadvances, hlast⟩
    exact ⟨hheader, hids, hsorted, hcomplete, hdigest, hadvances, hlast⟩
  · intro h
    exact ⟨(), h.header, (), h.ids, (), h.sorted, (), h.isComplete, (), h.request_digest, (),
      h.advances, h.next_last⟩

theorem InventoryPage.validPage (page : InventoryPage) :
    ValidPage page.snapshotDigest page.capability page.coverage page.requestCursor
      page.records.items page.nextCursor page.complete :=
  validatePage_eq_ok.mp page.valid

theorem InventoryPage.records_ne_nil (page : InventoryPage) : page.records.items ≠ [] := by
  have h := page.records.lower_le
  intro hnil
  rw [hnil] at h
  simp at h

/-! ### The records of an inventory, as its pages cut them -/

theorem validateRecordId_of_mem {s : InventorySnapshot} {record : InventoryRecord}
    (h : record ∈ s.records.items) : validateRecordId record = .ok () := by
  obtain ⟨_, _, hvalid⟩ := InventorySnapshot.validateRecord_of_mem h
  simp only [validateRecordOf, validateRecord, bind_eq_ok] at hvalid
  obtain ⟨_, hid, -⟩ := hvalid
  exact hid

theorem recordPrefix_of_validateRecordId {record : InventoryRecord}
    (h : validateRecordId record = .ok ()) :
    record.id.recordPrefix = record.kind.recordPrefix := by
  simp only [validateRecordId, bind_eq_ok, require_eq_ok] at h
  obtain ⟨_, hprefix, -⟩ := h
  exact hprefix

/-- The records are in the order of their keys. -/
theorem InventorySnapshot.sortedKeys (s : InventorySnapshot) :
    SortedKeys recordKey s.records.items := by
  have h := s.valid
  simp only [validateSnapshot, validateRecords, bind_eq_ok, require_eq_ok] at h
  obtain ⟨_, -, _, hids, _, hsorted, -⟩ := h
  have hkeys : (s.records.items.map recordKey).Nodup := by
    refine List.Nodup.of_map (fun key => (ofLex key).2) ?_
    rw [List.map_map]
    exact hids
  rw [sortedKeys_iff]
  exact nodup_and_eq_sortedBy_iff.mp ⟨hkeys, hsorted⟩

theorem InventorySnapshot.records_ne_nil (s : InventorySnapshot) : s.records.items ≠ [] := by
  obtain ⟨entry, hentry, -⟩ := s.topology.root
  exact List.ne_nil_of_mem (InventorySnapshot.mem_entries.mp hentry)

theorem InventorySnapshot.validatePageHeader_eq_ok (s : InventorySnapshot) :
    validatePageHeader s.capability s.coverage = .ok () := by
  have h := s.validateHeader
  simp only [validateSnapshotHeader, validatePageHeader, bind_eq_ok, require_eq_ok] at h ⊢
  obtain ⟨_, hcapability, _, hkinds, -⟩ := h
  exact ⟨(), hcapability, hkinds⟩

end Ucf
