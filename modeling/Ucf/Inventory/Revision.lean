import Ucf.Inventory.Paging

/-! What the source revision of an inventory identifies: the tree of entries that was observed and
the failures to observe it. -/

namespace Ucf

variable [Unicodedata]

/-! ### Coordinates -/

/-- `record.level` of a fact -/
def observedLevel : String := "observed"

/-- What the revision keeps of an entry. -/
structure EntryCoordinates where
  path : RepositoryPath
  entryKind : EntryKind
  sizeBytes : Option (SafeNat 0)
  contentDigest : Option Digest
  symlinkTargetDigest : Option Digest
deriving DecidableEq

instance : Model EntryCoordinates :=
  .record (.nullable "content_digest" <| .required "entry_kind" <| .required "path" <|
      .lit "read_status" observedLevel <| .nullable "size_bytes" <|
      .nullable "symlink_target_digest" .nil)
    (fun c => (c.contentDigest, c.entryKind, c.path, c.sizeBytes, c.symlinkTargetDigest, ()))
    (fun (content, kind, path, size, symlink, ()) => ⟨path, kind, size, content, symlink⟩)

/-- What the revision keeps of a failure. -/
structure FailureCoordinates where
  code : QualifiedName
  factKind : Option FactKind
  path : Option RepositoryPath
  severity : Severity
  stage : SemanticToken
deriving DecidableEq

instance : Model FailureCoordinates :=
  .record (.required "code" <| .nullable "fact_kind" <| .nullable "path" <|
      .required "severity" <| .required "stage" .nil)
    (fun f => (f.code, f.factKind, f.path, f.severity, f.stage, ()))
    (fun (code, kind, path, severity, stage, ()) => ⟨code, kind, path, severity, stage⟩)

def RepositoryEntryFact.coordinates (entry : RepositoryEntryFact) : EntryCoordinates :=
  ⟨entry.path, entry.entryKind, entry.sizeBytes, entry.contentDigest, entry.symlinkTargetDigest⟩

def InventoryDiagnostic.coordinates (diagnostic : InventoryDiagnostic) : FailureCoordinates :=
  ⟨diagnostic.code, diagnostic.factKind, diagnostic.path, diagnostic.severity, diagnostic.stage⟩

/-- A diagnostic is an error about the repository as a whole or about its entries. -/
def InventoryDiagnostic.IsFailure (diagnostic : InventoryDiagnostic) : Prop :=
  diagnostic.severity = .error ∧
    (diagnostic.factKind = none ∨ diagnostic.factKind = some .repositoryEntry)

instance (diagnostic : InventoryDiagnostic) : Decidable diagnostic.IsFailure :=
  inferInstanceAs (Decidable (_ ∧ _))

/-- The entries among records. -/
def entryCoordinates (records : List InventoryRecord) : List EntryCoordinates :=
  (records.filterMap InventoryRecord.entry?).map RepositoryEntryFact.coordinates

/-- The failures among records. -/
def failureCoordinates (records : List InventoryRecord) : List FailureCoordinates :=
  ((records.filterMap InventoryRecord.diagnostic?).filter fun d => d.IsFailure).map
    InventoryDiagnostic.coordinates

/-! ### The projection -/

/-- `projection` -/
def revisionProjection (entries : List EntryCoordinates) (failures : List FailureCoordinates) : Json :=
  .obj [
    ("entries", .arr ((sortedBy (fun entry => entry.path.val) entries).map modelDump)),
    ("failures", .arr (sortedBy Json.canonicalLine (failures.map modelDump)))]

theorem modelDump_entry (entry : RepositoryEntryFact) : modelDump entry.coordinates = Json.obj [
    ("content_digest", dumpOrNull entry.contentDigest),
    ("entry_kind", modelDump entry.entryKind),
    ("path", modelDump entry.path),
    ("read_status", .str "observed"),
    ("size_bytes", dumpOrNull entry.sizeBytes),
    ("symlink_target_digest", dumpOrNull entry.symlinkTargetDigest)] := by
  obtain ⟨_, _, _, _, _, size, content, symlink, _⟩ := entry
  cases size <;> cases content <;> cases symlink <;> rfl

theorem modelDump_failure (diagnostic : InventoryDiagnostic) :
    modelDump diagnostic.coordinates = Json.obj [
      ("code", modelDump diagnostic.code),
      ("fact_kind", dumpOrNull diagnostic.factKind),
      ("path", dumpOrNull diagnostic.path),
      ("severity", modelDump diagnostic.severity),
      ("stage", modelDump diagnostic.stage)] := by
  obtain ⟨_, _, _, kind, path, _, _, _⟩ := diagnostic
  cases kind <;> cases path <;> rfl

theorem deriveInventorySourceRevision_eq [Hashlib] (records : List InventoryRecord) :
    deriveInventorySourceRevision records = ⟨identityDigest
      (revisionProjection (entryCoordinates records) (failureCoordinates records))⟩ := by
  rw [revisionProjection, entryCoordinates, failureCoordinates, sortedBy_map]
  simp only [List.map_map, Function.comp_def, modelDump_entry, modelDump_failure]
  rfl

/-! ### What the projection identifies -/

theorem failures_perm_iff {failures failures' : List FailureCoordinates} :
    sortedBy Json.canonicalLine (failures.map modelDump) =
      sortedBy Json.canonicalLine (failures'.map modelDump) ↔ failures.Perm failures' := by
  have hinj : Function.Injective (modelDump : FailureCoordinates → Json) := by
    intro f f' h
    exact modelDump_injective (by rw [h])
  constructor
  · intro h
    have hperm := (sortedBy_perm Json.canonicalLine (failures.map modelDump)).symm
    rw [h] at hperm
    exact (List.map_perm_map_iff hinj).mp (hperm.trans (sortedBy_perm _ _))
  · intro h
    refine List.Perm.eq_of_pairwise ?_ (pairwise_sortedBy _ _) (pairwise_sortedBy _ _) ?_
    · -- failures with the same canonical bytes are the same
      intro j k hj hk hjk hkj
      obtain ⟨f, -, rfl⟩ := List.mem_map.mp (mem_sortedBy.mp hj)
      obtain ⟨f', -, rfl⟩ := List.mem_map.mp (mem_sortedBy.mp hk)
      have hsame := (Json.canonicalLine_inj (Model.schema.exact f) (Model.schema.exact f')).mp
        (le_antisymm hjk hkj)
      rw [modelDump_injective hsame]
    · exact (sortedBy_perm _ _).trans ((h.map _).trans (sortedBy_perm _ _).symm)

theorem entries_eq_iff {entries entries' : List EntryCoordinates}
    (h : (entries.map fun entry => entry.path.val).Nodup)
    (h' : (entries'.map fun entry => entry.path.val).Nodup) :
    (sortedBy (fun entry => entry.path.val) entries).map modelDump =
      (sortedBy (fun entry => entry.path.val) entries').map modelDump ↔
        ∀ entry, entry ∈ entries ↔ entry ∈ entries' := by
  have hinj : Function.Injective (modelDump : EntryCoordinates → Json) := by
    intro e e' h
    exact modelDump_injective (by rw [h])
  rw [hinj.list_map.eq_iff]
  constructor
  · intro heq entry
    have hmem : entry ∈ sortedBy (fun entry : EntryCoordinates => entry.path.val) entries ↔
        entry ∈ entries := mem_sortedBy
    rw [← hmem, heq, mem_sortedBy]
  · intro hmem
    exact (sortedKeys_sortedBy h).eq_of_mem_iff (sortedKeys_sortedBy h') fun entry => by
      rw [mem_sortedBy, mem_sortedBy, hmem]

theorem revisionProjection_eq_iff {entries entries' : List EntryCoordinates}
    {failures failures' : List FailureCoordinates}
    (h : (entries.map fun entry => entry.path.val).Nodup)
    (h' : (entries'.map fun entry => entry.path.val).Nodup) :
    revisionProjection entries failures = revisionProjection entries' failures' ↔
      (∀ entry, entry ∈ entries ↔ entry ∈ entries') ∧ failures.Perm failures' := by
  rw [revisionProjection, revisionProjection, ← entries_eq_iff h h', ← failures_perm_iff]
  simp

/-! ### Inventories -/

variable [Hashlib]

/-- Two inventories have the same entries and the same failures, by their coordinates. -/
structure SameTree (s t : InventorySnapshot) : Prop where
  entries : ∀ entry, entry ∈ s.entries.map RepositoryEntryFact.coordinates ↔
    entry ∈ t.entries.map RepositoryEntryFact.coordinates
  failures : ((s.diagnostics.filter fun d => d.IsFailure).map InventoryDiagnostic.coordinates :
      Multiset FailureCoordinates) =
    ((t.diagnostics.filter fun d => d.IsFailure).map InventoryDiagnostic.coordinates :
      Multiset FailureCoordinates)

/-- What is hashed for the revisions of two inventories. -/
def revisionPayloads (s t : InventorySnapshot) : Set Payload :=
  {.canonical (revisionProjection (entryCoordinates s.records.items)
      (failureCoordinates s.records.items)),
    .canonical (revisionProjection (entryCoordinates t.records.items)
      (failureCoordinates t.records.items))}

theorem InventorySnapshot.sourceRevision_eq (s : InventorySnapshot) :
    s.sourceRevision = deriveInventorySourceRevision s.records.items := by
  have hvalid := s.valid
  simp only [validateSnapshot, validateRecords, bind_eq_ok, require_eq_ok] at hvalid
  obtain ⟨_, -, _, -, _, -, _, -, _, -, _, -, _, -, h⟩ := hvalid
  exact h

theorem InventorySnapshot.paths_nodup (s : InventorySnapshot) :
    ((entryCoordinates s.records.items).map fun entry => entry.path.val).Nodup := by
  rw [entryCoordinates, List.map_map, List.Nodup, List.pairwise_map]
  refine s.topology.portable.imp fun {entry entry'} hne heq => hne ?_
  show portablePathKey entry.path.val = portablePathKey entry'.path.val
  rw [show entry.path.val = entry'.path.val from heq]

theorem sameTree_iff {s t : InventorySnapshot} : SameTree s t ↔
    (∀ entry, entry ∈ entryCoordinates s.records.items ↔
      entry ∈ entryCoordinates t.records.items) ∧
        (failureCoordinates s.records.items).Perm (failureCoordinates t.records.items) := by
  constructor
  · intro h
    exact ⟨h.entries, Multiset.coe_eq_coe.mp h.failures⟩
  · rintro ⟨hentries, hfailures⟩
    exact ⟨hentries, Multiset.coe_eq_coe.mpr hfailures⟩

/-- Inventories of the same tree have the same revision, for any hash function. -/
theorem sourceRevision_eq_of_sameTree {s t : InventorySnapshot} (h : SameTree s t) :
    s.sourceRevision = t.sourceRevision := by
  rw [s.sourceRevision_eq, t.sourceRevision_eq, deriveInventorySourceRevision_eq,
    deriveInventorySourceRevision_eq,
    (revisionProjection_eq_iff s.paths_nodup t.paths_nodup).mpr (sameTree_iff.mp h)]

/-- The records of an inventory give its revision in every order. -/
theorem deriveInventorySourceRevision_perm {s : InventorySnapshot} {records : List InventoryRecord}
    (h : records.Perm s.records.items) : deriveInventorySourceRevision records = s.sourceRevision := by
  have hentries : (entryCoordinates records).Perm (entryCoordinates s.records.items) :=
    (h.filterMap _).map _
  have hfailures : (failureCoordinates records).Perm (failureCoordinates s.records.items) :=
    ((h.filterMap _).filter _).map _
  have hnodup := (hentries.map fun entry => entry.path.val).nodup_iff.mpr s.paths_nodup
  rw [s.sourceRevision_eq, deriveInventorySourceRevision_eq, deriveInventorySourceRevision_eq,
    (revisionProjection_eq_iff hnodup s.paths_nodup).mpr ⟨fun _ => hentries.mem_iff, hfailures⟩]

/-- The source revisions of two inventories are equal exactly when the inventories have the same
entries and the same failures, where the hash function does not confuse the two projections; and the
order of the records plays no part. -/
theorem sourceRevision_eq_iff (s t : InventorySnapshot)
    (hsha : Set.InjOn Hashlib.sha256 (revisionPayloads s t)) :
    (s.sourceRevision = t.sourceRevision ↔ SameTree s t) ∧
      ∀ records : List InventoryRecord, records.Perm s.records.items →
        deriveInventorySourceRevision records = s.sourceRevision := by
  refine ⟨⟨fun h => ?_, sourceRevision_eq_of_sameTree⟩, fun records hperm =>
    deriveInventorySourceRevision_perm hperm⟩
  rw [s.sourceRevision_eq, t.sourceRevision_eq, deriveInventorySourceRevision_eq,
    deriveInventorySourceRevision_eq] at h
  have hpayload := hsha (Set.mem_insert _ _) (Set.mem_insert_of_mem _ rfl) (Digest.mk.inj h)
  exact sameTree_iff.mpr ((revisionProjection_eq_iff s.paths_nodup t.paths_nodup).mp
    (Payload.canonical.inj hpayload))

end Ucf

namespace Ucf.Pages

/-- The sample inventory and the same with a note: a diagnostic that is no failure. -/
theorem sourceRevision_eq_iff_samples :
    inventory.sourceRevision = noted.sourceRevision ↔ SameTree inventory noted :=
  (sourceRevision_eq_iff inventory noted (by
    rintro _ (rfl | rfl) _ (rfl | rfl) - <;> rfl)).1

end Ucf.Pages
