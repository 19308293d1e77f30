import Ucf.Inventory.Paths
import Ucf.Library.Fold

/-! The shape of an accepted inventory. The checks look at one record, or at an entry and its
parent; over all paths, the entries form a tree and the pruned paths cut branches off it. -/

namespace Ucf

variable [Unicodedata] [Hashlib]

namespace InventorySnapshot

def entries (s : InventorySnapshot) : List RepositoryEntryFact :=
  s.records.items.filterMap InventoryRecord.entry?

def ignoreMatches (s : InventorySnapshot) : List InventoryIgnoreMatch :=
  s.records.items.filterMap InventoryRecord.ignoreMatch?

def diagnostics (s : InventorySnapshot) : List InventoryDiagnostic :=
  s.records.items.filterMap InventoryRecord.diagnostic?

def provenances (s : InventorySnapshot) : List InventoryProvenance :=
  s.records.items.filterMap InventoryRecord.provenance?

/-- There is a directory at the path. -/
def HasDirectory (s : InventorySnapshot) (segments : List (List Char)) : Prop :=
  ∃ entry ∈ s.entries, entry.path.segments = segments ∧ entry.entryKind = .directory

end InventorySnapshot

/-- Some rule matches the path with the given segments. -/
def IsPruned (policy : IgnorePolicy) (segments : List (List Char)) : Prop :=
  matchingRuleIds policy (posixText segments) ≠ []

/-- Neither a path nor an ancestor of it is pruned. -/
def IsKept (policy : IgnorePolicy) (path : RepositoryPath) : Prop :=
  ∀ ancestor, ancestor <+: path.segments → ¬ IsPruned policy ancestor

omit [Hashlib] in
theorem isKept_of_matchingRuleIds_eq_nil {policy : IgnorePolicy} {path : RepositoryPath}
    (h : matchingRuleIds policy path.val.toList = []) : IsKept policy path :=
  fun _ hle hpruned => not_matches_of_matchingRuleIds_eq_nil h hle
    ((matchingRuleIds_ne_nil_iff (isSegment_of_mem_ancestor hle)).mp hpruned)

omit [Hashlib] in
theorem not_isPruned_root (policy : IgnorePolicy) : ¬ IsPruned policy [] := by
  intro h
  obtain ⟨rule, -, hmatch⟩ := (matchingRuleIds_ne_nil_iff (by simp)).mp h
  exact rule.matcher.not_matches_root hmatch

omit [Unicodedata] [Hashlib] in
theorem ne_nil_of_mem_tail_inits {α : Type} {l pre : List α} (h : pre ∈ l.inits.tail) :
    pre ≠ [] := by
  cases l with
  | nil => simp at h
  | cons a l =>
    rw [List.inits_cons, List.tail_cons, List.mem_map] at h
    obtain ⟨_, -, rfl⟩ := h
    simp

omit [Hashlib] in
theorem posixPrefixes_eq (path : RepositoryPath) :
    posixPrefixes path.val.toList = path.segments.inits.tail.map posixText := by
  refine List.map_congr_left fun parts hparts => ?_
  rw [posixText_of_ne_nil (ne_nil_of_mem_tail_inits hparts)]

omit [Hashlib] in
/-- The search of the source, from the path's first segment on. -/
theorem firstOnBranch_of_find? {policy : IgnorePolicy} {path : RepositoryPath}
    (h : (posixPrefixes path.val.toList).find? (fun pre => matchingRuleIds policy pre ≠ []) =
      some path.val.toList) : FirstOnBranch (IsPruned policy) path.segments := by
  rw [posixPrefixes_eq, List.find?_map, Option.map_eq_some_iff] at h
  obtain ⟨found, hfind, htext⟩ := h
  have hfound : found <+: path.segments :=
    (List.mem_inits _ _).mp (List.mem_of_mem_tail (List.mem_of_find?_eq_some hfind))
  rw [← path.posixText_segments] at htext
  rw [posixText_inj (isSegment_of_mem_ancestor hfound) (isSegment_of_mem_ancestor List.prefix_rfl)
    htext] at hfind
  obtain ⟨hpicked, hfirst⟩ := find?_inits_eq_self hfind
    (by simpa [IsPruned] using not_isPruned_root policy)
  refine ⟨by simpa [IsPruned] using hpicked, fun ancestor hle hne hpruned => ?_⟩
  exact hfirst ancestor hle hne (by simpa [IsPruned] using hpruned)

/-! ### What one record's checks say -/

section Records

variable {policy : IgnorePolicy} {producer : Producer} {seen seen' : SeenIdentities}
  {records : List InventoryRecord}

omit [Hashlib] in
theorem resolveRef_eq_ok {reference : InventoryRecordRef} {expected : InventoryRecordKind}
    {target : InventoryRecord}
    (h : resolveRef reference (Dict.index InventoryRecord.id records) expected = .ok target) :
    target ∈ records ∧ target.id = reference.targetId := by
  rw [resolveRef] at h
  split at h
  · rename_i found hget
    split at h
    · cases h
      exact Dict.mem_of_get?_index hget
    · cases h
  · cases h

/-- The checks of one record against the other records. -/
abbrev validateRecordOf (policy : IgnorePolicy) (producer : Producer)
    (records : List InventoryRecord) (seen : SeenIdentities) (record : InventoryRecord) :
    Except String SeenIdentities :=
  validateRecord policy producer (Dict.index InventoryRecord.id records) seen record

theorem validateRecord_provenance {provenance : InventoryProvenance}
    (h : validateRecordOf policy producer records seen (.inventoryProvenance provenance) =
      .ok seen') : matchingRuleIds policy provenance.sourcePath.val.toList = [] := by
  simp only [validateRecordOf, validateRecord, bind_eq_ok, require_eq_ok] at h
  obtain ⟨_, -, _, -, _, hmatching, -⟩ := h
  exact hmatching

theorem validateRecord_diagnostic {diagnostic : InventoryDiagnostic}
    (h : validateRecordOf policy producer records seen (.inventoryDiagnostic diagnostic) =
      .ok seen') {path : RepositoryPath} (hpath : diagnostic.path = some path) :
    matchingRuleIds policy path.val.toList = [] := by
  simp only [validateRecordOf, validateRecord, bind_eq_ok, require_eq_ok] at h
  obtain ⟨_, -, _, -, _, hmatching, -⟩ := h
  exact hmatching path hpath

theorem validateRecord_ignoreMatch {ignored : InventoryIgnoreMatch}
    (h : validateRecordOf policy producer records seen (.inventoryIgnoreMatch ignored) =
      .ok seen') :
    ignored.ruleId ∈ matchingRuleIds policy ignored.path.val.toList ∧
      ∀ id ∈ matchingRuleIds policy ignored.path.val.toList, ignored.ruleId.val ≤ id.val := by
  simp only [validateRecordOf, validateRecord, bind_eq_ok, require_eq_ok] at h
  obtain ⟨_, -, _, -, _, hmem, _, hleast, -⟩ := h
  exact ⟨hmem, hleast⟩

omit [Hashlib] in
theorem provenance?_eq_some {record : InventoryRecord} {provenance : InventoryProvenance} :
    record.provenance? = some provenance ↔ record = .inventoryProvenance provenance := by
  cases record <;> simp [InventoryRecord.provenance?]

omit [Hashlib] in
theorem entry?_eq_some {record : InventoryRecord} {entry : RepositoryEntryFact} :
    record.entry? = some entry ↔ record = .repositoryEntry entry := by
  cases record <;> simp [InventoryRecord.entry?]

/-- A fact is checked against the provenance that it refers to. -/
theorem validateRecord_fact {record : InventoryRecord} (hfact : record.factKind ≠ none)
    (h : validateRecordOf policy producer records seen record = .ok seen') :
    ∃ provenance, .inventoryProvenance provenance ∈ records ∧
      record.provenanceRef?.map InventoryRecordRef.targetId = some provenance.id ∧
      validateFact policy (Dict.index InventoryRecord.id records) record provenance = .ok () := by
  have hrecord : ∃ reference target, record.provenanceRef? = some reference ∧
      resolveRef reference (Dict.index InventoryRecord.id records) .inventoryProvenance =
        .ok target ∧ ∃ provenance, target.provenance? = some provenance ∧
      validateFact policy (Dict.index InventoryRecord.id records) record provenance = .ok () := by
    cases record
    case inventoryDiagnostic | inventoryIgnoreMatch | inventoryProvenance => exact absurd rfl hfact
    all_goals
      simp only [validateRecordOf, validateRecord, bind_eq_ok, InventoryRecord.provenanceRef?] at h
      obtain ⟨_, -, target, htarget, h⟩ := h
      split at h
      · cases h
      · rename_i provenance hprovenance
        simp only [bind_eq_ok] at h
        obtain ⟨_, -, _, hvalid, -⟩ := h
        exact ⟨_, target, rfl, htarget, provenance, hprovenance, hvalid⟩
  obtain ⟨reference, target, hreference, htarget, provenance, hprovenance, hvalid⟩ := hrecord
  obtain ⟨hmem, hid⟩ := resolveRef_eq_ok htarget
  rw [provenance?_eq_some.mp hprovenance] at hmem hid
  refine ⟨provenance, hmem, ?_, hvalid⟩
  rw [hreference, Option.map_some, ← hid]
  rfl

theorem validateRecord_entry {entry : RepositoryEntryFact}
    (h : validateRecordOf policy producer records seen (.repositoryEntry entry) = .ok seen') :
    matchingRuleIds policy entry.path.val.toList = [] := by
  obtain ⟨_, -, -, hfact⟩ := validateRecord_fact (by simp [InventoryRecord.factKind]) h
  simp only [validateFact, bind_eq_ok, require_eq_ok] at hfact
  obtain ⟨_, -, _, -, _, -, hmatching⟩ := hfact
  exact hmatching

/-- A fact about a file, with the file's entry and the fact's provenance. -/
structure IsClassified (records : List InventoryRecord) (record : InventoryRecord)
    (entry : RepositoryEntryFact) (provenance : InventoryProvenance) : Prop where
  entry_mem : .repositoryEntry entry ∈ records
  entry_ref : record.entryRef?.map InventoryRecordRef.targetId = some entry.id
  isFile : entry.entryKind = .file
  provenance_mem : .inventoryProvenance provenance ∈ records
  provenance_ref : record.provenanceRef?.map InventoryRecordRef.targetId = some provenance.id
  path_eq : provenance.sourcePath = entry.path
  digest_eq : provenance.contentDigest = entry.contentDigest

theorem validateRecord_classified {record : InventoryRecord} {reference : InventoryRecordRef}
    (h : validateRecordOf policy producer records seen record = .ok seen')
    (hreference : record.entryRef? = some reference) :
    ∃ entry provenance, IsClassified records record entry provenance := by
  have hkind : record.factKind ≠ none := by
    cases record <;> simp_all [InventoryRecord.factKind, InventoryRecord.entryRef?]
  obtain ⟨provenance, hprovenance, hid, hfact⟩ := validateRecord_fact hkind h
  have htarget : ∃ target, resolveRef reference (Dict.index InventoryRecord.id records)
      .repositoryEntry = .ok target ∧ ∃ entry, target.entry? = some entry ∧
        entry.entryKind = .file ∧ provenance.sourcePath = entry.path ∧
        provenance.contentDigest = entry.contentDigest := by
    cases record
    case inventoryDiagnostic | inventoryIgnoreMatch | inventoryProvenance => exact absurd rfl hkind
    case repositoryEntry => cases hreference
    all_goals
      simp only [validateFact, hreference, bind_eq_ok] at hfact
      obtain ⟨target, htarget, hfact⟩ := hfact
      split at hfact
      · cases hfact
      · rename_i entry hentry
        simp only [bind_eq_ok, require_eq_ok] at hfact
        obtain ⟨_, hfile, _, hpath, hdigest⟩ := hfact
        exact ⟨target, htarget, entry, hentry, hfile, hpath, hdigest⟩
  obtain ⟨target, htarget, entry, hentry, hfile, hpath, hdigest⟩ := htarget
  obtain ⟨hmem, htargetId⟩ := resolveRef_eq_ok htarget
  rw [entry?_eq_some.mp hentry] at hmem htargetId
  refine ⟨entry, provenance, hmem, ?_, hfile, hprovenance, hid, hpath, hdigest⟩
  rw [hreference, Option.map_some, ← htargetId]
  rfl

end Records

/-! ### The whole inventory -/

namespace InventorySnapshot

variable {s : InventorySnapshot}

theorem mem_entries {entry : RepositoryEntryFact} :
    entry ∈ s.entries ↔ .repositoryEntry entry ∈ s.records.items := by
  simp [entries, List.mem_filterMap, entry?_eq_some]

theorem mem_ignoreMatches {ignored : InventoryIgnoreMatch} :
    ignored ∈ s.ignoreMatches ↔ .inventoryIgnoreMatch ignored ∈ s.records.items := by
  have h : ∀ record : InventoryRecord, record.ignoreMatch? = some ignored ↔
      record = .inventoryIgnoreMatch ignored := by
    intro record
    cases record <;> simp [InventoryRecord.ignoreMatch?]
  simp [ignoreMatches, List.mem_filterMap, h]

theorem mem_diagnostics {diagnostic : InventoryDiagnostic} :
    diagnostic ∈ s.diagnostics ↔ .inventoryDiagnostic diagnostic ∈ s.records.items := by
  have h : ∀ record : InventoryRecord, record.diagnostic? = some diagnostic ↔
      record = .inventoryDiagnostic diagnostic := by
    intro record
    cases record <;> simp [InventoryRecord.diagnostic?]
  simp [diagnostics, List.mem_filterMap, h]

theorem mem_provenances {provenance : InventoryProvenance} :
    provenance ∈ s.provenances ↔ .inventoryProvenance provenance ∈ s.records.items := by
  simp [provenances, List.mem_filterMap, provenance?_eq_some]

theorem validateHeader (s : InventorySnapshot) :
    validateSnapshotHeader s.capability s.coverage s.records.items = .ok () := by
  have h := s.valid
  rw [validateSnapshot, bind_eq_ok] at h
  obtain ⟨_, h, -⟩ := h
  exact h

/-- Every record has passed its checks. -/
theorem validateRecord_of_mem {record : InventoryRecord} (h : record ∈ s.records.items) :
    ∃ seen seen', validateRecordOf s.appliedPolicy s.producer s.records.items seen record =
      .ok seen' := by
  have hvalid := s.valid
  simp only [validateSnapshot, validateRecords, bind_eq_ok] at hvalid
  obtain ⟨_, -, _, -, _, -, _, -, _, hfold, -⟩ := hvalid
  have hall := foldlM_forall (Q := fun record => ∃ seen seen', validateRecordOf s.appliedPolicy
    s.producer s.records.items seen record = .ok seen') hfold
  exact hall (fun record _ seen seen' h => ⟨seen, seen', h⟩) record h

theorem validateTopology_eq_ok (s : InventorySnapshot) :
    validateTopology s.appliedPolicy s.records.items = .ok () := by
  have hvalid := s.valid
  simp only [validateSnapshot, validateRecords, bind_eq_ok] at hvalid
  obtain ⟨_, -, _, -, _, -, _, -, _, -, _, htopology, -⟩ := hvalid
  exact htopology

/-- The lookup of a directory by its path. -/
theorem hasDirectory_of_get? {segments : List (List Char)}
    (hsegments : ∀ part ∈ segments, IsSegment part)
    (h : ((Dict.index (fun entry : RepositoryEntryFact => entry.path.val.toList) s.entries).get?
      (posixText segments)).any (fun entry => entry.entryKind = .directory) = true) :
    s.HasDirectory segments := by
  rw [Option.any_eq_true] at h
  obtain ⟨entry, hget, hkind⟩ := h
  obtain ⟨hmem, hpath⟩ := Dict.mem_of_get?_index hget
  refine ⟨entry, hmem, posixText_inj (isSegment_of_mem_ancestor List.prefix_rfl) hsegments ?_,
    by simpa using hkind⟩
  rw [entry.path.posixText_segments, hpath]

/-- The checks on entries and pruned paths, in terms of segments. -/
structure Topology (s : InventorySnapshot) : Prop where
  portable : s.entries.Pairwise fun entry entry' =>
    portablePathKey entry.path.val ≠ portablePathKey entry'.path.val
  root : s.HasDirectory []
  parent : ∀ entry ∈ s.entries, entry.path.segments ≠ [] →
    s.HasDirectory entry.path.segments.dropLast
  ignoredOnce : s.ignoreMatches.Pairwise fun ignored ignored' => ignored.path ≠ ignored'.path
  ignoredFirst : ∀ ignored ∈ s.ignoreMatches,
    FirstOnBranch (IsPruned s.appliedPolicy) ignored.path.segments
  ignoredParent : ∀ ignored ∈ s.ignoreMatches, s.HasDirectory ignored.path.segments.dropLast

theorem topology (s : InventorySnapshot) : s.Topology := by
  have h := s.validateTopology_eq_ok
  simp only [validateTopology, bind_eq_ok, require_eq_ok] at h
  obtain ⟨_, -, _, hportable, _, hroot, _, hparent, _, honce, hfirst⟩ := h
  have hdropLast : ∀ path : RepositoryPath, ∀ part ∈ path.segments.dropLast, IsSegment part :=
    fun path part hpart => isSegment_of_mem_segments (List.mem_of_mem_dropLast hpart)
  refine
    { portable := ?_
      root := hasDirectory_of_get? (by simp) hroot
      parent := fun entry hentry hne => ?_
      ignoredOnce := ?_
      ignoredFirst := fun ignored hignored => ?_
      ignoredParent := fun ignored hignored => ?_ }
  · rw [List.Nodup, List.pairwise_map, List.pairwise_map] at hportable
    exact hportable
  · refine hasDirectory_of_get? (hdropLast entry.path) ?_
    have hdot : entry.path.val ≠ "." := by
      intro hdot
      refine hne ?_
      rw [RepositoryPath.segments, hdot]
      rfl
    have hget := hparent entry hentry hdot
    rw [posixParent_eq] at hget
    exact hget
  · rw [List.Nodup, List.pairwise_map] at honce
    exact honce.imp fun hne heq => hne (by rw [heq])
  · exact firstOnBranch_of_find? (hfirst ignored hignored).1
  · refine hasDirectory_of_get? (hdropLast ignored.path) ?_
    have hget := (hfirst ignored hignored).2
    rw [posixParent_eq] at hget
    exact hget

/-- A directory's ancestors, and those of an entry, are directories. -/
theorem Topology.hasDirectory (h : s.Topology) {path ancestor : List (List Char)}
    (hpath : ∃ entry ∈ s.entries, entry.path.segments = path) (hle : ancestor <+: path)
    (hne : ancestor ≠ path) : s.HasDirectory ancestor := by
  refine @ancestor_mem_of_parent_mem _ s.HasDirectory
    (fun path => ∃ entry ∈ s.entries, entry.path.segments = path) ?_ ?_ path ancestor hpath hle
    hne
  · rintro path ⟨entry, hentry, hsegments, -⟩
    exact ⟨entry, hentry, hsegments⟩
  · rintro path ⟨entry, hentry, rfl⟩ hne
    exact h.parent entry hentry hne

/-- The directories above a pruned path. -/
theorem Topology.hasDirectory_ignored (h : s.Topology) {ignored : InventoryIgnoreMatch}
    (hignored : ignored ∈ s.ignoreMatches) {ancestor : List (List Char)}
    (hle : ancestor <+: ignored.path.segments) (hne : ancestor ≠ ignored.path.segments) :
    s.HasDirectory ancestor := by
  have hparent := h.ignoredParent ignored hignored
  have hnil : ignored.path.segments ≠ [] := by
    intro hnil
    have hpicked := (h.ignoredFirst ignored hignored).picked
    rw [hnil] at hpicked
    exact not_isPruned_root _ hpicked
  rw [← List.dropLast_concat_getLast hnil] at hle hne
  have hle := (List.prefix_concat_iff.mp hle).resolve_left hne
  by_cases heq : ancestor = ignored.path.segments.dropLast
  · rw [heq]
    exact hparent
  · obtain ⟨entry, hentry, hsegments, -⟩ := hparent
    exact h.hasDirectory ⟨entry, hentry, hsegments⟩ hle heq

/-- The error diagnostics that make a kind of fact partial. -/
def IsPartial (s : InventorySnapshot) (kind : FactKind) : Prop :=
  ∃ diagnostic ∈ s.diagnostics, diagnostic.severity = .error ∧
    (diagnostic.factKind = none ∨ diagnostic.factKind = some kind)

/-- The shape of an inventory, over all paths under the repository root. -/
structure WellStructured (s : InventorySnapshot) : Prop where
  root : s.HasDirectory []
  ancestors : ∀ entry ∈ s.entries, ∀ ancestor, ancestor <+: entry.path.segments →
    ancestor ≠ entry.path.segments → s.HasDirectory ancestor
  portable : s.entries.Pairwise fun entry entry' =>
    portablePathKey entry.path.val ≠ portablePathKey entry'.path.val
  entriesKept : ∀ entry ∈ s.entries, IsKept s.appliedPolicy entry.path
  provenancesKept : ∀ provenance ∈ s.provenances, IsKept s.appliedPolicy provenance.sourcePath
  diagnosticsKept : ∀ diagnostic ∈ s.diagnostics, ∀ path, diagnostic.path = some path →
    IsKept s.appliedPolicy path
  incomparable : s.ignoreMatches.Pairwise fun ignored ignored' =>
    ¬ ignored.path.segments <+: ignored'.path.segments ∧
      ¬ ignored'.path.segments <+: ignored.path.segments
  ignoredFirst : ∀ ignored ∈ s.ignoreMatches,
    FirstOnBranch (IsPruned s.appliedPolicy) ignored.path.segments
  ignoredAncestors : ∀ ignored ∈ s.ignoreMatches, ∀ ancestor,
    ancestor <+: ignored.path.segments → ancestor ≠ ignored.path.segments →
      s.HasDirectory ancestor
  ignoredRule : ∀ ignored ∈ s.ignoreMatches,
    ignored.ruleId ∈ matchingRuleIds s.appliedPolicy ignored.path.val.toList ∧
      ∀ id ∈ matchingRuleIds s.appliedPolicy ignored.path.val.toList,
        ignored.ruleId.val ≤ id.val
  classified : ∀ record ∈ s.records.items, record.entryRef? ≠ none →
    ∃ entry provenance, IsClassified s.records.items record entry provenance
  coverageKinds : s.coverage.map InventoryCoverage.factKind = FactKind.all
  coverageCounts : ∀ item ∈ s.coverage, item.recordCount.val =
    s.records.items.countP fun record => record.factKind = some item.factKind
  coverageStatus : ∀ item ∈ s.coverage, item.status = .partial_ ↔ s.IsPartial item.factKind
  entryOrIgnored : ∀ entry ∈ s.entries, ∀ ignored ∈ s.ignoreMatches,
    ¬ ignored.path.segments <+: entry.path.segments
  ignoredAbove : ∀ (path : List (List Char)), ∀ ignored ∈ s.ignoreMatches,
    ∀ ignored' ∈ s.ignoreMatches, ignored.path.segments <+: path →
      ignored'.path.segments <+: path → ignored = ignored'

/-- A record that refers to an entry gives a fact about it, and where the fact is from. -/
theorem classifies {record : InventoryRecord} (hrecord : record ∈ s.records.items)
    (hreference : record.entryRef? ≠ none) :
    ∃ entry provenance, IsClassified s.records.items record entry provenance := by
  obtain ⟨reference, hreference⟩ := Option.ne_none_iff_exists'.mp hreference
  obtain ⟨_, _, hvalid⟩ := validateRecord_of_mem hrecord
  exact validateRecord_classified hvalid hreference

/-- Every accepted inventory is a tree of entries with branches cut off by the policy. -/
theorem wellStructured (s : InventorySnapshot) : s.WellStructured := by
  have htopology := s.topology
  have hheader := s.validateHeader
  simp only [validateSnapshotHeader, bind_eq_ok, require_eq_ok] at hheader
  obtain ⟨_, -, _, hkinds, _, hcounts, hstatus⟩ := hheader
  have hentriesKept : ∀ entry ∈ s.entries, IsKept s.appliedPolicy entry.path := by
    intro entry hentry
    obtain ⟨_, _, hvalid⟩ := validateRecord_of_mem (mem_entries.mp hentry)
    exact isKept_of_matchingRuleIds_eq_nil (validateRecord_entry hvalid)
  have hfirst := htopology.ignoredFirst
  refine
    { root := htopology.root
      ancestors := fun entry hentry _ => htopology.hasDirectory ⟨entry, hentry, rfl⟩
      portable := htopology.portable
      entriesKept := hentriesKept
      provenancesKept := fun provenance hprovenance => ?_
      diagnosticsKept := fun diagnostic hdiagnostic path hpath => ?_
      incomparable := ?_
      ignoredFirst := hfirst
      ignoredAncestors := fun ignored hignored _ => htopology.hasDirectory_ignored hignored
      ignoredRule := fun ignored hignored => ?_
      classified := fun record hrecord hreference => ?_
      coverageKinds := hkinds
      coverageCounts := hcounts
      coverageStatus := fun item hitem => ?_
      entryOrIgnored := fun entry hentry ignored hignored hle => ?_
      ignoredAbove := fun path ignored hignored ignored' hignored' hle hle' => ?_ }
  · obtain ⟨_, _, hvalid⟩ := validateRecord_of_mem (mem_provenances.mp hprovenance)
    exact isKept_of_matchingRuleIds_eq_nil (validateRecord_provenance hvalid)
  · obtain ⟨_, _, hvalid⟩ := validateRecord_of_mem (mem_diagnostics.mp hdiagnostic)
    exact isKept_of_matchingRuleIds_eq_nil (validateRecord_diagnostic hvalid hpath)
  · refine htopology.ignoredOnce.imp_of_mem fun {ignored ignored'} hmem hmem' hne => ?_
    have hne' : ignored.path.segments ≠ ignored'.path.segments :=
      fun heq => hne (RepositoryPath.segments_inj heq)
    exact ⟨fun hle => hne' ((hfirst _ hmem).eq_of_le (hfirst _ hmem') hle),
      fun hle => hne' ((hfirst _ hmem').eq_of_le (hfirst _ hmem) hle).symm⟩
  · obtain ⟨_, _, hvalid⟩ := validateRecord_of_mem (mem_ignoreMatches.mp hignored)
    exact validateRecord_ignoreMatch hvalid
  · exact classifies hrecord hreference
  · rw [hstatus item hitem]
    simp only [Bool.or_eq_true, List.any_eq_true, List.mem_filter, decide_eq_true_eq, IsPartial]
    constructor
    · rintro (⟨diagnostic, ⟨hmem, herror⟩, hkind⟩ | ⟨diagnostic, ⟨hmem, herror⟩, hkind⟩)
      · exact ⟨diagnostic, hmem, herror, .inl hkind⟩
      · exact ⟨diagnostic, hmem, herror, .inr hkind⟩
    · rintro ⟨diagnostic, hmem, herror, hkind | hkind⟩
      · exact .inl ⟨diagnostic, ⟨hmem, herror⟩, hkind⟩
      · exact .inr ⟨diagnostic, ⟨hmem, herror⟩, hkind⟩
  · exact hentriesKept entry hentry _ hle (hfirst ignored hignored).picked
  · have hpath : ignored.path = ignored'.path := RepositoryPath.segments_inj
      ((hfirst _ hignored).eq_of_branch (hfirst _ hignored') hle hle')
    have hnodup : (s.ignoreMatches.map InventoryIgnoreMatch.path).Nodup :=
      List.pairwise_map.mpr htopology.ignoredOnce
    exact List.inj_on_of_nodup_map hnodup hignored hignored' hpath

end InventorySnapshot

end Ucf
