import Ucf.Generation.Paths

/-! What a staged tree holds, and which trees are read as the tree of a result. -/

namespace Ucf.Generation

variable {t : GeneratedTree} {path : List String} {files : List (List String × FileEntry)}

/-! ### Writing -/

theorem addEntry_of_canAdd {name : String} {entry : Node FileEntry} (h : t.CanAdd path name) :
    addEntry t path name entry = .ok (t.add path name entry h) := by
  rw [addEntry, if_neg (by simp [h.2.1]), dif_pos h]

theorem addEntry_of_node {name : String} {entry : Node FileEntry}
    (h : t.node (path ++ [name]) ≠ none) : addEntry t path name entry = .error .fileExists := by
  rw [addEntry, if_pos h]

/-- A directory is there, or it is made. -/
theorem exists_makeDirectory {name : String} (hpath : t.IsDirectory path) (hname : IsEntryName name)
    (hfree : t.node (path ++ [name]) = none ∨ t.IsDirectory (path ++ [name])) :
    ∃ t', makeDirectory t path name = .ok t' ∧
      ∀ p, t'.node p = if p = path ++ [name] then some .directory else t.node p := by
  rcases hfree with hnone | hdirectory
  · have hcan : t.CanAdd path name := ⟨hpath, hnone, hname⟩
    exact ⟨_, by rw [makeDirectory, addEntry_of_canAdd hcan], ListedTree.node_add hcan⟩
  · have hnode : t.node (path ++ [name]) = some .directory := hdirectory
    refine ⟨t, by rw [makeDirectory, addEntry_of_node (by simp [hnode])], fun p => ?_⟩
    split
    · rename_i heq
      rw [heq, hnode]
    · rfl

/-- The directories above a file are made where they do not exist yet; by induction on what is left
of the path. -/
theorem exists_enterDirectories {segments : List String} (hpath : t.IsDirectory path)
    (hnames : ∀ segment ∈ segments, IsEntryName segment)
    (hfree : ∀ q, q <+: path ++ segments → t.node q = none ∨ t.IsDirectory q) :
    ∃ t', enterDirectories t path segments = .ok (t', path ++ segments) ∧
      ∀ p, t'.node p = if p <+: path ++ segments then some .directory else t.node p := by
  induction segments generalizing t path with
  | nil =>
    rw [List.append_nil]
    refine ⟨t, rfl, fun p => ?_⟩
    split
    · rename_i hle
      obtain ⟨rest, rfl⟩ := hle
      by_cases hrest : rest = []
      · rw [hrest, List.append_nil] at hpath
        exact hpath
      · refine DirectoryTree.isDirectory_of_append hrest ?_
        rw [show t.node (p ++ rest) = _ from hpath]
        simp
    · rfl
  | cons segment segments ih =>
    have hle : path ++ [segment] <+: path ++ segment :: segments := by simp
    obtain ⟨made, hmade, hnode⟩ := exists_makeDirectory hpath (hnames segment (by simp))
      (hfree _ hle)
    have hdirectory : made.IsDirectory (path ++ [segment]) := by
      rw [DirectoryTree.IsDirectory, hnode, if_pos rfl]
    have hrest : ∀ q, q <+: (path ++ [segment]) ++ segments →
        made.node q = none ∨ made.IsDirectory q := by
      intro q hq
      rw [DirectoryTree.IsDirectory, hnode]
      split
      · exact Or.inr rfl
      · exact hfree q (by simpa using hq)
    obtain ⟨t', ht', hnode'⟩ := ih hdirectory (fun s hs => hnames s (by simp [hs])) hrest
    simp only [List.append_assoc, List.cons_append, List.nil_append] at ht' hnode'
    refine ⟨t', ?_, fun p => ?_⟩
    · rw [enterDirectories, hmade, ok_bind, require, if_pos hdirectory, ok_bind, ht']
    · rw [hnode', hnode]
      by_cases hp : p <+: path ++ segment :: segments
      · rw [if_pos hp, if_pos hp]
      · rw [if_neg hp, if_neg hp, if_neg]
        rintro rfl
        exact hp hle

/-- A file is written at a place of its own. -/
theorem exists_writeRelativeFile {relative : String} {content : List UInt8} (h : t.Holds files)
    (hfits : ListedTree.Fits IsEntryName ((splitPath relative, .regular 1 content) :: files)) :
    ∃ t', writeRelativeFile t relative content = .ok t' ∧
      t'.Holds ((splitPath relative, .regular 1 content) :: files) := by
  have hne := splitPath_ne_nil relative
  have hfree : ∀ file ∈ files, ¬ file.1 <+: splitPath relative ∧ ¬ splitPath relative <+: file.1 :=
    fun _ hfile => hfits.free hfile
  have hsegments := dropLast_append_getLastD relative
  have hnames : ∀ segment ∈ splitPath relative, IsEntryName segment :=
    hfits.names _ List.mem_cons_self
  have habove : ∀ q, q <+: [] ++ (splitPath relative).dropLast → t.node q = none ∨ t.IsDirectory q := by
    intro q hq
    match hnode : t.node q with
    | none => exact Or.inl rfl
    | some .directory => exact Or.inr hnode
    | some (.file entry) =>
      exact absurd (prefix_dropLast_iff.mp hq).1 (hfree _ ((h.file q entry).mp hnode)).1
  obtain ⟨made, hmade, hnode⟩ := exists_enterDirectories t.root
    (fun s hs => hnames s (List.mem_of_mem_dropLast hs)) habove
  rw [List.nil_append] at hmade hnode
  have hempty : t.node (splitPath relative) = none := by
    match hnode : t.node (splitPath relative) with
    | none => rfl
    | some (.file entry) =>
      exact absurd List.prefix_rfl (hfree _ ((h.file _ entry).mp hnode)).1
    | some .directory =>
      rcases (h.directory _).mp hnode with hnil | ⟨file, hfile, hle, -⟩
      · exact absurd hnil hne
      · exact absurd hle (hfree file hfile).2
  have hcan : made.CanAdd (splitPath relative).dropLast ((splitPath relative).getLastD "") := by
    refine ⟨by rw [DirectoryTree.IsDirectory, hnode, if_pos List.prefix_rfl], ?_, ?_⟩
    · rw [hsegments, hnode, if_neg fun hle => (prefix_dropLast_iff.mp hle).2 rfl, hempty]
    · refine hnames _ ?_
      rw [← hsegments]
      simp
  have hwritten : writeRelativeFile t relative content =
      .ok (made.add _ _ (.file (.regular 1 content)) hcan) := by
    rw [writeRelativeFile, hmade]
    exact addEntry_of_canAdd hcan
  refine ⟨_, hwritten, ?_⟩
  refine h.cons hne hfree fun p => ?_
  rw [ListedTree.node_add, hsegments, hnode]
  by_cases hp : p = splitPath relative
  · rw [if_pos hp, if_pos hp]
  · rw [if_neg hp, if_neg hp]
    simp only [prefix_dropLast_iff, hp, ne_eq, not_false_eq_true, and_true]

section Documents

variable [Hashlib]

/-- Files are written one after the other; by induction on the files that are left. -/
theorem exists_foldlM_writeRelativeFile {items : List GeneratedFile} (h : t.Holds files)
    (hfits : ListedTree.Fits IsEntryName (items.map placeOf ++ files)) :
    ∃ t', items.foldlM (fun t item => (writeRelativeFile t item.path.val
        (utf8Encode item.content.val.toList)).mapError PublicationError.os) t = .ok t' ∧
      t'.Holds (items.map placeOf ++ files) := by
  induction items generalizing t files with
  | nil => exact ⟨t, rfl, h⟩
  | cons item items ih =>
    have hfirst : ListedTree.Fits IsEntryName (placeOf item :: files) := by
      refine hfits.sublist ?_
      rw [List.map_cons, List.cons_append]
      exact (List.sublist_append_right _ _).cons_cons _
    have hwrite : ∃ t', writeRelativeFile t item.path.val _ = .ok t' ∧ t'.Holds _ :=
      exists_writeRelativeFile h hfirst
    obtain ⟨made, hmade, hholds⟩ := hwrite
    have hperm : (items.map placeOf ++ placeOf item :: files).Perm
        ((item :: items).map placeOf ++ files) := List.perm_middle
    obtain ⟨t', ht', hholds'⟩ := ih hholds (hfits.perm hperm.symm)
    refine ⟨t', ?_, hholds'.perm hperm⟩
    rw [List.foldlM_cons, hmade]
    exact ht'

/-- The staged tree of a result holds its files and its canonical receipt. -/
theorem exists_writeStagedTree {result : GenerationResult} {receipt : List UInt8}
    (h : canonicalGenerationJson result = .ok receipt) :
    ∃ t, writeStagedTree result = .ok t ∧ t.Holds (places result receipt) := by
  have hfits := fits_places result receipt
  have hfiles : ListedTree.Fits IsEntryName (result.files.items.map placeOf ++ []) := by
    rw [List.append_nil]
    exact hfits.sublist (List.sublist_append_left _ _)
  obtain ⟨made, hmade, hholds⟩ := exists_foldlM_writeRelativeFile ListedTree.holds_empty hfiles
  rw [List.append_nil] at hholds
  have hperm : (([generationReceiptName], FileEntry.regular 1 receipt) ::
      result.files.items.map placeOf).Perm (places result receipt) :=
    (List.perm_append_singleton _ _).symm
  have hlast : ListedTree.Fits IsEntryName ((splitPath generationReceiptName,
      .regular 1 receipt) :: result.files.items.map placeOf) := by
    rw [splitPath_generationReceiptName]
    exact hfits.perm hperm.symm
  obtain ⟨t, ht, hholds'⟩ := exists_writeRelativeFile hholds hlast
  rw [splitPath_generationReceiptName] at hholds'
  refine ⟨t, ?_, hholds'.perm hperm⟩
  rw [writeStagedTree, hmade, ok_bind, h]
  simp only [Except.mapError, ok_bind, ht]

end Documents

/-! ### Reading -/

theorem openDirectories_eq_ok {segments opened : List String} :
    openDirectories t path segments = .ok opened ↔
      opened = path ++ segments ∧
        ∀ q, q <+: segments → q ≠ [] → t.IsDirectory (path ++ q) := by
  induction segments generalizing path with
  | nil => simp [openDirectories, eq_comm]
  | cons segment segments ih =>
    simp only [openDirectories, bind_eq_ok, require_eq_ok, ih, exists_const]
    rw [List.append_assoc, List.singleton_append]
    constructor
    · rintro ⟨hfirst, rfl, hrest⟩
      refine ⟨rfl, fun q hq hne => ?_⟩
      cases q with
      | nil => exact absurd rfl hne
      | cons s q =>
        obtain ⟨rfl, hle⟩ := List.cons_prefix_cons.mp hq
        by_cases hnil : q = []
        · rw [hnil]
          exact hfirst
        · have hdirectory := hrest q hle hnil
          rwa [List.append_assoc, List.singleton_append] at hdirectory
    · rintro ⟨rfl, hall⟩
      refine ⟨hall [segment] (by simp) (by simp), rfl, fun q hle hne => ?_⟩
      rw [List.append_assoc, List.singleton_append]
      exact hall (segment :: q) (List.cons_prefix_cons.mpr ⟨rfl, hle⟩) (by simp)

/-- A file is read when it is a regular file with one link. -/
theorem readRegularFile_eq_ok {relative : String} {content : List UInt8} :
    readRegularFile t relative = .ok content ↔
      t.node (splitPath relative) = some (.file (.regular 1 content)) := by
  simp only [readRegularFile, bind_eq_ok, openDirectories_eq_ok, List.nil_append]
  constructor
  · rintro ⟨_, ⟨rfl, -⟩, hread⟩
    rw [dropLast_append_getLastD] at hread
    cases hnode : t.node (splitPath relative) with
    | none => simp [hnode] at hread
    | some node =>
      cases node with
      | directory => simp [hnode] at hread
      | file entry =>
        cases entry with
        | regular links bytes =>
          simp only [hnode, bind_eq_ok, require_eq_ok, pure_eq_ok, Except.ok.injEq, exists_const]
            at hread
          rw [hread.1, hread.2]
        | _ => simp [hnode] at hread
  · intro hnode
    refine ⟨_, ⟨rfl, fun q hq hne => ?_⟩, ?_⟩
    · obtain ⟨⟨rest, hrest⟩, hproper⟩ := prefix_dropLast_iff.mp hq
      have hbelow : t.node (q ++ rest) ≠ none := by simp [hrest, hnode]
      refine DirectoryTree.isDirectory_of_append ?_ hbelow
      rintro rfl
      exact hproper (by simpa using hrest)
    · rw [dropLast_append_getLastD, hnode]
      simp

theorem scanEntry_eq_ok {u : Unit} : scanEntry t path = .ok u ↔
    ∀ entry, t.node path = some (.file entry) → ∃ content, entry = .regular 1 content := by
  rw [scanEntry]
  match t.node path with
  | none => simp
  | some .directory => simp
  | some (.file .symlink) => simp
  | some (.file .special) => simp
  | some (.file (.regular links content)) => simp

theorem scanTree_eq_ok {scanned : Finset String} : scanTree t = .ok scanned ↔
    (∀ path entry, t.node path = some (.file entry) → ∃ content, entry = .regular 1 content) ∧
      scanned = (t.paths.erase []).image joinPath := by
  have hscan : ∀ {paths : List (List String)} {u : Unit},
      checkEach (fun (_ : Nat) path => scanEntry t path) paths = .ok u ↔
        ∀ path ∈ paths, ∀ entry, t.node path = some (.file entry) →
          ∃ content, entry = .regular 1 content :=
    checkEach_eq_ok_of_iff fun _ _ => scanEntry_eq_ok
  simp only [scanTree, bind_eq_ok, hscan, Finset.mem_sort, Finset.mem_erase, pure_eq_ok,
    Except.ok.injEq, exists_const, eq_comm (a := scanned)]
  refine and_congr_left fun _ => ?_
  constructor
  · intro h path entry hnode
    refine h path ⟨?_, (t.mem_paths path).mpr (by simp [hnode])⟩ entry hnode
    rintro rfl
    rw [t.root] at hnode
    cases hnode
  · intro h path _ entry
    exact h path entry

/-! ### Trees of results -/

section Trees

variable [Hashlib] {result : GenerationResult} {receipt : List UInt8}

theorem slash_notMem_of_le {place : List String × FileEntry}
    (hplace : place ∈ places result receipt) {segments : List String} (hle : segments <+: place.1) :
    ∀ segment ∈ segments, '/' ∉ segment.toList := by
  intro segment hsegment
  exact ((fits_places result receipt).names place hplace segment (hle.subset hsegment)).2.2.2.1

/-- The entries that a receipt asks for are the places of the files and of the receipt, with the
directories above them. -/
theorem mem_receiptTreeEntries {entry : String} : entry ∈ receiptTreeEntries result ↔
    ∃ segments, segments ≠ [] ∧ (∃ place ∈ places result receipt, segments <+: place.1) ∧
      entry = joinPath segments := by
  rw [receiptTreeEntries, Finset.mem_insert, List.mem_toFinset, List.mem_flatMap]
  constructor
  · rintro (rfl | ⟨file, hfile, hentry⟩)
    · refine ⟨[generationReceiptName], by simp, ⟨_, mem_places.mpr (Or.inr rfl), by simp⟩, ?_⟩
      rw [← splitPath_generationReceiptName, joinPath_splitPath]
    · have hplace : placeOf file ∈ places result receipt :=
        mem_places.mpr (Or.inl ⟨file, hfile, rfl⟩)
      rcases List.mem_cons.mp hentry with rfl | hancestor
      · exact ⟨_, splitPath_ne_nil _, ⟨_, hplace, List.prefix_rfl⟩, (joinPath_splitPath _).symm⟩
      · obtain ⟨segments, hne, hle, -, rfl⟩ := mem_ancestors.mp hancestor
        exact ⟨segments, hne, ⟨_, hplace, hle⟩, rfl⟩
  · rintro ⟨segments, hne, ⟨place, hplace, hle⟩, rfl⟩
    rcases mem_places.mp hplace with ⟨file, hfile, rfl⟩ | rfl
    · refine Or.inr ⟨file, hfile, ?_⟩
      by_cases heq : segments = splitPath file.path.val
      · rw [heq, joinPath_splitPath]
        exact List.mem_cons_self
      · exact List.mem_cons_of_mem _ (mem_ancestors.mpr ⟨segments, hne, hle, heq, rfl⟩)
    · refine Or.inl ?_
      have heq : segments = [generationReceiptName] := by
        rcases List.prefix_cons_iff.mp hle with rfl | ⟨rest, rfl, hrest⟩
        · exact absurd rfl hne
        · rw [List.prefix_nil.mp hrest]
      rw [heq, ← splitPath_generationReceiptName, joinPath_splitPath]

/-- A tree has the entries of a receipt when its paths are those of the files and the receipt. -/
theorem image_eq_receiptTreeEntries_iff :
    (t.paths.erase []).image joinPath = receiptTreeEntries result ↔
      ∀ path, path ∈ t.paths ↔
        path = [] ∨ ∃ place ∈ places result receipt, path <+: place.1 := by
  have hnames : ∀ path ∈ t.paths, ∀ segment ∈ path, '/' ∉ segment.toList :=
    fun path hpath segment hsegment => (t.names path hpath segment hsegment).2.2.2.1
  have hentries : ∀ entry, entry ∈ receiptTreeEntries result ↔ ∃ segments, segments ≠ [] ∧
      (∃ place ∈ places result receipt, segments <+: place.1) ∧ entry = joinPath segments :=
    fun _ => mem_receiptTreeEntries
  have hroot : [] ∈ t.paths := (t.mem_paths []).mpr (by simp [t.root])
  rw [Finset.ext_iff]
  simp only [Finset.mem_image, Finset.mem_erase, hentries]
  constructor
  · intro h path
    by_cases hnil : path = []
    · simp [hnil, hroot]
    simp only [hnil, false_or]
    constructor
    · intro hpath
      obtain ⟨segments, hne, ⟨place, hplace, hle⟩, heq⟩ :=
        (h (joinPath path)).mp ⟨path, ⟨hnil, hpath⟩, rfl⟩
      have hsplit := congrArg splitPath heq
      rw [splitPath_joinPath hnil (hnames path hpath),
        splitPath_joinPath hne (slash_notMem_of_le hplace hle)] at hsplit
      exact ⟨place, hplace, hsplit ▸ hle⟩
    · rintro ⟨place, hplace, hle⟩
      obtain ⟨path', ⟨hne, hpath'⟩, heq⟩ :=
        (h (joinPath path)).mpr ⟨path, hnil, ⟨place, hplace, hle⟩, rfl⟩
      have hsplit := congrArg splitPath heq
      rw [splitPath_joinPath hne (hnames path' hpath'),
        splitPath_joinPath hnil (slash_notMem_of_le hplace hle)] at hsplit
      exact hsplit ▸ hpath'
  · intro h entry
    constructor
    · rintro ⟨path, ⟨hne, hpath⟩, rfl⟩
      rcases (h path).mp hpath with hnil | hplace
      · exact absurd hnil hne
      · exact ⟨path, hne, hplace, rfl⟩
    · rintro ⟨segments, hne, hplace, rfl⟩
      exact ⟨segments, ⟨hne, (h segments).mpr (Or.inr hplace)⟩, rfl⟩

/-- A tree is read as the tree of a result when it holds the files of the result and a receipt that
is parsed as the result. -/
theorem readExistingTree_eq_ok : readExistingTree t = .ok result ↔
    ∃ receipt, parseGenerationResultJson receipt = .ok result ∧
      t.Holds (places result receipt) := by
  simp only [readExistingTree, bind_eq_ok, scanTree_eq_ok, require_eq_ok, readRegularFile_eq_ok,
    mapError_eq_ok, pure_eq_ok, Except.ok.injEq, splitPath_generationReceiptName]
  have hfiles : ∀ {r : GenerationResult} {u : Unit}, checkEach (fun (_ : Nat) (item : GeneratedFile) =>
        readRegularFile t item.path.val >>= fun bytes =>
          require (bytes = utf8Encode item.content.val.toList) (.publication .invalidPriorTree
            "generated file differs from its receipt" (destination item.path.val)))
        r.files.items = .ok u ↔
      ∀ item ∈ r.files.items, t.node (splitPath item.path.val) =
        some (.file (.regular 1 (utf8Encode item.content.val.toList))) := by
    intro r u
    refine checkEach_eq_ok_of_iff fun _ item => ?_
    simp only [bind_eq_ok, readRegularFile_eq_ok, require_eq_ok]
    constructor
    · rintro ⟨bytes, hnode, rfl⟩
      exact hnode
    · intro hnode
      exact ⟨_, hnode, rfl⟩
  constructor
  · rintro ⟨_, ⟨hregular, rfl⟩, _, hreceipt, bytes, hbytes, _, hparse, _, hentries, _, hitems, rfl⟩
    refine ⟨bytes, hparse, ListedTree.holds_of_paths
      (image_eq_receiptTreeEntries_iff.mp hentries) fun place hplace => ?_⟩
    rcases mem_places.mp hplace with ⟨file, hfile, rfl⟩ | rfl
    · exact hfiles.mp hitems file hfile
    · exact hbytes
  · rintro ⟨bytes, hparse, hholds⟩
    have hentries := image_eq_receiptTreeEntries_iff.mpr hholds.mem_paths_iff
    refine ⟨_, ⟨fun path entry hnode => ?_, rfl⟩, (), ?_, bytes, ?_, _, hparse, (), hentries, (),
      hfiles.mpr fun item hitem => ?_, rfl⟩
    · rcases mem_places.mp ((hholds.file path entry).mp hnode) with ⟨file, -, heq⟩ | heq
      · exact ⟨_, (Prod.mk.inj heq).2⟩
      · exact ⟨_, (Prod.mk.inj heq).2⟩
    · rw [hentries, receiptTreeEntries]
      exact Finset.mem_insert_self _ _
    · exact (hholds.file _ _).mpr (mem_places.mpr (Or.inr rfl))
    · exact (hholds.file _ _).mpr (mem_places.mpr (Or.inl ⟨item, hitem, rfl⟩))

end Trees

end Ucf.Generation
