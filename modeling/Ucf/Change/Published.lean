import Ucf.Change.Exchange

/-! What an export publishes: the files of a proposal do not collide, the staged tree has exactly
these files, and an existing destination is left as it is. -/

namespace Ucf

/-! ### Paths and contents of artifacts -/

theorem posixParts_of_isRelativePath {cs : List Char} (h : isRelativePath cs = true) :
    posixParts cs = cs.splitOn '/' := by
  simp only [isRelativePath, Bool.and_eq_true, List.all_eq_true] at h
  rw [posixParts, splitOn_eq, List.filter_eq_self]
  intro part hpart
  have hsafe := h.2 part (by rwa [splitOn_eq])
  simp only [List.mem_cons, List.not_mem_nil, not_or, decide_eq_true_eq] at hsafe
  simp [hsafe.1, hsafe.2.1]

namespace RelativeArtifactPath

theorem isRelativePath_val (path : RelativeArtifactPath) : isRelativePath path.val.toList = true :=
  (andThenString_eq_none.mp path.property).2

theorem isSegment {path : RelativeArtifactPath} {part : List Char} (h : part ∈ path.segments) :
    IsSegment part :=
  isSegment_of_mem_posixParts h

theorem segments_ne_nil (path : RelativeArtifactPath) : path.segments ≠ [] := by
  rw [segments, posixParts_of_isRelativePath path.isRelativePath_val]
  exact List.splitOn_ne_nil _ _

/-- An artifact's path is the text of its segments. -/
theorem posixText_segments (path : RelativeArtifactPath) :
    posixText path.segments = path.val.toList := by
  rw [posixText_of_ne_nil path.segments_ne_nil, segments,
    posixParts_of_isRelativePath path.isRelativePath_val, List.intercalate_splitOn]

theorem segments_inj {path path' : RelativeArtifactPath} (h : path.segments = path'.segments) :
    path = path' := by
  apply Subtype.ext
  rw [← String.toList_inj, ← path.posixText_segments, h, path'.posixText_segments]

end RelativeArtifactPath

theorem relativeTo?_eq_some {change path relative : Path} :
    relativeTo? change path = some relative ↔ path = change ++ relative := by
  rw [relativeTo?]
  constructor
  · intro h
    split at h
    · rename_i hle
      obtain ⟨rest, rfl⟩ := List.isPrefixOf_iff_prefix.mp hle
      rw [List.drop_left, Option.some.injEq] at h
      rw [h]
    · cases h
  · rintro rfl
    rw [if_pos (List.isPrefixOf_iff_prefix.mpr (List.prefix_append _ _)), List.drop_left]

variable [HashlibBytes]

/-- What holds of an artifact's bytes. -/
structure ContentOf (mediaType : ArtifactMediaType) (encoded : List Char) (digest : Digest)
    (content : List UInt8) : Prop where
  encode : b64encode content = encoded
  length_le : content.length ≤ maxOpenspecArtifactBytes
  isText : mediaType ≠ .octetStream → (utf8Decode content).isSome
  digest_eq : digest.value = HashlibBytes.sha256Bytes content

theorem validateArtifactContent_eq_ok {mediaType : ArtifactMediaType} {encoded : List Char}
    {digest : Digest} : validateArtifactContent mediaType encoded digest = .ok () ↔
      ∃ content, ContentOf mediaType encoded digest content := by
  simp only [validateArtifactContent, bind_eq_ok, orRaise_eq_ok, require_eq_ok]
  constructor
  · rintro ⟨content, -, _, hencode, _, hlength, _, htext, hdigest⟩
    exact ⟨content, hencode, hlength, htext, hdigest⟩
  · rintro ⟨content, h⟩
    exact ⟨content, by rw [← h.encode, b64decode_b64encode], (), h.encode, (), h.length_le, (),
      h.isText, h.digest_eq⟩

theorem OpenSpecArtifact.contentOf (artifact : OpenSpecArtifact) :
    ContentOf artifact.mediaType artifact.contentBase64.val.toList artifact.byteDigest
      artifact.content := by
  obtain ⟨content, h⟩ := validateArtifactContent_eq_ok.mp artifact.valid
  have hcontent : artifact.content = content := by
    rw [OpenSpecArtifact.content, ← h.encode, b64decode_b64encode]
    rfl
  rw [hcontent]
  exact h

/-- The bytes and the path give the rest of an artifact. -/
theorem OpenSpecArtifact.ext_of {artifact artifact' : OpenSpecArtifact}
    (hpath : artifact.segments = artifact'.segments) (hrole : artifact.role = artifact'.role)
    (hmedia : artifact.mediaType = artifact'.mediaType)
    (hcontent : artifact.content = artifact'.content) : artifact = artifact' := by
  have hencode := artifact.contentOf.encode
  have hencode' := artifact'.contentOf.encode
  have hdigest := artifact.contentOf.digest_eq
  have hdigest' := artifact'.contentOf.digest_eq
  rw [hcontent] at hencode hdigest
  have hpath' := RelativeArtifactPath.segments_inj hpath
  have hbase64 : artifact.contentBase64 = artifact'.contentBase64 := by
    apply Subtype.ext
    rw [← String.toList_inj, ← hencode, hencode']
  have hbyteDigest : artifact.byteDigest = artifact'.byteDigest := by
    have hvalue := hdigest.trans hdigest'.symm
    revert hvalue
    generalize artifact.byteDigest = d
    generalize artifact'.byteDigest = d'
    intro hvalue
    cases d
    cases d'
    simp only at hvalue
    rw [hvalue]
  cases artifact
  cases artifact'
  simp only at hpath' hrole hmedia hbase64 hbyteDigest
  subst hpath' hrole hmedia hbase64 hbyteDigest
  rfl

/-! ### Manifests -/

/-- What holds of the artifacts of a manifest. -/
structure ValidManifest (artifacts : List OpenSpecArtifact) : Prop where
  sorted : SortedKeys (fun artifact : OpenSpecArtifact => artifact.path.val) artifacts
  leaves : ∀ artifact ∈ artifacts, ∀ artifact' ∈ artifacts,
    artifact.segments <+: artifact'.segments → artifact.segments = artifact'.segments

theorem validateArtifactManifest_eq_ok {artifacts : List OpenSpecArtifact} :
    validateArtifactManifest artifacts = .ok () ↔ ValidManifest artifacts := by
  simp only [validateArtifactManifest, bind_eq_ok, require_eq_ok, List.forall_mem_map,
    mem_dropLast_inits]
  constructor
  · rintro ⟨_, hnodup, _, hleaves, hsorted⟩
    refine ⟨sortedKeys_iff.mpr (nodup_and_eq_sortedBy_iff.mp ⟨hnodup, hsorted⟩), ?_⟩
    intro artifact hartifact artifact' hartifact' hle
    by_contra hne
    exact hleaves artifact' hartifact' _ ⟨hle, hne⟩ (List.mem_map_of_mem hartifact)
  · intro h
    obtain ⟨hnodup, hsorted⟩ := nodup_and_eq_sortedBy_iff.mpr (sortedKeys_iff.mp h.sorted)
    refine ⟨(), hnodup, (), ?_, hsorted⟩
    rintro artifact' hartifact' parent ⟨hle, hne⟩ hmem
    obtain ⟨artifact, hartifact, rfl⟩ := List.mem_map.mp hmem
    exact hne (h.leaves artifact hartifact artifact' hartifact' hle)

/-! ### The published tree -/

section Published

variable [PyYaml]

omit [HashlibBytes] [PyYaml] in
/-- The text of a document that does not nest too deep is read back as the document. -/
theorem parseChangeDocument_canonical {α : Type} [Model α] {document : α}
    {fields : List (String × Json)} (hdump : modelDump document = .obj fields) {depth : Nat}
    (hdepth : (Model.schema : Schema α).depth = some depth) (hle : depth < maxJsonNesting) :
    parseChangeDocument (modelDump document).canonicalLine = .ok document := by
  have hexact := exact_modelDump document
  have hheight : (modelDump document).height ≤ depth + 1 :=
    (Model.schema.within depth hdepth document).height_le
  have hload : (modelValidate (modelDump document).canonical : Except (List Issue) α) =
      .ok document := Model.schema.load_canonical_dump document
  have hdecode : decodeStrictJsonObject (modelDump document).canonicalLine =
      .ok (modelDump document).canonical := by
    rw [hdump] at hexact hheight ⊢
    exact (decodeStrictJsonObject_canonicalLine hexact).mpr ⟨by omega, rfl⟩
  rw [parseChangeDocument, hdecode]
  simp only [Except.mapError, ok_bind, hload]

/-- A proposal's own text is read back as the proposal. -/
theorem parseChangeProposalJson_canonical (proposal : ChangeProposal) :
    parseChangeProposalJson (modelDump proposal).canonicalLine = .ok proposal :=
  parseChangeDocument_canonical rfl rfl (by decide)

theorem canonical_bind_parse (proposal : ChangeProposal) :
    canonicalChangeLifecycleJson proposal >>= parseChangeProposalJson = .ok proposal := by
  rw [canonicalChangeLifecycleJson, parseChangeProposalJson_canonical]
  simp only [ok_bind, pure_eq_ok, parseChangeProposalJson_canonical]

omit [HashlibBytes] [PyYaml] in
theorem walkRegularFiles_eq_ok {tree : OpenSpecTree} {root : Path}
    {files : List (Path × List UInt8)} : walkRegularFiles tree root = .ok files ↔
      files = (tree.files.filterMap fun file =>
        (relativeTo? root file.1).map fun relative => (relative, file.2)) ∧
      (∀ file ∈ files, file.2.length ≤ maxOpenspecArtifactBytes) ∧
      files.length ≤ maxOpenspecArtifacts := by
  simp only [walkRegularFiles, readStableRegularFile, bind_eq_ok, checkEach_eq_ok, require_eq_ok,
    pure_eq_ok, Except.ok.injEq]
  constructor
  · rintro ⟨_, hall, rfl⟩
    refine ⟨rfl, fun file hfile => ?_, ?_⟩
    · obtain ⟨i, hi, rfl⟩ := List.mem_iff_getElem.mp hfile
      obtain ⟨_, ⟨_, hlength, -⟩, -⟩ := hall i hi
      exact hlength
    · by_contra hlength
      obtain ⟨_, -, hcount⟩ := hall maxOpenspecArtifacts (by omega)
      omega
  · rintro ⟨hfiles, hlengths, hcount⟩
    rw [← hfiles]
    refine ⟨(), fun i hi => ⟨_, ⟨(), hlengths _ (List.getElem_mem hi), rfl⟩, ?_⟩, rfl⟩
    omega

omit [HashlibBytes] [PyYaml] in
theorem directoryContents_eq_ok {tree : OpenSpecTree} {files : List (Path × List UInt8)} :
    directoryContents tree = .ok files ↔ files = tree.files ∧
      (∀ file ∈ tree.files, file.2.length ≤ maxOpenspecArtifactBytes) ∧
      tree.files.length ≤ maxOpenspecArtifacts := by
  have hall : (tree.files.filterMap fun file =>
      (relativeTo? [] file.1).map fun relative => (relative, file.2)) = tree.files := by
    have hself : (fun file : Path × List UInt8 => (relativeTo? [] file.1).map fun relative =>
        (relative, file.2)) = some := by
      funext file
      rw [relativeTo?_eq_some.mpr (List.nil_append file.1).symm]
      rfl
    rw [hself, List.filterMap_some]
  rw [directoryContents, walkRegularFiles_eq_ok, hall]
  constructor
  · rintro ⟨rfl, hlengths, hcount⟩
    exact ⟨rfl, hlengths, hcount⟩
  · rintro ⟨rfl, hlengths, hcount⟩
    exact ⟨rfl, hlengths, hcount⟩

/-- The tree has exactly the files of the proposal. -/
def IsTreeOf (proposal : ChangeProposal) (tree : OpenSpecTree) : Prop :=
  ∀ path content, (path, content) ∈ tree.files ↔
    ∃ artifact ∈ proposal.openspec.artifacts.items,
      artifact.segments = path ∧ artifact.content = content

theorem mem_expectedFiles {proposal : ChangeProposal} {path : Path} {content : List UInt8} :
    (path, content) ∈ expectedFiles proposal ↔
      ∃ artifact ∈ proposal.openspec.artifacts.items,
        artifact.segments = path ∧ artifact.content = content := by
  rw [expectedFiles, mem_sortedBy, List.mem_map]
  simp only [Prod.mk.injEq]

theorem ChangeProposal.validManifest (proposal : ChangeProposal) :
    ValidManifest proposal.openspec.artifacts.items :=
  validateArtifactManifest_eq_ok.mp proposal.openspec.valid

theorem nodup_segments (proposal : ChangeProposal) :
    (proposal.openspec.artifacts.items.map OpenSpecArtifact.segments).Nodup := by
  have hnodup := proposal.validManifest.sorted.nodup
  refine List.Nodup.of_map posixText ?_
  rw [List.map_map]
  refine List.Nodup.of_map String.ofList ?_
  rw [List.map_map]
  convert hnodup using 2
  funext artifact
  simp only [Function.comp_apply, OpenSpecArtifact.segments, artifact.path.posixText_segments,
    String.ofList_toList]

theorem fits_expectedFiles (proposal : ChangeProposal) :
    FileTree.Fits IsSegment (expectedFiles proposal) where
  nodup := by
    rw [expectedFiles, ((sortedBy_perm _ _).map Prod.fst).nodup_iff, List.map_map]
    exact nodup_segments proposal
  rooted := by
    rintro ⟨path, content⟩ hfile
    obtain ⟨artifact, -, rfl, -⟩ := mem_expectedFiles.mp hfile
    exact artifact.path.segments_ne_nil
  names := by
    rintro ⟨path, content⟩ hfile
    obtain ⟨artifact, -, rfl, -⟩ := mem_expectedFiles.mp hfile
    exact fun _ => RelativeArtifactPath.isSegment
  leaves := by
    rintro ⟨path, content⟩ hfile ⟨path', content'⟩ hfile'
    obtain ⟨artifact, hmem, rfl, -⟩ := mem_expectedFiles.mp hfile
    obtain ⟨artifact', hmem', rfl, -⟩ := mem_expectedFiles.mp hfile'
    exact proposal.validManifest.leaves artifact hmem artifact' hmem'

theorem isTreeOf_iff {proposal : ChangeProposal} {tree : OpenSpecTree} :
    IsTreeOf proposal tree ↔ tree.files = expectedFiles proposal := by
  constructor
  · intro h
    refine tree.sorted.eq_of_mem_iff (sortedKeys_sortedBy ?_) fun file => ?_
    · rw [List.map_map]
      exact nodup_segments proposal
    · exact (h file.1 file.2).trans mem_expectedFiles.symm
  · intro h path content
    rw [h]
    exact mem_expectedFiles

theorem directoryContents_of_isTreeOf {proposal : ChangeProposal} {tree : OpenSpecTree}
    (h : IsTreeOf proposal tree) :
    directoryContents tree = .ok (expectedFiles proposal) := by
  refine directoryContents_eq_ok.mpr ⟨(isTreeOf_iff.mp h).symm, ?_, ?_⟩
  · rintro ⟨path, content⟩ hfile
    obtain ⟨artifact, -, -, rfl⟩ := (h path content).mp hfile
    exact artifact.contentOf.length_le
  · rw [isTreeOf_iff.mp h, expectedFiles, length_sortedBy, List.length_map]
    exact proposal.openspec.artifacts.le_upper

theorem exportOpenspecChange_none (proposal : ChangeProposal) :
    exportOpenspecChange proposal none =
      match (do
        let stage ← writeStagedTree (expectedFiles proposal)
        let contents ← directoryContents stage
        require (contents = expectedFiles proposal) (.filesystem .publishFailed
          "staged OpenSpec tree differs from the proposal manifest")
        pure stage : Except ChangeLifecycleError OpenSpecTree) with
      | .error e => (none, .error e)
      | .ok stage => (some stage, .ok ()) := by
  unfold exportOpenspecChange
  have h := canonical_bind_parse proposal
  generalize canonicalChangeLifecycleJson proposal >>= parseChangeProposalJson = parsed at h ⊢
  subst h
  rfl

theorem exportOpenspecChange_some (proposal : ChangeProposal) (existing : OpenSpecTree) :
    exportOpenspecChange proposal (some existing) = (some existing, do
      let contents ← directoryContents existing
      require (contents = expectedFiles proposal) (.filesystem .destinationConflict
        "existing export destination is not the exact manifest")) := by
  unfold exportOpenspecChange
  have h := canonical_bind_parse proposal
  generalize canonicalChangeLifecycleJson proposal >>= parseChangeProposalJson = parsed at h ⊢
  subst h
  rfl

/-- An absent destination gets exactly the files of the proposal. -/
theorem export_absent (proposal : ChangeProposal) :
    ∃ tree, exportOpenspecChange proposal none = (some tree, .ok ()) ∧ IsTreeOf proposal tree := by
  have hfits := fits_expectedFiles proposal
  rw [← List.append_nil (expectedFiles proposal)] at hfits
  obtain ⟨tree, htree, hfiles⟩ :=
    @FileTree.createAll_of_fits _ _ _ IsSegment _ FileTree.empty _ hfits
  have hisTree : IsTreeOf proposal tree := by
    intro path content
    rw [hfiles]
    simp only [FileTree.empty, List.not_mem_nil, or_false]
    exact mem_expectedFiles
  have hstage : writeStagedTree (expectedFiles proposal) = .ok tree := by
    rw [writeStagedTree, htree, orRaise_some]
  refine ⟨tree, ?_, hisTree⟩
  rw [exportOpenspecChange_none, hstage, ok_bind, directoryContents_of_isTreeOf hisTree, ok_bind,
    (require_eq_ok (u := ())).mpr rfl]
  rfl

/-- An exact destination stays and the export succeeds. -/
theorem export_exact {proposal : ChangeProposal} {tree : OpenSpecTree}
    (h : IsTreeOf proposal tree) :
    exportOpenspecChange proposal (some tree) = (some tree, .ok ()) := by
  rw [exportOpenspecChange_some, directoryContents_of_isTreeOf h, ok_bind, (require_eq_ok (u := ())).mpr rfl]

/-- A destination with any difference stays and the export fails. -/
theorem export_conflict {proposal : ChangeProposal} {tree : OpenSpecTree}
    (h : ¬ IsTreeOf proposal tree) :
    ∃ e, exportOpenspecChange proposal (some tree) = (some tree, .error e) := by
  rw [exportOpenspecChange_some]
  cases hcontents : directoryContents tree with
  | error e => exact ⟨e, rfl⟩
  | ok contents =>
    obtain ⟨rfl, -⟩ := directoryContents_eq_ok.mp hcontents
    have hne : tree.files ≠ expectedFiles proposal := fun heq => h (isTreeOf_iff.mpr heq)
    rw [ok_bind, require_of_not hne]
    exact ⟨_, rfl⟩

end Published

end Ucf
