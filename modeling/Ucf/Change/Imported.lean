import Ucf.Change.Published

/-! What an import finds: the files of the change, the configuration and the base specs that the
change's delta specs call for. On the tree of a proposal it finds the proposal. -/

namespace Ucf

/-! ### Places in a workspace -/

theorem isSegment_changes : IsSegment "changes".toList := ⟨by decide, by decide, by decide⟩

theorem specCapability?_eq_some {path : Path} {capability : List Char} :
    specCapability? path = some capability ↔ path = baseSpecPath capability := by
  rw [baseSpecPath]
  constructor
  · intro h
    unfold specCapability? at h
    split at h
    · split at h
      · rename_i heq
        cases h
        rw [heq.1, heq.2]
      · cases h
    · cases h
  · rintro rfl
    simp [specCapability?]

theorem changePath_append_ne_configPath (id : List Char) (relative : Path) :
    changePath id ++ relative ≠ configPath := by
  simp [changePath, configPath]

theorem changePath_append_ne_baseSpecPath (id : List Char) (relative : Path)
    (capability : List Char) : changePath id ++ relative ≠ baseSpecPath capability := by
  intro h
  have hhead := congrArg List.head? h
  simp only [changePath, baseSpecPath, List.cons_append, List.head?_cons, Option.some.injEq] at hhead
  revert hhead
  decide

theorem configPath_ne_baseSpecPath (capability : List Char) :
    configPath ≠ baseSpecPath capability := by
  simp [configPath, baseSpecPath]

/-- A file of a change is a delta spec by its place below the change. -/
theorem role_eq_deltaSpec {id : List Char} {relative : Path} :
    (artifactMetadata (changePath id ++ relative) (changePath id)).1 = .deltaSpec ↔
      (specCapability? relative).isSome := by
  have hne : ∀ name : List Char, relative = [name] → (specCapability? relative).isSome = false := by
    rintro name rfl
    rfl
  simp only [artifactMetadata, if_neg (changePath_append_ne_configPath id relative),
    List.append_cancel_left_eq, List.take_left, List.drop_left, List.length_append]
  constructor
  · intro h
    split_ifs at h with _ _ _ _ hdelta
    · exact hdelta.2.2
  · intro h
    have hlength : (changePath id).length + relative.length = (changePath id).length + 3 := by
      obtain ⟨capability, hcapability⟩ := Option.isSome_iff_exists.mp h
      rw [specCapability?_eq_some.mp hcapability]
      rfl
    split_ifs with h₁ h₂ h₃ h₄ h₅
    · rw [hne _ h₁] at h
      cases h
    · rw [hne _ h₂] at h
      cases h
    · rw [hne _ h₃] at h
      cases h
    · rw [hne _ h₄] at h
      cases h
    · rfl
    · exact absurd ⟨hlength, trivial, h⟩ h₅
    · exact absurd ⟨hlength, trivial, h⟩ h₅

theorem deltaCapability?_eq {id : List Char} {relative : Path} :
    deltaCapability? (changePath id) relative = specCapability? relative := by
  rw [deltaCapability?]
  split
  · rename_i hrole
    obtain ⟨capability, hcapability⟩ := Option.isSome_iff_exists.mp (role_eq_deltaSpec.mp hrole)
    rw [hcapability, specCapability?_eq_some.mp hcapability]
    rfl
  · rename_i hrole
    cases hcapability : specCapability? relative with
    | none => rfl
    | some capability =>
      refine absurd (role_eq_deltaSpec.mpr ?_) hrole
      rw [hcapability]
      rfl

/-! ### The files that an import reads -/

/-- The file at a path, if there is one. -/
def optionalFile (tree : OpenSpecTree) (path : Path) : List (Path × List UInt8) :=
  (tree.read? path).toList.map fun content => (path, content)

/-- The capabilities of the change's delta specs. -/
def capabilitiesOf (tree : OpenSpecTree) (id : List Char) : List (List Char) :=
  sortedSet (tree.files.filterMap fun file =>
    (relativeTo? (changePath id) file.1).bind specCapability?)

/-- The files of a change. -/
def changeFilesOf (tree : OpenSpecTree) (id : List Char) : List (Path × List UInt8) :=
  tree.files.filter fun file => (changePath id).isPrefixOf file.1

def importedFiles (tree : OpenSpecTree) (id : List Char) : List (Path × List UInt8) :=
  changeFilesOf tree id ++ optionalFile tree configPath ++
    (capabilitiesOf tree id).flatMap fun capability => optionalFile tree (baseSpecPath capability)

theorem mem_optionalFile {tree : OpenSpecTree} {path path' : Path} {content : List UInt8} :
    (path', content) ∈ optionalFile tree path ↔ path' = path ∧ (path, content) ∈ tree.files := by
  simp only [optionalFile, List.mem_map, Option.mem_toList, FileTree.read?_eq_some, Prod.mk.injEq]
  constructor
  · rintro ⟨_, hmem, rfl, rfl⟩
    exact ⟨rfl, hmem⟩
  · rintro ⟨rfl, hmem⟩
    exact ⟨content, hmem, rfl, rfl⟩

theorem mem_capabilitiesOf {tree : OpenSpecTree} {id capability : List Char} :
    capability ∈ capabilitiesOf tree id ↔
      ∃ content, (changePath id ++ baseSpecPath capability, content) ∈ tree.files := by
  simp only [capabilitiesOf, mem_sortedSet, List.mem_filterMap, Option.bind_eq_some_iff,
    relativeTo?_eq_some, specCapability?_eq_some]
  constructor
  · rintro ⟨⟨path, content⟩, hmem, _, rfl, rfl⟩
    exact ⟨content, hmem⟩
  · rintro ⟨content, hmem⟩
    exact ⟨_, hmem, _, rfl, rfl⟩

/-- The places that an import reads: the change, the configuration and the base specs of the
change's capabilities. -/
def IsImportedPath (tree : OpenSpecTree) (id : List Char) (path : Path) : Prop :=
  changePath id <+: path ∨ path = configPath ∨
    ∃ capability ∈ capabilitiesOf tree id, path = baseSpecPath capability

theorem mem_importedFiles {tree : OpenSpecTree} {id : List Char} {path : Path}
    {content : List UInt8} : (path, content) ∈ importedFiles tree id ↔
      (path, content) ∈ tree.files ∧ IsImportedPath tree id path := by
  simp only [importedFiles, changeFilesOf, List.mem_append, List.mem_filter,
    List.isPrefixOf_iff_prefix, mem_optionalFile, List.mem_flatMap, IsImportedPath]
  constructor
  · rintro ((⟨hmem, hle⟩ | ⟨rfl, hmem⟩) | ⟨capability, hcapability, rfl, hmem⟩)
    · exact ⟨hmem, .inl hle⟩
    · exact ⟨hmem, .inr (.inl rfl)⟩
    · exact ⟨hmem, .inr (.inr ⟨capability, hcapability, rfl⟩)⟩
  · rintro ⟨hmem, hle | rfl | ⟨capability, hcapability, rfl⟩⟩
    · exact .inl (.inl ⟨hmem, hle⟩)
    · exact .inl (.inr ⟨rfl, hmem⟩)
    · exact .inr ⟨capability, hcapability, rfl, hmem⟩

theorem nodup_importedFiles (tree : OpenSpecTree) (id : List Char) :
    ((importedFiles tree id).map Prod.fst).Nodup := by
  have hoptional : ∀ path, ((optionalFile tree path).map Prod.fst).Nodup ∧
      ∀ file ∈ optionalFile tree path, file.1 = path := by
    intro path
    refine ⟨?_, fun file hfile => (mem_optionalFile.mp hfile).1⟩
    rw [optionalFile]
    cases tree.read? path <;> simp
  have hchange : ∀ file ∈ changeFilesOf tree id, ∃ relative, file.1 = changePath id ++ relative := by
    intro file hfile
    obtain ⟨relative, hrelative⟩ :=
      List.isPrefixOf_iff_prefix.mp (List.mem_filter.mp hfile).2
    exact ⟨relative, hrelative.symm⟩
  rw [importedFiles, List.map_append, List.map_append, List.nodup_append, List.nodup_append]
  refine ⟨⟨tree.sorted.nodup.sublist (List.filter_sublist.map _), (hoptional _).1, ?_⟩, ?_, ?_⟩
  · intro path hpath path' hpath'
    obtain ⟨file, hfile, rfl⟩ := List.mem_map.mp hpath
    obtain ⟨file', hfile', rfl⟩ := List.mem_map.mp hpath'
    obtain ⟨relative, hrelative⟩ := hchange file hfile
    rw [hrelative, (hoptional _).2 file' hfile']
    exact changePath_append_ne_configPath id relative
  · rw [List.map_flatMap, List.nodup_flatMap]
    refine ⟨fun capability _ => (hoptional _).1, ?_⟩
    refine (sortedSet_pairwise _).imp fun {capability capability'} hlt path hpath hpath' => ?_
    obtain ⟨file, hfile, rfl⟩ := List.mem_map.mp hpath
    obtain ⟨file', hfile', heq⟩ := List.mem_map.mp hpath'
    rw [(hoptional _).2 file hfile, (hoptional _).2 file' hfile'] at heq
    simp only [baseSpecPath, List.cons.injEq, and_true, true_and] at heq
    exact absurd heq.symm (ne_of_lt hlt)
  · intro path hpath path' hpath'
    obtain ⟨file', hfile', rfl⟩ := List.mem_map.mp hpath'
    obtain ⟨capability, -, hcapability⟩ := List.mem_flatMap.mp hfile'
    rw [(hoptional _).2 file' hcapability]
    rcases List.mem_append.mp hpath with hpath | hpath
    · obtain ⟨file, hfile, rfl⟩ := List.mem_map.mp hpath
      obtain ⟨relative, hrelative⟩ := hchange file hfile
      rw [hrelative]
      exact changePath_append_ne_baseSpecPath id relative capability
    · obtain ⟨file, hfile, rfl⟩ := List.mem_map.mp hpath
      rw [(hoptional _).2 file hfile]
      exact configPath_ne_baseSpecPath capability

/-! ### The steps of an import -/

/-- The directories between the root and a path are its proper ancestors. -/
theorem mem_dropLast_tail_inits {α : Type} {path parent : List α}
    (h : parent ∈ path.inits.tail.dropLast) : parent <+: path ∧ parent ≠ path := by
  refine mem_dropLast_inits.mp ?_
  cases path with
  | nil => simp at h
  | cons name path =>
    rw [List.inits_cons, List.tail_cons] at h
    rw [List.inits_cons, List.dropLast_cons_of_ne_nil (List.ne_nil_of_mem
      (List.mem_of_mem_dropLast h))]
    exact List.mem_cons_of_mem _ h

theorem readOptionalRegularFile_eq_ok {tree : OpenSpecTree} {path : Path}
    {content : Option (List UInt8)}
    (h : readOptionalRegularFile tree path = .ok content) : tree.read? path = content := by
  rw [readOptionalRegularFile] at h
  split at h
  · rename_i parent hfind
    split at h
    · cases h
    · rename_i hfile
      rw [pure_eq_ok, Except.ok.injEq] at h
      rw [← h, FileTree.read?_eq_none]
      intro content hmem
      -- A file at the path makes each parent a directory.
      obtain ⟨hle, hproper⟩ := mem_dropLast_tail_inits (List.mem_of_find?_eq_some hfind)
      have hdirectory := List.find?_some hfind
      rw [decide_eq_true_eq, ← Bool.not_eq_true, FileTree.isDirectory_iff] at hdirectory
      exact hdirectory ⟨_, hmem, hle, Ne.symm hproper⟩
  · split at h
    · rename_i found hread
      rw [map_eq_ok] at h
      obtain ⟨_, hstable, rfl⟩ := h
      simp only [readStableRegularFile, bind_eq_ok, pure_eq_ok, Except.ok.injEq] at hstable
      obtain ⟨_, -, rfl⟩ := hstable
      exact hread
    · rename_i hread
      split at h
      · cases h
      · rw [pure_eq_ok, Except.ok.injEq] at h
        rw [← h]
        exact hread

/-- A path that can be read, or that is missing, when no file stands above or below it. -/
theorem readOptionalRegularFile_of_clear {tree : OpenSpecTree} {path : Path}
    (hclear : ∀ file ∈ tree.files, (file.1 <+: path ∨ path <+: file.1) → file.1 = path)
    (hlength : ∀ file ∈ tree.files, file.2.length ≤ maxOpenspecArtifactBytes) :
    readOptionalRegularFile tree path = .ok (tree.read? path) := by
  rw [readOptionalRegularFile]
  split
  · rename_i parent hfind
    obtain ⟨hle, hproper⟩ := mem_dropLast_tail_inits (List.mem_of_find?_eq_some hfind)
    have hdirectory := List.find?_some hfind
    rw [decide_eq_true_eq, ← Bool.not_eq_true, FileTree.isDirectory_iff] at hdirectory
    have hmissing : tree.read? parent = none := by
      rw [FileTree.read?_eq_none]
      intro content hmem
      exact hproper (hclear _ hmem (.inl hle))
    have hpath : tree.read? path = none := by
      rw [FileTree.read?_eq_none]
      intro content hmem
      exact hdirectory ⟨_, hmem, hle, Ne.symm hproper⟩
    rw [hmissing, hpath]
    rfl
  · cases hread : tree.read? path with
    | some content =>
      have hmem := FileTree.read?_eq_some.mp hread
      simp only [readStableRegularFile, require, if_pos (hlength _ hmem), ok_bind, pure_eq_ok]
      rfl
    | none =>
      have hdirectory : tree.isDirectory path = false := by
        rw [← Bool.not_eq_true, FileTree.isDirectory_iff]
        rintro ⟨file, hmem, hle, hne⟩
        exact hne (hclear file hmem (.inr hle))
      simp only [hdirectory]
      rfl

section Artifacts

variable [HashlibBytes]

/-- The file that an artifact stands for. -/
def OpenSpecArtifact.file (artifact : OpenSpecArtifact) : Path × List UInt8 :=
  (artifact.segments, artifact.content)

theorem artifactOf_eq_ok {path : Path} {role : OpenSpecArtifactRole} {content : List UInt8}
    {artifact : OpenSpecArtifact} (hnames : ∀ name ∈ path, IsSegment name)
    (h : artifactOf path role content = .ok artifact) : artifact.file = (path, content) ∧
      artifact.role = role := by
  rw [artifactOf] at h
  split at h
  · cases h
    refine ⟨?_, rfl⟩
    rw [OpenSpecArtifact.file, OpenSpecArtifact.segments, RelativeArtifactPath.segments,
      OpenSpecArtifact.content]
    simp only [String.toList_ofList, posixParts_posixText hnames, b64decode_b64encode,
      Option.getD_some]
  · cases h

/-- An artifact with the media type of its path is made again from its file. -/
theorem artifactOf_file {artifact : OpenSpecArtifact}
    (hmedia : artifact.mediaType = artifactMediaType artifact.segments) :
    artifactOf artifact.segments artifact.role artifact.content = .ok artifact := by
  have hcontent := artifact.contentOf
  have htext : String.ofList (posixText artifact.segments) = artifact.path.val := by
    rw [← String.toList_inj, String.toList_ofList]
    exact artifact.path.posixText_segments
  have hencoded : String.ofList (b64encode artifact.content) = artifact.contentBase64.val := by
    rw [← String.toList_inj, String.toList_ofList]
    exact hcontent.encode
  have hdigest : (⟨HashlibBytes.sha256Bytes artifact.content⟩ : Digest) = artifact.byteDigest := by
    rw [← hcontent.digest_eq]
  rw [artifactOf, dif_pos]
  · rw [Except.ok.injEq]
    refine OpenSpecArtifact.ext_of ?_ rfl hmedia.symm ?_
    · simp only [OpenSpecArtifact.segments, RelativeArtifactPath.segments, String.toList_ofList]
      exact posixParts_posixText fun _ => RelativeArtifactPath.isSegment
    · rw [OpenSpecArtifact.content]
      simp only [String.toList_ofList, b64decode_b64encode, Option.getD_some]
  · rw [htext, hencoded, hdigest, ← hmedia]
    exact ⟨artifact.path.property, artifact.contentBase64.property, artifact.valid⟩

theorem importOptional_eq_ok {tree : OpenSpecTree} {path : Path} {role : OpenSpecArtifactRole}
    {artifacts : List OpenSpecArtifact} (hnames : ∀ name ∈ path, IsSegment name)
    (h : importOptional tree path role = .ok artifacts) :
    artifacts.map OpenSpecArtifact.file = optionalFile tree path := by
  rw [importOptional, bind_eq_ok] at h
  obtain ⟨content, hread, h⟩ := h
  rw [optionalFile, readOptionalRegularFile_eq_ok hread]
  cases content with
  | none =>
    cases h
    rfl
  | some content =>
    simp only [bind_eq_ok, pure_eq_ok, Except.ok.injEq] at h
    obtain ⟨artifact, hartifact, rfl⟩ := h
    rw [List.map_singleton, (artifactOf_eq_ok hnames hartifact).1]
    rfl

theorem importChangeFile_eq_ok {change : Path} {file : Path × List UInt8}
    {artifact : OpenSpecArtifact} (hnames : ∀ name ∈ change ++ file.1, IsSegment name)
    (h : importChangeFile change file = .ok artifact) :
    artifact.file = (change ++ file.1, file.2) := by
  simp only [importChangeFile, bind_eq_ok] at h
  obtain ⟨_, -, _, -, hartifact⟩ := h
  exact (artifactOf_eq_ok hnames hartifact).1

end Artifacts

/-! ### Imports -/

section Imports

variable [HashlibBytes] [PyYaml]

theorem proposalOf_eq_ok {id : List Char} {behavior : BehaviorDocumentRef}
    {artifacts : List OpenSpecArtifact} {proposal : ChangeProposal}
    (h : proposalOf id behavior artifacts = .ok proposal) :
    proposal.changeId.val.toList = id ∧ proposal.baseBehavior = behavior ∧
      proposal.openspec.artifacts.items = artifacts := by
  rw [proposalOf] at h
  split at h
  · dsimp only at h
    split at h
    · cases h
      exact ⟨String.toList_ofList, rfl, rfl⟩
    · cases h
  · cases h

theorem proposalOf_self (proposal : ChangeProposal) :
    proposalOf proposal.changeId.val.toList proposal.baseBehavior
      proposal.openspec.artifacts.items = .ok proposal := by
  have hpath : proposal.openspec.changePath.val.toList =
      posixText (changePath proposal.changeId.val.toList) := by
    have hvalid := proposal.valid
    simp only [validateOpenspecIdentity, bind_eq_ok, require_eq_ok] at hvalid
    exact hvalid.choose_spec.1
  have htext : String.ofList (posixText (changePath proposal.changeId.val.toList)) =
      proposal.openspec.changePath.val := by
    rw [← String.toList_inj, String.toList_ofList, hpath]
  have hid : String.ofList proposal.changeId.val.toList = proposal.changeId.val :=
    String.ofList_toList
  cases proposal with
  | mk changeId behavior openspec valid =>
    cases openspec with
    | mk path artifacts manifest =>
      cases artifacts with
      | mk items lower upper =>
        cases changeId with
        | mk id idValid =>
          cases path with
          | mk path pathValid =>
            simp only at htext hid
            subst htext
            rw [proposalOf]
            simp only [hid]
            rw [dif_pos ⟨pathValid, lower, upper, manifest, idValid⟩, dif_pos valid]

omit [HashlibBytes] [PyYaml] in
/-- The files of the change as the import lists them. -/
theorem map_walked {tree : OpenSpecTree} {id : List Char} :
    (tree.files.filterMap fun file => (relativeTo? (changePath id) file.1).map fun relative =>
      (relative, file.2)).map (fun file => (changePath id ++ file.1, file.2)) =
      changeFilesOf tree id := by
  rw [changeFilesOf, List.map_filterMap, ← List.filterMap_eq_filter]
  refine List.filterMap_congr fun file _ => ?_
  rw [relativeTo?]
  split
  · rename_i hle
    obtain ⟨relative, hrelative⟩ := List.isPrefixOf_iff_prefix.mp hle
    simp only [Option.guard, Option.map_some, ← hrelative, List.drop_left]
    rw [hrelative, if_pos hle]
  · rename_i hle
    simp only [Option.guard, hle, Option.map_none]
    rfl

omit [HashlibBytes] [PyYaml] in
theorem capabilities_walked {tree : OpenSpecTree} {id : List Char} :
    sortedSet ((tree.files.filterMap fun file => (relativeTo? (changePath id) file.1).map
      fun relative => (relative, file.2)).filterMap fun file =>
        deltaCapability? (changePath id) file.1) = capabilitiesOf tree id := by
  rw [capabilitiesOf, List.filterMap_filterMap]
  congr 2
  funext file
  cases hrelative : relativeTo? (changePath id) file.1 with
  | none => rfl
  | some relative =>
    simp only [Option.map_some, Option.bind_some, deltaCapability?_eq]

omit [HashlibBytes] [PyYaml] in
theorem names_configPath : ∀ name ∈ configPath, IsSegment name := by
  intro name hname
  rw [List.mem_singleton.mp hname]
  exact ⟨by decide, by decide, by decide⟩

omit [HashlibBytes] [PyYaml] in
theorem names_baseSpecPath {tree : OpenSpecTree} {id capability : List Char}
    (h : capability ∈ capabilitiesOf tree id) :
    ∀ name ∈ baseSpecPath capability, IsSegment name := by
  obtain ⟨content, hmem⟩ := mem_capabilitiesOf.mp h
  exact fun name hname => tree.names _ hmem name (List.mem_append_right _ hname)

/-- The files below a change, as the walk gives them. -/
def walkedFiles (tree : OpenSpecTree) (id : List Char) : List (Path × List UInt8) :=
  tree.files.filterMap fun file => (relativeTo? (changePath id) file.1).map fun relative =>
    (relative, file.2)

omit [HashlibBytes] [PyYaml] in
theorem mem_walkedFiles {tree : OpenSpecTree} {id : List Char} {relative : Path}
    {content : List UInt8} : (relative, content) ∈ walkedFiles tree id ↔
      (changePath id ++ relative, content) ∈ tree.files := by
  simp only [walkedFiles, List.mem_filterMap, Option.map_eq_some_iff, relativeTo?_eq_some,
    Prod.mk.injEq]
  constructor
  · rintro ⟨⟨path, content⟩, hmem, _, rfl, rfl, rfl⟩
    exact hmem
  · intro hmem
    exact ⟨_, hmem, _, rfl, rfl, rfl⟩

omit [PyYaml] in
theorem files_of_changeArtifacts {tree : OpenSpecTree} {id : List Char}
    {artifacts : List OpenSpecArtifact}
    (h : collect (importChangeFile (changePath id)) (walkedFiles tree id) = .ok artifacts) :
    artifacts.map OpenSpecArtifact.file = changeFilesOf tree id := by
  rw [← map_walked]
  refine map_of_collect h fun file hfile artifact hartifact => ?_
  exact importChangeFile_eq_ok (tree.names _ (mem_walkedFiles.mp hfile)) hartifact

omit [PyYaml] in
theorem files_of_baseArtifacts {tree : OpenSpecTree} {id : List Char}
    {artifacts : List (List OpenSpecArtifact)}
    (h : collect (fun capability => importOptional tree (baseSpecPath capability) .baseSpec)
      (capabilitiesOf tree id) = .ok artifacts) :
    artifacts.flatten.map OpenSpecArtifact.file =
      (capabilitiesOf tree id).flatMap fun capability =>
        optionalFile tree (baseSpecPath capability) := by
  have hmap : artifacts.map (List.map OpenSpecArtifact.file) =
      (capabilitiesOf tree id).map fun capability => optionalFile tree (baseSpecPath capability) :=
    map_of_collect h fun capability hcapability artifacts hartifacts =>
      importOptional_eq_ok (names_baseSpecPath hcapability) hartifacts
  rw [List.map_flatten, hmap, List.flatMap_def]

/-- An import that succeeds has an artifact for each file that it reads. -/
theorem import_sound [Hashlib] {tree : OpenSpecTree} {id : List Char} {behavior : BehaviorIR}
    {proposal : ChangeProposal} (h : importOpenspecChange tree id behavior = .ok proposal) :
    proposal.changeId.val.toList = id ∧ proposal.baseBehavior = behaviorDocumentRef behavior ∧
      (proposal.openspec.artifacts.items.map OpenSpecArtifact.file).Perm (importedFiles tree id) := by
  simp only [importOpenspecChange, bind_eq_ok] at h
  obtain ⟨_, -, _, -, changeFiles, hwalk, changeArtifacts, hchange, configArtifacts, hconfig,
    baseArtifacts, hbase, _, -, _, -, hproposal⟩ := h
  obtain ⟨rfl, -, -⟩ := walkRegularFiles_eq_ok.mp hwalk
  rw [capabilities_walked] at hbase
  obtain ⟨hid, hbehavior, hartifacts⟩ := proposalOf_eq_ok hproposal
  refine ⟨hid, hbehavior, ?_⟩
  rw [hartifacts, importedFiles]
  refine ((sortedBy_perm _ _).map _).trans (List.Perm.of_eq ?_)
  rw [List.map_append, List.map_append, files_of_changeArtifacts hchange,
    importOptional_eq_ok names_configPath hconfig, files_of_baseArtifacts hbase]

/-! ### The import of a published proposal -/

/-- What the proposal's checks say of an artifact. -/
structure Placed (id : List Char) (artifact : OpenSpecArtifact) : Prop where
  place : artifact.segments = configPath ∨
    (∃ capability, artifact.segments = baseSpecPath capability) ∨
    ∃ relative, artifact.segments = changePath id ++ relative
  role : artifact.role = (artifactMetadata artifact.segments (changePath id)).1
  mediaType : artifact.mediaType = artifactMediaType artifact.segments

/-- What the proposal's checks say of all its artifacts. -/
structure ValidIdentity (id : List Char) (artifacts : List OpenSpecArtifact) : Prop where
  proposal : ∃ artifact ∈ artifacts, artifact.segments = changePath id ++ ["proposal.md".toList]
  placed : ∀ artifact ∈ artifacts, Placed id artifact
  profile : validateSpecDrivenProfile (profileArtifacts artifacts) (changePath id) = .ok ()

omit [HashlibBytes] [PyYaml] in
theorem role_eq_baseSpec {path : Path} {id : List Char}
    (h : (artifactMetadata path (changePath id)).1 = .baseSpec) :
    ∃ capability, path = baseSpecPath capability := by
  simp only [artifactMetadata] at h
  split_ifs at h with _ _ _ _ _ _ hbase
  obtain ⟨capability, hcapability⟩ := Option.isSome_iff_exists.mp hbase
  exact ⟨capability, specCapability?_eq_some.mp hcapability⟩

theorem ChangeProposal.validIdentity (proposal : ChangeProposal) :
    ValidIdentity proposal.changeId.val.toList proposal.openspec.artifacts.items := by
  have h := proposal.valid
  simp only [validateOpenspecIdentity, bind_eq_ok, require_eq_ok, mapError_eq_ok] at h
  obtain ⟨_, -, _, hproposal, _, hplaced, hprofile⟩ := h
  refine ⟨?_, fun artifact hartifact => ?_, hprofile⟩
  · have hmem := List.mem_singleton_self (changePath proposal.changeId.val.toList ++
      ["proposal.md".toList])
    rw [← hproposal] at hmem
    obtain ⟨artifact, hartifact, hsegments⟩ := List.mem_map.mp hmem
    exact ⟨artifact, (List.mem_filter.mp hartifact).1, hsegments⟩
  · obtain ⟨i, hi, rfl⟩ := List.mem_iff_getElem.mp hartifact
    have hcheck := checkEach_eq_ok.mp hplaced i hi
    simp only [bind_eq_ok, require_eq_ok] at hcheck
    obtain ⟨_, hplace, hrole, hmedia⟩ := hcheck
    refine ⟨?_, hrole, hmedia⟩
    rcases hplace with hconfig | hbase | ⟨hle, -⟩
    · exact .inl hconfig
    · exact .inr (.inl (role_eq_baseSpec hbase))
    · obtain ⟨relative, hrelative⟩ := List.isPrefixOf_iff_prefix.mp hle
      exact .inr (.inr ⟨relative, hrelative.symm⟩)

omit [HashlibBytes] in
/-- What the profile says of the delta specs and the base specs. -/
theorem profile_eq_ok {artifacts : List (Path × List Char)} {change : Path}
    (h : validateSpecDrivenProfile artifacts change = .ok ()) :
    (∀ path ∈ artifacts.map Prod.fst, isMisplacedDelta change path = false) ∧
      ∀ capability, baseSpecPath capability ∈ artifacts.map Prod.fst →
        change ++ baseSpecPath capability ∈ artifacts.map Prod.fst := by
  simp only [validateSpecDrivenProfile, bind_eq_ok, require_eq_ok] at h
  obtain ⟨_, hplaced, _, horphaned, -⟩ := h
  refine ⟨hplaced, fun capability hbase => ?_⟩
  by_contra hdelta
  have hmem : capability ∈ ([] : List (List Char)) := by
    rw [← horphaned, mem_sortedSet, List.mem_filter]
    refine ⟨List.mem_filterMap.mpr ⟨_, hbase, specCapability?_eq_some.mpr rfl⟩, ?_⟩
    rw [decide_eq_true_eq]
    intro hcapability
    obtain ⟨path, hpath, hbind⟩ := List.mem_filterMap.mp hcapability
    obtain ⟨relative, hrelative, hspec⟩ := Option.bind_eq_some_iff.mp hbind
    rw [relativeTo?_eq_some.mp hrelative, specCapability?_eq_some.mp hspec] at hpath
    exact hdelta hpath
  cases hmem

section Published

variable {proposal : ChangeProposal} {tree : OpenSpecTree}

/-- The identifier of the proposal's change, as a file name. -/
abbrev ChangeProposal.id (proposal : ChangeProposal) : List Char := proposal.changeId.val.toList

theorem mem_segments (h : IsTreeOf proposal tree) {path : Path} :
    path ∈ (profileArtifacts proposal.openspec.artifacts.items).map Prod.fst ↔
      ∃ content, (path, content) ∈ tree.files := by
  rw [profileArtifacts, List.map_map]
  constructor
  · intro hmem
    obtain ⟨artifact, hartifact, rfl⟩ := List.mem_map.mp hmem
    exact ⟨artifact.content, (h _ _).mpr ⟨artifact, hartifact, rfl, rfl⟩⟩
  · rintro ⟨content, hmem⟩
    obtain ⟨artifact, hartifact, rfl, -⟩ := (h _ _).mp hmem
    exact List.mem_map_of_mem hartifact

theorem file_place (h : IsTreeOf proposal tree) {file : Path × List UInt8}
    (hfile : file ∈ tree.files) : file.1 = configPath ∨
      (∃ capability, file.1 = baseSpecPath capability) ∨
      ∃ relative, file.1 = changePath proposal.id ++ relative := by
  obtain ⟨artifact, hartifact, hsegments, -⟩ := (h file.1 file.2).mp hfile
  rw [← hsegments]
  exact (proposal.validIdentity.placed artifact hartifact).place

/-- The import reads every file of a published proposal. -/
theorem mem_importedFiles_iff (h : IsTreeOf proposal tree) {file : Path × List UInt8} :
    file ∈ importedFiles tree proposal.id ↔ file ∈ tree.files := by
  obtain ⟨path, content⟩ := file
  rw [mem_importedFiles, and_iff_left_iff_imp]
  intro hfile
  rcases file_place h hfile with hconfig | ⟨capability, hbase⟩ | ⟨relative, hrelative⟩
  · exact .inr (.inl hconfig)
  · refine .inr (.inr ⟨capability, ?_, hbase⟩)
    simp only at hbase
    rw [hbase] at hfile
    rw [mem_capabilitiesOf, ← mem_segments h]
    exact (profile_eq_ok proposal.validIdentity.profile).2 capability
      ((mem_segments h).mpr ⟨content, hfile⟩)
  · exact .inl ⟨relative, hrelative.symm⟩

theorem length_content_le (h : IsTreeOf proposal tree) :
    ∀ file ∈ tree.files, file.2.length ≤ maxOpenspecArtifactBytes := by
  intro file hfile
  obtain ⟨artifact, -, -, hcontent⟩ := (h file.1 file.2).mp hfile
  rw [← hcontent]
  exact artifact.contentOf.length_le

theorem length_files_le (h : IsTreeOf proposal tree) :
    tree.files.length ≤ maxOpenspecArtifacts := by
  rw [isTreeOf_iff.mp h, expectedFiles, length_sortedBy, List.length_map]
  exact proposal.openspec.artifacts.le_upper

theorem validateRealDirectoryChain_of_isTreeOf (h : IsTreeOf proposal tree) :
    validateRealDirectoryChain tree (changePath proposal.id) = .ok () := by
  obtain ⟨artifact, hartifact, hsegments⟩ := proposal.validIdentity.proposal
  have hfile := (h _ _).mpr ⟨artifact, hartifact, hsegments, rfl⟩
  have hdirectory : ∀ component ∈ (changePath proposal.id).inits.tail,
      tree.isDirectory component = true := by
    intro component hcomponent
    have hle := (List.mem_inits _ _).mp (List.mem_of_mem_tail hcomponent)
    refine FileTree.isDirectory_iff.mpr ⟨_, hfile, hle.trans (List.prefix_append _ _), ?_⟩
    intro heq
    have hlength : (changePath proposal.id ++ ["proposal.md".toList]).length ≤
        (changePath proposal.id).length := (congrArg List.length heq).le.trans hle.length_le
    rw [List.length_append, List.length_singleton] at hlength
    omega
  refine (checkEach_eq_ok_of_mem (P := fun component => tree.isDirectory component = true)
    fun _ component _ => ?_).mpr hdirectory
  simp only [bind_eq_ok, require_eq_ok]
  constructor
  · rintro ⟨_, -, hcomponent⟩
    exact hcomponent
  · intro hcomponent
    exact ⟨(), .inl hcomponent, hcomponent⟩

theorem walkRegularFiles_of_isTreeOf (h : IsTreeOf proposal tree) :
    walkRegularFiles tree (changePath proposal.id) = .ok (walkedFiles tree proposal.id) := by
  refine walkRegularFiles_eq_ok.mpr ⟨rfl, ?_, ?_⟩
  · rintro ⟨relative, content⟩ hfile
    exact length_content_le h (changePath proposal.id ++ relative, content)
      (mem_walkedFiles.mp hfile)
  · exact (List.length_filterMap_le _ _).trans (length_files_le h)

/-- A file of a change is imported as the artifact that it was published from. -/
theorem importChangeFile_of_isTreeOf (h : IsTreeOf proposal tree) {file : Path × List UInt8}
    (hfile : file ∈ walkedFiles tree proposal.id) :
    ∃ artifact, importChangeFile (changePath proposal.id) file = .ok artifact ∧
      artifact ∈ proposal.openspec.artifacts.items := by
  obtain ⟨relative, content⟩ := file
  have hmem := mem_walkedFiles.mp hfile
  obtain ⟨artifact, hartifact, hsegments, rfl⟩ := (h _ _).mp hmem
  have hplaced := proposal.validIdentity.placed artifact hartifact
  have hmisplaced := (profile_eq_ok proposal.validIdentity.profile).1 _
    ((mem_segments h).mpr ⟨_, hmem⟩)
  have hrole := hplaced.role
  rw [hsegments] at hrole
  have hself := artifactOf_file hplaced.mediaType
  rw [hsegments, hrole] at hself
  refine ⟨artifact, ?_, hartifact⟩
  simp only [importChangeFile, bind_eq_ok, require_eq_ok]
  refine ⟨(), ?_, (), ?_, hself⟩
  · rintro ⟨hspecs, hsuffix, hdelta⟩
    refine hdelta (role_eq_deltaSpec.mpr ?_)
    have hnil : relative ≠ [] := by
      rintro rfl
      cases hspecs
    have hsuffix' : posixSuffix (changePath proposal.id ++ relative) = posixSuffix relative := by
      simp only [posixSuffix, List.getLast?_append_of_ne_nil _ hnil]
    rw [isMisplacedDelta, relativeTo?_eq_some.mpr rfl] at hmisplaced
    simp only [Option.any_some, hspecs, hsuffix', hsuffix, decide_true, Bool.true_and] at hmisplaced
    cases hspec : specCapability? relative with
    | some _ => rfl
    | none =>
      rw [hspec] at hmisplaced
      cases hmisplaced
  · intro hdelta
    obtain ⟨capability, hcapability⟩ := Option.isSome_iff_exists.mp (role_eq_deltaSpec.mp hdelta)
    rw [specCapability?_eq_some.mp hcapability]
    exact ⟨rfl, rfl⟩

/-- No file of a published proposal stands above or below the place of another document. -/
theorem clear_of_head (h : IsTreeOf proposal tree) {path : Path}
    (hpath : path = configPath ∨ ∃ capability, path = baseSpecPath capability) :
    ∀ file ∈ tree.files, (file.1 <+: path ∨ path <+: file.1) → file.1 = path := by
  intro file hfile hle
  have hhead : file.1.head? = path.head? := by
    have hne := tree.rooted file hfile
    have hne' : path ≠ [] := by
      rcases hpath with rfl | ⟨capability, rfl⟩ <;> simp [configPath, baseSpecPath]
    rcases hle with ⟨rest, rfl⟩ | ⟨rest, hrest⟩
    · rw [List.head?_append_of_ne_nil _ hne]
    · rw [← hrest, List.head?_append_of_ne_nil _ hne']
  rcases file_place h hfile with hconfig | ⟨capability, hbase⟩ | ⟨relative, hrelative⟩
  · rcases hpath with rfl | ⟨capability, rfl⟩
    · exact hconfig
    · rw [hconfig] at hhead
      exact absurd hhead (by simp [configPath, baseSpecPath])
  · rcases hpath with rfl | ⟨capability', rfl⟩
    · rw [hbase] at hhead
      exact absurd hhead (by simp [configPath, baseSpecPath])
    · rw [hbase] at hle ⊢
      rcases hle with hle | hle
      · exact hle.eq_of_length rfl
      · exact (hle.eq_of_length rfl).symm
  · rw [hrelative] at hhead
    rcases hpath with rfl | ⟨capability, rfl⟩
    · exact absurd hhead (by simp [configPath, changePath])
    · exact absurd hhead (by simp [baseSpecPath, changePath])

theorem importOptional_of_isTreeOf (h : IsTreeOf proposal tree) {path : Path}
    {role : OpenSpecArtifactRole}
    (hpath : path = configPath ∨ ∃ capability, path = baseSpecPath capability)
    (hrole : (artifactMetadata path (changePath proposal.id)).1 = role) :
    ∃ artifacts, importOptional tree path role = .ok artifacts ∧
      ∀ artifact ∈ artifacts, artifact ∈ proposal.openspec.artifacts.items := by
  have hread := readOptionalRegularFile_of_clear (clear_of_head h hpath) (length_content_le h)
  simp only [importOptional, hread, ok_bind]
  cases hfile : tree.read? path with
  | none => exact ⟨[], rfl, by simp⟩
  | some content =>
    obtain ⟨artifact, hartifact, rfl, rfl⟩ := (h _ _).mp (FileTree.read?_eq_some.mp hfile)
    have hplaced := proposal.validIdentity.placed artifact hartifact
    have hself := artifactOf_file hplaced.mediaType
    rw [hplaced.role, hrole] at hself
    refine ⟨[artifact], ?_, by simpa using hartifact⟩
    simp only [hself, ok_bind, pure_eq_ok]

/-- Artifacts of the proposal for all the files of its tree are all its artifacts. -/
theorem sortedBy_eq_artifacts (h : IsTreeOf proposal tree) {artifacts : List OpenSpecArtifact}
    (hsub : ∀ artifact ∈ artifacts, artifact ∈ proposal.openspec.artifacts.items)
    (hfiles : artifacts.map OpenSpecArtifact.file = importedFiles tree proposal.id) :
    sortedBy (fun artifact : OpenSpecArtifact => artifact.path.val) artifacts =
      proposal.openspec.artifacts.items := by
  have hnodup : (artifacts.map fun artifact => artifact.path.val).Nodup := by
    refine List.Nodup.of_map (fun path => posixParts path.toList) ?_
    have hsegments := nodup_importedFiles tree proposal.id
    rw [← hfiles, List.map_map] at hsegments
    rw [List.map_map]
    exact hsegments
  refine (sortedKeys_sortedBy hnodup).eq_of_mem_iff proposal.validManifest.sorted fun artifact => ?_
  rw [mem_sortedBy]
  refine ⟨hsub artifact, fun hartifact => ?_⟩
  have hfile : artifact.file ∈ artifacts.map OpenSpecArtifact.file := by
    rw [hfiles, mem_importedFiles_iff h]
    exact (h _ _).mpr ⟨artifact, hartifact, rfl, rfl⟩
  obtain ⟨artifact', hartifact', heq⟩ := List.mem_map.mp hfile
  have hsame : artifact' = artifact := List.inj_on_of_nodup_map (nodup_segments proposal)
    (hsub artifact' hartifact') hartifact (congrArg Prod.fst heq)
  rw [← hsame]
  exact hartifact'

/-- The tree of a proposal is imported as the proposal. -/
theorem import_complete [Hashlib] (h : IsTreeOf proposal tree) {behavior : BehaviorIR}
    (hbehavior : validateChangeProposal proposal behavior = .ok ()) :
    importOpenspecChange tree proposal.id behavior = .ok proposal := by
  simp only [validateChangeProposal, bind_eq_ok, require_eq_ok] at hbehavior
  obtain ⟨_, -, _, hvalid, hbase⟩ := hbehavior
  obtain ⟨changeArtifacts, hchange, hchangeSub⟩ := collect_of_forall fun _ hfile =>
    importChangeFile_of_isTreeOf h hfile
  have hconfigRole : (artifactMetadata configPath (changePath proposal.id)).1 = .projectConfig := by
    simp [artifactMetadata]
  obtain ⟨configArtifacts, hconfig, hconfigSub⟩ :=
    importOptional_of_isTreeOf h (.inl rfl) hconfigRole
  have hbaseRole : ∀ capability : List Char,
      (artifactMetadata (baseSpecPath capability) (changePath proposal.id)).1 = .baseSpec := by
    intro capability
    simp [artifactMetadata, configPath, changePath, baseSpecPath, specCapability?]
  obtain ⟨baseArtifacts, hbaseAll, hbaseSub⟩ := collect_of_forall
    fun capability (_ : capability ∈ capabilitiesOf tree proposal.id) =>
      importOptional_of_isTreeOf h (.inr ⟨capability, rfl⟩) (hbaseRole capability)
  have hfiles : (changeArtifacts ++ configArtifacts ++ baseArtifacts.flatten).map
      OpenSpecArtifact.file = importedFiles tree proposal.id := by
    rw [List.map_append, List.map_append, files_of_changeArtifacts hchange,
      importOptional_eq_ok names_configPath hconfig, files_of_baseArtifacts hbaseAll]
    rfl
  have hsub : ∀ artifact ∈ changeArtifacts ++ configArtifacts ++ baseArtifacts.flatten,
      artifact ∈ proposal.openspec.artifacts.items := by
    intro artifact hartifact
    rcases List.mem_append.mp hartifact with hartifact | hartifact
    · rcases List.mem_append.mp hartifact with hartifact | hartifact
      · exact hchangeSub artifact hartifact
      · exact hconfigSub artifact hartifact
    · obtain ⟨artifacts, hartifacts, hmem⟩ := List.mem_flatten.mp hartifact
      exact hbaseSub artifacts hartifacts artifact hmem
  have hsorted := sortedBy_eq_artifacts h hsub hfiles
  have hlength : (changeArtifacts ++ configArtifacts ++ baseArtifacts.flatten).length ≤
      maxOpenspecArtifacts := by
    rw [← length_sortedBy (fun artifact : OpenSpecArtifact => artifact.path.val), hsorted]
    exact proposal.openspec.artifacts.le_upper
  have hprofile := proposal.validIdentity.profile
  have hself := proposalOf_self proposal
  rw [hbase] at hself
  simp only [importOpenspecChange, bind_eq_ok, require_eq_ok, mapError_eq_ok]
  refine ⟨(), hvalid, (), validateRealDirectoryChain_of_isTreeOf h, _,
    walkRegularFiles_of_isTreeOf h, changeArtifacts, hchange, configArtifacts, hconfig,
    baseArtifacts, ?_, (), hlength, (), ?_, ?_⟩
  · rw [walkedFiles, capabilities_walked]
    exact hbaseAll
  · rw [hsorted]
    exact hprofile
  · rw [hsorted]
    exact hself

end Published

/-! ### Exchange -/

/-- The places that the documents of a proposal come from. -/
def IsProposalPath (proposal : ChangeProposal) (path : Path) : Prop :=
  changePath proposal.id <+: path ∨ path = configPath ∨
    ∃ capability, (∃ artifact ∈ proposal.openspec.artifacts.items, artifact.role = .deltaSpec ∧
      artifact.segments = changePath proposal.id ++ baseSpecPath capability) ∧
        path = baseSpecPath capability

/-- Export and import undo each other, and an export never changes what is there. -/
theorem openspec_exchange [Hashlib] :
    (∀ (proposal : ChangeProposal) (behavior : BehaviorIR),
      validateChangeProposal proposal behavior = .ok () →
        ∃ tree, exportOpenspecChange proposal none = (some tree, .ok ()) ∧
          IsTreeOf proposal tree ∧
          importOpenspecChange tree proposal.changeId.val.toList behavior = .ok proposal ∧
          exportOpenspecChange proposal (some tree) = (some tree, .ok ())) ∧
    (∀ (tree : OpenSpecTree) (id : List Char) (behavior : BehaviorIR) (proposal : ChangeProposal),
      importOpenspecChange tree id behavior = .ok proposal →
        ∃ exported, exportOpenspecChange proposal none = (some exported, .ok ()) ∧
          ∀ file, file ∈ exported.files ↔ file ∈ tree.files ∧ IsProposalPath proposal file.1) ∧
    ∀ (proposal : ChangeProposal) (existing : OpenSpecTree), ¬ IsTreeOf proposal existing →
      ∃ e, exportOpenspecChange proposal (some existing) = (some existing, .error e) := by
  refine ⟨fun proposal behavior hbehavior => ?_, fun tree id behavior proposal h => ?_,
    fun proposal existing h => export_conflict h⟩
  · obtain ⟨tree, hexport, htree⟩ := export_absent proposal
    exact ⟨tree, hexport, htree, import_complete htree hbehavior, export_exact htree⟩
  · obtain ⟨rfl, -, hperm⟩ := import_sound h
    obtain ⟨exported, hexport, hexported⟩ := export_absent proposal
    refine ⟨exported, hexport, fun file => ?_⟩
    have hfiles : ∀ file, file ∈ exported.files ↔ file ∈ importedFiles tree proposal.id := by
      intro file
      rw [← hperm.mem_iff, List.mem_map]
      refine (hexported file.1 file.2).trans (exists_congr fun artifact => and_congr_right fun _ => ?_)
      rw [OpenSpecArtifact.file, Prod.ext_iff]
    have hcapabilities : ∀ capability, capability ∈ capabilitiesOf tree proposal.id ↔
        ∃ artifact ∈ proposal.openspec.artifacts.items, artifact.role = .deltaSpec ∧
          artifact.segments = changePath proposal.id ++ baseSpecPath capability := by
      intro capability
      rw [mem_capabilitiesOf]
      constructor
      · rintro ⟨content, hmem⟩
        have himported := (hfiles (_, content)).mpr (mem_importedFiles.mpr
          ⟨hmem, .inl (List.prefix_append _ _)⟩)
        obtain ⟨artifact, hartifact, hsegments, -⟩ := (hexported _ _).mp himported
        refine ⟨artifact, hartifact, ?_, hsegments⟩
        rw [(proposal.validIdentity.placed artifact hartifact).role, hsegments]
        refine role_eq_deltaSpec.mpr ?_
        rw [specCapability?_eq_some.mpr rfl]
        rfl
      · rintro ⟨artifact, hartifact, -, hsegments⟩
        have hfile := (hexported _ _).mpr ⟨artifact, hartifact, hsegments, rfl⟩
        exact ⟨_, (mem_importedFiles.mp ((hfiles _).mp hfile)).1⟩
    rw [hfiles, mem_importedFiles, IsImportedPath, IsProposalPath]
    refine and_congr_right fun _ => or_congr_right (or_congr_right ?_)
    exact exists_congr fun capability => and_congr_left fun _ => hcapabilities capability

end Imports

section Proposals

variable [PyYaml] [HashlibBytes] [Hashlib]

/-- A proposal is accepted with a behavior that reads back and that it names. -/
theorem validateChangeProposal_of_parse {proposal : ChangeProposal} {behavior parsed : BehaviorIR}
    (h : parseIrJson (canonicalIrJson behavior) = .ok parsed)
    (hbase : proposal.baseBehavior = behaviorDocumentRef behavior) :
    validateChangeProposal proposal behavior = .ok () := by
  simp only [validateChangeProposal, canonicalChangeLifecycleJson,
    parseChangeProposalJson_canonical, validateBehaviorDocument, h, Except.mapError, ok_bind,
    pure_eq_ok, require_eq_ok]
  exact hbase

end Proposals

end Ucf

/-! ### A sample

A change of metadata and an empty proposal. -/

namespace Ucf.OpenSpecSample

open Ucf.Sample (behavior digest digestValue)
open scoped Ucf.Sample

/-- The text of the sample's metadata. -/
def metadata : List Char := "schema: spec-driven".toList

scoped instance hashlibBytes : HashlibBytes := ⟨fun _ => digestValue⟩

/-- YAML, as far as the sample goes. -/
scoped instance pyYaml : PyYaml :=
  ⟨fun text => if text = metadata then some (.mapping [("schema", "spec-driven")]) else none⟩

def metadataArtifact : OpenSpecArtifact where
  path := ⟨"changes/a/.openspec.yaml", by decide +kernel⟩
  role := .changeMetadata
  mediaType := .yaml
  contentBase64 := ⟨"c2NoZW1hOiBzcGVjLWRyaXZlbg==", by decide +kernel⟩
  byteDigest := digest
  valid := by decide +kernel

def proposalArtifact : OpenSpecArtifact where
  path := ⟨"changes/a/proposal.md", by decide +kernel⟩
  role := .proposal
  mediaType := .markdown
  contentBase64 := ⟨"", by decide +kernel⟩
  byteDigest := digest
  valid := by decide +kernel

def proposal : ChangeProposal where
  changeId := ⟨"a", by decide +kernel⟩
  baseBehavior := behaviorDocumentRef behavior
  openspec := ⟨⟨"changes/a", by decide +kernel⟩,
    ⟨[metadataArtifact, proposalArtifact], by decide, by decide⟩, by decide +kernel⟩
  valid := by decide +kernel

theorem parseIrJson_behavior : parseIrJson (canonicalIrJson behavior) = .ok behavior.canonical := by
  have hsemantics : validateIrSemantics behavior = .ok () := by decide +kernel
  have hnesting : behavior.WithinNesting := by
    unfold BehaviorIR.WithinNesting
    decide +kernel
  exact parseIrJson_canonicalIrJson.mpr ⟨hnesting, validateIrSemantics_eq_ok.mp hsemantics, rfl⟩

theorem baseBehavior_proposal : proposal.baseBehavior = behaviorDocumentRef behavior := rfl

theorem validateChangeProposal_proposal : validateChangeProposal proposal behavior = .ok () :=
  validateChangeProposal_of_parse parseIrJson_behavior baseBehavior_proposal

/-- The sample proposal in a new place, read back, and against a tree with no files. -/
theorem openspec_exchange_proposal : ∃ tree exported : OpenSpecTree,
    exportOpenspecChange proposal none = (some tree, .ok ()) ∧
      importOpenspecChange tree "a".toList behavior = .ok proposal ∧
      (∀ file, file ∈ exported.files ↔ file ∈ tree.files ∧ IsProposalPath proposal file.1) ∧
      ∃ e, exportOpenspecChange proposal (some FileTree.empty) = (some FileTree.empty, .error e) := by
  obtain ⟨tree, hexport, -, himport, -⟩ :=
    openspec_exchange.1 proposal behavior validateChangeProposal_proposal
  obtain ⟨exported, -, hexported⟩ := openspec_exchange.2.1 tree _ behavior proposal himport
  refine ⟨tree, exported, hexport, himport, hexported, openspec_exchange.2.2 proposal _ fun h => ?_⟩
  have hfile := (h _ _).mpr ⟨proposalArtifact, by simp [proposal], rfl, rfl⟩
  cases hfile

end Ucf.OpenSpecSample
