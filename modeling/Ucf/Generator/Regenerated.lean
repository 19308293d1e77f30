import Ucf.Generator.Intact

/-! What generating all use cases leaves in the output directory, and what doing so again leaves. -/

namespace Ucf.Spec

open FilePath

section Generation

variable {ε : Type} [Lowercase] {engine : GeneratorEngine ε} {uc : UseCaseSpec} {faults : Faults}
  {t s : OutputTree}

/-! ### Requests -/

/-- The requests for the directory of a use case and its `__init__.py`. -/
def preparations (dir : FilePath) : List (Request FilePath (Node String)) :=
  dir.inits.map (⟨·, .directory, false⟩) ++ [⟨initFile dir, .file "", false⟩]

/-- All requests that a use case makes. -/
def GeneratorEngine.requestsOf (engine : GeneratorEngine ε) (uc : UseCaseSpec) :
    List (Request FilePath (Node String)) :=
  preparations (engine.usecaseDir uc) ++ match engine.generatedFiles uc with
    | .ok files => files.map (·.request (engine.usecaseDir uc))
    | .error _ => []

/-- All requests of the use cases of the registry, in their order. -/
def GeneratorEngine.requests (engine : GeneratorEngine ε) :
    List (Request FilePath (Node String)) :=
  engine.registry.usecases.flatMap engine.requestsOf

omit [Lowercase] in
theorem applyAll_preparations {dir : FilePath}
    (hfree : ∀ q, q <+: dir → t.IsDirectory q ∨ ¬t.Exists q) (h : Prepared dir t s) :
    s.node = Request.applyAll t.node (preparations dir) := by
  have hfirst : ∀ (p : FilePath) (qs : List FilePath),
      Request.first p (qs.map fun q => (⟨q, .directory, false⟩ : Request FilePath (Node String))) =
        if p ∈ qs then some .directory else none := by
    intro p qs
    induction qs with
    | nil => rfl
    | cons q qs ih =>
      rw [List.map_cons, Request.first, ih]
      by_cases hq : q = p
      · simp [hq]
      · simp [hq, Ne.symm hq]
  have hlast : ∀ (p : FilePath) (qs : List FilePath), Request.lastOverwrite p
      (qs.map fun q => (⟨q, .directory, false⟩ : Request FilePath (Node String))) = none := by
    intro p qs
    induction qs with
    | nil => rfl
    | cons q qs ih =>
      rw [List.map_cons, Request.lastOverwrite, ih]
      simp
  funext p
  rw [h, preparations, Request.applyAll_append]
  change _ = Request.apply _ _ p
  rw [Request.apply_apply, Request.applyAll_apply, Request.due, Request.due, hlast, hfirst]
  simp only [Request.lastOverwrite, Request.first, List.mem_inits, Bool.false_eq_true, and_false,
    if_false, Option.none_or]
  by_cases hp : p <+: dir
  · rw [if_pos hp, if_pos hp]
    rcases hfree p hp with hdirectory | hmissing
    · rw [show t.node p = some .directory from hdirectory]
      rfl
    · rw [DirectoryTree.not_exists.mp hmissing]
      rfl
  · rw [if_neg hp, if_neg hp, Option.or_none]
    by_cases hinit : p = initFile dir
    · rw [if_pos hinit, if_pos hinit.symm]
    · rw [if_neg hinit, if_neg (Ne.symm hinit), Option.or_none]

/-! ### One use case -/

omit [Lowercase] in
theorem length_generatedFiles {files : List GeneratedFile}
    (h : engine.generatedFiles uc = .ok files) : files.length = 3 := by
  simp only [GeneratorEngine.generatedFiles, bind_eq_ok, pure_eq_ok, Except.ok.injEq] at h
  obtain ⟨_, -, _, -, _, -, rfl⟩ := h
  rfl

omit [Lowercase] in
theorem map_fst_zip_files {files : List GeneratedFile} (h : engine.generatedFiles uc = .ok files)
    (faults : Faults) : (files.zip faults.files).map Prod.fst = files := by
  rw [List.map_fst_zip]
  rw [length_generatedFiles h]
  rfl

/-- Nothing more is needed to generate a use case: its directories and files stand in the tree. -/
structure Settled (engine : GeneratorEngine ε) (uc : UseCaseSpec) (files : List GeneratedFile)
    (t : OutputTree) : Prop where
  directory : ∀ q, q <+: engine.usecaseDir uc → t.IsDirectory q
  init : t.Exists (initFile (engine.usecaseDir uc))
  inside : ∀ file ∈ files,
    Inside (engine.usecaseDir uc).resolve (file.target (engine.usecaseDir uc))
  exists_target : ∀ file ∈ files, t.Exists (file.target (engine.usecaseDir uc))
  isFile : ∀ file ∈ files, file.overwrite = true →
    ¬t.IsDirectory (file.target (engine.usecaseDir uc))

/-- What stands in a tree stands in the other one, of the same kind. -/
def SameKinds (t s : OutputTree) : Prop :=
  ∀ p, t.Exists p → s.Exists p ∧ (s.IsDirectory p ↔ t.IsDirectory p)

omit [Lowercase] in
theorem SameKinds.trans {r : OutputTree} (h : SameKinds t s) (h' : SameKinds s r) :
    SameKinds t r := by
  intro p hp
  obtain ⟨hs, hdirectory⟩ := h p hp
  obtain ⟨hr, hdirectory'⟩ := h' p hs
  exact ⟨hr, hdirectory'.trans hdirectory⟩

theorem Settled.mono {files : List GeneratedFile} (h : Settled engine uc files t)
    (hkinds : SameKinds t s) : Settled engine uc files s where
  directory q hq := (hkinds q (h.directory q hq).exists).2.mpr (h.directory q hq)
  init := (hkinds _ h.init).1
  inside := h.inside
  exists_target file hfile := (hkinds _ (h.exists_target file hfile)).1
  isFile file hfile hoverwrite hdirectory :=
    h.isFile file hfile hoverwrite ((hkinds _ (h.exists_target file hfile)).2.mp hdirectory)

/-- What a use case that has been generated leaves. -/
structure Leaves (engine : GeneratorEngine ε) (uc : UseCaseSpec) (files : List GeneratedFile)
    (t s : OutputTree) : Prop where
  files_eq : engine.generatedFiles uc = .ok files
  node_eq : s.node = Request.applyAll t.node (engine.requestsOf uc)
  settled : Settled engine uc files s
  sameKinds : SameKinds t s

theorem leaves_of_ok {result : GenerationResult}
    (h : engine.generateValidatedUsecase uc faults t = (.ok result, s)) :
    ∃ files, Leaves engine uc files t s := by
  rcases generateValidatedUsecase_cases engine uc faults t with
    ⟨-, e, _, heq, -⟩ | ⟨hready, s₀, hprepared, heq⟩
  · rw [h] at heq
    cases heq
  · rw [h] at heq
    cases hfiles : engine.generatedFiles uc with
    | error e =>
      rw [hfiles] at heq
      cases heq
    | ok files =>
      rw [hfiles] at heq
      have houtcome := writeFiles_outcome (ε := ε) (files.zip faults.files)
        ⟨uc.metadata.name, [], []⟩ (Passed.start (engine.usecaseDir uc) s₀)
      simp only at heq
      rw [← heq] at houtcome
      obtain ⟨hnone, written, hpassed⟩ := houtcome.of_ok
      rw [List.nil_append] at hpassed
      have hmem : ∀ file ∈ files, ∃ y ∈ files.zip faults.files, y.1 = file := by
        intro file hfile
        rw [← map_fst_zip_files hfiles faults, List.mem_map] at hfile
        exact hfile
      have hgoes : ∀ y ∈ files.zip faults.files,
          ∃ before, ¬FailsAfter s₀.Exists s₀.CanWrite (engine.usecaseDir uc) before y := by
        intro y hy
        obtain ⟨before, after, hsplit⟩ := List.append_of_mem hy
        rw [hsplit] at hnone
        exact ⟨_, hnone.not_failsAfter⟩
      have hbelow : ∀ q, q <+: engine.usecaseDir uc → s₀.IsDirectory q := by
        intro q hq
        rw [DirectoryTree.IsDirectory, hprepared, if_pos hq]
      refine ⟨files, hfiles, ?_, ?_, ?_⟩
      · rw [hpassed.node_eq, applyAll_preparations hready.free hprepared,
          GeneratorEngine.requestsOf, hfiles, Request.applyAll_append]
        congr 1
        have hmap : (files.zip faults.files).map (fun y => y.1.request (engine.usecaseDir uc)) =
            ((files.zip faults.files).map Prod.fst).map
              (·.request (engine.usecaseDir uc)) := by
          rw [List.map_map]
          rfl
        rw [hmap, map_fst_zip_files hfiles]
      · refine ⟨fun q hq => (hpassed.isDirectory q).mpr (hbelow q hq), ?_, ?_, ?_, ?_⟩
        · refine (hpassed.exists_iff _).mpr (.inl ?_)
          exact (hprepared.exists_iff (initFile_notBelow _)).mpr (.inr rfl)
        · intro file hfile
          obtain ⟨y, hy, rfl⟩ := hmem file hfile
          obtain ⟨before, hgoes⟩ := hgoes y hy
          by_contra houtside
          exact hgoes (.inl houtside)
        · intro file hfile
          obtain ⟨y, hy, rfl⟩ := hmem file hfile
          exact (hpassed.exists_iff _).mpr (.inr ⟨y, hy, rfl⟩)
        · intro file hfile hoverwrite hdirectory
          obtain ⟨y, hy, rfl⟩ := hmem file hfile
          obtain ⟨before, hgoes⟩ := hgoes y hy
          refine hgoes (.inr ⟨.inl hoverwrite, .inl fun hwrite => hwrite.2 ?_⟩)
          exact (hpassed.isDirectory _).mp hdirectory
      · intro p hp
        have hnode : s₀.node p = t.node p := by
          rw [hprepared]
          split
          · rename_i hq
            exact ((hready.free p hq).resolve_right fun hmissing => hmissing hp).symm
          · split
            · rw [DirectoryTree.Exists, Option.isSome_iff_exists] at hp
              obtain ⟨node, hnode⟩ := hp
              rw [hnode]
              rfl
            · rfl
        refine ⟨(hpassed.exists_iff p).mpr (.inl ?_), (hpassed.isDirectory p).trans ?_⟩
        · rwa [DirectoryTree.Exists, hnode]
        · rw [DirectoryTree.IsDirectory, hnode]
          rfl

/-- Where everything stands already and no write fails, a use case is generated. -/
theorem Settled.generates {files : List GeneratedFile} (h : Settled engine uc files t)
    (hfiles : engine.generatedFiles uc = .ok files) :
    ∃ result s, engine.generateValidatedUsecase uc {} t = (.ok result, s) := by
  have hready : Ready (engine.usecaseDir uc) {} t :=
    ⟨rfl, fun q hq => .inl (h.directory q hq), .inl h.init⟩
  rcases generateValidatedUsecase_cases engine uc {} t with
    ⟨hnot, -⟩ | ⟨-, s₀, hprepared, heq⟩
  · exact absurd hready hnot
  · have hsame : s₀ = t := by
      refine DirectoryTree.ext (funext fun p => ?_)
      rw [hprepared]
      split
      · rename_i hq
        exact (h.directory p hq).symm
      · split
        · rename_i hinit
          have hsome := h.init
          rw [DirectoryTree.Exists, Option.isSome_iff_exists] at hsome
          obtain ⟨node, hnode⟩ := hsome
          rw [hinit, hnode]
          rfl
        · rfl
    subst hsame
    rw [hfiles] at heq
    rw [heq]
    have hgoes : ∀ before, ∀ y ∈ files.zip (Faults.files {}),
        ¬FailsAfter s₀.Exists s₀.CanWrite (engine.usecaseDir uc) before y := by
      intro before y hy
      have hfile : y.1 ∈ files := (List.of_mem_zip hy).1
      have hfault : y.2 = none := by
        have hmem := (List.of_mem_zip hy).2
        simpa [Faults.files] using hmem
      rintro (houtside | ⟨hattempt, hblocked | hfails⟩)
      · exact houtside (h.inside _ hfile)
      · have hexists := h.exists_target _ hfile
        have hoverwrite := hattempt.resolve_right fun hmissing => hmissing (.inl hexists)
        have hdirectory := h.isFile _ hfile hoverwrite
        refine hblocked ⟨hexists.parent fun hroot => hdirectory ?_, hdirectory⟩
        rw [hroot]
        exact s₀.root
      · exact hfails hfault
    have houtcome := writeFiles_outcome (ε := ε) (files.zip (Faults.files {}))
      ⟨uc.metadata.name, [], []⟩ (Passed.start (engine.usecaseDir uc) s₀)
    simp only
    generalize writeFiles (ε := ε) (engine.usecaseDir uc) (files.zip (Faults.files {})) s₀ []
      ⟨uc.metadata.name, [], []⟩ = outcome at houtcome ⊢
    generalize files.zip (Faults.files {}) = steps at houtcome hgoes
    cases houtcome with
    | passed => exact ⟨_, _, rfl⟩
    | broken hnone hfails => exact absurd hfails (hgoes _ _ (by simp))

/-! ### All use cases -/

theorem generateEach_of_ok {faults : String → Faults} {ucs : List UseCaseSpec}
    {results : List GenerationResult} (h : engine.generateEach faults ucs t = (.ok results, s)) :
    s.node = Request.applyAll t.node (ucs.flatMap engine.requestsOf) ∧
      (∀ uc ∈ ucs, ∃ files, engine.generatedFiles uc = .ok files ∧ Settled engine uc files s) ∧
      SameKinds t s := by
  induction ucs generalizing t results with
  | nil =>
    obtain ⟨-, rfl⟩ := Prod.mk.inj h
    exact ⟨rfl, by simp, fun p hp => ⟨hp, Iff.rfl⟩⟩
  | cons uc ucs ih =>
    rw [GeneratorEngine.generateEach] at h
    split at h
    · cases h
    · rename_i result r hfirst
      split at h
      · cases h
      · rename_i rest r' hrest
        obtain ⟨-, rfl⟩ := Prod.mk.inj h
        obtain ⟨files, hleaves⟩ := leaves_of_ok hfirst
        obtain ⟨hnode, hsettled, hkinds⟩ := ih hrest
        refine ⟨?_, ?_, hleaves.sameKinds.trans hkinds⟩
        · rw [hnode, hleaves.node_eq, List.flatMap_cons, Request.applyAll_append]
        · intro v hv
          rcases List.mem_cons.mp hv with rfl | hv
          · exact ⟨files, hleaves.files_eq, hleaves.settled.mono hkinds⟩
          · exact hsettled v hv

theorem generateEach_settled {ucs : List UseCaseSpec}
    (h : ∀ uc ∈ ucs, ∃ files, engine.generatedFiles uc = .ok files ∧ Settled engine uc files t) :
    ∃ results s, engine.generateEach (fun _ => {}) ucs t = (.ok results, s) := by
  induction ucs generalizing t with
  | nil => exact ⟨[], t, rfl⟩
  | cons uc ucs ih =>
    obtain ⟨files, hfiles, hsettled⟩ := h uc (by simp)
    obtain ⟨result, s, hfirst⟩ := hsettled.generates hfiles
    obtain ⟨_, hleaves⟩ := leaves_of_ok hfirst
    obtain ⟨results, r, hrest⟩ := ih fun v hv => by
      obtain ⟨files, hfiles, hsettled⟩ := h v (List.mem_cons_of_mem _ hv)
      exact ⟨files, hfiles, hsettled.mono hleaves.sameKinds⟩
    exact ⟨result :: results, r, by rw [GeneratorEngine.generateEach, hfirst]; simp only [hrest]⟩

theorem generateAll_of_ok {faults : String → Faults} {results : List GenerationResult}
    (h : engine.generateAll faults t = (.ok results, s)) :
    engine.registry.usecases.forM engine.validatePluginSupport = .ok () ∧
      engine.generateEach faults engine.registry.usecases t = (.ok results, s) := by
  rw [GeneratorEngine.generateAll] at h
  cases hvalid : engine.registry.usecases.forM engine.validatePluginSupport with
  | error e =>
    rw [hvalid] at h
    cases h
  | ok u =>
    rw [hvalid] at h
    exact ⟨rfl, h⟩

/-- Generating all use cases again changes nothing when it returns, and it does return when no
write fails. -/
def Again (engine : GeneratorEngine ε) (t : OutputTree) : Prop :=
  (∀ faults results s, engine.generateAll faults t = (.ok results, s) → s = t) ∧
    ∃ results, engine.generateAll (fun _ => {}) t = (.ok results, t)

theorem again_of_ok {faults : String → Faults} {results : List GenerationResult}
    (h : engine.generateAll faults t = (.ok results, s)) : Again engine s := by
  obtain ⟨hvalid, heach⟩ := generateAll_of_ok h
  obtain ⟨hnode, hsettled, -⟩ := generateEach_of_ok heach
  have hagain : ∀ faults results r, engine.generateAll faults s = (.ok results, r) → r = s := by
    intro faults' results' r hr
    obtain ⟨hnode', -, -⟩ := generateEach_of_ok (generateAll_of_ok hr).2
    refine DirectoryTree.ext ?_
    rw [hnode', hnode, Request.applyAll_applyAll]
  refine ⟨hagain, ?_⟩
  obtain ⟨results', r, hr⟩ := generateEach_settled hsettled
  have hall : engine.generateAll (fun _ => {}) s = (.ok results', r) := by
    rw [GeneratorEngine.generateAll, hvalid]
    exact hr
  obtain rfl := hagain _ _ _ hall
  exact ⟨results', hall⟩

/-! ### What is promised of a run that returns -/

/-- Each use case has a directory of its own with its own interface and orchestrator, files of
implementations are kept, and doing it again changes nothing. -/
structure Generated (engine : GeneratorEngine ε) (t s : OutputTree) : Prop where
  directory : ∀ u ∈ engine.registry.usecases, ∀ v ∈ engine.registry.usecases, u ≠ v →
    engine.usecaseDir u ≠ engine.usecaseDir v
  interface : ∀ u ∈ engine.registry.usecases, ∀ file,
    engine.plugin.generateInterface u engine.registry = .ok file →
      s.read? (file.target (engine.usecaseDir u)) = some file.content
  orchestrator : ∀ u ∈ engine.registry.usecases, ∀ file,
    engine.plugin.generateOrchestrator u engine.registry = .ok file →
      s.read? (file.target (engine.usecaseDir u)) = some file.content
  implStub : ∀ u ∈ engine.registry.usecases, ∀ file,
    engine.plugin.generateImplStub u engine.registry = .ok file → ∀ content,
      t.read? (file.target (engine.usecaseDir u)) = some content →
        s.read? (file.target (engine.usecaseDir u)) = some content
  again : Again engine s

/-- The file is the one that is due at its path: the last one generated that overwrites has its
content, or none overwrites and what stood there has it, or nothing stood there and the first one
has it. -/
def Due (engine : GeneratorEngine ε) (t : OutputTree) (path : FilePath) (content : String) :
    Prop :=
  Request.due (t.node path) path engine.requests = some (.file content)

/-- No two use cases share a safe name, the interfaces and orchestrators are due at their paths, and
no generated file that overwrites an existing implementation changes it. -/
structure Consistent (engine : GeneratorEngine ε) (t : OutputTree) : Prop where
  names : ∀ u ∈ engine.registry.usecases, ∀ v ∈ engine.registry.usecases, u ≠ v →
    safeModuleName u.metadata.name ≠ safeModuleName v.metadata.name
  interface : ∀ u ∈ engine.registry.usecases, ∀ file,
    engine.plugin.generateInterface u engine.registry = .ok file →
      Due engine t (file.target (engine.usecaseDir u)) file.content
  orchestrator : ∀ u ∈ engine.registry.usecases, ∀ file,
    engine.plugin.generateOrchestrator u engine.registry = .ok file →
      Due engine t (file.target (engine.usecaseDir u)) file.content
  implStub : ∀ u ∈ engine.registry.usecases, ∀ file,
    engine.plugin.generateImplStub u engine.registry = .ok file → ∀ content,
      t.read? (file.target (engine.usecaseDir u)) = some content → ∀ node,
        Request.lastOverwrite (file.target (engine.usecaseDir u)) engine.requests = some node →
          node = .file content

theorem usecaseDir_inj {u v : UseCaseSpec} : engine.usecaseDir u = engine.usecaseDir v ↔
    safeModuleName u.metadata.name = safeModuleName v.metadata.name := by
  rw [usecaseDir_eq, usecaseDir_eq, List.append_cancel_left_eq, safeSegments_inj]

/-- A run that returns keeps its promises exactly when the names and files are consistent. -/
theorem generated_iff_consistent {faults : String → Faults} {results : List GenerationResult}
    (h : engine.generateAll faults t = (.ok results, s)) :
    Generated engine t s ↔ Consistent engine t := by
  obtain ⟨hnode, -, -⟩ := generateEach_of_ok (generateAll_of_ok h).2
  have hread : ∀ p content, s.read? p = some content ↔ Due engine t p content := by
    intro p content
    rw [DirectoryTree.read?_eq_some, hnode, Request.applyAll_apply]
    rfl
  have hkeeps : ∀ p content, t.read? p = some content →
      (s.read? p = some content ↔ ∀ node, Request.lastOverwrite p engine.requests = some node →
        node = .file content) := by
    intro p content hp
    rw [hread, Due, Request.due, DirectoryTree.read?_eq_some.mp hp]
    cases hlast : Request.lastOverwrite p engine.requests with
    | none => simp
    | some node => simp
  constructor
  · intro hgenerated
    refine ⟨fun u hu v hv hne => ?_, fun u hu file hfile => ?_, fun u hu file hfile => ?_,
      fun u hu file hfile content hp => ?_⟩
    · exact fun heq => hgenerated.directory u hu v hv hne (usecaseDir_inj.mpr heq)
    · exact (hread _ _).mp (hgenerated.interface u hu file hfile)
    · exact (hread _ _).mp (hgenerated.orchestrator u hu file hfile)
    · exact (hkeeps _ _ hp).mp (hgenerated.implStub u hu file hfile content hp)
  · intro hconsistent
    refine ⟨fun u hu v hv hne => ?_, fun u hu file hfile => ?_, fun u hu file hfile => ?_,
      fun u hu file hfile content hp => ?_, again_of_ok h⟩
    · exact fun heq => hconsistent.names u hu v hv hne (usecaseDir_inj.mp heq)
    · exact (hread _ _).mpr (hconsistent.interface u hu file hfile)
    · exact (hread _ _).mpr (hconsistent.orchestrator u hu file hfile)
    · exact (hkeeps _ _ hp).mpr (hconsistent.implStub u hu file hfile content hp)

/-! ### Paths that are written -/

/-- The paths that generating a use case may write to. -/
def GeneratorEngine.Writes (engine : GeneratorEngine ε) (uc : UseCaseSpec) (path : FilePath) :
    Prop :=
  path = initFile (engine.usecaseDir uc) ∨ ∃ files, engine.generatedFiles uc = .ok files ∧
    ∃ file ∈ files, Inside (engine.usecaseDir uc).resolve (file.target (engine.usecaseDir uc)) ∧
      path = file.target (engine.usecaseDir uc)

/-- No two use cases of the registry write to one path. -/
def NoSharedPath (engine : GeneratorEngine ε) : Prop :=
  ∀ u ∈ engine.registry.usecases, ∀ v ∈ engine.registry.usecases, u ≠ v →
    ∀ path, engine.Writes u path → ¬engine.Writes v path

/-- No two use cases share a safe name, and one whose name is empty does not write into the
directory of another at one of that one's paths. -/
def Apart (engine : GeneratorEngine ε) : Prop :=
  ∀ u ∈ engine.registry.usecases, ∀ v ∈ engine.registry.usecases, u ≠ v →
    safeModuleName u.metadata.name ≠ safeModuleName v.metadata.name ∧
      (safeModuleName u.metadata.name = [] → ∀ path, engine.usecaseDir v <+: path →
        engine.Writes u path → ¬engine.Writes v path)

theorem GeneratorEngine.Writes.below {path : FilePath} (h : engine.Writes uc path) :
    engine.usecaseDir uc <+: path := by
  have hdir := resolved_usecaseDir engine uc
  rcases h with rfl | ⟨files, -, file, -, hinside, rfl⟩
  · exact List.prefix_append _ _
  · exact (below_of_inside hdir (resolved_target hdir file) hinside).1

/-- No two use cases write to one path exactly when their safe names are apart. -/
theorem noSharedPath_iff_apart : NoSharedPath engine ↔ Apart engine := by
  constructor
  · intro h u hu v hv hne
    refine ⟨fun hname => ?_, fun _ path _ => h u hu v hv hne path⟩
    refine h u hu v hv hne (initFile (engine.usecaseDir u)) (.inl rfl) ?_
    rw [usecaseDir_inj.mpr hname]
    exact .inl rfl
  · intro h u hu v hv hne path hu' hv'
    obtain ⟨hname, hempty⟩ := h u hu v hv hne
    obtain ⟨-, hempty'⟩ := h v hv u hu hne.symm
    by_cases hnil : safeModuleName u.metadata.name = []
    · exact hempty hnil path hv'.below hu' hv'
    · by_cases hnil' : safeModuleName v.metadata.name = []
      · exact hempty' hnil' path hu'.below hv' hu'
      · have hbelow := hu'.below
        have hbelow' := hv'.below
        rw [usecaseDir_eq, safeSegments, if_neg hnil] at hbelow
        rw [usecaseDir_eq, safeSegments, if_neg hnil'] at hbelow'
        have hequal := (List.prefix_of_prefix_length_le hbelow hbelow' (by simp)).eq_of_length
          (by simp)
        exact hname (by simpa using hequal)

/-! ### Generation as a whole -/

/-- Generation keeps existing files when it raises, keeps its promises when it returns, and keeps
use cases apart, each exactly under its condition. -/
theorem generation_iff (engine : GeneratorEngine ε) :
    (∀ uc faults t, IntactOnFailure engine uc faults t ↔ Spared engine uc faults t) ∧
    (∀ faults t results s, engine.generateAll faults t = (.ok results, s) →
      (Generated engine t s ↔ Consistent engine t)) ∧
    (NoSharedPath engine ↔ Apart engine) :=
  ⟨intactOnFailure_iff_spared engine, fun _ _ _ _ h => generated_iff_consistent h,
    noSharedPath_iff_apart⟩

end Generation

namespace GenerationSample

scoped instance : Lowercase where
  lower name := String.ofList (name.toList.map Char.toLower)

def hyphenated : UseCaseSpec := { metadata := { name := "place-order" } }

def underscored : UseCaseSpec := { metadata := { name := "place_order" } }

/-- The registry after `register` of both use cases. -/
def registry : SpecRegistry :=
  match SpecRegistry.empty.register (.usecase hyphenated) >>= fun r =>
      r.register (.usecase underscored) with
  | .ok r => r
  | .error _ => .empty

/-- A plugin with three files for each use case, the last of which is never overwritten. -/
def plugin : GeneratorPlugin Unit where
  generateInterface uc _ := .ok { path := "interface.py", content := uc.metadata.name }
  generateOrchestrator uc _ := .ok { path := "test_orchestrator.py", content := uc.metadata.name }
  generateImplStub uc _ :=
    .ok { path := "impl.py", content := uc.metadata.name, overwrite := false }
  validateSpec := none

def engine : GeneratorEngine Unit where
  registry := registry
  plugin := plugin
  outputDir := ["generated".toList]
  resolved part hpart := by
    rw [List.mem_singleton.mp hpart]
    exact ⟨⟨by decide, by decide, by decide⟩, by decide⟩

def emptyTree : OutputTree where
  node path := if path = [] then some .directory else none
  root := rfl
  parents path name h := by simp at h

/-- The tree after `generate_all`. -/
def generated : OutputTree := (engine.generateAll (fun _ => {}) emptyTree).2

def interfacePath : FilePath := ["generated".toList, "place_order".toList, "interface.py".toList]

/-- What fails when the use case is generated again: the orchestrator cannot be opened. -/
def refusal : Faults := { orchestrator := some .refused }

theorem usecases_engine : engine.registry.usecases = [hyphenated, underscored] := rfl

theorem hyphenated_ne_underscored : hyphenated ≠ underscored := by
  intro h
  have hname := congrArg UseCaseSpec.name h
  exact absurd hname (by decide)

/-- Two use cases are generated into one directory, where the second interface stands, and when one
of them is generated again and raises, the interface is gone. -/
theorem interface_lost :
    ¬NoSharedPath engine ∧
    (∃ results, engine.generateAll (fun _ => {}) emptyTree = (.ok results, generated)) ∧
    generated.read? interfacePath = some underscored.metadata.name ∧
    ¬Generated engine emptyTree generated ∧
    ¬IntactOnFailure engine hyphenated refusal generated := by
  have hdir : engine.usecaseDir hyphenated = engine.usecaseDir underscored := by decide +kernel
  have hmem : hyphenated ∈ engine.registry.usecases := by simp [usecases_engine]
  have hmem' : underscored ∈ engine.registry.usecases := by simp [usecases_engine]
  refine ⟨fun h => ?_, ?_, by decide +kernel, fun h => ?_, fun h => ?_⟩
  · refine h hyphenated hmem underscored hmem' hyphenated_ne_underscored
      (initFile (engine.usecaseDir hyphenated)) (.inl rfl) (.inl ?_)
    rw [hdir]
  · have hok : (engine.generateAll (fun _ => {}) emptyTree).1.toOption.isSome = true := by
      decide +kernel
    rw [generated]
    cases hrun : engine.generateAll (fun _ => {}) emptyTree with
    | mk outcome tree =>
      rw [hrun] at hok
      cases outcome with
      | ok results => exact ⟨results, rfl⟩
      | error e => simp [Except.toOption] at hok
  · exact h.directory hyphenated hmem underscored hmem' hyphenated_ne_underscored hdir
  · have herror : (engine.generateUsecase hyphenated refusal generated).1.toOption.isNone = true :=
      by decide +kernel
    have hlost : (engine.generateUsecase hyphenated refusal generated).2.read? interfacePath =
        none := by decide +kernel
    have hbefore : generated.read? interfacePath = some underscored.metadata.name := by
      decide +kernel
    cases hrun : engine.generateUsecase hyphenated refusal generated with
    | mk outcome tree =>
      rw [hrun] at herror hlost
      cases outcome with
      | ok result => simp [Except.toOption] at herror
      | error e =>
        rw [h e tree hrun interfacePath _ hbefore] at hlost
        cases hlost

end GenerationSample

end Ucf.Spec
