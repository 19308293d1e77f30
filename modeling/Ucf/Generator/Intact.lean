import Ucf.Generator.Failure

/-! When a use case whose generation raises leaves the files intact that stood there before. -/

namespace Ucf.Spec

open FilePath

variable {ε : Type} [Lowercase] {engine : GeneratorEngine ε} {uc : UseCaseSpec} {faults : Faults}
  {t : OutputTree}

/-! ### Up to the loop -/

/-- Files are kept as they are. -/
def Keeps (t s : OutputTree) : Prop :=
  ∀ p content, t.read? p = some content → s.read? p = some content

/-- Before the loop, generation raises and keeps all files, or it has prepared the tree. -/
theorem generateValidatedUsecase_cases (engine : GeneratorEngine ε) (uc : UseCaseSpec)
    (faults : Faults) (t : OutputTree) :
    (¬Ready (engine.usecaseDir uc) faults t ∧
      ∃ e s, engine.generateValidatedUsecase uc faults t = (.error e, s) ∧ Keeps t s) ∨
    (Ready (engine.usecaseDir uc) faults t ∧ ∃ s, Prepared (engine.usecaseDir uc) t s ∧
      engine.generateValidatedUsecase uc faults t = match engine.generatedFiles uc with
        | .error e => (.error (.plugin e), s)
        | .ok files => writeFiles (engine.usecaseDir uc) (files.zip faults.files) s []
            ⟨uc.metadata.name, [], []⟩) := by
  rw [GeneratorEngine.generateValidatedUsecase]
  generalize engine.usecaseDir uc = dir
  cases hdirectory : faults.directory with
  | true =>
    refine .inl ⟨fun h => ?_, .osError, t, rfl, fun _ _ hread => hread⟩
    rw [h.directory] at hdirectory
    cases hdirectory
  | false =>
    simp only [Bool.false_eq_true, if_false]
    cases hmake : t.makeDirectories dir with
    | none =>
      obtain ⟨q, hq, hexists, hfile⟩ := DirectoryTree.makeDirectories_eq_none.mp hmake
      exact .inl ⟨fun h => (h.free q hq).elim hfile fun hmissing => hmissing hexists, .osError, t,
        rfl, fun _ _ hread => hread⟩
    | some s =>
      obtain ⟨hfree, hnode⟩ := DirectoryTree.makeDirectories_eq_some.mp hmake
      have hinit : s.node (initFile dir) = t.node (initFile dir) := by
        rw [hnode, if_neg (initFile_notBelow dir)]
      have hexists : s.Exists (initFile dir) ↔ t.Exists (initFile dir) := by
        rw [DirectoryTree.Exists, DirectoryTree.Exists, hinit]
      simp only
      by_cases hstands : s.Exists (initFile dir)
      · have hprepared : Prepared dir t s := by
          intro p
          rw [hnode]
          refine if_congr Iff.rfl rfl ?_
          split
          · rename_i heq
            rw [heq]
            have hsome := hexists.mp hstands
            rw [DirectoryTree.Exists] at hsome
            cases htree : t.node (initFile dir) with
            | none => simp [htree] at hsome
            | some => rfl
          · rfl
        rw [if_pos hstands]
        exact .inr ⟨⟨hdirectory, hfree, .inl (hexists.mp hstands)⟩, s, hprepared, rfl⟩
      · have hmissing : t.node (initFile dir) = none :=
          DirectoryTree.not_exists.mp fun h => hstands (hexists.mpr h)
        have hwrite : s.CanWrite (initFile dir) := by
          refine ⟨?_, fun h => hstands h.exists⟩
          rw [initFile, List.dropLast_concat, DirectoryTree.IsDirectory, hnode,
            if_pos List.prefix_rfl]
        have hkeeps : ∀ content, Keeps t (s.put (initFile dir) content hwrite) ∧ Keeps t s := by
          intro content
          have hbelow : ∀ p c, t.read? p = some c → ¬p <+: dir ∧ p ≠ initFile dir := by
            intro p c hread
            refine ⟨fun hp => ?_, fun hp => ?_⟩
            · rcases hfree p hp with hdir | hnone
              · rw [DirectoryTree.read?_eq_none_of_isDirectory hdir] at hread
                cases hread
              · exact hnone (DirectoryTree.exists_of_read? hread)
            · rw [DirectoryTree.read?_eq_some, hp, hmissing] at hread
              cases hread
          constructor
          · intro p c hread
            obtain ⟨hp, hne⟩ := hbelow p c hread
            rw [DirectoryTree.read?_eq_some] at hread ⊢
            rw [DirectoryTree.node_put, if_neg hne, hnode, if_neg hp, hread]
          · intro p c hread
            rw [DirectoryTree.read?_eq_some] at hread ⊢
            rw [hnode, if_neg (hbelow p c (DirectoryTree.read?_eq_some.mpr hread)).1, hread]
        have hnot : faults.init ≠ none → ¬Ready dir faults t := by
          intro hfault h
          refine h.init.elim (fun hexisting => ?_) hfault
          rw [DirectoryTree.Exists, hmissing] at hexisting
          cases hexisting
        rw [if_neg hstands, writeText, dif_pos hwrite]
        rcases hfault : faults.init with - | (- | left)
        · refine .inr ⟨⟨hdirectory, hfree, .inr hfault⟩, s.put (initFile dir) "" hwrite, ?_, rfl⟩
          intro p
          rw [DirectoryTree.node_put, hnode]
          by_cases hp : p = initFile dir
          · rw [if_pos hp, if_neg (hp ▸ initFile_notBelow dir), if_pos hp, hp, hmissing]
            rfl
          · rw [if_neg hp, if_neg hp]
        · exact .inl ⟨hnot (by simp [hfault]), .osError, s, rfl, (hkeeps "").2⟩
        · exact .inl ⟨hnot (by simp [hfault]), .osError, _, rfl, (hkeeps left).1⟩

/-! ### Intact files -/

/-- When generating a use case raises, the files that stood there before are as they were. -/
def IntactOnFailure (engine : GeneratorEngine ε) (uc : UseCaseSpec) (faults : Faults)
    (t : OutputTree) : Prop :=
  ∀ e s, engine.generateUsecase uc faults t = (.error e, s) → Keeps t s

/-- The first file that fails does so before an existing file has been written over: no file up to
it overwrites one, and if its write breaks off, it does not change one. -/
def Spared (engine : GeneratorEngine ε) (uc : UseCaseSpec) (faults : Faults) (t : OutputTree) :
    Prop :=
  let dir := engine.usecaseDir uc
  engine.validatePluginSupport uc = .ok () → Ready dir faults t →
    ∀ files, engine.generatedFiles uc = .ok files →
    ∀ before x after, files.zip faults.files = before ++ x :: after →
      NoneFails (Stands t dir) (Writable t dir) dir [] before →
      FailsAfter (Stands t dir) (Writable t dir) dir before x →
      (∀ y ∈ before, y.1.overwrite = true → t.read? (y.1.target dir) = none) ∧
      ∀ left content, x.2 = some (.cut left) → Inside dir.resolve (x.1.target dir) →
        t.read? (x.1.target dir) = some content → left = content

section Loop

variable {dir : FilePath} {s s' : OutputTree} {before : List (GeneratedFile × Option Fault)}
  {written : List FilePath} {x : GeneratedFile × Option Fault}

omit [Lowercase] in
/-- A loop that breaks off keeps the files when it has written over none of them. -/
theorem keeps_unlinkAll_iff (hprepared : Prepared dir t s)
    (hfree : ∀ q, q <+: dir → t.IsDirectory q ∨ ¬t.Exists q)
    (h : Passed dir s s' before written) :
    Keeps t ((breakOff dir s' x).unlinkAll written) ↔
      (∀ y ∈ before, y.1.overwrite = true → t.read? (y.1.target dir) = none) ∧
      ∀ left content, x.2 = some (.cut left) → Inside dir.resolve (x.1.target dir) →
        t.read? (x.1.target dir) = some content → left = content := by
  have hread : ∀ p content, t.read? p = some content → p ∉ written → s'.read? p = some content := by
    intro p content hp hwritten
    have hs := hprepared.read? hfree hp
    rw [DirectoryTree.read?_eq_some] at hs ⊢
    rw [h.unwritten p hwritten, hs]
  -- a write that breaks off over an existing file leaves its own content
  have hbreak : ∀ left content, x.2 = some (.cut left) → Inside dir.resolve (x.1.target dir) →
      t.read? (x.1.target dir) = some content →
      (breakOff dir s' x).node (x.1.target dir) = some (.file left) := by
    intro left content hcut hinside hp
    have hwrite : s'.CanWrite (x.1.target dir) :=
      (h.canWrite _).mpr (DirectoryTree.canWrite_of_read? (hprepared.read? hfree hp))
    rw [breakOff, hcut]
    simp only [dif_pos (And.intro hinside hwrite), DirectoryTree.node_put, if_true]
  constructor
  · intro hkeeps
    have hunwritten : ∀ p content, t.read? p = some content → p ∉ written := by
      intro p content hp hmem
      have hkept := hkeeps p content hp
      rw [DirectoryTree.read?_unlinkAll, if_pos hmem] at hkept
      cases hkept
    constructor
    · intro y hy hoverwrite
      cases hp : t.read? (y.1.target dir) with
      | none => rfl
      | some content => exact absurd (h.overwritten y hy hoverwrite) (hunwritten _ content hp)
    · intro left content hcut hinside hp
      have hkept := hkeeps _ content hp
      rw [DirectoryTree.read?_unlinkAll, if_neg (hunwritten _ content hp),
        DirectoryTree.read?_eq_some, hbreak left content hcut hinside hp] at hkept
      exact Node.file.inj (Option.some.inj hkept)
  · rintro ⟨hspared, hcut⟩ p content hp
    have hunwritten : p ∉ written := by
      intro hmem
      obtain ⟨y, hy, hoverwrite, rfl⟩ :=
        h.written p hmem (DirectoryTree.exists_of_read? (hprepared.read? hfree hp))
      rw [hspared y hy hoverwrite] at hp
      cases hp
    rw [DirectoryTree.read?_unlinkAll, if_neg hunwritten]
    by_cases hbroken : (∃ left, x.2 = some (.cut left)) ∧ Inside dir.resolve (x.1.target dir) ∧
        p = x.1.target dir
    · obtain ⟨⟨left, hleft⟩, hinside, rfl⟩ := hbroken
      rw [DirectoryTree.read?_eq_some, hbreak left content hleft hinside hp,
        hcut left content hleft hinside hp]
    · have hkept : (breakOff dir s' x).node p = s'.node p := by
        rw [breakOff]
        split
        · rename_i left hleft
          split
          · rename_i hboth
            rw [DirectoryTree.node_put, if_neg]
            exact fun hpx => hbroken ⟨⟨left, hleft⟩, hboth.1, hpx⟩
          · rfl
        · rfl
      rw [DirectoryTree.read?_eq_some, hkept, ← DirectoryTree.read?_eq_some]
      exact hread p content hp hunwritten

end Loop

/-- Existing files are intact after a failure exactly when the first file that fails does so before
one of them has been written over. -/
theorem intactOnFailure_iff_spared (engine : GeneratorEngine ε) (uc : UseCaseSpec)
    (faults : Faults) (t : OutputTree) :
    IntactOnFailure engine uc faults t ↔ Spared engine uc faults t := by
  rw [IntactOnFailure, Spared, GeneratorEngine.generateUsecase]
  cases engine.validatePluginSupport uc with
  | error e =>
    refine iff_of_true ?_ nofun
    rintro _ s ⟨⟩ p content hp
    exact hp
  | ok u =>
    simp only [forall_const]
    rcases generateValidatedUsecase_cases engine uc faults t with
      ⟨hready, e, s, heq, hkeeps⟩ | ⟨hready, s, hprepared, heq⟩
    · refine iff_of_true ?_ fun h => absurd h hready
      rw [heq]
      rintro _ _ ⟨⟩
      exact hkeeps
    · rw [heq]
      cases engine.generatedFiles uc with
      | error e =>
        refine iff_of_true ?_ fun _ _ => nofun
        rintro _ _ ⟨⟩ p content hp
        exact hprepared.read? hready.free hp
      | ok files =>
        have hdir := resolved_usecaseDir engine uc
        have hcongr : ∀ file : GeneratedFile,
            Inside (engine.usecaseDir uc).resolve (file.target (engine.usecaseDir uc)) →
            (s.Exists (file.target (engine.usecaseDir uc)) ↔
              Stands t (engine.usecaseDir uc) (file.target (engine.usecaseDir uc))) ∧
            (s.CanWrite (file.target (engine.usecaseDir uc)) ↔
              Writable t (engine.usecaseDir uc) (file.target (engine.usecaseDir uc))) := by
          intro file hinside
          obtain ⟨hbelow, hnot⟩ := below_of_inside hdir (resolved_target hdir file) hinside
          exact ⟨hprepared.exists_iff hnot, hprepared.canWrite_iff hbelow hnot⟩
        have houtcome := writeFiles_outcome (ε := ε) (files.zip faults.files)
          ⟨uc.metadata.name, [], []⟩ (Passed.start (engine.usecaseDir uc) s)
        simp only [Except.ok.injEq, forall_eq', hready, forall_const]
        generalize writeFiles (ε := ε) (engine.usecaseDir uc) (files.zip faults.files) s []
          ⟨uc.metadata.name, [], []⟩ = outcome at houtcome ⊢
        generalize files.zip faults.files = steps at houtcome ⊢
        cases houtcome with
        | passed hnone h =>
          refine iff_of_true (by rintro _ _ ⟨⟩) fun before x after hsplit _ hfails => ?_
          rw [hsplit] at hnone
          rw [← failsAfter_congr hcongr] at hfails
          exact absurd hfails (by simpa using hnone.not_failsAfter)
        | @broken passed rest x e s' written hnone hfails h =>
          have hkeeps := keeps_unlinkAll_iff (x := x) hprepared hready.free
            (by simpa using h : Passed (engine.usecaseDir uc) s s' passed written)
          constructor
          · intro hintact before y after hsplit hnone' hfails'
            rw [← noneFails_congr hcongr] at hnone'
            rw [← failsAfter_congr hcongr] at hfails'
            obtain ⟨rfl, rfl⟩ := NoneFails.unique hsplit hnone hfails hnone' (by simpa using hfails')
            exact hkeeps.mp (hintact _ _ rfl)
          · intro hspared
            rintro _ _ ⟨⟩
            refine hkeeps.mpr (hspared passed x rest rfl ?_ ?_)
            · exact (noneFails_congr hcongr).mp hnone
            · exact (failsAfter_congr hcongr).mp (by simpa using hfails)

end Ucf.Spec
