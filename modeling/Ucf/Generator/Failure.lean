import Ucf.Generator.Directories
import Ucf.Library.Requests

/-! What the loop over the generated files leaves: where it goes through, each file's request has
been made; where it breaks off, the files that it has written are removed, also those that it has
written over. -/

namespace Ucf.Spec

open FilePath

/-! ### The loop over the files -/

/-- What a generated file asks for. -/
def GeneratedFile.request (dir : FilePath) (file : GeneratedFile) :
    Request FilePath (Node String) :=
  ⟨file.target dir, .file file.content, file.overwrite⟩

/-- A file can be neither written nor skipped in a loop that has passed the files `before`: its path
is outside, or it is to be written and this fails. -/
def FailsAfter (stands writable : FilePath → Prop) (dir : FilePath)
    (before : List (GeneratedFile × Option Fault)) (x : GeneratedFile × Option Fault) : Prop :=
  ¬Inside dir.resolve (x.1.target dir) ∨
    ((x.1.overwrite = true ∨ ¬(stands (x.1.target dir) ∨
        ∃ y ∈ before, y.1.target dir = x.1.target dir)) ∧
      (¬writable (x.1.target dir) ∨ x.2 ≠ none))

/-- None of the files fails in a loop that has passed the files `before`. -/
def NoneFails (stands writable : FilePath → Prop) (dir : FilePath) :
    List (GeneratedFile × Option Fault) → List (GeneratedFile × Option Fault) → Prop
  | _, [] => True
  | before, x :: rest => ¬FailsAfter stands writable dir before x ∧
      NoneFails stands writable dir (before ++ [x]) rest

/-- A loop has gone from `t` to `s`, past the files `before`, and has written at the paths
`written`. -/
structure Passed (dir : FilePath) (t s : OutputTree)
    (before : List (GeneratedFile × Option Fault)) (written : List FilePath) : Prop where
  isDirectory : ∀ p, s.IsDirectory p ↔ t.IsDirectory p
  exists_iff : ∀ p, s.Exists p ↔ t.Exists p ∨ ∃ y ∈ before, y.1.target dir = p
  unwritten : ∀ p, p ∉ written → s.node p = t.node p
  overwritten : ∀ y ∈ before, y.1.overwrite = true → y.1.target dir ∈ written
  written : ∀ p ∈ written, t.Exists p → ∃ y ∈ before, y.1.overwrite = true ∧ y.1.target dir = p
  node_eq : s.node = Request.applyAll t.node (before.map fun y => y.1.request dir)

section Loop

variable {dir : FilePath} {t s : OutputTree} {before : List (GeneratedFile × Option Fault)}
  {written : List FilePath} {x : GeneratedFile × Option Fault}

theorem Passed.start (dir : FilePath) (t : OutputTree) : Passed dir t t [] [] where
  isDirectory _ := Iff.rfl
  exists_iff := by simp
  unwritten _ _ := rfl
  overwritten := nofun
  written := nofun
  node_eq := rfl

theorem Passed.canWrite (h : Passed dir t s before written) (p : FilePath) :
    s.CanWrite p ↔ t.CanWrite p := by
  rw [DirectoryTree.CanWrite, DirectoryTree.CanWrite, h.isDirectory, h.isDirectory]

/-- A file that is not to be overwritten is left alone. -/
theorem Passed.skip (h : Passed dir t s before written) (hexists : s.Exists (x.1.target dir))
    (hoverwrite : x.1.overwrite = false) : Passed dir t s (before ++ [x]) written where
  isDirectory := h.isDirectory
  exists_iff p := by
    rw [h.exists_iff]
    constructor
    · rintro (ht | ⟨y, hy, rfl⟩)
      · exact .inl ht
      · exact .inr ⟨y, List.mem_append_left _ hy, rfl⟩
    · rintro (ht | ⟨y, hy, rfl⟩)
      · exact .inl ht
      · rcases List.mem_append.mp hy with hy | hy
        · exact .inr ⟨y, hy, rfl⟩
        · rw [List.mem_singleton.mp hy]
          exact (h.exists_iff _).mp hexists
  unwritten := h.unwritten
  overwritten y hy := by
    rcases List.mem_append.mp hy with hy | hy
    · exact h.overwritten y hy
    · rw [List.mem_singleton.mp hy, hoverwrite]
      nofun
  written p hp ht := by
    obtain ⟨y, hy, hy'⟩ := h.written p hp ht
    exact ⟨y, List.mem_append_left _ hy, hy'⟩
  node_eq := by
    rw [List.map_append, Request.applyAll_append, ← h.node_eq]
    change s.node = (x.1.request dir).apply s.node
    rw [Request.apply, if_neg]
    rintro (htrue | hnone)
    · exact absurd hoverwrite (by rw [show x.1.overwrite = true from htrue]; decide)
    · exact DirectoryTree.not_exists.mpr hnone hexists

/-- A file is written that is to be overwritten or was missing. -/
theorem Passed.write (h : Passed dir t s before written)
    (hattempt : x.1.overwrite = true ∨ ¬s.Exists (x.1.target dir))
    (hwrite : s.CanWrite (x.1.target dir)) :
    Passed dir t (s.put (x.1.target dir) x.1.content hwrite) (before ++ [x])
      (written ++ [x.1.target dir]) where
  isDirectory p := by
    rw [← h.isDirectory, DirectoryTree.IsDirectory, DirectoryTree.node_put]
    split
    · rename_i heq
      exact iff_of_false (by simp) (heq ▸ hwrite.2)
    · rfl
  exists_iff p := by
    rw [DirectoryTree.Exists, DirectoryTree.node_put]
    by_cases hp : p = x.1.target dir
    · rw [if_pos hp]
      exact iff_of_true rfl (.inr ⟨x, by simp, hp.symm⟩)
    · rw [if_neg hp]
      refine (h.exists_iff p).trans (or_congr_right ⟨?_, ?_⟩)
      · rintro ⟨y, hy, rfl⟩
        exact ⟨y, List.mem_append_left _ hy, rfl⟩
      · rintro ⟨y, hy, rfl⟩
        rcases List.mem_append.mp hy with hy | hy
        · exact ⟨y, hy, rfl⟩
        · exact absurd (by rw [List.mem_singleton.mp hy]) hp
  unwritten p hp := by
    rw [List.mem_append, List.mem_singleton, not_or] at hp
    rw [DirectoryTree.node_put, if_neg hp.2, h.unwritten p hp.1]
  overwritten y hy hoverwrite := by
    rcases List.mem_append.mp hy with hy | hy
    · exact List.mem_append_left _ (h.overwritten y hy hoverwrite)
    · rw [List.mem_singleton.mp hy]
      simp
  written p hp ht := by
    rcases List.mem_append.mp hp with hp | hp
    · obtain ⟨y, hy, hy'⟩ := h.written p hp ht
      exact ⟨y, List.mem_append_left _ hy, hy'⟩
    · rw [List.mem_singleton] at hp
      have hs : s.Exists (x.1.target dir) := (h.exists_iff _).mpr (.inl (hp ▸ ht))
      exact ⟨x, by simp, hattempt.resolve_right fun hmissing => hmissing hs, hp.symm⟩
  node_eq := by
    rw [List.map_append, Request.applyAll_append, ← h.node_eq]
    change _ = (x.1.request dir).apply s.node
    have hstores : (x.1.request dir).overwrite = true ∨ s.node (x.1.request dir).key = none :=
      hattempt.imp_right DirectoryTree.not_exists.mp
    rw [Request.apply, if_pos hstores]
    funext p
    rw [DirectoryTree.node_put, Function.update_apply]
    rfl

/-- What a failed write leaves. -/
def breakOff (dir : FilePath) (s : OutputTree) (x : GeneratedFile × Option Fault) : OutputTree :=
  match x.2 with
  | some (.cut left) =>
    if h : Inside dir.resolve (x.1.target dir) ∧ s.CanWrite (x.1.target dir) then
      s.put (x.1.target dir) left h.2
    else s
  | _ => s

variable {ε : Type}

/-- How a loop ends that has started in `t` and passed the files `before`: it goes through, or it
breaks off at the first file that fails. -/
inductive Outcome (dir : FilePath) (t : OutputTree) (before : List (GeneratedFile × Option Fault)) :
    List (GeneratedFile × Option Fault) →
      Except (GenerationError ε) GenerationResult × OutputTree → Prop
  | passed {files : List (GeneratedFile × Option Fault)} {result : GenerationResult}
    {s : OutputTree} {written : List FilePath} (hnone : NoneFails t.Exists t.CanWrite dir before files)
    (h : Passed dir t s (before ++ files) written) : Outcome dir t before files (.ok result, s)
  | broken {passed rest : List (GeneratedFile × Option Fault)} {x : GeneratedFile × Option Fault}
    {e : GenerationError ε} {s : OutputTree} {written : List FilePath}
    (hnone : NoneFails t.Exists t.CanWrite dir before passed) (hfails : FailsAfter t.Exists t.CanWrite dir (before ++ passed) x)
    (h : Passed dir t s (before ++ passed) written) :
    Outcome dir t before (passed ++ x :: rest) (.error e, (breakOff dir s x).unlinkAll written)

theorem Outcome.cons {files : List (GeneratedFile × Option Fault)}
    {outcome : Except (GenerationError ε) GenerationResult × OutputTree}
    (hfails : ¬FailsAfter t.Exists t.CanWrite dir before x) (h : Outcome dir t (before ++ [x]) files outcome) :
    Outcome dir t before (x :: files) outcome := by
  cases h with
  | passed hnone h => exact .passed ⟨hfails, hnone⟩ (by simpa using h)
  | broken hnone hfailing h =>
    rw [← List.cons_append]
    exact .broken ⟨hfails, hnone⟩ (by simpa using hfailing) (by simpa using h)

theorem Outcome.head (files : List (GeneratedFile × Option Fault)) (e : GenerationError ε)
    (hfails : FailsAfter t.Exists t.CanWrite dir before x) (h : Passed dir t s before written) :
    Outcome dir t before (x :: files) (.error e, (breakOff dir s x).unlinkAll written) := by
  rw [← List.nil_append (x :: files)]
  exact .broken trivial (by simpa using hfails) (by simpa using h)

theorem Outcome.of_ok {files : List (GeneratedFile × Option Fault)} {result : GenerationResult}
    (h : Outcome (ε := ε) dir t before files (.ok result, s)) :
    NoneFails t.Exists t.CanWrite dir before files ∧
      ∃ written, Passed dir t s (before ++ files) written := by
  cases h with
  | passed hnone h => exact ⟨hnone, _, h⟩

theorem breakOff_of_not {s : OutputTree}
    (h : ¬(Inside dir.resolve (x.1.target dir) ∧ s.CanWrite (x.1.target dir))) :
    breakOff dir s x = s := by
  rw [breakOff]
  split
  · exact dif_neg h
  · rfl

theorem writeFiles_cons (files : List (GeneratedFile × Option Fault))
    (result : GenerationResult) :
    writeFiles (ε := ε) dir (x :: files) s written result =
      if ¬Inside dir.resolve (x.1.target dir) then
        (.error (.valueError ("Generated path escapes output directory: " ++ x.1.path)),
          s.unlinkAll written)
      else if s.Exists (x.1.target dir) ∧ x.1.overwrite = false then
        writeFiles dir files s written { result with
          filesSkipped := result.filesSkipped ++ [String.ofList (x.1.target dir).text] }
      else
        match writeText s (x.1.target dir) x.1.content x.2 with
        | (none, s) => (.error .osError, s.unlinkAll written)
        | (some (), s) =>
          writeFiles dir files s (written ++ [x.1.target dir]) { result with
            filesWritten := result.filesWritten ++ [String.ofList (x.1.target dir).text] } := by
  obtain ⟨file, fault⟩ := x
  rewrite [writeFiles]
  rfl

/-- A write succeeds, or it breaks off. -/
theorem writeText_cases (hinside : Inside dir.resolve (x.1.target dir)) :
    (∃ hwrite : s.CanWrite (x.1.target dir), x.2 = none ∧
      writeText s (x.1.target dir) x.1.content x.2 =
        (some (), s.put (x.1.target dir) x.1.content hwrite)) ∨
    ((¬s.CanWrite (x.1.target dir) ∨ x.2 ≠ none) ∧
      writeText s (x.1.target dir) x.1.content x.2 = (none, breakOff dir s x)) := by
  rw [writeText, breakOff]
  by_cases hwrite : s.CanWrite (x.1.target dir)
  · rw [dif_pos hwrite]
    rcases x.2 with - | (- | left)
    · exact .inl ⟨hwrite, rfl, rfl⟩
    · exact .inr ⟨.inr (by simp), rfl⟩
    · refine .inr ⟨.inr (by simp), ?_⟩
      simp only [dif_pos (And.intro hinside hwrite)]
  · refine .inr ⟨.inl hwrite, ?_⟩
    rw [dif_neg hwrite]
    rcases x.2 with - | (- | left)
    · rfl
    · rfl
    · simp only [hwrite, and_false, dite_false]

theorem writeFiles_outcome (files : List (GeneratedFile × Option Fault))
    (result : GenerationResult) (h : Passed dir t s before written) :
    Outcome (ε := ε) dir t before files (writeFiles dir files s written result) := by
  induction files generalizing s before written result with
  | nil => exact .passed trivial (by simpa using h)
  | cons x files ih =>
    rw [writeFiles_cons]
    by_cases hinside : Inside dir.resolve (x.1.target dir)
    · rw [if_neg (not_not.mpr hinside)]
      by_cases hskip : s.Exists (x.1.target dir) ∧ x.1.overwrite = false
      · have hfails : ¬FailsAfter t.Exists t.CanWrite dir before x := by
          rintro (houtside | ⟨htrue | hmissing, -⟩)
          · exact houtside hinside
          · exact absurd hskip.2 (by rw [htrue]; decide)
          · exact hmissing ((h.exists_iff _).mp hskip.1)
        rw [if_pos hskip]
        exact .cons hfails (ih _ (h.skip hskip.1 hskip.2))
      · have hattempt : x.1.overwrite = true ∨ ¬s.Exists (x.1.target dir) := by
          cases hoverwrite : x.1.overwrite with
          | true => exact .inl rfl
          | false => exact .inr fun hexists => hskip ⟨hexists, hoverwrite⟩
        rw [if_neg hskip]
        rcases writeText_cases hinside with ⟨hwrite, hfault, htext⟩ | ⟨hblocked, htext⟩
        · have hfails : ¬FailsAfter t.Exists t.CanWrite dir before x := by
            rintro (houtside | ⟨-, hblocked | hfailing⟩)
            · exact houtside hinside
            · exact hblocked ((h.canWrite _).mp hwrite)
            · exact hfailing hfault
          rw [htext]
          exact .cons hfails (ih _ (h.write hattempt hwrite))
        · rw [h.canWrite] at hblocked
          rw [h.exists_iff] at hattempt
          rw [htext]
          exact .head files .osError (.inr ⟨hattempt, hblocked⟩) h
    · have hkept : breakOff dir s x = s := breakOff_of_not fun hboth => hinside hboth.1
      rw [if_pos hinside]
      have hhead := Outcome.head files
        (.valueError ("Generated path escapes output directory: " ++ x.1.path) : GenerationError ε)
        (.inl hinside) h
      rw [hkept] at hhead
      exact hhead

end Loop

/-! ### The first failure -/

section First

variable {stands writable stands' writable' : FilePath → Prop} {dir : FilePath}
  {before passed passed' rest rest' : List (GeneratedFile × Option Fault)}
  {x x' : GeneratedFile × Option Fault}

/-- There is one first file that fails. -/
theorem NoneFails.unique (heq : passed ++ x :: rest = passed' ++ x' :: rest')
    (hnone : NoneFails stands writable dir before passed)
    (hfails : FailsAfter stands writable dir (before ++ passed) x)
    (hnone' : NoneFails stands writable dir before passed')
    (hfails' : FailsAfter stands writable dir (before ++ passed') x') : passed = passed' ∧ x = x' := by
  induction passed generalizing before passed' with
  | nil =>
    cases passed' with
    | nil => exact ⟨rfl, (List.cons.inj heq).1⟩
    | cons y passed' =>
      obtain ⟨rfl, -⟩ := List.cons.inj heq
      exact absurd (by simpa using hfails) hnone'.1
  | cons y passed ih =>
    cases passed' with
    | nil =>
      obtain ⟨rfl, -⟩ := List.cons.inj heq
      exact absurd (by simpa using hfails') hnone.1
    | cons y' passed' =>
      obtain ⟨rfl, hrest⟩ := List.cons.inj heq
      obtain ⟨rfl, rfl⟩ := ih hrest hnone.2 (by simpa using hfails) hnone'.2 (by simpa using hfails')
      exact ⟨rfl, rfl⟩

theorem NoneFails.not_failsAfter
    (hnone : NoneFails stands writable dir before (passed ++ x :: rest)) :
    ¬FailsAfter stands writable dir (before ++ passed) x := by
  induction passed generalizing before with
  | nil => simpa using hnone.1
  | cons y passed ih => simpa using ih hnone.2

theorem failsAfter_congr (h : ∀ file : GeneratedFile, Inside dir.resolve (file.target dir) →
      (stands (file.target dir) ↔ stands' (file.target dir)) ∧
        (writable (file.target dir) ↔ writable' (file.target dir))) :
    FailsAfter stands writable dir before x ↔ FailsAfter stands' writable' dir before x := by
  rw [FailsAfter, FailsAfter]
  by_cases hinside : Inside dir.resolve (x.1.target dir)
  · rw [(h x.1 hinside).1, (h x.1 hinside).2]
  · exact iff_of_true (.inl hinside) (.inl hinside)

theorem noneFails_congr {files : List (GeneratedFile × Option Fault)}
    (h : ∀ file : GeneratedFile, Inside dir.resolve (file.target dir) →
      (stands (file.target dir) ↔ stands' (file.target dir)) ∧
        (writable (file.target dir) ↔ writable' (file.target dir))) :
    NoneFails stands writable dir before files ↔ NoneFails stands' writable' dir before files := by
  induction files generalizing before with
  | nil => rfl
  | cons x files ih => rw [NoneFails, NoneFails, failsAfter_congr h, ih]

end First

/-! ### The steps before the loop -/

/-- The directory of a use case and its `__init__.py` can be made. -/
structure Ready (dir : FilePath) (faults : Faults) (t : OutputTree) : Prop where
  directory : faults.directory = false
  free : ∀ q, q <+: dir → t.IsDirectory q ∨ ¬t.Exists q
  init : t.Exists (initFile dir) ∨ faults.init = none

/-- The tree `s` is `t` with the directory of a use case and its `__init__.py`. -/
def Prepared (dir : FilePath) (t s : OutputTree) : Prop :=
  ∀ p, s.node p = if p <+: dir then some .directory
    else if p = initFile dir then (t.node p).or (some (.file "")) else t.node p

/-- Something stands at a path of the prepared tree. -/
def Stands (t : OutputTree) (dir p : FilePath) : Prop := t.Exists p ∨ p = initFile dir

/-- A file can be written at a path of the prepared tree. -/
def Writable (t : OutputTree) (dir p : FilePath) : Prop :=
  (p.dropLast = dir ∨ t.IsDirectory p.dropLast) ∧ ¬t.IsDirectory p

section Prepare

variable {dir p : FilePath} {faults : Faults} {t s : OutputTree}

theorem initFile_notBelow (dir : FilePath) : ¬initFile dir <+: dir := by
  intro h
  have hlength := h.length_le
  rw [initFile, List.length_append, List.length_singleton] at hlength
  omega

theorem below_of_inside (hdir : FilePath.Resolved dir) (hp : FilePath.Resolved p)
    (hinside : Inside dir.resolve p) : dir <+: p ∧ ¬p <+: dir := by
  rw [hdir.resolve_eq, inside_iff hdir hp] at hinside
  obtain ⟨-, hbelow, hne⟩ := hinside
  exact ⟨hbelow, fun h => hne (h.eq_of_length_le hbelow.length_le)⟩

theorem Prepared.exists_iff (h : Prepared dir t s) (hp : ¬p <+: dir) :
    s.Exists p ↔ Stands t dir p := by
  rw [Stands, DirectoryTree.Exists, DirectoryTree.Exists, h, if_neg hp]
  split
  · rename_i hinit
    exact iff_of_true (by cases t.node p <;> rfl) (.inr hinit)
  · rename_i hinit
    exact ⟨.inl, fun h => h.resolve_right hinit⟩

theorem Prepared.canWrite_iff (h : Prepared dir t s) (hdir : dir <+: p) (hp : ¬p <+: dir) :
    s.CanWrite p ↔ Writable t dir p := by
  have hne : p ≠ [] := fun hnil => hp (hnil ▸ List.nil_prefix)
  have hparent : dir <+: p.dropLast := by
    refine List.prefix_of_prefix_length_le hdir (List.dropLast_prefix p) ?_
    have hlt : dir.length < p.length := by
      refine lt_of_le_of_ne hdir.length_le fun hlength => hp ?_
      rw [hdir.eq_of_length hlength]
    rw [List.length_dropLast]
    omega
  have hfile : ∀ q, t.node q ≠ some .directory → s.node q = some .directory → q <+: dir := by
    intro q hq hs
    rw [h] at hs
    split at hs
    · assumption
    · split at hs
      · cases hnode : t.node q <;> simp_all
      · exact absurd hs hq
  have hkept : ∀ q, t.IsDirectory q → s.IsDirectory q := by
    intro q hq
    rw [DirectoryTree.IsDirectory, h]
    split
    · rfl
    · split
      · rw [show t.node q = some .directory from hq]
        rfl
      · exact hq
  refine and_congr ⟨fun hs => ?_, ?_⟩ (not_congr ⟨fun hs => ?_, hkept p⟩)
  · by_cases ht : t.IsDirectory p.dropLast
    · exact .inr ht
    · exact .inl ((hfile _ ht hs).eq_of_length_le hparent.length_le)
  · rintro (heq | ht)
    · rw [DirectoryTree.IsDirectory, h, if_pos (heq ▸ List.prefix_rfl)]
    · exact hkept _ ht
  · by_contra ht
    exact hp (hfile p ht hs)

theorem Prepared.read? (h : Prepared dir t s) (hfree : ∀ q, q <+: dir → t.IsDirectory q ∨ ¬t.Exists q)
    {content : String} (hread : t.read? p = some content) : s.read? p = some content := by
  have hp : ¬p <+: dir := by
    intro hbelow
    rcases hfree p hbelow with hdirectory | hmissing
    · rw [DirectoryTree.read?_eq_none_of_isDirectory hdirectory] at hread
      cases hread
    · exact hmissing (DirectoryTree.exists_of_read? hread)
  rw [DirectoryTree.read?_eq_some] at hread ⊢
  rw [h, if_neg hp, hread]
  simp

end Prepare

end Ucf.Spec
