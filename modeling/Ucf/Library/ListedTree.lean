import Mathlib.Data.Finset.Insert
import Ucf.Library.DirectoryTree

/-! Directory trees with finitely many entries, whose names are of a given kind; the files that a tree
holds; and how a file is added with the directories above it. -/

namespace Ucf

/-- What has an entry below it is a directory. -/
theorem DirectoryTree.isDirectory_of_append {α β : Type} {t : DirectoryTree α β}
    {path rest : List α} (hrest : rest ≠ []) (h : t.node (path ++ rest) ≠ none) :
    t.IsDirectory path := by
  induction rest using List.reverseRecOn with
  | nil => exact absurd rfl hrest
  | append_singleton rest name ih =>
    rw [← List.append_assoc] at h
    have hparent := t.parents (path ++ rest) name h
    by_cases hnil : rest = []
    · rw [hnil, List.append_nil] at hparent
      exact hparent
    · exact ih hnil (by simp [hparent])

/-- A directory tree with a list of its paths. -/
structure ListedTree {α : Type} (IsName : α → Prop) (β : Type) [DecidableEq α] extends
    DirectoryTree α β where
  paths : Finset (List α)
  mem_paths : ∀ path, path ∈ paths ↔ node path ≠ none
  names : ∀ path ∈ paths, ∀ name ∈ path, IsName name

namespace ListedTree

variable {α β : Type} [DecidableEq α] {IsName : α → Prop}

/-- A tree is what stands at its paths. -/
theorem ext_node {t t' : ListedTree IsName β} (h : ∀ path, t.node path = t'.node path) : t = t' := by
  have htree : t.toDirectoryTree = t'.toDirectoryTree := DirectoryTree.ext (funext h)
  have hpaths : t.paths = t'.paths := by
    ext path
    rw [t.mem_paths, t'.mem_paths, h]
  cases t
  cases t'
  cases htree
  cases hpaths
  rfl

/-- The tree of an empty directory. -/
def empty : ListedTree IsName β where
  node path := if path = [] then some .directory else none
  root := if_pos rfl
  parents path name h := by simp at h
  paths := {[]}
  mem_paths path := by simp
  names path hpath name hname := by
    rw [Finset.mem_singleton.mp hpath] at hname
    cases hname

@[simp] theorem node_empty (path : List α) :
    (empty : ListedTree IsName β).node path = if path = [] then some .directory else none := rfl

/-- An entry can be added to a directory under a new name. -/
def CanAdd (t : ListedTree IsName β) (path : List α) (name : α) : Prop :=
  t.IsDirectory path ∧ t.node (path ++ [name]) = none ∧ IsName name

/-- Add an entry. -/
def add (t : ListedTree IsName β) (path : List α) (name : α) (entry : Node β)
    (h : t.CanAdd path name) : ListedTree IsName β where
  node p := if p = path ++ [name] then some entry else t.node p
  root := by rw [if_neg (by simp), t.root]
  parents p n hnode := by
    by_cases hp : p ++ [n] = path ++ [name]
    · obtain ⟨rfl, -⟩ := List.append_inj' hp rfl
      rw [if_neg (by simp)]
      exact h.1
    · rw [if_neg hp] at hnode
      have hdirectory := t.parents p n hnode
      rw [if_neg, hdirectory]
      rintro rfl
      rw [h.2.1] at hdirectory
      cases hdirectory
  paths := insert (path ++ [name]) t.paths
  mem_paths p := by
    rw [Finset.mem_insert, t.mem_paths]
    by_cases hp : p = path ++ [name]
    · simp [hp]
    · simp [hp]
  names p hp := by
    rcases Finset.mem_insert.mp hp with rfl | hp
    · intro n hn
      rcases List.mem_append.mp hn with hn | hn
      · exact t.names path ((t.mem_paths path).mpr (by simp [show t.node path = _ from h.1])) n hn
      · rw [List.mem_singleton.mp hn]
        exact h.2.2
    · exact t.names p hp

@[simp] theorem node_add {t : ListedTree IsName β} {path : List α} {name : α} {entry : Node β}
    (h : t.CanAdd path name) (p : List α) :
    (t.add path name entry h).node p = if p = path ++ [name] then some entry else t.node p := rfl

/-! ### The files of a tree -/

/-- The tree holds these files, with the directories above them and nothing else. -/
structure Holds (t : ListedTree IsName β) (files : List (List α × β)) : Prop where
  file : ∀ path content, t.node path = some (.file content) ↔ (path, content) ∈ files
  directory : ∀ path, t.IsDirectory path ↔
    path = [] ∨ ∃ file ∈ files, path <+: file.1 ∧ path ≠ file.1

variable {t t' : ListedTree IsName β} {files : List (List α × β)}

theorem holds_empty : (empty : ListedTree IsName β).Holds [] := by
  constructor
  · intro path content
    by_cases h : path = [] <;> simp [h]
  · intro path
    by_cases h : path = [] <;> simp [h, DirectoryTree.IsDirectory]

/-- The files determine the tree. -/
theorem Holds.unique (h : t.Holds files) (h' : t'.Holds files) : t = t' := by
  refine ext_node fun path => ?_
  match hnode : t.node path with
  | some (.file content) => exact ((h'.file path content).mpr ((h.file path content).mp hnode)).symm
  | some .directory => exact ((h'.directory path).mpr ((h.directory path).mp hnode)).symm
  | none =>
    match hnode' : t'.node path with
    | some (.file content) =>
      have heq := (h.file path content).mpr ((h'.file path content).mp hnode')
      rw [hnode] at heq
      cases heq
    | some .directory =>
      have heq : t.node path = _ := (h.directory path).mpr ((h'.directory path).mp hnode')
      rw [hnode] at heq
      cases heq
    | none => rfl

/-- Files at different places, none of them above another one. -/
structure Fits (IsName : α → Prop) (files : List (List α × β)) : Prop where
  nodup : (files.map Prod.fst).Nodup
  rooted : ∀ file ∈ files, file.1 ≠ []
  names : ∀ file ∈ files, ∀ name ∈ file.1, IsName name
  leaves : ∀ file ∈ files, ∀ file' ∈ files, file.1 <+: file'.1 → file.1 = file'.1

section Fits

omit [DecidableEq α]

theorem Fits.perm {files' : List (List α × β)} (h : Fits IsName files)
    (hperm : files.Perm files') : Fits IsName files' where
  nodup := (hperm.map Prod.fst).nodup_iff.mp h.nodup
  rooted file hfile := h.rooted file (hperm.mem_iff.mpr hfile)
  names file hfile := h.names file (hperm.mem_iff.mpr hfile)
  leaves file hfile file' hfile' :=
    h.leaves file (hperm.mem_iff.mpr hfile) file' (hperm.mem_iff.mpr hfile')

theorem Fits.sublist {files' : List (List α × β)} (h : Fits IsName files)
    (hsub : files'.Sublist files) : Fits IsName files' where
  nodup := h.nodup.sublist (hsub.map Prod.fst)
  rooted file hfile := h.rooted file (hsub.subset hfile)
  names file hfile := h.names file (hsub.subset hfile)
  leaves file hfile file' hfile' := h.leaves file (hsub.subset hfile) file' (hsub.subset hfile')

/-- The place of a further file is not above another file, nor below one. -/
theorem Fits.free {path : List α} {content : β} (h : Fits IsName ((path, content) :: files))
    {file : List α × β} (hfile : file ∈ files) : ¬ file.1 <+: path ∧ ¬ path <+: file.1 := by
  have hne : file.1 ≠ path := by
    intro heq
    have hnodup := h.nodup
    rw [List.map_cons, List.nodup_cons] at hnodup
    exact hnodup.1 (List.mem_map.mpr ⟨file, hfile, heq⟩)
  constructor
  · intro hle
    exact hne (h.leaves file (List.mem_cons_of_mem _ hfile) _ List.mem_cons_self hle)
  · intro hle
    exact hne (h.leaves _ List.mem_cons_self file (List.mem_cons_of_mem _ hfile) hle).symm

end Fits

/-- A tree with the paths of the files and of what is above them, which has the files, holds the
files. -/
theorem holds_of_paths
    (hpaths : ∀ path, path ∈ t.paths ↔ path = [] ∨ ∃ file ∈ files, path <+: file.1)
    (hfiles : ∀ file ∈ files, t.node file.1 = some (.file file.2)) : t.Holds files := by
  have habove : ∀ path, ∀ file ∈ files, path <+: file.1 → path ≠ file.1 → t.IsDirectory path := by
    intro path file hfile ⟨rest, hrest⟩ hne
    have hnode : t.node (path ++ rest) ≠ none := by
      rw [hrest, hfiles file hfile]
      simp
    refine DirectoryTree.isDirectory_of_append ?_ hnode
    rintro rfl
    rw [List.append_nil] at hrest
    exact hne hrest
  constructor
  · intro path content
    constructor
    · intro hnode
      rcases (hpaths path).mp ((t.mem_paths path).mpr (by simp [hnode])) with rfl | ⟨file, hfile, hle⟩
      · rw [t.root] at hnode
        cases hnode
      · by_cases hne : path = file.1
        · have heq := hfiles file hfile
          rw [← hne, hnode] at heq
          injection heq with heq
          injection heq with heq
          rw [hne, heq]
          exact hfile
        · have hdirectory : t.node path = _ := habove path file hfile hle hne
          rw [hnode] at hdirectory
          cases hdirectory
    · intro hmem
      exact hfiles _ hmem
  · intro path
    constructor
    · intro hdirectory
      rcases (hpaths path).mp ((t.mem_paths path).mpr (by simp [show t.node path = _ from hdirectory]))
        with rfl | ⟨file, hfile, hle⟩
      · exact Or.inl rfl
      · refine Or.inr ⟨file, hfile, hle, ?_⟩
        rintro rfl
        have hnode := hfiles file hfile
        rw [show t.node file.1 = _ from hdirectory] at hnode
        cases hnode
    · rintro (rfl | ⟨file, hfile, hle, hne⟩)
      · exact t.root
      · exact habove path file hfile hle hne

theorem Holds.mem_paths_iff (h : t.Holds files) (path : List α) :
    path ∈ t.paths ↔ path = [] ∨ ∃ file ∈ files, path <+: file.1 := by
  rw [t.mem_paths]
  constructor
  · intro hnode
    match heq : t.node path with
    | none => exact absurd heq hnode
    | some .directory =>
      rcases (h.directory path).mp heq with rfl | ⟨file, hfile, hle, -⟩
      · exact Or.inl rfl
      · exact Or.inr ⟨file, hfile, hle⟩
    | some (.file content) =>
      exact Or.inr ⟨_, (h.file path content).mp heq, List.prefix_rfl⟩
  · rintro (rfl | ⟨file, hfile, hle⟩)
    · simp [t.root]
    · by_cases hne : path = file.1
      · rw [hne, (h.file file.1 file.2).mpr hfile]
        simp
      · have hdirectory : t.node path = _ := (h.directory path).mpr (Or.inr ⟨file, hfile, hle, hne⟩)
        rw [hdirectory]
        simp

theorem Holds.perm {files' : List (List α × β)} (h : t.Holds files) (hperm : files.Perm files') :
    t.Holds files' where
  file path content := by rw [h.file, hperm.mem_iff]
  directory path := by simp only [h.directory, hperm.mem_iff]

/-! ### Adding a file with the directories above it -/

/-- One more file, with the directories above it. -/
theorem Holds.cons (h : t.Holds files) {path : List α} {content : β} (hpath : path ≠ [])
    (hfree : ∀ file ∈ files, ¬ file.1 <+: path ∧ ¬ path <+: file.1)
    (hnode : ∀ p, t'.node p = if p = path then some (.file content)
      else if p <+: path then some .directory else t.node p) :
    t'.Holds ((path, content) :: files) := by
  constructor
  · intro p c
    rw [hnode, List.mem_cons, Prod.mk.injEq]
    by_cases hp : p = path
    · subst hp
      have hnot : ∀ c, (p, c) ∉ files := fun c hmem => (hfree _ hmem).1 List.prefix_rfl
      simp [hnot, eq_comm]
    · rw [if_neg hp]
      by_cases hle : p <+: path
      · have hnot : (p, c) ∉ files := fun hmem => (hfree _ hmem).1 hle
        simp [hle, hp, hnot]
      · rw [if_neg hle, h.file]
        simp [hp]
  · intro p
    rw [DirectoryTree.IsDirectory, hnode]
    simp only [List.exists_mem_cons_iff]
    by_cases hp : p = path
    · subst hp
      have hnot : ¬ ∃ file ∈ files, p <+: file.1 ∧ p ≠ file.1 :=
        fun ⟨file, hfile, hle, _⟩ => (hfree file hfile).2 hle
      simp [hpath, hnot]
    · rw [if_neg hp]
      by_cases hle : p <+: path
      · simp [hle, hp]
      · rw [if_neg hle]
        have hdirectory := h.directory p
        rw [DirectoryTree.IsDirectory] at hdirectory
        simpa [hle] using hdirectory

end ListedTree

end Ucf
