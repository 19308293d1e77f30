import Mathlib.Data.List.Lex
import Ucf.Library.Sorted

/-! Directory trees as finite maps from paths to contents: files that stand at the leaves. A
directory is what has a file below it. -/

namespace Ucf

/-- The files of a directory tree, by their paths from its root, with names of the given kind. -/
structure FileTree {α : Type} (IsName : α → Prop) (β : Type) [LinearOrder α] where
  files : List (List α × β)
  sorted : SortedKeys Prod.fst files
  rooted : ∀ file ∈ files, file.1 ≠ []
  names : ∀ file ∈ files, ∀ name ∈ file.1, IsName name
  leaves : ∀ file ∈ files, ∀ file' ∈ files, file.1 <+: file'.1 → file.1 = file'.1

namespace FileTree

variable {α β : Type} [LinearOrder α] {IsName : α → Prop}

@[ext] theorem ext {t t' : FileTree IsName β} (h : t.files = t'.files) : t = t' := by
  cases t
  cases t'
  cases h
  rfl

def empty : FileTree IsName β := ⟨[], List.Pairwise.nil, nofun, nofun, nofun⟩

/-- The content of a file. -/
def read? (t : FileTree IsName β) (path : List α) : Option β :=
  (t.files.find? fun file => file.1 = path).map Prod.snd

/-- There is a file below the path. -/
def isDirectory (t : FileTree IsName β) (path : List α) : Bool :=
  t.files.any fun file => path.isPrefixOf file.1 && file.1 ≠ path

/-- A new file may stand at the path. -/
def CanCreate (t : FileTree IsName β) (path : List α) : Prop :=
  path ≠ [] ∧ (∀ name ∈ path, IsName name) ∧ ∀ file ∈ t.files, ¬ file.1 <+: path ∧ ¬ path <+: file.1

instance [DecidablePred IsName] (t : FileTree IsName β) (path : List α) :
    Decidable (t.CanCreate path) :=
  inferInstanceAs (Decidable (_ ∧ _ ∧ _))

/-- Create a file with all directories above it. -/
def create (t : FileTree IsName β) (path : List α) (content : β) (h : t.CanCreate path) :
    FileTree IsName β where
  files := sortedBy Prod.fst ((path, content) :: t.files)
  sorted := by
    refine sortedKeys_sortedBy ?_
    rw [List.map_cons, List.nodup_cons]
    refine ⟨fun hmem => ?_, t.sorted.nodup⟩
    obtain ⟨file, hfile, heq⟩ := List.mem_map.mp hmem
    exact (h.2.2 file hfile).1 (heq ▸ List.prefix_rfl)
  rooted := by
    intro file hfile
    rcases List.mem_cons.mp (mem_sortedBy.mp hfile) with rfl | hfile
    · exact h.1
    · exact t.rooted file hfile
  names := by
    intro file hfile
    rcases List.mem_cons.mp (mem_sortedBy.mp hfile) with rfl | hfile
    · exact h.2.1
    · exact t.names file hfile
  leaves := by
    intro file hfile file' hfile' hprefix
    rcases List.mem_cons.mp (mem_sortedBy.mp hfile) with rfl | hfile <;>
      rcases List.mem_cons.mp (mem_sortedBy.mp hfile') with rfl | hfile'
    · rfl
    · exact absurd hprefix (h.2.2 file' hfile').2
    · exact absurd hprefix (h.2.2 file hfile).1
    · exact t.leaves file hfile file' hfile' hprefix

theorem read?_eq_some {t : FileTree IsName β} {path : List α} {content : β} :
    t.read? path = some content ↔ (path, content) ∈ t.files := by
  rw [read?, Option.map_eq_some_iff]
  constructor
  · rintro ⟨file, hfind, rfl⟩
    have hpath : file.1 = path := by simpa using List.find?_some hfind
    rw [← hpath]
    exact List.mem_of_find?_eq_some hfind
  · intro hmem
    cases hfind : t.files.find? fun file => file.1 = path with
    | none =>
      have hne := List.find?_eq_none.mp hfind _ hmem
      simp at hne
    | some file =>
      have hpath : file.1 = path := by simpa using List.find?_some hfind
      have heq := List.inj_on_of_nodup_map t.sorted.nodup (List.mem_of_find?_eq_some hfind) hmem hpath
      exact ⟨file, rfl, by rw [heq]⟩

theorem read?_eq_none {t : FileTree IsName β} {path : List α} :
    t.read? path = none ↔ ∀ content, (path, content) ∉ t.files := by
  rw [Option.eq_none_iff_forall_ne_some]
  exact forall_congr' fun content => not_congr read?_eq_some

theorem isDirectory_iff {t : FileTree IsName β} {path : List α} :
    t.isDirectory path = true ↔ ∃ file ∈ t.files, path <+: file.1 ∧ file.1 ≠ path := by
  simp [isDirectory, List.any_eq_true]

/-- Two trees with the same files are the same. -/
theorem eq_of_mem_iff {t t' : FileTree IsName β} (h : ∀ file, file ∈ t.files ↔ file ∈ t'.files) : t = t' :=
  ext (t.sorted.eq_of_mem_iff t'.sorted h)

/-- Files whose paths do not collide. -/
structure Fits (IsName : α → Prop) (files : List (List α × β)) : Prop where
  nodup : (files.map Prod.fst).Nodup
  rooted : ∀ file ∈ files, file.1 ≠ []
  names : ∀ file ∈ files, ∀ name ∈ file.1, IsName name
  leaves : ∀ file ∈ files, ∀ file' ∈ files, file.1 <+: file'.1 → file.1 = file'.1

/-- Create files one after the other; `none` when one of them collides with an earlier one. -/
def createAll [DecidablePred IsName] (t : FileTree IsName β) : List (List α × β) → Option (FileTree IsName β)
  | [] => some t
  | (path, content) :: files =>
    if h : t.CanCreate path then (t.create path content h).createAll files else none

theorem createAll_of_fits [DecidablePred IsName] {t : FileTree IsName β} {files : List (List α × β)}
    (h : Fits IsName (files ++ t.files)) :
    ∃ t', t.createAll files = some t' ∧ ∀ file, file ∈ t'.files ↔ file ∈ files ∨ file ∈ t.files := by
  induction files generalizing t with
  | nil => exact ⟨t, rfl, by simp⟩
  | cons file files ih =>
    have hcan : t.CanCreate file.1 := by
      refine ⟨h.rooted file (by simp), h.names file (by simp), fun other hother => ?_⟩
      have hne : other.1 ≠ file.1 := by
        intro heq
        have hnodup := h.nodup
        rw [List.cons_append, List.map_cons, List.nodup_cons] at hnodup
        exact hnodup.1 (heq ▸ List.mem_map_of_mem (List.mem_append_right _ hother))
      exact ⟨fun hle => hne (h.leaves other (by simp [hother]) file (by simp) hle),
        fun hle => hne (h.leaves file (by simp) other (by simp [hother]) hle).symm⟩
    have hmem : ∀ other, other ∈ files ++ (t.create file.1 file.2 hcan).files ↔
        other ∈ (file :: files) ++ t.files := by
      intro other
      simp only [create, List.mem_append, mem_sortedBy, List.mem_cons]
      tauto
    have hfits : Fits IsName (files ++ (t.create file.1 file.2 hcan).files) :=
      { nodup := by
          have hperm : (files ++ (t.create file.1 file.2 hcan).files).Perm
              ((file :: files) ++ t.files) :=
            ((sortedBy_perm _ _).append_left files).trans List.perm_middle
          exact (hperm.map Prod.fst).nodup_iff.mpr h.nodup
        rooted := fun other hother => h.rooted other ((hmem other).mp hother)
        names := fun other hother => h.names other ((hmem other).mp hother)
        leaves := fun other hother other' hother' =>
          h.leaves other ((hmem other).mp hother) other' ((hmem other').mp hother') }
    obtain ⟨t', ht', hfiles⟩ := ih hfits
    refine ⟨t', ?_, fun other => ?_⟩
    · rw [createAll, dif_pos hcan]
      exact ht'
    · rw [hfiles]
      simp only [create, mem_sortedBy, List.mem_cons]
      tauto

end FileTree

end Ucf
