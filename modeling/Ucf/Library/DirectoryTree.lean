import Mathlib.Data.List.Infix

/-! Directory trees: maps from paths to files and directories, where everything stands in a
directory. -/

namespace Ucf

inductive Node (β : Type) where
  | file (content : β)
  | directory
deriving DecidableEq

@[ext] structure DirectoryTree (α β : Type) where
  node : List α → Option (Node β)
  root : node [] = some .directory
  parents : ∀ path name, node (path ++ [name]) ≠ none → node path = some .directory

namespace DirectoryTree

variable {α β : Type}

/-- The content of a file. -/
def read? (t : DirectoryTree α β) (path : List α) : Option β :=
  match t.node path with
  | some (.file content) => some content
  | _ => none

def Exists (t : DirectoryTree α β) (path : List α) : Prop := (t.node path).isSome = true

instance (t : DirectoryTree α β) (path : List α) : Decidable (t.Exists path) :=
  inferInstanceAs (Decidable (_ = true))

def IsDirectory (t : DirectoryTree α β) (path : List α) : Prop := t.node path = some .directory

instance (t : DirectoryTree α β) (path : List α) : Decidable (t.IsDirectory path) :=
  match h : t.node path with
  | some .directory => isTrue h
  | some (.file _) => isFalse (by simp [IsDirectory, h])
  | none => isFalse (by simp [IsDirectory, h])

variable {t : DirectoryTree α β} {path : List α}

theorem read?_eq_some {content : β} :
    t.read? path = some content ↔ t.node path = some (.file content) := by
  rw [read?]
  split <;> simp_all

theorem not_exists : ¬t.Exists path ↔ t.node path = none := by
  simp [Exists]

theorem IsDirectory.exists (h : t.IsDirectory path) : t.Exists path := by
  rw [Exists, h]
  rfl

theorem exists_of_read? {content : β} (h : t.read? path = some content) : t.Exists path := by
  rw [Exists, read?_eq_some.mp h]
  rfl

theorem read?_eq_none_of_isDirectory (h : t.IsDirectory path) : t.read? path = none := by
  rw [read?, h]

/-- What exists stands in a directory. -/
theorem Exists.parent (h : t.Exists path) (hpath : path ≠ []) : t.IsDirectory path.dropLast := by
  refine t.parents path.dropLast (path.getLast hpath) ?_
  rw [List.dropLast_append_getLast]
  exact Option.isSome_iff_ne_none.mp h

/-! ### Files -/

/-- A file can be written at a path: it lies in a directory and is none itself. -/
def CanWrite (t : DirectoryTree α β) (path : List α) : Prop :=
  t.IsDirectory path.dropLast ∧ ¬t.IsDirectory path

instance : Decidable (t.CanWrite path) := inferInstanceAs (Decidable (_ ∧ _))

theorem canWrite_of_read? {content : β} (h : t.read? path = some content) : t.CanWrite path := by
  have hdirectory : ¬t.IsDirectory path := by
    intro hdirectory
    rw [read?_eq_none_of_isDirectory hdirectory] at h
    cases h
  refine ⟨(exists_of_read? h).parent ?_, hdirectory⟩
  rintro rfl
  exact hdirectory t.root

variable [DecidableEq α]

/-- Write a file, over what stood there. -/
def put (t : DirectoryTree α β) (path : List α) (content : β) (h : t.CanWrite path) :
    DirectoryTree α β where
  node p := if p = path then some (.file content) else t.node p
  root := by
    rw [if_neg, t.root]
    rintro rfl
    exact h.2 t.root
  parents p name hname := by
    by_cases hp : p ++ [name] = path
    · have hparent : p = path.dropLast := by rw [← hp, List.dropLast_concat]
      rw [if_neg, hparent]
      · exact h.1
      · intro heq
        rw [heq] at hp
        simp at hp
    · rw [if_neg hp] at hname
      have hdirectory := t.parents p name hname
      rw [if_neg, hdirectory]
      rintro rfl
      exact h.2 hdirectory

@[simp] theorem node_put {content : β} (h : t.CanWrite path) (p : List α) :
    (t.put path content h).node p = if p = path then some (.file content) else t.node p := rfl

/-- Remove a file, if there is one. -/
def unlink (t : DirectoryTree α β) (path : List α) : DirectoryTree α β where
  node p := if p = path ∧ ¬t.IsDirectory path then none else t.node p
  root := by
    rw [if_neg, t.root]
    rintro ⟨rfl, h⟩
    exact h t.root
  parents p name hname := by
    split at hname
    · exact absurd rfl hname
    · have hdirectory := t.parents p name hname
      rw [if_neg, hdirectory]
      rintro ⟨rfl, h⟩
      exact h hdirectory

@[simp] theorem node_unlink (p : List α) :
    (t.unlink path).node p = if p = path ∧ ¬t.IsDirectory path then none else t.node p := rfl

/-- Remove files, one after the other. -/
def unlinkAll (t : DirectoryTree α β) (paths : List (List α)) : DirectoryTree α β :=
  paths.foldl unlink t

theorem read?_unlinkAll (t : DirectoryTree α β) (paths : List (List α)) (p : List α) :
    (t.unlinkAll paths).read? p = if p ∈ paths then none else t.read? p := by
  induction paths generalizing t with
  | nil => rfl
  | cons path paths ih =>
    rw [unlinkAll, List.foldl_cons, ← unlinkAll, ih]
    by_cases hp : p = path
    · subst hp
      simp only [List.mem_cons, true_or, if_true, read?, node_unlink, true_and]
      split
      · rfl
      · by_cases hdirectory : t.IsDirectory p
        · rw [if_neg (by simpa using hdirectory), hdirectory]
        · rw [if_pos hdirectory]
    · simp only [List.mem_cons, hp, false_or, read?, node_unlink, false_and, if_false]

/-! ### Directories -/

/-- Make a directory with all directories above it; `none` when a file is in the way. -/
def makeDirectories (t : DirectoryTree α β) (path : List α) : Option (DirectoryTree α β) :=
  if h : ∀ q ∈ path.inits, t.IsDirectory q ∨ ¬t.Exists q then
    some
      { node := fun p => if p <+: path then some .directory else t.node p
        root := if_pos List.nil_prefix
        parents := fun p name hname => by
          by_cases hp : p ++ [name] <+: path
          · exact if_pos ((List.prefix_append p [name]).trans hp)
          · rw [if_neg hp] at hname
            rw [t.parents p name hname, ite_self] }
  else none

theorem makeDirectories_eq_some {t' : DirectoryTree α β} :
    t.makeDirectories path = some t' ↔ (∀ q, q <+: path → t.IsDirectory q ∨ ¬t.Exists q) ∧
      ∀ p, t'.node p = if p <+: path then some .directory else t.node p := by
  rw [makeDirectories]
  constructor
  · intro h
    split at h
    · rename_i hfree
      rw [← Option.some.inj h]
      exact ⟨fun q hq => hfree q ((List.mem_inits q path).mpr hq), fun _ => rfl⟩
    · cases h
  · rintro ⟨hfree, hnode⟩
    rw [dif_pos fun q hq => hfree q ((List.mem_inits q path).mp hq), Option.some.injEq]
    exact DirectoryTree.ext (funext fun p => (hnode p).symm)

theorem makeDirectories_eq_none :
    t.makeDirectories path = none ↔ ∃ q, q <+: path ∧ t.Exists q ∧ ¬t.IsDirectory q := by
  rw [makeDirectories]
  split
  · rename_i hfree
    refine iff_of_false (by simp) ?_
    rintro ⟨q, hq, hexists, hdirectory⟩
    exact (hfree q ((List.mem_inits q path).mpr hq)).elim hdirectory fun h => h hexists
  · rename_i hfree
    refine iff_of_true rfl ?_
    push Not at hfree
    obtain ⟨q, hq, hdirectory, hexists⟩ := hfree
    exact ⟨q, (List.mem_inits q path).mp hq, hexists, hdirectory⟩

end DirectoryTree

end Ucf
