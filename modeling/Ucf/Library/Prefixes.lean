import Mathlib.Data.List.Infix

/-! Paths as lists of segments, with the prefixes of a path as its ancestors: families of paths
that are closed under parents, and the first path on a branch that a predicate picks. -/

namespace Ucf

variable {α : Type}

/-- When every path of `E` has its parent in `D`, and `D` is part of `E`, every proper ancestor of a
path of `E` is in `D`. -/
theorem ancestor_mem_of_parent_mem {D E : List α → Prop} (hsub : ∀ path, D path → E path)
    (hparent : ∀ path, E path → path ≠ [] → D path.dropLast) {path ancestor : List α}
    (hpath : E path) (hle : ancestor <+: path) (hne : ancestor ≠ path) : D ancestor := by
  induction path using List.reverseRecOn with
  | nil => exact absurd (List.prefix_nil.mp hle) hne
  | append_singleton parent last ih =>
    have hparent' : D parent := by
      have h := hparent _ hpath (by simp)
      rwa [List.dropLast_concat] at h
    rcases List.prefix_concat_iff.mp hle with heq | hle
    · exact absurd heq hne
    by_cases hancestor : ancestor = parent
    · rw [hancestor]
      exact hparent'
    · exact ih (hsub _ hparent') hle hancestor

/-- A path that a predicate picks, with no ancestor that it picks. -/
structure FirstOnBranch (M : List α → Prop) (path : List α) : Prop where
  picked : M path
  first : ∀ ancestor, ancestor <+: path → ancestor ≠ path → ¬ M ancestor

namespace FirstOnBranch

variable {M : List α → Prop} {path path' below : List α}

theorem eq_of_le (h : FirstOnBranch M path) (h' : FirstOnBranch M path')
    (hle : path <+: path') : path = path' := by
  by_contra hne
  exact h'.first path hle hne h.picked

/-- At most one first path lies on the branch to a given path. -/
theorem eq_of_branch (h : FirstOnBranch M path) (h' : FirstOnBranch M path')
    (hbelow : path <+: below) (hbelow' : path' <+: below) : path = path' := by
  rcases List.prefix_or_prefix_of_prefix hbelow hbelow' with hle | hle
  · exact h.eq_of_le h' hle
  · exact (h'.eq_of_le h hle).symm

end FirstOnBranch

/-- The search for the first picked path from the root's children on. -/
theorem find?_inits_eq_self {p : List α → Bool} {path : List α}
    (h : path.inits.tail.find? p = some path) (hroot : p [] = false) :
    FirstOnBranch (fun path => p path = true) path := by
  have hpicked : p path = true := List.find?_some h
  refine ⟨hpicked, fun ancestor hle hne hpick => ?_⟩
  induction path using List.reverseRecOn with
  | nil => exact hne (List.prefix_nil.mp hle)
  | append_singleton parent last _ =>
    have htail : (parent ++ [last]).inits.tail = parent.inits.tail ++ [parent ++ [last]] := by
      have hne' : parent.inits ≠ [] := List.ne_nil_of_mem ((List.mem_inits [] _).mpr List.nil_prefix)
      rw [List.inits_append, List.tail_append_of_ne_nil hne']
      simp
    have hle : ancestor <+: parent := (List.prefix_concat_iff.mp hle).resolve_left hne
    have hmem : ancestor ∈ parent.inits.tail := by
      have hinits : ancestor ∈ parent.inits := (List.mem_inits _ _).mpr hle
      cases parent with
      | nil =>
        obtain rfl := List.prefix_nil.mp hle
        rw [hroot] at hpick
        cases hpick
      | cons a parent =>
        simp only [List.inits, List.tail_cons, List.mem_cons] at hinits ⊢
        refine hinits.resolve_left fun hnil => ?_
        rw [hnil, hroot] at hpick
        cases hpick
    rw [htail, List.find?_append] at h
    cases hfind : parent.inits.tail.find? p with
    | none => exact absurd hpick (by simpa using List.find?_eq_none.mp hfind ancestor hmem)
    | some found =>
      rw [hfind, Option.some_or, Option.some.injEq] at h
      have hfound : found ∈ parent.inits := List.mem_of_mem_tail (List.mem_of_find?_eq_some hfind)
      have hlength := ((List.mem_inits _ _).mp hfound).length_le
      rw [h] at hlength
      rw [List.length_append, List.length_singleton] at hlength
      omega

/-- The proper prefixes of a path. -/
theorem mem_dropLast_inits {path parent : List α} :
    parent ∈ path.inits.dropLast ↔ parent <+: path ∧ parent ≠ path := by
  induction path using List.reverseRecOn with
  | nil => simp
  | append_singleton path last _ =>
    have hinits : (path ++ [last]).inits = path.inits ++ [path ++ [last]] := by
      rw [List.inits_append]
      simp
    rw [hinits, List.dropLast_concat, List.mem_inits, List.prefix_concat_iff]
    constructor
    · intro hle
      refine ⟨.inr hle, ?_⟩
      rintro rfl
      have hlength := hle.length_le
      rw [List.length_append, List.length_singleton] at hlength
      omega
    · rintro ⟨heq | hle, hne⟩
      · exact absurd heq hne
      · exact hle

/-! ### Segments joined by a separator -/

section Joined

variable {sep : α} {xs ys : List (List α)}

theorem intercalate_append (hxs : xs ≠ []) (hys : ys ≠ []) :
    [sep].intercalate (xs ++ ys) = [sep].intercalate xs ++ sep :: [sep].intercalate ys := by
  induction xs with
  | nil => exact absurd rfl hxs
  | cons x xs ih =>
    cases xs with
    | nil => simp [List.intercalate_cons_of_ne_nil hys]
    | cons x' xs =>
      rw [List.cons_append, List.cons_append, List.intercalate_cons_cons,
        List.intercalate_cons_cons, ← List.cons_append, ih (by simp)]
      simp

variable [DecidableEq α]

theorem sep_notMem_of_mem_splitOn {cs part : List α} (h : part ∈ cs.splitOn sep) : sep ∉ part := by
  induction cs generalizing part with
  | nil =>
    rw [List.splitOn_nil, List.mem_singleton] at h
    simp [h]
  | cons c cs ih =>
    rw [List.splitOn_cons_eq_if_modifyHead] at h
    split at h
    · rcases List.mem_cons.mp h with rfl | h
      · simp
      · exact ih h
    · rename_i hne
      cases hsplit : cs.splitOn sep with
      | nil => exact absurd hsplit (List.splitOn_ne_nil _ _)
      | cons first rest =>
        rw [hsplit] at h ih
        rw [List.modifyHead_cons, List.mem_cons] at h
        rcases h with rfl | h
        · have hfirst := ih List.mem_cons_self
          simp only [List.mem_cons, not_or]
          exact ⟨fun heq => hne (by simp [heq]), hfirst⟩
        · exact ih (List.mem_cons_of_mem _ h)

/-- One joined text is followed by the separator in another exactly when its segments come first. -/
theorem intercalate_sep_prefix_iff (hxs : ∀ x ∈ xs, sep ∉ x) (hys : ∀ y ∈ ys, sep ∉ y)
    (hne : xs ≠ []) :
    [sep].intercalate xs ++ [sep] <+: [sep].intercalate ys ↔ xs <+: ys ∧ xs ≠ ys := by
  constructor
  · rintro ⟨rest, hrest⟩
    have hys' : ys ≠ [] := by
      rintro rfl
      simp at hrest
    have hsplit : ys = xs ++ rest.splitOn sep := by
      rw [← List.splitOn_intercalate sep hys hys', ← hrest, List.append_assoc, List.singleton_append,
        List.splitOn_append_cons_self, List.splitOn_intercalate sep hxs hne]
    refine ⟨⟨_, hsplit.symm⟩, fun heq => ?_⟩
    rw [heq] at hsplit
    simp at hsplit
  · rintro ⟨⟨more, rfl⟩, hne'⟩
    have hmore : more ≠ [] := by
      rintro rfl
      simp at hne'
    rw [intercalate_append hne hmore]
    exact ⟨[sep].intercalate more, by simp⟩

end Joined

end Ucf
