import Ucf.Generator.Plugin

/-! The directory of a use case: one segment below the output directory, named by a lossy image of
the use case's name. What is written for the use case lies inside it. -/

namespace Ucf.Spec

/-! ### Paths -/

namespace FilePath

/-- The segments of a path that has been resolved. -/
def Resolved (path : FilePath) : Prop := ∀ part ∈ path, IsSegment part ∧ part ≠ ['.', '.']

theorem Resolved.append {path path' : FilePath} (h : Resolved path) (h' : Resolved path') :
    Resolved (path ++ path') := by
  intro part hpart
  rcases List.mem_append.mp hpart with hpart | hpart
  · exact h part hpart
  · exact h' part hpart

theorem resolved_resolve {path : FilePath} (h : ∀ part ∈ path, IsSegment part) :
    Resolved path.resolve := by
  have hfold : ∀ (parts resolved : FilePath), (∀ part ∈ parts, IsSegment part) →
      Resolved resolved → Resolved (parts.foldl (fun resolved part =>
        if part = ['.', '.'] then resolved.dropLast else resolved ++ [part]) resolved) := by
    intro parts
    induction parts with
    | nil => exact fun _ _ h => h
    | cons part parts ih =>
      intro resolved hparts hresolved
      refine ih _ (fun part hpart => hparts part (List.mem_cons_of_mem _ hpart)) ?_
      dsimp only
      split
      · exact fun part hpart => hresolved part (List.mem_of_mem_dropLast hpart)
      · rename_i hup
        refine hresolved.append fun other hother => ?_
        rw [List.mem_singleton.mp hother]
        exact ⟨hparts part (by simp), hup⟩
  exact hfold path [] h nofun

theorem Resolved.resolve_eq {path : FilePath} (h : Resolved path) : path.resolve = path := by
  have hfold : ∀ parts resolved : FilePath, Resolved parts → parts.foldl (fun resolved part =>
      if part = ['.', '.'] then resolved.dropLast else resolved ++ [part]) resolved =
        resolved ++ parts := by
    intro parts
    induction parts with
    | nil => simp
    | cons part parts ih =>
      intro resolved hparts
      rw [List.foldl_cons, if_neg (hparts part (by simp)).2,
        ih _ fun part hpart => hparts part (List.mem_cons_of_mem _ hpart), List.append_assoc]
      rfl
  exact hfold path [] h

theorem isSegment_of_mem_join {base : FilePath} {text part : List Char} (h : Resolved base)
    (hpart : part ∈ base.join text) : IsSegment part := by
  rw [join, List.mem_append] at hpart
  rcases hpart with hpart | hpart
  · split at hpart
    · cases hpart
    · exact (h part hpart).1
  · exact isSegment_of_mem_posixParts hpart

/-- A segment and what follows it are the start of a text when the text's first segment is the
same and its rest starts with what follows. -/
theorem append_prefix_append {s s' r r' : List Char} (hs : '/' ∉ s) (hs' : '/' ∉ s')
    (hr : r.head? = some '/') (hr' : ∀ c ∈ r'.head?, c = '/') :
    s ++ r <+: s' ++ r' ↔ s = s' ∧ r <+: r' := by
  induction s generalizing s' with
  | nil =>
    cases s' with
    | nil => simp
    | cons c cs =>
      refine iff_of_false (fun h => ?_) (by simp)
      cases r with
      | nil => cases hr
      | cons d ds =>
        rw [List.nil_append, List.cons_append, List.cons_prefix_cons] at h
        rw [List.head?_cons, Option.some.injEq] at hr
        exact hs' (by rw [← hr, h.1]; simp)
  | cons c cs ih =>
    rw [List.mem_cons, not_or] at hs
    cases s' with
    | nil =>
      refine iff_of_false (fun h => ?_) (by simp)
      cases r' with
      | nil => simp at h
      | cons d ds =>
        rw [List.nil_append, List.cons_append, List.cons_prefix_cons] at h
        exact hs.1 (h.1.trans (hr' d rfl)).symm
    | cons c' cs' =>
      rw [List.mem_cons, not_or] at hs'
      rw [List.cons_append, List.cons_append, List.cons_prefix_cons, ih hs.2 hs'.2, List.cons.injEq,
        and_assoc]

theorem flatMap_prefix_flatMap {dir target : FilePath} (hdir : Resolved dir)
    (htarget : Resolved target) :
    dir.flatMap ('/' :: ·) ++ ['/'] <+: target.flatMap ('/' :: ·) ↔
      dir <+: target ∧ target ≠ dir := by
  induction dir generalizing target with
  | nil =>
    cases target with
    | nil => simp
    | cons => simp
  | cons s dir ih =>
    cases target with
    | nil => simp
    | cons s' target =>
      have hhead : (dir.flatMap ('/' :: ·) ++ ['/']).head? = some '/' := by cases dir <;> rfl
      have hhead' : ∀ c ∈ (target.flatMap ('/' :: ·)).head?, c = '/' := by
        cases target with
        | nil => simp
        | cons => simp
      rw [List.flatMap_cons, List.flatMap_cons, List.cons_append, List.cons_append,
        List.cons_append, List.cons_prefix_cons, List.append_assoc,
        append_prefix_append (hdir s (by simp)).1.noSlash (htarget s' (by simp)).1.noSlash hhead
          hhead',
        ih (fun part hpart => hdir part (List.mem_cons_of_mem _ hpart))
          fun part hpart => htarget part (List.mem_cons_of_mem _ hpart),
        List.cons_prefix_cons, ne_eq, ne_eq, List.cons.injEq]
      constructor
      · rintro ⟨-, rfl, hbelow, hne⟩
        exact ⟨⟨rfl, hbelow⟩, fun heq => hne heq.2⟩
      · rintro ⟨⟨rfl, hbelow⟩, hne⟩
        exact ⟨rfl, rfl, hbelow, fun heq => hne ⟨rfl, heq⟩⟩

/-- A path is inside a directory that is not the root when it goes on from it. -/
theorem inside_iff {dir target : FilePath} (hdir : Resolved dir) (htarget : Resolved target) :
    Inside dir target ↔ dir ≠ [] ∧ dir <+: target ∧ target ≠ dir := by
  rw [Inside, text, text]
  by_cases hroot : dir = []
  · refine iff_of_false ?_ fun h => h.1 hroot
    rw [if_pos hroot]
    intro hbelow
    split at hbelow
    · exact absurd hbelow.length_le (by simp)
    · rename_i hne
      obtain ⟨s, target, rfl⟩ := List.exists_cons_of_ne_nil hne
      have hs := (htarget s (by simp)).1
      obtain ⟨c, cs, rfl⟩ := List.exists_cons_of_ne_nil hs.notEmpty
      rw [List.flatMap_cons, List.cons_append, List.cons_append, List.cons_prefix_cons,
        List.cons_append, List.nil_append, List.cons_prefix_cons] at hbelow
      exact hs.noSlash (by rw [hbelow.2.1]; simp)
  · rw [if_neg hroot, ← flatMap_prefix_flatMap hdir htarget]
    by_cases htargetRoot : target = []
    · subst htargetRoot
      rw [if_pos rfl]
      obtain ⟨s, dir, rfl⟩ := List.exists_cons_of_ne_nil hroot
      obtain ⟨c, cs, rfl⟩ := List.exists_cons_of_ne_nil (hdir s (by simp)).1.notEmpty
      simp
    · rw [if_neg htargetRoot]
      exact ⟨fun h => ⟨hroot, h⟩, fun h => h.2⟩

end FilePath

open FilePath

theorem resolved_target {dir : FilePath} (hdir : FilePath.Resolved dir) (file : GeneratedFile) :
    FilePath.Resolved (file.target dir) :=
  resolved_resolve fun _ hpart => isSegment_of_mem_join hdir hpart

/-! ### The directory of a use case -/

section

variable [Lowercase]

theorem isSafe_of_mem_safeModuleName {name : String} {c : Char} (h : c ∈ safeModuleName name) :
    isSafe c = true := by
  rw [safeModuleName, List.mem_map] at h
  obtain ⟨d, -, rfl⟩ := h
  split
  · assumption
  · rfl

/-- The segments that a safe name adds to a path. -/
def safeSegments (name : String) : FilePath :=
  if safeModuleName name = [] then [] else [safeModuleName name]

theorem resolved_safeSegments (name : String) : FilePath.Resolved (safeSegments name) := by
  intro part hpart
  rw [safeSegments] at hpart
  split at hpart
  · cases hpart
  · rename_i hne
    rw [List.mem_singleton.mp hpart]
    have hunsafe : ∀ c, isSafe c = false → c ∉ safeModuleName name := by
      intro c hc hmem
      rw [isSafe_of_mem_safeModuleName hmem] at hc
      cases hc
    refine ⟨⟨hne, fun hdot => ?_, hunsafe '/' (by decide)⟩, fun hup => ?_⟩
    · exact hunsafe '.' (by decide) (by rw [hdot]; simp)
    · exact hunsafe '.' (by decide) (by rw [hup]; simp)

theorem safeSegments_inj {name name' : String} :
    safeSegments name = safeSegments name' ↔ safeModuleName name = safeModuleName name' := by
  rw [safeSegments, safeSegments]
  split <;> split <;> simp_all

variable {ε : Type} (engine : GeneratorEngine ε)

theorem usecaseDir_eq (uc : UseCaseSpec) :
    engine.usecaseDir uc = engine.outputDir ++ safeSegments uc.metadata.name := by
  rw [GeneratorEngine.usecaseDir, join, safeSegments]
  have hresolved := resolved_safeSegments uc.metadata.name
  rw [safeSegments] at hresolved
  split
  · rename_i hslash
    have hmem : '/' ∈ safeModuleName uc.metadata.name := List.mem_of_mem_head? hslash
    have hsafe := isSafe_of_mem_safeModuleName hmem
    simp [isSafe] at hsafe
  · split at hresolved
    · rename_i hempty
      rw [hempty]
      rfl
    · rename_i hne
      have hparts := posixParts_posixText fun part hpart => (hresolved part hpart).1
      rw [if_neg hne]
      rw [posixText_of_ne_nil (by simp), List.intercalate_singleton] at hparts
      rw [hparts]

theorem resolved_usecaseDir (uc : UseCaseSpec) : FilePath.Resolved (engine.usecaseDir uc) := by
  rw [usecaseDir_eq]
  exact FilePath.Resolved.append engine.resolved (resolved_safeSegments _)

end

end Ucf.Spec
