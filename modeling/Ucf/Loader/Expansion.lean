import Ucf.Loader.Loader
import Ucf.Loader.Traversal

/-! The expansion of references: at most `maxRefDepth` files are nested, only files below the base
directory are opened, and what a loader has read before does not change what it returns. -/

namespace Ucf.Loader

open Spec (FilePath Inside)

/-- `path` is strictly below `dir`. -/
def Below (dir path : FilePath) : Prop := dir <+: path ∧ path ≠ dir

/-- From `s` to `t` files with the property `P` were opened. -/
def Opens (P : FilePath → Prop) (s t : LoaderState) : Prop :=
  ∃ files, t.opened = s.opened ++ files ∧ ∀ file ∈ files, P file

theorem Opens.refl {P : FilePath → Prop} (s : LoaderState) : Opens P s s := ⟨[], by simp, by simp⟩

theorem Opens.trans {P : FilePath → Prop} (s t u : LoaderState) (h : Opens P s t)
    (h' : Opens P t u) : Opens P s u := by
  obtain ⟨files, hfiles, hP⟩ := h
  obtain ⟨files', hfiles', hP'⟩ := h'
  refine ⟨files ++ files', ?_, fun file hfile => ?_⟩
  · rw [hfiles', hfiles, List.append_assoc]
  · rcases List.mem_append.mp hfile with hfile | hfile
    · exact hP file hfile
    · exact hP' file hfile

namespace SpecLoader

variable (loader : SpecLoader)

/-- What is cached for a path is what its file holds. -/
def CacheValid (s : LoaderState) : Prop :=
  ∀ path data, s.cache.get? path = some data →
    loader.files.entries.get? path = some (.file (.mapping data))

/-- The resolved base directory -/
def base : FilePath := loader.files.resolve loader.baseDir

theorem cacheValid_init : loader.CacheValid .init := by
  intro path data h
  rw [LoaderState.init, Dict.get?_empty] at h
  cases h

variable {loader}

/-! ### Reading -/

theorem readFile_eq_ok {path : FilePath} {data : Mapping} : loader.readFile path = .ok data ↔
    loader.files.entries.get? (loader.files.resolve path) = some (.file (.mapping data)) := by
  unfold readFile
  split <;> simp_all

theorem readYaml_cached {path : FilePath} {s : LoaderState} {data : Mapping}
    (h : s.cache.get? (loader.files.resolve path) = some data) :
    loader.readYaml path s = (.ok data, s) := by
  have hget : (get : LoaderM LoaderState) s = (.ok s, s) := rfl
  unfold readYaml
  simp only [bind, ExceptT.bind, ExceptT.mk, ExceptT.bindCont, StateT.bind, hget, h]
  rfl

theorem readYaml_fresh {path : FilePath} {s : LoaderState}
    (h : s.cache.get? (loader.files.resolve path) = none) :
    loader.readYaml path s =
      let opened := s.opened ++ loader.opens (loader.files.resolve path)
      match loader.readFile path with
      | .ok data => (.ok data, ⟨s.cache.insert (loader.files.resolve path) data, opened⟩)
      | .error e => (.error e, ⟨s.cache, opened⟩) := by
  have hget : (get : LoaderM LoaderState) s = (.ok s, s) := rfl
  unfold readYaml
  simp only [bind, ExceptT.bind, ExceptT.mk, ExceptT.bindCont, StateT.bind, hget, h]
  cases loader.readFile path <;> rfl

/-- Reading through the cache returns what the file holds. -/
theorem computes_readYaml {P : FilePath → Prop} {path : FilePath}
    (h : ∀ file ∈ loader.opens (loader.files.resolve path), P file) :
    Stateful.Computes loader.CacheValid (Opens P) (loader.readYaml path) (loader.readFile path) := by
  intro s hs
  rw [Stateful.outcome, Stateful.after]
  cases hcache : s.cache.get? (loader.files.resolve path) with
  | some data =>
    rw [readYaml_cached hcache, readFile_eq_ok.mpr (hs _ _ hcache)]
    exact ⟨rfl, hs, .refl s⟩
  | none =>
    rw [readYaml_fresh hcache]
    dsimp only
    cases hread : loader.readFile path with
    | error e => exact ⟨rfl, hs, _, rfl, h⟩
    | ok data =>
      refine ⟨rfl, fun other data' hother => ?_, _, rfl, h⟩
      rw [Dict.get?_insert] at hother
      split at hother
      · rename_i heq
        cases hother
        rw [heq]
        exact readFile_eq_ok.mp hread
      · exact hs other data' hother

section Texts

variable [PythonTexts]

/-! ### One reference -/

theorem resolveRefPath_eq_ok {ref : String} {source path : FilePath}
    (h : loader.resolveRefPath ref source = .ok path) :
    loader.files.resolve path = path ∧ (path = loader.base ∨ Below loader.base path) := by
  unfold resolveRefPath at h
  dsimp only at h
  split at h
  · rename_i hinside
    cases h
    refine ⟨loader.files.resolve_resolve _, ?_⟩
    rcases hinside with hinside | hbase
    · exact .inr (((FilePath.inside_iff (loader.files.resolved _)
        (loader.files.resolved _)).mp hinside).2)
    · exact .inl hbase
  · cases h

/-- For a reference only a file strictly below the base directory is opened. -/
theorem below_of_mem_opens {ref : String} {source path file : FilePath}
    (h : loader.resolveRefPath ref source = .ok path)
    (hfile : file ∈ loader.opens (loader.files.resolve path)) : Below loader.base file := by
  obtain ⟨hresolve, hbase⟩ := resolveRefPath_eq_ok h
  rw [hresolve, opens] at hfile
  split at hfile
  · rename_i hopen
    rw [List.mem_singleton] at hfile
    subst hfile
    refine hbase.resolve_left fun heq => ?_
    cases hentry : loader.files.entries.get? file with
    | none =>
      rw [hentry] at hopen
      cases hopen
    | some entry =>
      rw [hentry, Option.any_some, loader.base_directory entry (by rwa [heq] at hentry)] at hopen
      cases hopen
  · cases hfile

theorem computes_openRef (source : FilePath) (ref : Yaml) :
    Stateful.Computes loader.CacheValid (Opens (Below loader.base))
      (loader.openRef loader.readYaml source ref) (loader.openRef loader.readFile source ref) := by
  unfold openRef
  simp only [Stateful.ofExcept_self]
  split
  · rename_i text
    refine .bind Opens.trans (.ofExcept Opens.refl _) fun path hpath => ?_
    split
    · refine .bind Opens.trans
        (computes_readYaml fun file hfile => below_of_mem_opens hpath hfile) fun raw _ => ?_
      exact .bind Opens.trans (.ofExcept Opens.refl _) fun _ _ => .of_pure Opens.refl _
    · exact .of_throw Opens.refl _
  · exact .of_throw Opens.refl _

/-! ### Expansion -/

theorem resolveRefs_stop {m : Type → Type} [Monad m] [MonadExcept LoadError m]
    {read : FilePath → m Mapping} {depth : Nat} (h : maxRefDepth ≤ depth) (source : FilePath)
    (data : Yaml) : loader.resolveRefs read depth source data =
      throw (refError (.scalar (.str "<nested>")) source .depthExceeded) := by
  rw [resolveRefs, if_pos h]

theorem resolveRefs_walk {m : Type → Type} [Monad m] [MonadExcept LoadError m]
    {read : FilePath → m Mapping} {depth : Nat} (h : ¬maxRefDepth ≤ depth) (source : FilePath)
    (data : Yaml) : loader.resolveRefs read depth source data = walk (fun ref => do
      let (path, raw) ← loader.openRef read source ref
      loader.resolveRefs read (depth + 1) path (.mapping raw)) data := by
  rw [resolveRefs, if_neg h]

/-- The expansion through the cache is the expansion by the files. -/
theorem computes_resolveRefs (depth : Nat) (source : FilePath) (data : Yaml) :
    Stateful.Computes loader.CacheValid (Opens (Below loader.base))
      (loader.resolveRefs loader.readYaml depth source data)
      (loader.resolveRefs loader.readFile depth source data) := by
  induction hlevels : maxRefDepth - depth generalizing depth source data with
  | zero =>
    have hdepth : maxRefDepth ≤ depth := by omega
    rw [resolveRefs_stop hdepth, resolveRefs_stop hdepth]
    exact .of_throw Opens.refl _
  | succ levels ih =>
    have hdepth : ¬maxRefDepth ≤ depth := by omega
    rw [resolveRefs_walk hdepth, resolveRefs_walk hdepth]
    refine computes_walk Opens.refl Opens.trans (fun ref => ?_) data
    exact .bind Opens.trans (computes_openRef source ref) fun opened _ =>
      ih (depth + 1) opened.1 (.mapping opened.2) (by omega)

/-! ### What is expanded -/

variable (loader) in
/-- `tree` is `data`, the value of the file `source`, with each of its references expanded, where
files are nested less than `levels` deep. -/
inductive Expands : Nat → FilePath → Yaml → Yaml → Prop where
  | intro {levels : Nat} {source : FilePath} {data : Yaml} (file : Yaml → FilePath)
      (raw : Yaml → Mapping) (f : Yaml → Yaml)
      (opens : ∀ ref ∈ refsOf data,
        loader.openRef loader.readFile source ref = .ok (file ref, raw ref))
      (expands : ∀ ref ∈ refsOf data, Expands levels (file ref) (.mapping (raw ref)) (f ref)) :
      Expands (levels + 1) source data (substitute f data)

variable (loader) in
/-- A chain of `levels` nested references leads on from `data`, the value of the file `source`: at
each link the references before it are expanded, and the reference itself opens. -/
inductive Descends : Nat → FilePath → Yaml → Prop where
  | zero (source : FilePath) (data : Yaml) : Descends 0 source data
  | succ {levels : Nat} {source : FilePath} {data : Yaml} (before : List Yaml) (ref : Yaml)
      (after : List Yaml) {file : FilePath} {raw : Mapping}
      (refs : refsOf data = before ++ ref :: after)
      (expanded : ∀ other ∈ before, ∃ file raw tree,
        loader.openRef loader.readFile source other = .ok (file, raw) ∧
          Expands loader levels file (.mapping raw) tree)
      (opens : loader.openRef loader.readFile source ref = .ok (file, raw))
      (descends : Descends levels file (.mapping raw)) : Descends (levels + 1) source data

/-- The error is that of a reference too deep. -/
def IsDepthError : LoadError → Prop
  | .refResolution error => error.reason = .depthExceeded
  | _ => False

theorem Expands.refsOf_eq_nil {levels : Nat} {source : FilePath} {data tree : Yaml}
    (h : Expands loader levels source data tree) : refsOf tree = [] := by
  induction h with
  | intro file raw f opens expands ih => exact refsOf_substitute ih

theorem Expands.succ {levels : Nat} {source : FilePath} {data tree : Yaml}
    (h : Expands loader levels source data tree) :
    Expands loader (levels + 1) source data tree := by
  induction h with
  | intro file raw f opens expands ih => exact .intro file raw f opens ih

theorem Expands.mono {levels levels' : Nat} (hle : levels ≤ levels') {source : FilePath}
    {data tree : Yaml} (h : Expands loader levels source data tree) :
    Expands loader levels' source data tree := by
  induction hle with
  | refl => exact h
  | step _ ih => exact ih.succ

/-- What is loaded for a reference at a depth -/
def loadRef (loader : SpecLoader) (depth : Nat) (source : FilePath) (ref : Yaml) :
    Except LoadError Yaml := do
  let (file, raw) ← loader.openRef loader.readFile source ref
  loader.resolveRefs loader.readFile (depth + 1) file (.mapping raw)

theorem loadRef_eq_ok {depth : Nat} {source : FilePath} {ref tree : Yaml} :
    loadRef loader depth source ref = .ok tree ↔ ∃ file raw,
      loader.openRef loader.readFile source ref = .ok (file, raw) ∧
        loader.resolveRefs loader.readFile (depth + 1) file (.mapping raw) = .ok tree := by
  unfold loadRef
  cases loader.openRef loader.readFile source ref with
  | error e => simp
  | ok opened =>
    rw [ok_bind]
    constructor
    · exact fun h => ⟨opened.1, opened.2, rfl, h⟩
    · rintro ⟨file, raw, hopen, h⟩
      cases hopen
      exact h

theorem resolveRefs_eq_walk {depth : Nat} (h : ¬maxRefDepth ≤ depth) (source : FilePath)
    (data : Yaml) : loader.resolveRefs loader.readFile depth source data =
      walk (loadRef loader depth source) data := resolveRefs_walk h source data

/-- Expansion succeeds with `tree` exactly when `tree` is the expanded value. -/
theorem resolveRefs_eq_ok {depth levels : Nat} (hdepth : depth + levels = maxRefDepth)
    {source : FilePath} {data tree : Yaml} :
    loader.resolveRefs loader.readFile depth source data = .ok tree ↔
      Expands loader levels source data tree := by
  induction levels generalizing depth source data tree with
  | zero =>
    rw [resolveRefs_stop (by omega)]
    refine iff_of_false (by simp) fun h => ?_
    cases h
  | succ levels ih =>
    rw [resolveRefs_eq_walk (by omega), walk_eq_ok]
    have hnext : depth + 1 + levels = maxRefDepth := by omega
    constructor
    · rintro ⟨hloaded, rfl⟩
      have hopened : ∀ ref ∈ refsOf data, ∃ opened : FilePath × Mapping,
          loader.openRef loader.readFile source ref = .ok opened ∧
            Expands loader levels opened.1 (.mapping opened.2)
              (loaded (loadRef loader depth source) ref) := by
        intro ref href
        obtain ⟨file, raw, hopen, htree⟩ := loadRef_eq_ok.mp (hloaded ref href)
        exact ⟨(file, raw), hopen, (ih hnext).mp htree⟩
      choose! opened hopen hexpands using hopened
      exact .intro (fun ref => (opened ref).1) (fun ref => (opened ref).2) _ hopen hexpands
    · intro h
      cases h with
      | intro file raw f opens expands =>
        have hloads : ∀ ref ∈ refsOf data, loadRef loader depth source ref = .ok (f ref) :=
          fun ref href => loadRef_eq_ok.mpr
            ⟨file ref, raw ref, opens ref href, (ih hnext).mpr (expands ref href)⟩
        refine ⟨fun ref href => ?_, substitute_congr fun ref href => ?_⟩
        · rw [loaded_of_ok (hloads ref href), hloads ref href]
        · rw [loaded_of_ok (hloads ref href)]

/-! ### The depth error -/

theorem isDepthError_refError {ref : Yaml} {source : FilePath} {reason : RefReason} :
    IsDepthError (refError ref source reason) ↔ ref.text ≠ none ∧ reason = .depthExceeded := by
  unfold refError
  split
  · rename_i htext
    simp [IsDepthError, htext]
  · rename_i text htext
    simp [IsDepthError, htext]

theorem resolveRefs_stop_isDepthError {depth : Nat} (h : maxRefDepth ≤ depth) (source : FilePath)
    (data : Yaml) : ∃ e, loader.resolveRefs loader.readFile depth source data = .error e ∧
      IsDepthError e := by
  rw [resolveRefs_stop h]
  exact ⟨_, rfl, isDepthError_refError.mpr ⟨by simp [Yaml.text, Scalar.text], rfl⟩⟩

omit [PythonTexts] in
theorem readFile_not_depth {path : FilePath} {e : LoadError} (h : loader.readFile path = .error e) :
    ¬IsDepthError e := by
  unfold readFile at h
  split at h <;> cases h <;> exact id

theorem validateLogicalRefIdentity_not_depth {ref : String} {raw : Mapping} {source : FilePath}
    {e : LoadError} (h : validateLogicalRefIdentity ref raw source = .error e) :
    ¬IsDepthError e := by
  unfold validateLogicalRefIdentity at h
  split at h
  · cases h
  · split at h
    · split at h
      · cases h
      · dsimp only at h
        split at h
        · cases h
        · split at h
          · cases h
            rw [isDepthError_refError]
            exact fun hdepth => by cases hdepth.2
          · cases h
            exact id
    · cases h

/-- Opening a reference never gives the depth error. -/
theorem openRef_not_depth {source : FilePath} {ref : Yaml} {e : LoadError}
    (h : loader.openRef loader.readFile source ref = .error e) : ¬IsDepthError e := by
  unfold openRef at h
  simp only [Stateful.ofExcept_self] at h
  split at h
  · rename_i text
    cases hpath : loader.resolveRefPath text source with
    | error e' =>
      rw [hpath] at h
      cases h
      unfold resolveRefPath at hpath
      dsimp only at hpath
      split at hpath
      · cases hpath
      · cases hpath
        rw [isDepthError_refError]
        exact fun hdepth => by cases hdepth.2
    | ok path =>
      rw [hpath, ok_bind] at h
      split at h
      · cases hread : loader.readFile path with
        | error e' =>
          rw [hread] at h
          cases h
          exact readFile_not_depth hread
        | ok raw =>
          cases hidentity : validateLogicalRefIdentity text raw source with
          | error e' =>
            rw [hread, ok_bind, hidentity] at h
            cases h
            exact validateLogicalRefIdentity_not_depth hidentity
          | ok u =>
            rw [hread, ok_bind, hidentity] at h
            cases h
      · cases h
        rw [isDepthError_refError]
        exact fun hdepth => by cases hdepth.2
  · cases h
    rw [isDepthError_refError]
    exact fun hdepth => by cases hdepth.2

theorem loadRef_depthError_iff {depth : Nat} {source : FilePath} {ref : Yaml} :
    (∃ e, loadRef loader depth source ref = .error e ∧ IsDepthError e) ↔ ∃ file raw,
      loader.openRef loader.readFile source ref = .ok (file, raw) ∧
        ∃ e, loader.resolveRefs loader.readFile (depth + 1) file (.mapping raw) = .error e ∧
          IsDepthError e := by
  unfold loadRef
  cases hopen : loader.openRef loader.readFile source ref with
  | error e =>
    refine iff_of_false ?_ (by simp)
    rintro ⟨_, herror, hdepth⟩
    cases herror
    exact openRef_not_depth hopen hdepth
  | ok opened =>
    rw [ok_bind]
    constructor
    · exact fun h => ⟨opened.1, opened.2, rfl, h⟩
    · rintro ⟨file, raw, heq, h⟩
      cases heq
      exact h

/-- Expansion ends with the depth error exactly when a chain of references leads down to the
greatest depth before anything fails. -/
theorem resolveRefs_depthError_iff {depth levels : Nat} (hdepth : depth + levels = maxRefDepth)
    {source : FilePath} {data : Yaml} :
    (∃ e, loader.resolveRefs loader.readFile depth source data = .error e ∧ IsDepthError e) ↔
      Descends loader levels source data := by
  induction levels generalizing depth source data with
  | zero =>
    exact iff_of_true (resolveRefs_stop_isDepthError (by omega) source data) (.zero source data)
  | succ levels ih =>
    have hnext : depth + 1 + levels = maxRefDepth := by omega
    have hloads : ∀ ref, (∃ tree, loadRef loader depth source ref = .ok tree) ↔ ∃ file raw tree,
        loader.openRef loader.readFile source ref = .ok (file, raw) ∧
          Expands loader levels file (.mapping raw) tree := by
      intro ref
      simp only [loadRef_eq_ok, resolveRefs_eq_ok hnext]
      constructor
      · rintro ⟨tree, file, raw, h⟩
        exact ⟨file, raw, tree, h⟩
      · rintro ⟨file, raw, tree, h⟩
        exact ⟨tree, file, raw, h⟩
    rw [resolveRefs_eq_walk (by omega)]
    constructor
    · rintro ⟨e, hwalk, he⟩
      obtain ⟨before, ref, after, hrefs, hbefore, href⟩ := walk_eq_error.mp hwalk
      obtain ⟨file, raw, hopen, hdeep⟩ := loadRef_depthError_iff.mp ⟨e, href, he⟩
      exact .succ before ref after hrefs (fun other hother => (hloads other).mp (hbefore other hother))
        hopen ((ih hnext).mp hdeep)
    · intro h
      cases h with
      | succ before ref after refs expanded opens descends =>
        obtain ⟨e, href, he⟩ := loadRef_depthError_iff.mpr ⟨_, _, opens, (ih hnext).mpr descends⟩
        exact ⟨e, walk_eq_error.mpr ⟨before, ref, after, refs,
          fun other hother => (hloads other).mpr (expanded other hother), href⟩, he⟩

/-! ### Files -/

/-- The expansion of the file `path` by the files alone -/
def expand (loader : SpecLoader) (path : FilePath) : Except LoadError Yaml := do
  let raw ← loader.readFile path
  loader.resolveRefs loader.readFile 0 path (.mapping raw)

theorem computes_loadTree (path : FilePath) :
    Stateful.Computes loader.CacheValid (Opens fun _ => True) (loader.loadTree path)
      (expand loader path) := by
  unfold loadTree expand
  refine .bind Opens.trans (computes_readYaml fun _ _ => trivial) fun raw _ => ?_
  refine Stateful.Computes.mono (fun s t h => ?_) (computes_resolveRefs 0 path (.mapping raw))
  obtain ⟨files, hfiles, -⟩ := h
  exact ⟨files, hfiles, fun _ _ => trivial⟩

/-- The files that are opened after the file itself are opened for references. -/
theorem opens_loadTree {s : LoaderState} (hs : loader.CacheValid s) (path : FilePath) :
    Opens (Below loader.base) ((loader.readYaml path).after s) ((loader.loadTree path).after s) := by
  have hcomputes : Stateful.Computes loader.CacheValid (Opens fun _ => True)
      (loader.readYaml path) (loader.readFile path) := computes_readYaml fun _ _ => trivial
  obtain ⟨-, hread, -⟩ := hcomputes s hs
  rw [loadTree, Stateful.after_bind]
  cases (loader.readYaml path).outcome s with
  | error e => exact .refl _
  | ok raw => exact (computes_resolveRefs 0 path (.mapping raw) _ hread).2.2

theorem expand_eq_ok {path : FilePath} {tree : Yaml} : expand loader path = .ok tree ↔
    ∃ raw, loader.readFile path = .ok raw ∧
      Expands loader maxRefDepth path (.mapping raw) tree := by
  unfold expand
  simp only [bind_eq_ok, resolveRefs_eq_ok (Nat.zero_add maxRefDepth)]

theorem expand_depthError_iff {path : FilePath} :
    (∃ e, expand loader path = .error e ∧ IsDepthError e) ↔ ∃ raw,
      loader.readFile path = .ok raw ∧ Descends loader maxRefDepth path (.mapping raw) := by
  unfold expand
  cases hread : loader.readFile path with
  | error e =>
    refine iff_of_false ?_ (by simp)
    rintro ⟨_, herror, hdepth⟩
    cases herror
    exact readFile_not_depth hread hdepth
  | ok raw =>
    rw [ok_bind, resolveRefs_depthError_iff (Nat.zero_add maxRefDepth)]
    simp

theorem readFile_of_openRef {source file : FilePath} {ref : Yaml} {raw : Mapping}
    (h : loader.openRef loader.readFile source ref = .ok (file, raw)) :
    loader.readFile file = .ok raw := by
  unfold openRef at h
  simp only [Stateful.ofExcept_self] at h
  split at h
  · obtain ⟨path, -, h⟩ := bind_eq_ok.mp h
    split at h
    · obtain ⟨raw', hread, h⟩ := bind_eq_ok.mp h
      obtain ⟨u, -, h⟩ := bind_eq_ok.mp h
      cases h
      exact hread
    · cases h
  · cases h

/-- A reference in an expanded file has been replaced by the expansion of the file it names. -/
theorem expand_substitutes {path : FilePath} {tree : Yaml} (h : expand loader path = .ok tree) :
    ∃ raw f, loader.readFile path = .ok raw ∧ tree = substitute f (.mapping raw) ∧
      ∀ ref ∈ refsOf (.mapping raw), ∃ file raw',
        loader.openRef loader.readFile path ref = .ok (file, raw') ∧
          expand loader file = .ok (f ref) := by
  obtain ⟨raw, hread, hexpands⟩ := expand_eq_ok.mp h
  cases hexpands with
  | intro file raw' f opens expands =>
    refine ⟨raw, f, hread, rfl, fun ref href => ⟨file ref, raw' ref, opens ref href, ?_⟩⟩
    exact expand_eq_ok.mpr
      ⟨raw' ref, readFile_of_openRef (opens ref href), (expands ref href).succ⟩

section Loads

variable [SpecModels]

theorem computes_loadFile (path : FilePath) :
    Stateful.Computes loader.CacheValid (Opens fun _ => True) (loader.loadFile path)
      (expand loader path >>= fun tree => parseSpec tree (some (pathText path))) := by
  unfold loadFile
  exact .bind Opens.trans (computes_loadTree path) fun tree _ => .ofExcept Opens.refl _

/-- The state of a loader that was asked for these files in turn, whatever came of it. -/
def afterLoading (loader : SpecLoader) (paths : List FilePath) : LoaderState :=
  paths.foldl (fun s path => (loader.loadFile path).after s) .init

theorem cacheValid_afterLoading (paths : List FilePath) :
    loader.CacheValid (loader.afterLoading paths) :=
  Stateful.inv_foldl computes_loadFile paths loader.cacheValid_init

/-- How a loader in the state `s` resolves the references of the file `path`. -/
structure ResolvesExactly (loader : SpecLoader) (s : LoaderState) (path : FilePath) : Prop where
  /-- The value and the spec are those that a new loader gives. -/
  transparent : (loader.loadTree path).outcome s = (loader.loadTree path).outcome .init ∧
    (loader.loadFile path).outcome s = (loader.loadFile path).outcome .init
  /-- The depth error is that of a chain of references. -/
  depth : (∃ e, (loader.loadTree path).outcome s = .error e ∧ IsDepthError e) ↔
    ∃ raw, loader.readFile path = .ok raw ∧ Descends loader maxRefDepth path (.mapping raw)
  /-- For the references, files strictly below the base directory are opened and no others. -/
  contained : Opens (Below loader.base) ((loader.readYaml path).after s)
    ((loader.loadTree path).after s)
  /-- No reference is left, and each was replaced by what its own file gives. -/
  expanded : ∀ tree, (loader.loadTree path).outcome s = .ok tree → refsOf tree = [] ∧
    ∃ raw f, loader.readFile path = .ok raw ∧ tree = substitute f (.mapping raw) ∧
      ∀ ref ∈ refsOf (.mapping raw), ∃ file raw',
        loader.openRef loader.readFile path ref = .ok (file, raw') ∧
          (loader.loadTree file).outcome .init = .ok (f ref)

/-- Whatever a loader has loaded before, it resolves the references of every file exactly. -/
theorem resolvesExactly (loader : SpecLoader) (earlier : List FilePath) (path : FilePath) :
    loader.ResolvesExactly (loader.afterLoading earlier) path := by
  have hs : loader.CacheValid (loader.afterLoading earlier) := cacheValid_afterLoading earlier
  have hinit := loader.cacheValid_init
  have htree : ∀ path', (loader.loadTree path').outcome .init = expand loader path' :=
    fun path' => (computes_loadTree path' _ hinit).1
  have hout : (loader.loadTree path).outcome (loader.afterLoading earlier) = expand loader path :=
    (computes_loadTree path _ hs).1
  refine ⟨⟨?_, ?_⟩, ?_, opens_loadTree hs path, fun tree h => ?_⟩
  · rw [hout, htree]
  · rw [(computes_loadFile path _ hs).1, (computes_loadFile path _ hinit).1]
  · rw [hout]
    exact expand_depthError_iff
  · rw [hout] at h
    obtain ⟨raw, -, hexpands⟩ := expand_eq_ok.mp h
    obtain ⟨raw', f, hread, hsub, hrefs⟩ := expand_substitutes h
    refine ⟨hexpands.refsOf_eq_nil, raw', f, hread, hsub, fun ref href => ?_⟩
    obtain ⟨file, raw'', hopen, hfile⟩ := hrefs ref href
    exact ⟨file, raw'', hopen, (htree file).trans hfile⟩

end Loads

end Texts

end SpecLoader

end Ucf.Loader
