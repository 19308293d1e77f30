import Ucf.Loader.Expansion

/-! What parsing raises, and what a load of all files makes of it: one class of errors is collected,
and any other exception ends the load. -/

namespace Ucf.Loader

open Spec (FilePath)

/-- The kind has a hash and a text: it is a scalar, and no integer of too many digits. -/
def KindReadable (data : Mapping) : Prop :=
  match Mapping.get? data "kind" with
  | none => True
  | some (.scalar (.int n)) => ¬Scalar.TooLong n
  | some (.scalar _) => True
  | some (.seq _) | some (.mapping _) => False

theorem substitute_eq_self {f : Yaml → Yaml} {data : Yaml} (h : refsOf data = []) :
    substitute f data = data := by
  induction data using Yaml.induction with
  | scalar value => rw [substitute_scalar]
  | seq items ih =>
    rw [refsOf_seq] at h
    rw [substitute_seq, Yaml.seq.injEq]
    induction items with
    | nil => rw [substituteItems, walkItems]; rfl
    | cons item items ihi =>
      rw [refsOfItems, List.append_eq_nil_iff] at h
      rw [List.forall_mem_cons] at ih
      rw [substituteItems_cons, ih.1 h.1, ihi ih.2 h.2]
  | mapping items ih =>
    cases href : refOf? items with
    | some ref =>
      rw [refsOf_ref href] at h
      cases h
    | none =>
      rw [refsOf_mapping href] at h
      rw [substitute_mapping href, Yaml.mapping.injEq]
      clear href
      induction items with
      | nil => rw [substituteFields, walkFields]; rfl
      | cons item items ihi =>
        rw [refsOfFields, List.append_eq_nil_iff] at h
        rw [List.forall_mem_cons] at ih
        rw [substituteFields_cons, ih.1 h.1, ihi ih.2 h.2]

/-! ### The loop -/

/-- The loop of `load_all_tolerant` over what each file gives -/
def tolerate (load : FilePath → Except LoadError ParsedSpec) : List FilePath →
    Except LoadError (List (FilePath × ParsedSpec) × List SpecParseError)
  | [] => .ok ([], [])
  | path :: paths =>
    match load path with
    | .ok spec => do
      let (results, errors) ← tolerate load paths
      .ok ((path, spec) :: results, errors)
    | .error error =>
      match error.caught? with
      | some text => do
        let (results, errors) ← tolerate load paths
        .ok (results, ⟨text, some (pathText path)⟩ :: errors)
      | none => .error error

/-- The file with its spec, when it is accepted -/
def accepted? (load : FilePath → Except LoadError ParsedSpec) (path : FilePath) :
    Option (FilePath × ParsedSpec) :=
  match load path with
  | .ok spec => some (path, spec)
  | .error _ => none

/-- The error about the file, when it is rejected -/
def rejected? (load : FilePath → Except LoadError ParsedSpec) (path : FilePath) :
    Option SpecParseError :=
  match load path with
  | .ok _ => none
  | .error error => error.caught?.map (⟨·, some (pathText path)⟩)

/-- The loop ends normally when only errors that it catches are raised; then each file has its
place in one of the two lists. -/
theorem tolerate_eq_ok {load : FilePath → Except LoadError ParsedSpec} {paths : List FilePath}
    {results : List (FilePath × ParsedSpec)} {errors : List SpecParseError} :
    tolerate load paths = .ok (results, errors) ↔
      (∀ path ∈ paths, ∀ e, load path = .error e → e.caught? ≠ none) ∧
        results = paths.filterMap (accepted? load) ∧ errors = paths.filterMap (rejected? load) := by
  induction paths generalizing results errors with
  | nil => simp [tolerate, eq_comm]
  | cons path paths ih =>
    rw [tolerate, List.forall_mem_cons, List.filterMap_cons, List.filterMap_cons]
    cases hload : load path with
    | ok spec =>
      rw [show accepted? load path = some (path, spec) by rw [accepted?, hload],
        show rejected? load path = none by rw [rejected?, hload]]
      simp only [bind_eq_ok, Prod.exists, ih, Except.ok.injEq, Prod.mk.injEq, reduceCtorEq,
        false_implies, implies_true, true_and]
      constructor
      · rintro ⟨results', errors', ⟨hcaught, rfl, rfl⟩, rfl, rfl⟩
        exact ⟨hcaught, rfl, rfl⟩
      · rintro ⟨hcaught, rfl, rfl⟩
        exact ⟨_, _, ⟨hcaught, rfl, rfl⟩, rfl, rfl⟩
    | error e =>
      rw [show accepted? load path = none by rw [accepted?, hload],
        show rejected? load path = e.caught?.map (⟨·, some (pathText path)⟩) by
          rw [rejected?, hload]]
      cases hcaught : e.caught? with
      | none => simp [hcaught]
      | some text =>
        simp only [bind_eq_ok, Prod.exists, ih, Except.ok.injEq, Prod.mk.injEq, hcaught,
          Option.map_some]
        constructor
        · rintro ⟨results', errors', ⟨hrest, rfl, rfl⟩, rfl, rfl⟩
          exact ⟨⟨by rintro _ ⟨rfl⟩; simp [hcaught], hrest⟩, rfl, rfl⟩
        · rintro ⟨⟨-, hrest⟩, rfl, rfl⟩
          exact ⟨_, _, ⟨hrest, rfl, rfl⟩, rfl, rfl⟩

theorem map_fst_accepted (load : FilePath → Except LoadError ParsedSpec) (paths : List FilePath) :
    (paths.filterMap (accepted? load)).map Prod.fst = paths.filter fun path => (load path).isOk := by
  induction paths with
  | nil => rfl
  | cons path paths ih =>
    rw [List.filterMap_cons, List.filter_cons, accepted?]
    cases load path with
    | ok spec => simp [ih, Except.isOk, Except.toBool]
    | error e => simp [ih, Except.isOk, Except.toBool]

theorem map_path_rejected {load : FilePath → Except LoadError ParsedSpec} {paths : List FilePath}
    (hcaught : ∀ path ∈ paths, ∀ e, load path = .error e → e.caught? ≠ none) :
    (paths.filterMap (rejected? load)).map SpecParseError.path =
      (paths.filter fun path => ¬(load path).isOk).map (some <| pathText ·) := by
  induction paths with
  | nil => rfl
  | cons path paths ih =>
    rw [List.forall_mem_cons] at hcaught
    rw [List.filterMap_cons, List.filter_cons, rejected?]
    cases hload : load path with
    | ok spec => simpa [Except.isOk, Except.toBool] using ih hcaught.2
    | error e =>
      obtain ⟨text, htext⟩ := Option.ne_none_iff_exists'.mp (hcaught.1 e hload)
      simpa [Except.isOk, Except.toBool, htext] using ih hcaught.2

section Parse

variable [PythonTexts] [SpecModels]

/-! ### One mapping -/

/-- The parser returns a spec of the mapping's kind or raises a `SpecParseError`. -/
def Contained (data : Mapping) (sourcePath : Option String) : Prop :=
  (∃ spec, parseSpec (.mapping data) sourcePath = .ok spec ∧
    Mapping.get? data "kind" = some (.scalar (.str spec.kind.value))) ∨
  ∃ error, parseSpec (.mapping data) sourcePath = .error (.specParse error)

theorem validateSpec_contained (kind : Spec.Kind) (data : Yaml) (sourcePath : Option String) :
    (∃ spec, validateSpec kind data sourcePath = .ok spec ∧ spec.kind = kind) ∨
      ∃ error, validateSpec kind data sourcePath = .error (.specParse error) := by
  unfold validateSpec
  split
  · exact .inr ⟨_, rfl⟩
  · split
    · exact .inr ⟨_, rfl⟩
    · split
      · exact .inr ⟨_, rfl⟩
      · exact .inl ⟨_, rfl, rfl⟩

/-- With a readable kind the outcome is contained; otherwise the exception is one that no caller
catches. -/
theorem parseSpec_cases (data : Mapping) (sourcePath : Option String) :
    KindReadable data ∧ Contained data sourcePath ∨
      ¬KindReadable data ∧ ∃ e, parseSpec (.mapping data) sourcePath = .error e ∧
        e.caught? = none := by
  unfold KindReadable Contained parseSpec
  dsimp only
  cases hkind : Mapping.get? data "kind" with
  | none => exact .inl ⟨trivial, .inr ⟨_, rfl⟩⟩
  | some kind =>
    cases kind with
    | seq items => exact .inr ⟨id, _, rfl, rfl⟩
    | mapping items => exact .inr ⟨id, _, rfl, rfl⟩
    | scalar value =>
      cases value with
      | null => exact .inl ⟨trivial, .inr ⟨_, rfl⟩⟩
      | bool b => cases b <;> exact .inl ⟨trivial, .inr ⟨_, rfl⟩⟩
      | float text => exact .inl ⟨trivial, .inr ⟨_, rfl⟩⟩
      | nonFinite text => exact .inl ⟨trivial, .inr ⟨_, rfl⟩⟩
      | date typeName text => exact .inl ⟨trivial, .inr ⟨_, rfl⟩⟩
      | int n =>
        by_cases hlong : Scalar.TooLong n
        · refine .inr ⟨fun h => h hlong, .valueError, ?_, rfl⟩
          simp [lookupKind, Yaml.text, Scalar.text, hlong, orRaise]
        · refine .inl ⟨hlong, .inr ?_⟩
          simp [lookupKind, Yaml.text, Scalar.text, hlong, orRaise]
      | str text =>
        refine .inl ⟨trivial, ?_⟩
        dsimp only [Option.getD_some, lookupKind]
        rw [ok_bind]
        cases hfind : kinds.find? fun kind => kind.value = text with
        | none => exact .inr ⟨_, rfl⟩
        | some kind =>
          have hvalue : kind.value = text := by simpa using List.find?_some hfind
          dsimp only
          refine (validateSpec_contained kind (.mapping data) sourcePath).imp_left ?_
          rintro ⟨spec, hspec, hkind⟩
          exact ⟨spec, hspec, by rw [hkind, hvalue]⟩

theorem caught_of_contained {data : Mapping} {sourcePath : Option String}
    (h : Contained data sourcePath) {e : LoadError}
    (he : parseSpec (.mapping data) sourcePath = .error e) : e.caught? ≠ none := by
  rcases h with ⟨spec, hspec, -⟩ | ⟨error, herror⟩
  · rw [hspec] at he
    cases he
  · rw [herror] at he
    cases he
    simp [LoadError.caught?]

theorem contained_iff (data : Mapping) (sourcePath : Option String) :
    Contained data sourcePath ↔ KindReadable data := by
  rcases parseSpec_cases data sourcePath with ⟨hkind, hcontained⟩ | ⟨hkind, e, he, hcaught⟩
  · exact iff_of_true hcontained hkind
  · exact iff_of_false (fun h => caught_of_contained h he hcaught) hkind

/-! ### All files -/

namespace SpecLoader

variable {loader : SpecLoader}

/-- What `load_file` gives for the file on its own -/
def alone (loader : SpecLoader) (path : FilePath) : Except LoadError ParsedSpec :=
  (loader.loadFile path).outcome .init

theorem alone_eq (path : FilePath) : loader.alone path =
    expand loader path >>= fun tree => parseSpec tree (some (pathText path)) :=
  (computes_loadFile path _ loader.cacheValid_init).1

/-- Loading all files gives what the loop over the files, each on its own, gives. -/
theorem computes_loadAllTolerant (paths : List FilePath) :
    Stateful.Computes loader.CacheValid (Opens fun _ => True) (loader.loadAllTolerant paths)
      (tolerate loader.alone paths) := by
  induction paths with
  | nil => exact .of_pure Opens.refl _
  | cons path paths ih =>
    have hfile : Stateful.Computes loader.CacheValid (Opens fun _ => True)
        (Stateful.attempt (loader.loadFile path)) (.ok (loader.alone path)) := by
      rw [alone_eq]
      exact (computes_loadFile path).attempt
    have htolerate : tolerate loader.alone (path :: paths) =
        (Except.ok (loader.alone path) : Except LoadError _) >>= fun attempt =>
          match attempt with
          | .ok spec => do
            let (results, errors) ← tolerate loader.alone paths
            .ok ((path, spec) :: results, errors)
          | .error error =>
            match error.caught? with
            | some text => do
              let (results, errors) ← tolerate loader.alone paths
              .ok (results, ⟨text, some (pathText path)⟩ :: errors)
            | none => .error error := by
      rw [ok_bind, tolerate]
    rw [htolerate, loadAllTolerant]
    refine .bind Opens.trans hfile fun attempt _ => ?_
    cases attempt with
    | ok spec => exact .bind Opens.trans ih fun _ _ => .of_pure Opens.refl _
    | error error =>
      dsimp only
      cases error.caught? with
      | none => exact .of_throw Opens.refl _
      | some text => exact .bind Opens.trans ih fun _ _ => .of_pure Opens.refl _

/-- A finite set of files that hold mappings without references -/
structure PlainFiles (loader : SpecLoader) where
  paths : List FilePath
  distinct : paths.Nodup
  data : FilePath → Mapping
  plain : ∀ path ∈ paths,
    loader.readFile path = .ok (data path) ∧ refsOf (.mapping (data path)) = []

/-- The load of all files ends normally, each file has its place in one of the two lists, and the
results are the files that are accepted on their own. -/
def LoadsAll (loader : SpecLoader) (files : PlainFiles loader) : Prop :=
  ∃ results errors, (loader.loadAllTolerant files.paths).outcome .init = .ok (results, errors) ∧
    results.map Prod.fst = files.paths.filter (fun path => (loader.alone path).isOk) ∧
    (∀ result ∈ results, loader.alone result.1 = .ok result.2) ∧
    errors.map SpecParseError.path =
      (files.paths.filter (fun path => ¬(loader.alone path).isOk)).map (some <| pathText ·)

theorem alone_plain (files : PlainFiles loader) {path : FilePath} (hpath : path ∈ files.paths) :
    loader.alone path = parseSpec (.mapping (files.data path)) (some (pathText path)) := by
  obtain ⟨hread, hrefs⟩ := files.plain path hpath
  have hexpand : expand loader path = .ok (.mapping (files.data path)) := by
    refine expand_eq_ok.mpr ⟨files.data path, hread, ?_⟩
    have hexpands : Expands loader maxRefDepth path (.mapping (files.data path))
        (substitute id (.mapping (files.data path))) :=
      .intro (fun _ => path) (fun _ => []) id (by simp [hrefs]) (by simp [hrefs])
    rwa [substitute_eq_self hrefs] at hexpands
  rw [alone_eq, hexpand, ok_bind]

theorem loadsAll_iff_caught (files : PlainFiles loader) : loader.LoadsAll files ↔
    ∀ path ∈ files.paths, ∀ e, loader.alone path = .error e → e.caught? ≠ none := by
  have hout := (computes_loadAllTolerant files.paths _ loader.cacheValid_init).1
  unfold LoadsAll
  rw [hout]
  constructor
  · rintro ⟨results, errors, htolerate, -⟩
    exact (tolerate_eq_ok.mp htolerate).1
  · intro hcaught
    refine ⟨_, _, tolerate_eq_ok.mpr ⟨hcaught, rfl, rfl⟩, map_fst_accepted _ _, ?_,
      map_path_rejected hcaught⟩
    intro result hresult
    obtain ⟨path, -, haccepted⟩ := List.mem_filterMap.mp hresult
    unfold accepted? at haccepted
    split at haccepted
    · rename_i spec hload
      cases haccepted
      exact hload
    · cases haccepted

end SpecLoader

end Parse

/-! ### A kind that is a list -/

namespace Sample

/-- The segments of a path that has no links -/
def lexical (path : FilePath) : FilePath :=
  FilePath.resolve (path.filter fun part => part ≠ [] ∧ part ≠ ['.'] ∧ '/' ∉ part)

theorem resolved_lexical (path : FilePath) : (lexical path).Resolved := by
  refine FilePath.resolved_resolve fun part hpart => ?_
  have hpart := (List.mem_filter.mp hpart).2
  simp only [ne_eq, decide_eq_true_eq] at hpart
  exact ⟨hpart.1, hpart.2.1, hpart.2.2⟩

theorem lexical_eq_self {path : FilePath} (h : path.Resolved) : lexical path = path := by
  have hfilter : (path.filter fun part => part ≠ [] ∧ part ≠ ['.'] ∧ '/' ∉ part) = path := by
    rw [List.filter_eq_self]
    intro part hpart
    have hsegment := (h part hpart).1
    simp [hsegment.notEmpty, hsegment.notDot, hsegment.noSlash]
  rw [lexical, hfilter, h.resolve_eq]

/-- A file system without links -/
def lexicalFiles (entries : Dict FilePath Entry) : FileSystem where
  resolve := lexical
  pathExists path := (entries.get? (lexical path)).isSome
  entries
  resolved := resolved_lexical
  resolve_resolve path := lexical_eq_self (resolved_lexical path)
  exists_resolve path := by rw [lexical_eq_self (resolved_lexical path)]

/-- The texts of the lists of plain words -/
scoped instance : PythonTexts where
  reprYaml
    | .seq [.scalar (.str word)] => some ("['" ++ word ++ "']")
    | _ => none
  dumpErrorText
    | .unserializable typeName => "Object of type " ++ typeName ++ " is not JSON serializable"
    | .badKey typeName => "keys must be str, int, float, bool or None, not " ++ typeName
    | .outOfRange _ => "Out of range float values are not JSON compliant"
    | .tooLong => "Exceeds the limit (4300 digits) for integer string conversion"

/-- The models, for the specs that have a name only -/
scoped instance : SpecModels where
  validateJson
    | kind, .obj [("kind", .str text), ("metadata", .obj [("name", .str _)])] =>
      if text = kind.value then
        .ok (.model [(⟨"kind", none⟩, .leaf), (⟨"metadata", none⟩, .model [(⟨"name", none⟩, .leaf)])])
      else .error "literal_error"
    | _, _ => .error "missing"

def named (kind : Yaml) : Mapping :=
  [(.str "kind", kind),
    (.str "metadata", .mapping [(.str "name", .scalar (.str "good"))])]

def goodFile : FilePath := ["specs".toList, "actions".toList, "good.yaml".toList]

def badFile : FilePath := ["specs".toList, "actions".toList, "bad.yaml".toList]

/-- `kind: [action]` -/
def badData : Mapping := named (.seq [.scalar (.str "action")])

def goodData : Mapping := named (.scalar (.str "action"))

def loader : SpecLoader where
  files := lexicalFiles (.ofList [(badFile, .file (.mapping badData)),
    (goodFile, .file (.mapping goodData))])
  baseDir := ["specs".toList]
  base_directory := by
    intro entry hentry
    have hnone : ((lexicalFiles (.ofList [(badFile, .file (.mapping badData)),
        (goodFile, .file (.mapping goodData))])).entries.get?
          (lexical ["specs".toList])).isNone = true := by decide +kernel
    rw [Option.isNone_iff_eq_none] at hnone
    cases hnone.symm.trans hentry

def files : SpecLoader.PlainFiles loader where
  paths := [badFile, goodFile]
  distinct := by decide +kernel
  data path := if path = badFile then badData else goodData
  plain := by
    intro path hpath
    rcases List.mem_pair.mp hpath with rfl | rfl
    · refine ⟨rfl, ?_⟩
      rw [if_pos rfl]
      simp [badData, named, refsOf, refOf?, refsOfFields, refsOfItems]
    · refine ⟨rfl, ?_⟩
      rw [if_neg (by decide)]
      simp [goodData, named, refsOf, refOf?, refsOfFields]

theorem parseSpec_badData (sourcePath : Option String) :
    parseSpec (.mapping badData) sourcePath = .error .typeError := rfl

end Sample

end Ucf.Loader
