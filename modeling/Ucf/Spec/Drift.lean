import Ucf.Library.Lookup
import Ucf.Spec.Registry

/-! Drift between specs and code: the map from the markers in the code to the registered specs, and
the specs and the files that the detector reports from it. -/

namespace Ucf.Spec

/-! ### The mapper -/

/-- `ImplementationEntry` -/
structure ImplementationEntry where
  filePath : String
  specRef : String

/-- `SpecCodeMap` -/
structure SpecCodeMap where
  specToCode : Dict String (List String)
  codeToSpec : Dict String (List String)
  mappedCount : Nat

/-- `d.setdefault(key, []).append(value)` -/
def append (d : Dict String (List String)) (key value : String) : Dict String (List String) :=
  d.insert key ((d.get? key).getD [] ++ [value])

/-- `ref.split("/", 1)[-1]` -/
def lastPart (ref : String) : String :=
  match splitRef ref with
  | some (_, tail) => tail
  | none => ref

/-- `ref.split("/", 1)[0]` -/
def firstPart (ref : String) : String :=
  match splitRef ref with
  | some (head, _) => head
  | none => ref

/-- What `(.+)$` captures: a line that is not empty, at the end or before a final line feed. -/
def wholeLine (cs : List Char) : Option (List Char) :=
  let line := cs.takeWhile fun c => c ≠ '\n'
  if line ≠ [] ∧ cs.drop line.length ∈ [[], ['\n']] then some line else none

/-- The group of `_SPEC_REF_RE` -/
def specRefName (markerRef : String) : Option String :=
  let cs := markerRef.toList
  let afterPrefix := [Kind.action, .event, .component, .protocol, .usecase, .invariant].findSome?
    fun kind =>
      let start := (kind.plural ++ "/").toList
      if start.isPrefixOf cs then wholeLine (cs.drop start.length) else none
  (afterPrefix.or (wholeLine cs)).map String.ofList

/-- `SpecCodeMapper._match_to_spec`, for one order in which the set of references is iterated. -/
def matchToSpec (markerRef : String) (allRefs : List String) : Option String :=
  if markerRef ∈ allRefs then some markerRef
  else
    match allRefs.find? fun ref => markerRef = lastPart ref with
    | some ref => some ref
    | none =>
      match specRefName markerRef with
      | some name => allRefs.find? fun ref => ("/" ++ name).toList.isSuffixOf ref.toList
      | none => none

/-- The body of the loop of `SpecCodeMapper.build`. -/
def mapEntry (allRefs : List String) (result : SpecCodeMap) (entry : ImplementationEntry) :
    SpecCodeMap :=
  match matchToSpec entry.specRef allRefs with
  | some matchedRef =>
    { result with
      specToCode := append result.specToCode matchedRef entry.filePath
      codeToSpec := append result.codeToSpec entry.filePath matchedRef }
  | none => result

/-- `SpecCodeMapper.build` without a convention. -/
def build (implementations : List ImplementationEntry) (allRefs : List String) : SpecCodeMap :=
  let result := implementations.foldl (mapEntry allRefs)
    ⟨.ofList (allRefs.map fun ref => (ref, [])), .empty, 0⟩
  { result with mappedCount := (result.specToCode.items.filter fun item => item.2 ≠ []).length }

/-! ### The detector -/

/-- `DriftEntry` -/
structure DriftEntry where
  ref : String
  kind : String
  detail : String
deriving DecidableEq

/-- `DriftResult` -/
structure DriftResult where
  unimplementedSpecs : List DriftEntry
  orphanCode : List DriftEntry
  staleMappings : List DriftEntry
deriving DecidableEq

/-- `DriftResult.drift_count` -/
def DriftResult.driftCount (result : DriftResult) : Nat :=
  result.unimplementedSpecs.length + result.orphanCode.length + result.staleMappings.length

/-- The entry of a spec without code. -/
def unimplementedEntry (ref : String) : DriftEntry :=
  ⟨ref, firstPart ref, "No implementation found for '" ++ ref ++ "'"⟩

/-- The entry of a file with a reference to no spec. -/
def orphanEntry (codePath ref : String) : DriftEntry :=
  ⟨codePath, "orphan",
    "'" ++ codePath ++ "' references '" ++ ref ++ "' which does not exist in specs"⟩

/-- `DriftDetector._find_unimplemented` -/
def findUnimplemented (map : SpecCodeMap) : List DriftEntry :=
  (map.specToCode.items.filter fun item => item.2 = []).map fun item => unimplementedEntry item.1

/-- `DriftDetector._find_orphan_code` -/
def findOrphanCode (r : SpecRegistry) (map : SpecCodeMap) : List DriftEntry :=
  map.codeToSpec.items.flatMap fun item =>
    (item.2.filter fun ref => ref ∉ r.allSpecs.map AnySpec.refKey).map (orphanEntry item.1)

/-- `DriftDetector.detect` -/
def detect (r : SpecRegistry) (map : SpecCodeMap) : DriftResult :=
  ⟨findUnimplemented map, findOrphanCode r map, []⟩

/-- `SpecCodeMapper(registry, implementations).build()`, then `DriftDetector(registry, map).detect()`,
for one order in which the set of references is iterated. -/
def detectDrift (r : SpecRegistry) (implementations : List ImplementationEntry)
    (allRefs : List String) : DriftResult :=
  detect r (build implementations allRefs)

/-! ### Matches -/

section Drift

variable {r : SpecRegistry} {markers : List ImplementationEntry} {order : List String}
  {spec : AnySpec} {ref : String}

/-- An order in which the set of spec references may be iterated. -/
structure IterationOrder (r : SpecRegistry) (order : List String) : Prop where
  nodup : order.Nodup
  mem_iff : ∀ ref, ref ∈ order ↔ ∃ spec ∈ r.allSpecs, spec.refKey = ref

/-- The reference starts with the plural of a kind. -/
def Prefixed (ref : String) : Prop := ∃ (kind : Kind) (tail : String), ref = kind.plural ++ "/" ++ tail

/-- A marker names a spec: by its kind and name, or by its name alone. -/
def Marks (ref : String) (spec : AnySpec) : Prop :=
  ref = spec.refKey ∨ ¬Prefixed ref ∧ ref = spec.name

theorem prefixed_refKey (spec : AnySpec) : Prefixed spec.refKey := ⟨spec.kind, spec.name, rfl⟩

theorem lastPart_refKey (spec : AnySpec) : lastPart spec.refKey = spec.name := by
  rw [lastPart, AnySpec.refKey, splitRef_append _ (slash_notMem_plural _)]

theorem eq_of_refKey {s t : AnySpec} (hs : s ∈ r.allSpecs) (ht : t ∈ r.allSpecs)
    (h : s.refKey = t.refKey) : s = t :=
  SpecRegistry.eq_of_name hs ht (SpecRegistry.refKey_inj h).1 (SpecRegistry.refKey_inj h).2

theorem IterationOrder.mem (h : IterationOrder r order) (hspec : spec ∈ r.allSpecs) :
    spec.refKey ∈ order :=
  (h.mem_iff _).mpr ⟨spec, hspec, rfl⟩

theorem mem_of_matchToSpec {found : String} (h : matchToSpec ref order = some found) :
    found ∈ order := by
  unfold matchToSpec at h
  split at h
  · cases h
    assumption
  · split at h
    · cases h
      exact List.mem_of_find?_eq_some ‹_›
    · split at h
      · exact List.mem_of_find?_eq_some h
      · cases h

theorem matchToSpec_refKey (h : IterationOrder r order) (hspec : spec ∈ r.allSpecs) :
    matchToSpec spec.refKey order = some spec.refKey := by
  rw [matchToSpec, if_pos (h.mem hspec)]

/-- A bare name goes to the first reference with that name. -/
theorem matchToSpec_name (h : IterationOrder r order) (hspec : spec ∈ r.allSpecs)
    (hbare : ¬Prefixed spec.name) : ∃ found, matchToSpec spec.name order = some found ∧
      order.find? (fun ref => spec.name = lastPart ref) = some found := by
  have hnot : spec.name ∉ order := by
    intro hmem
    obtain ⟨other, -, hother⟩ := (h.mem_iff _).mp hmem
    exact hbare (hother ▸ prefixed_refKey other)
  have hsome : (order.find? fun ref => spec.name = lastPart ref).isSome = true := by
    rw [List.find?_isSome]
    exact ⟨spec.refKey, h.mem hspec, by simp [lastPart_refKey]⟩
  obtain ⟨found, hfound⟩ := Option.isSome_iff_exists.mp hsome
  exact ⟨found, by rw [matchToSpec, if_neg hnot, hfound], hfound⟩

/-- A marker that names a spec goes to a spec that it names. -/
theorem matchToSpec_of_marks (h : IterationOrder r order) (hspec : spec ∈ r.allSpecs)
    (hmarks : Marks ref spec) :
    ∃ found ∈ r.allSpecs, matchToSpec ref order = some found.refKey ∧ Marks ref found := by
  rcases hmarks with rfl | ⟨hbare, rfl⟩
  · exact ⟨spec, hspec, matchToSpec_refKey h hspec, .inl rfl⟩
  · obtain ⟨key, hmatch, hfind⟩ := matchToSpec_name h hspec hbare
    obtain ⟨found, hfound, rfl⟩ := (h.mem_iff key).mp (mem_of_matchToSpec hmatch)
    have hname : spec.name = lastPart found.refKey := by simpa using List.find?_some hfind
    rw [lastPart_refKey] at hname
    exact ⟨found, hfound, hmatch, .inr ⟨hbare, hname⟩⟩

/-! ### The map that `build` returns -/

/-- The files of the markers that go to a reference. -/
def filesOf (order : List String) (markers : List ImplementationEntry) (ref : String) :
    List String :=
  (markers.filter fun marker => matchToSpec marker.specRef order = some ref).map (·.filePath)

/-- The references that the markers of a file go to. -/
def refsOf (order : List String) (markers : List ImplementationEntry) (path : String) :
    List String :=
  (markers.filter fun marker => marker.filePath = path).filterMap fun marker =>
    matchToSpec marker.specRef order

theorem getD_append (d : Dict String (List String)) (key value k : String) :
    ((append d key value).get? k).getD [] =
      (d.get? k).getD [] ++ if k = key then [value] else [] := by
  rw [append, Dict.get?_insert]
  by_cases hkey : k = key
  · rw [if_pos hkey, if_pos hkey, hkey]
    rfl
  · rw [if_neg hkey, if_neg hkey, List.append_nil]

theorem keys_foldl_mapEntry {map : SpecCodeMap} (h : ∀ ref ∈ order, ref ∈ map.specToCode.keys) :
    (markers.foldl (mapEntry order) map).specToCode.keys = map.specToCode.keys := by
  induction markers generalizing map with
  | nil => rfl
  | cons marker markers ih =>
    have hstep : (mapEntry order map marker).specToCode.keys = map.specToCode.keys := by
      rw [mapEntry]
      split
      · rename_i found hfound
        exact Dict.keys_insert_of_mem (h found (mem_of_matchToSpec hfound))
      · rfl
    rw [List.foldl_cons, ih (by rw [hstep]; exact h), hstep]

theorem getD_foldl_mapEntry (order : List String) (markers : List ImplementationEntry) (map : SpecCodeMap)
    (ref path : String) :
    let result := markers.foldl (mapEntry order) map
    (result.specToCode.get? ref).getD [] =
      (map.specToCode.get? ref).getD [] ++ filesOf order markers ref ∧
    (result.codeToSpec.get? path).getD [] =
      (map.codeToSpec.get? path).getD [] ++ refsOf order markers path := by
  induction markers generalizing map with
  | nil => simp [filesOf, refsOf]
  | cons marker markers ih =>
    obtain ⟨hspec, hcode⟩ := ih (mapEntry order map marker)
    refine ⟨?_, ?_⟩
    · rw [List.foldl_cons, hspec, mapEntry]
      cases hmatch : matchToSpec marker.specRef order with
      | none => simp [filesOf, hmatch]
      | some found =>
        simp only [getD_append, filesOf, List.filter_cons, hmatch, Option.some.injEq,
          decide_eq_true_eq, List.append_assoc]
        by_cases href : found = ref
        · simp [href]
        · simp [href, Ne.symm href]
    · rw [List.foldl_cons, hcode, mapEntry]
      cases hmatch : matchToSpec marker.specRef order with
      | none =>
        by_cases hpath : marker.filePath = path
        · simp [refsOf, hmatch, hpath]
        · simp [refsOf, hpath]
      | some found =>
        simp only [getD_append, refsOf, List.filter_cons, decide_eq_true_eq, List.append_assoc]
        by_cases hpath : marker.filePath = path
        · simp [hpath, hmatch]
        · simp [hpath, Ne.symm hpath]

/-- Every reference is a key, in the order of the iteration. -/
theorem keys_build (h : order.Nodup) : (build markers order).specToCode.keys = order := by
  have hnodup : ((order.map fun ref => (ref, ([] : List String))).map Prod.fst).Nodup := by
    simpa [Function.comp_def] using h
  have hkeys : (Dict.ofList (order.map fun ref => (ref, ([] : List String)))).keys = order := by
    rw [Dict.keys, Dict.items_ofList hnodup]
    simp [Function.comp_def]
  rw [build]
  change (List.foldl (mapEntry order) _ markers).specToCode.keys = order
  rw [keys_foldl_mapEntry (by simp), hkeys]

theorem getD_specToCode (order : List String) (ref : String) :
    ((build markers order).specToCode.get? ref).getD [] = filesOf order markers ref := by
  have hfold := (getD_foldl_mapEntry order markers
    ⟨.ofList (order.map fun ref => (ref, [])), .empty, 0⟩ ref "").1
  have hempty : ((Dict.ofList (order.map fun ref => (ref, ([] : List String)))).get? ref).getD []
      = [] := by
    cases hget : (Dict.ofList (order.map fun ref => (ref, ([] : List String)))).get? ref with
    | none => rfl
    | some files =>
      obtain ⟨other, -, hother⟩ :=
        List.mem_map.mp (Dict.mem_of_mem_ofList (Dict.get?_eq_some.mp hget))
      exact (Prod.mk.inj hother).2.symm
  rw [hempty, List.nil_append] at hfold
  exact hfold

theorem getD_codeToSpec (markers : List ImplementationEntry) (order : List String) (path : String) :
    ((build markers order).codeToSpec.get? path).getD [] = refsOf order markers path := by
  have hfold := (getD_foldl_mapEntry order markers
    ⟨.ofList (order.map fun ref => (ref, [])), .empty, 0⟩ "" path).2
  rw [Dict.get?_empty, Option.getD_none, List.nil_append] at hfold
  exact hfold

/-! ### The drift that `detect` reports -/

theorem unimplementedSpecs_eq (h : IterationOrder r order) :
    (detectDrift r markers order).unimplementedSpecs =
      (order.filter fun ref => filesOf order markers ref = []).map unimplementedEntry := by
  have hfilter := Dict.filter_items (build markers order).specToCode (fun files => files = []) []
  rw [keys_build h.nodup] at hfilter
  simp only [getD_specToCode] at hfilter
  rw [← hfilter, List.map_map]
  rfl

/-- What the mapper puts into the map is registered: no file is ever reported as orphan. -/
theorem orphanCode_eq_nil (h : IterationOrder r order) :
    (detectDrift r markers order).orphanCode = [] := by
  change findOrphanCode r (build markers order) = []
  rw [findOrphanCode, List.flatMap_eq_nil_iff]
  rintro ⟨path, refs⟩ hitem
  have hget : (build markers order).codeToSpec.get? path = some refs := Dict.get?_eq_some.mpr hitem
  have hrefs := getD_codeToSpec markers order path
  rw [hget, Option.getD_some] at hrefs
  rw [List.map_eq_nil_iff, List.filter_eq_nil_iff]
  intro ref href
  rw [hrefs, refsOf, List.mem_filterMap] at href
  obtain ⟨marker, -, hmatch⟩ := href
  obtain ⟨spec, hspec, rfl⟩ := (h.mem_iff ref).mp (mem_of_matchToSpec hmatch)
  simpa using ⟨spec, hspec, rfl⟩

theorem filesOf_eq_nil : filesOf order markers ref = [] ↔
    ∀ marker ∈ markers, matchToSpec marker.specRef order ≠ some ref := by
  rw [filesOf, List.map_eq_nil_iff, List.filter_eq_nil_iff]
  simp

theorem listed_iff (h : IterationOrder r order) (hspec : spec ∈ r.allSpecs) :
    (∃ entry ∈ (detectDrift r markers order).unimplementedSpecs, entry.ref = spec.refKey) ↔
      ∀ marker ∈ markers, matchToSpec marker.specRef order ≠ some spec.refKey := by
  rw [unimplementedSpecs_eq h, ← filesOf_eq_nil]
  constructor
  · rintro ⟨entry, hentry, href⟩
    obtain ⟨ref, hmem, rfl⟩ := List.mem_map.mp hentry
    have hsame : ref = spec.refKey := href
    simpa [hsame] using (List.mem_filter.mp hmem).2
  · intro hnil
    exact ⟨unimplementedEntry spec.refKey, List.mem_map_of_mem (List.mem_filter.mpr
      ⟨h.mem hspec, by simpa using hnil⟩), rfl⟩

/-! ### When the drift is exact -/

/-- Drift detection is exact: it reports every file with a marker that names no spec, maps a marker
that names one spec to that spec, lists the specs that no marker names, and returns the same for
every order of the references. -/
structure DriftExact (r : SpecRegistry) (markers : List ImplementationEntry) : Prop where
  orphan : ∀ order, IterationOrder r order → ∀ marker ∈ markers,
    (∀ spec ∈ r.allSpecs, ¬Marks marker.specRef spec) →
      ∃ entry ∈ (detectDrift r markers order).orphanCode, entry.ref = marker.filePath
  mapped : ∀ order, IterationOrder r order → ∀ marker ∈ markers, ∀ spec ∈ r.allSpecs,
    (∀ other ∈ r.allSpecs, Marks marker.specRef other ↔ other = spec) →
      matchToSpec marker.specRef order = some spec.refKey ∧
      marker.filePath ∈ ((build markers order).specToCode.get? spec.refKey).getD [] ∧
      spec.refKey ∈ ((build markers order).codeToSpec.get? marker.filePath).getD []
  unimplemented : ∀ order, IterationOrder r order → ∀ spec ∈ r.allSpecs,
    ((∃ entry ∈ (detectDrift r markers order).unimplementedSpecs, entry.ref = spec.refKey) ↔
      ∀ marker ∈ markers, ¬Marks marker.specRef spec)
  order : ∀ order order', IterationOrder r order → IterationOrder r order' →
    detectDrift r markers order = detectDrift r markers order'

/-- Every marker names a spec; a spec that shares the bare name of a marker with another one is also
named by its reference; at most one spec is named by no marker. -/
structure Detectable (r : SpecRegistry) (markers : List ImplementationEntry) : Prop where
  named : ∀ marker ∈ markers, ∃ spec ∈ r.allSpecs, Marks marker.specRef spec
  shared : ∀ marker ∈ markers, ∀ spec ∈ r.allSpecs, ∀ other ∈ r.allSpecs, spec ≠ other →
    Marks marker.specRef spec → Marks marker.specRef other →
      ∃ direct ∈ markers, direct.specRef = spec.refKey
  single : ∀ spec ∈ r.allSpecs, ∀ other ∈ r.allSpecs,
    (∀ marker ∈ markers, ¬Marks marker.specRef spec) →
    (∀ marker ∈ markers, ¬Marks marker.specRef other) → spec = other

theorem exists_iterationOrder (r : SpecRegistry) : ∃ order, IterationOrder r order :=
  ⟨(r.allSpecs.map AnySpec.refKey).dedup, List.nodup_dedup _, by simp⟩

/-- Any reference may come first. -/
theorem exists_iterationOrder_cons (hspec : spec ∈ r.allSpecs) :
    ∃ order, IterationOrder r (spec.refKey :: order) := by
  obtain ⟨order, h⟩ := exists_iterationOrder r
  have hperm : (spec.refKey :: order.erase spec.refKey).Perm order :=
    (List.perm_cons_erase (h.mem hspec)).symm
  refine ⟨order.erase spec.refKey, hperm.nodup_iff.mpr h.nodup, fun ref => ?_⟩
  rw [hperm.mem_iff, h.mem_iff]

/-- A marker that goes to a spec names it, if it names any. -/
theorem marks_of_matchToSpec (h : IterationOrder r order) (hspec : spec ∈ r.allSpecs)
    (hnamed : ∃ other ∈ r.allSpecs, Marks ref other)
    (hmatch : matchToSpec ref order = some spec.refKey) : Marks ref spec := by
  obtain ⟨other, hother, hmarks⟩ := hnamed
  obtain ⟨found, hfound, hmatch', hmarks'⟩ := matchToSpec_of_marks h hother hmarks
  rw [hmatch, Option.some.injEq] at hmatch'
  rwa [eq_of_refKey hspec hfound hmatch']

/-- A marker that names two specs is the bare name of both. -/
theorem name_of_marks {s t : AnySpec} (hs : s ∈ r.allSpecs) (ht : t ∈ r.allSpecs) (hne : s ≠ t)
    (hmarks : Marks ref s) (hmarks' : Marks ref t) : ¬Prefixed ref ∧ ref = s.name ∧ ref = t.name := by
  rcases hmarks with rfl | ⟨hbare, hname⟩
  · rcases hmarks' with hkey | ⟨hbare, -⟩
    · exact absurd (eq_of_refKey hs ht hkey) hne
    · exact absurd (prefixed_refKey s) hbare
  · rcases hmarks' with rfl | ⟨-, hname'⟩
    · exact absurd (prefixed_refKey t) hbare
    · exact ⟨hbare, hname, hname'⟩

section Detectable

theorem Detectable.matched_iff (hd : Detectable r markers) (h : IterationOrder r order)
    (hspec : spec ∈ r.allSpecs) :
    (∀ marker ∈ markers, matchToSpec marker.specRef order ≠ some spec.refKey) ↔
      ∀ marker ∈ markers, ¬Marks marker.specRef spec := by
  constructor
  · intro hnot marker hmarker hmarks
    obtain ⟨found, hfound, hmatch, hmarks'⟩ := matchToSpec_of_marks h hspec hmarks
    by_cases heq : spec = found
    · exact hnot marker hmarker (heq ▸ hmatch)
    · obtain ⟨direct, hdirect, href⟩ :=
        hd.shared marker hmarker spec hspec found hfound heq hmarks hmarks'
      exact hnot direct hdirect (href ▸ matchToSpec_refKey h hspec)
  · intro hnot marker hmarker hmatch
    exact hnot marker hmarker
      (marks_of_matchToSpec h hspec (hd.named marker hmarker) hmatch)

/-- The references without a file do not depend on the order. -/
theorem Detectable.filter_eq {order' : List String} (hd : Detectable r markers)
    (h : IterationOrder r order) (h' : IterationOrder r order') :
    (order.filter fun ref => filesOf order markers ref = []) =
      order'.filter fun ref => filesOf order' markers ref = [] := by
  have hmem : ∀ {o : List String}, IterationOrder r o → ∀ ref,
      ref ∈ (o.filter fun ref => filesOf o markers ref = []) ↔
        ∃ spec ∈ r.allSpecs, spec.refKey = ref ∧ ∀ marker ∈ markers, ¬Marks marker.specRef spec := by
    intro o ho ref
    rw [List.mem_filter, ho.mem_iff, decide_eq_true_eq, filesOf_eq_nil]
    constructor
    · rintro ⟨⟨spec, hspec, rfl⟩, hnot⟩
      exact ⟨spec, hspec, rfl, (hd.matched_iff ho hspec).mp hnot⟩
    · rintro ⟨spec, hspec, rfl, hnot⟩
      exact ⟨⟨spec, hspec, rfl⟩, (hd.matched_iff ho hspec).mpr hnot⟩
  have hperm : (order.filter fun ref => filesOf order markers ref = []).Perm
      (order'.filter fun ref => filesOf order' markers ref = []) :=
    (List.perm_ext_iff_of_nodup (h.nodup.filter _) (h'.nodup.filter _)).mpr fun ref =>
      (hmem h ref).trans (hmem h' ref).symm
  have hnodup : (order.filter fun ref => filesOf order markers ref = []).Nodup := h.nodup.filter _
  cases hfilter : order.filter fun ref => filesOf order markers ref = [] with
  | nil =>
    rw [hfilter] at hperm
    exact (List.nil_perm.mp hperm).symm
  | cons first rest =>
    cases rest with
    | nil =>
      rw [hfilter] at hperm
      exact List.singleton_perm.mp hperm
    | cons second rest =>
      obtain ⟨s, hs, rfl, hnot⟩ := (hmem h first).mp (by simp [hfilter])
      obtain ⟨t, ht, rfl, hnot'⟩ := (hmem h second).mp (by simp [hfilter])
      rw [hfilter, hd.single s hs t ht hnot hnot'] at hnodup
      simp at hnodup

theorem Detectable.driftExact (hd : Detectable r markers) : DriftExact r markers where
  orphan order h marker hmarker hnone := by
    obtain ⟨spec, hspec, hmarks⟩ := hd.named marker hmarker
    exact absurd hmarks (hnone spec hspec)
  mapped order h marker hmarker spec hspec honly := by
    obtain ⟨found, hfound, hmatch, hmarks⟩ :=
      matchToSpec_of_marks h hspec ((honly spec hspec).mpr rfl)
    obtain rfl := (honly found hfound).mp hmarks
    refine ⟨hmatch, ?_, ?_⟩
    · rw [getD_specToCode, filesOf]
      exact List.mem_map_of_mem (List.mem_filter.mpr ⟨hmarker, by simpa using hmatch⟩)
    · rw [getD_codeToSpec, refsOf]
      exact List.mem_filterMap.mpr ⟨marker, List.mem_filter.mpr ⟨hmarker, by simp⟩, hmatch⟩
  unimplemented order h spec hspec := (listed_iff h hspec).trans (hd.matched_iff h hspec)
  order order order' h h' := by
    have hunimplemented : (detectDrift r markers order).unimplementedSpecs =
        (detectDrift r markers order').unimplementedSpecs := by
      rw [unimplementedSpecs_eq h, unimplementedSpecs_eq h', hd.filter_eq h h']
    have horphan : (detectDrift r markers order).orphanCode =
        (detectDrift r markers order').orphanCode := by
      rw [orphanCode_eq_nil h, orphanCode_eq_nil h']
    rw [DriftResult.mk.injEq]
    exact ⟨hunimplemented, horphan, rfl⟩

theorem DriftExact.named (he : DriftExact r markers) :
    ∀ marker ∈ markers, ∃ spec ∈ r.allSpecs, Marks marker.specRef spec := by
  intro marker hmarker
  by_contra hnone
  obtain ⟨order, h⟩ := exists_iterationOrder r
  obtain ⟨entry, hentry, -⟩ := he.orphan order h marker hmarker fun spec hspec hmarks =>
    hnone ⟨spec, hspec, hmarks⟩
  rw [orphanCode_eq_nil h] at hentry
  exact List.not_mem_nil hentry

/-- When the other spec comes first, the bare name goes to it. -/
theorem DriftExact.shared (he : DriftExact r markers) {marker : ImplementationEntry}
    (hmarker : marker ∈ markers) {s t : AnySpec} (hs : s ∈ r.allSpecs) (ht : t ∈ r.allSpecs)
    (hne : s ≠ t) (hmarks : Marks marker.specRef s) (hmarks' : Marks marker.specRef t) :
    ∃ direct ∈ markers, direct.specRef = s.refKey := by
  obtain ⟨rest, h⟩ := exists_iterationOrder_cons ht
  obtain ⟨-, hname, hname'⟩ := name_of_marks hs ht hne hmarks hmarks'
  by_contra hdirect
  have hunmatched : ∀ m ∈ markers, matchToSpec m.specRef (t.refKey :: rest) ≠ some s.refKey := by
    intro m hm hmatch
    rcases marks_of_matchToSpec h hs (he.named m hm) hmatch with hkey | ⟨hbare, hsame⟩
    · exact hdirect ⟨m, hm, hkey⟩
    · rw [hsame] at hbare hmatch
      obtain ⟨found, hfound, hfind⟩ := matchToSpec_name h hs hbare
      have hhead : s.name = lastPart t.refKey := by rw [lastPart_refKey, ← hname, hname']
      rw [List.find?_cons_of_pos (by simpa using hhead), Option.some.injEq] at hfind
      rw [hmatch, ← hfind, Option.some.injEq] at hfound
      exact hne (eq_of_refKey hs ht hfound)
  exact (he.unimplemented _ h s hs).mp ((listed_iff h hs).mpr hunmatched) marker hmarker hmarks

/-- The first reference in the order is the first one in the report. -/
theorem DriftExact.head (he : DriftExact r markers) {rest : List String}
    (h : IterationOrder r (spec.refKey :: rest)) (hspec : spec ∈ r.allSpecs)
    (hnot : ∀ marker ∈ markers, ¬Marks marker.specRef spec) :
    (detectDrift r markers (spec.refKey :: rest)).unimplementedSpecs.head? =
      some (unimplementedEntry spec.refKey) := by
  have hnil := filesOf_eq_nil.mpr
    ((listed_iff h hspec).mp ((he.unimplemented _ h spec hspec).mpr hnot))
  rw [unimplementedSpecs_eq h, List.filter_cons_of_pos (by simpa using hnil)]
  rfl

/-- The orders that start with the one spec and with the other give the same report. -/
theorem DriftExact.single (he : DriftExact r markers) {s t : AnySpec} (hs : s ∈ r.allSpecs)
    (ht : t ∈ r.allSpecs) (hnot : ∀ marker ∈ markers, ¬Marks marker.specRef s)
    (hnot' : ∀ marker ∈ markers, ¬Marks marker.specRef t) : s = t := by
  obtain ⟨_, h⟩ := exists_iterationOrder_cons hs
  obtain ⟨_, h'⟩ := exists_iterationOrder_cons ht
  have hhead := he.head h hs hnot
  rw [he.order _ _ h h', he.head h' ht hnot', Option.some.injEq, unimplementedEntry,
    unimplementedEntry, DriftEntry.mk.injEq] at hhead
  exact eq_of_refKey hs ht hhead.1.symm

end Detectable

/-- Drift detection is exact exactly when every marker names a spec, a spec that shares its bare name
is also named by its reference, and no two specs are without a marker. -/
theorem drift_exact_iff (r : SpecRegistry) (markers : List ImplementationEntry) :
    DriftExact r markers ↔ Detectable r markers := by
  constructor
  · intro he
    exact ⟨he.named, fun marker hmarker s hs t ht => he.shared hmarker hs ht,
      fun s hs t ht => he.single hs ht⟩
  · exact Detectable.driftExact

end Drift

namespace DriftSample

/-- The registry after `register` of an action. -/
def registry : SpecRegistry :=
  match SpecRegistry.empty.register (.action { metadata := { name := "pay" } }) with
  | .ok r => r
  | .error _ => .empty

/-- A marker of a spec that does not exist. -/
def oldMarker : ImplementationEntry := ⟨"old.py", "actions/refund"⟩

/-- The file of the marker is not reported. -/
theorem orphan_unreported : ∃ order, IterationOrder registry order ∧
    (∀ spec ∈ registry.allSpecs, ¬Marks oldMarker.specRef spec) ∧
    ¬∃ entry ∈ (detectDrift registry [oldMarker] order).orphanCode,
      entry.ref = oldMarker.filePath := by
  obtain ⟨order, h⟩ := exists_iterationOrder registry
  refine ⟨order, h, ?_, by simp [orphanCode_eq_nil h]⟩
  have hspecs : registry.allSpecs = [.action { metadata := { name := "pay" } }] := by rfl
  rw [hspecs]
  rintro spec hspec (hkey | ⟨hbare, -⟩)
  · rw [List.mem_singleton.mp hspec] at hkey
    exact absurd hkey (by decide)
  · exact hbare ⟨.action, "refund", by decide⟩

end DriftSample

end Ucf.Spec
