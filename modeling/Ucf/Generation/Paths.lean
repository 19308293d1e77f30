import Ucf.Generation.Publication
import Ucf.Library.Prefixes

/-! The paths of generated files: the files and the receipt of a result have places of their own in a
tree. -/

namespace Ucf.Generation

/-! ### Segments -/

theorem splitPath_ne_nil (path : String) : splitPath path ≠ [] := by
  simp [splitPath, List.splitOn_ne_nil]

theorem dropLast_append_getLastD (path : String) :
    (splitPath path).dropLast ++ [(splitPath path).getLastD ""] = splitPath path := by
  have hne := splitPath_ne_nil path
  rw [List.getLastD_eq_getLast?, List.getLast?_eq_getLast_of_ne_nil hne]
  exact List.dropLast_append_getLast hne

/-- The directories above the file of a path. -/
theorem prefix_dropLast_iff {path : String} {segments : List String} :
    segments <+: (splitPath path).dropLast ↔
      segments <+: splitPath path ∧ segments ≠ splitPath path := by
  have hle : segments <+: (splitPath path).dropLast ++ [(splitPath path).getLastD ""] ↔
      segments = (splitPath path).dropLast ++ [(splitPath path).getLastD ""] ∨
        segments <+: (splitPath path).dropLast := List.prefix_concat_iff
  rw [dropLast_append_getLastD] at hle
  rw [hle]
  constructor
  · intro hle
    refine ⟨Or.inr hle, fun heq => ?_⟩
    have hlength := hle.length_le
    have hpos := List.length_pos_iff.mpr (splitPath_ne_nil path)
    rw [heq, List.length_dropLast] at hlength
    omega
  · rintro ⟨heq | hle, hproper⟩
    · exact absurd heq hproper
    · exact hle

theorem joinPath_splitPath (path : String) : joinPath (splitPath path) = path := by
  apply String.toList_inj.mp
  rw [joinPath, String.toList_ofList, splitPath, List.map_map]
  simp only [Function.comp_def, String.toList_ofList, List.map_id']
  exact List.intercalate_splitOn '/'

theorem splitPath_joinPath {segments : List String} (hne : segments ≠ [])
    (h : ∀ segment ∈ segments, '/' ∉ segment.toList) : splitPath (joinPath segments) = segments := by
  have hslash : ∀ part ∈ segments.map String.toList, '/' ∉ part := by
    intro part hpart
    obtain ⟨segment, hsegment, rfl⟩ := List.mem_map.mp hpart
    exact h segment hsegment
  rw [splitPath, joinPath, String.toList_ofList,
    List.splitOn_intercalate '/' hslash (by simpa using hne), List.map_map]
  simp [Function.comp_def, String.ofList_toList]

theorem slash_notMem_of_mem_splitPath {path segment : String} (h : segment ∈ splitPath path) :
    '/' ∉ segment.toList := by
  obtain ⟨part, hpart, rfl⟩ := List.mem_map.mp h
  rw [String.toList_ofList]
  exact sep_notMem_of_mem_splitOn hpart

theorem splitPath_inj {path path' : String} (h : splitPath path = splitPath path') :
    path = path' := by
  rw [← joinPath_splitPath path, h, joinPath_splitPath]

/-- The ancestors of a path are the texts of the proper beginnings of its segments. -/
theorem mem_ancestors {path ancestor : String} : ancestor ∈ ancestors path ↔
    ∃ segments, segments ≠ [] ∧ segments <+: splitPath path ∧ segments ≠ splitPath path ∧
      ancestor = joinPath segments := by
  rw [ancestors, List.mem_map]
  constructor
  · rintro ⟨position, hposition, rfl⟩
    obtain ⟨i, hi, rfl⟩ := List.mem_iff_getElem.mp hposition
    simp only [List.length_drop, List.length_range] at hi
    simp only [List.getElem_drop, List.getElem_range]
    have hlength : ((splitPath path).take (1 + i)).length = 1 + i := by
      rw [List.length_take]
      omega
    refine ⟨_, ?_, List.take_prefix _ _, ?_, rfl⟩
    · intro hnil
      rw [hnil, List.length_nil] at hlength
      omega
    · intro heq
      rw [heq] at hlength
      omega
  · rintro ⟨segments, hne, hle, hproper, rfl⟩
    have hlength : segments.length < (splitPath path).length :=
      lt_of_le_of_ne hle.length_le fun heq => hproper (hle.eq_of_length heq)
    refine ⟨segments.length, ?_, by rw [← List.prefix_iff_eq_take.mp hle]⟩
    rw [List.mem_iff_getElem]
    have hpos := List.length_pos_iff.mpr hne
    exact ⟨segments.length - 1, by simp; omega, by simp; omega⟩

/-! ### Case -/

theorem casefoldChar_eq_slash {c : Char} : casefoldChar c = '/' ↔ c = '/' := by
  rw [casefoldChar]
  split
  · rename_i hupper
    have hlower : 65 ≤ c.toNat := hupper.1
    have hle : c.toNat ≤ 90 := hupper.2
    have hfold : ∀ n < 91, 65 ≤ n → Char.ofNat (n + 32) ≠ '/' := by decide
    refine iff_of_false (hfold c.toNat (by omega) hlower) (fun heq => ?_)
    rw [heq] at hlower
    exact absurd hlower (by decide)
  · rfl

theorem splitOn_map {f : Char → Char} {separator : Char} (h : ∀ c, f c = separator ↔ c = separator)
    (cs : List Char) : (cs.map f).splitOn separator = (cs.splitOn separator).map (List.map f) := by
  induction cs with
  | nil => simp
  | cons c cs ih =>
    rw [List.map_cons, List.splitOn_cons_eq_if_modifyHead, List.splitOn_cons_eq_if_modifyHead, ih]
    by_cases hc : c = separator
    · simp [hc, (h separator).mpr rfl]
    · have hfc : f c ≠ separator := fun heq => hc ((h c).mp heq)
      cases hsplit : cs.splitOn separator with
      | nil => exact absurd hsplit (List.splitOn_ne_nil _ _)
      | cons part parts => simp [hc, hfc]

theorem splitPath_casefold (path : String) :
    splitPath (casefold path) = (splitPath path).map casefold := by
  rw [splitPath, casefold, String.toList_ofList, splitOn_map (fun _ => casefoldChar_eq_slash),
    List.map_map, splitPath, List.map_map]
  simp [Function.comp_def, casefold, String.toList_ofList]

/-! ### The files of a result -/

theorem andThen_eq_none {check : String → Option String} {isValid : List Char → Bool} {s : String} :
    andThen check isValid s = none ↔ check s = none ∧ isValid s.toList = true := by
  rw [andThen]
  cases check s <;> simp

theorem GeneratedPath.isSafeSegment {path : GeneratedPath} {segment : String}
    (h : segment ∈ splitPath path.val) : isSafeSegment segment.toList = true := by
  have hvalid := (andThen_eq_none.mp path.property).2
  simp only [validatePath, Bool.and_eq_true, List.all_eq_true] at hvalid
  obtain ⟨part, hpart, rfl⟩ := List.mem_map.mp h
  rw [String.toList_ofList]
  exact hvalid.2 part hpart

theorem matchPathSegment_of_isSafeSegment {segment : List Char} (h : isSafeSegment segment = true) :
    matchPathSegment segment = true := by
  simp only [isSafeSegment, Bool.and_eq_true] at h
  exact h.1.2

theorem nul_notMem_of_matchPathSegment {segment : List Char}
    (h : matchPathSegment segment = true) : Char.ofNat 0 ∉ segment := by
  cases segment with
  | nil => simp
  | cons c cs =>
    simp only [matchPathSegment, matchUrnPart, Bool.and_eq_true, List.all_eq_true] at h
    intro hmem
    rcases List.mem_cons.mp hmem with heq | hmem
    · rw [← heq] at h
      exact absurd h.1 (by decide)
    · exact absurd (h.2 _ hmem) (by decide)

theorem GeneratedPath.isEntryName {path : GeneratedPath} {segment : String}
    (h : segment ∈ splitPath path.val) : IsEntryName segment := by
  have hsafe := path.isSafeSegment h
  have hnul := nul_notMem_of_matchPathSegment (matchPathSegment_of_isSafeSegment hsafe)
  simp only [Generation.isSafeSegment, Bool.and_eq_true, decide_eq_true_eq] at hsafe
  obtain ⟨⟨⟨⟨⟨hempty, hdot⟩, hdots⟩, -⟩, -⟩, -⟩ := hsafe
  refine ⟨?_, ?_, ?_, slash_notMem_of_mem_splitPath h, hnul⟩
  · rintro rfl
    exact hempty rfl
  · rintro rfl
    exact hdot (by decide)
  · rintro rfl
    exact hdots (by decide)

theorem isEntryName_generationReceiptName : IsEntryName generationReceiptName := by decide +kernel

theorem splitPath_generationReceiptName :
    splitPath generationReceiptName = [generationReceiptName] := by
  decide +kernel

theorem generationReceiptName_notMem (path : GeneratedPath) :
    generationReceiptName ∉ splitPath path.val := by
  intro h
  have hsafe := path.isSafeSegment h
  exact absurd (matchPathSegment_of_isSafeSegment hsafe) (by decide)

/-! ### Places in the tree -/

section Results

variable [Hashlib]

/-- A file, with its place in a tree. -/
def placeOf (file : GeneratedFile) : List String × FileEntry :=
  (splitPath file.path.val, .regular 1 (utf8Encode file.content.val.toList))

/-- The files of a result and a receipt, with their places in a tree. -/
def places (result : GenerationResult) (receipt : List UInt8) : List (List String × FileEntry) :=
  result.files.items.map placeOf ++ [([generationReceiptName], .regular 1 receipt)]

variable {result : GenerationResult}

theorem mem_places {receipt : List UInt8} {place : List String × FileEntry} :
    place ∈ places result receipt ↔
      (∃ file ∈ result.files.items, place = placeOf file) ∨
        place = ([generationReceiptName], .regular 1 receipt) := by
  simp [places, eq_comm]

/-- The paths of the files of a result. -/
def paths (result : GenerationResult) : List String :=
  result.files.items.map fun file => file.path.val

theorem mem_paths {file : GeneratedFile} (h : file ∈ result.files.items) :
    file.path.val ∈ paths result := List.mem_map_of_mem h

theorem nodup_and_ancestors (result : GenerationResult) :
    ((paths result).map casefold).Nodup ∧ ∀ path ∈ paths result,
      ∀ ancestor ∈ ancestors (casefold path), ancestor ∉ (paths result).map casefold := by
  have hvalid := result.valid
  simp only [validateResultCoordinates, bind_eq_ok, require_eq_ok] at hvalid
  obtain ⟨_, -, _, -, _, -, _, hnodup, _, hancestors, -⟩ := hvalid
  exact ⟨hnodup, hancestors⟩

theorem nodup_casefold :
    (result.files.items.map fun file => casefold file.path.val).Nodup := by
  have hnodup := (nodup_and_ancestors result).1
  rwa [paths, List.map_map] at hnodup

theorem casefold_notMem_ancestors {file file' : GeneratedFile} (hfile : file ∈ result.files.items)
    (hfile' : file' ∈ result.files.items) :
    casefold file.path.val ∉ ancestors (casefold file'.path.val) := by
  intro hmem
  refine (nodup_and_ancestors result).2 file'.path.val (mem_paths hfile') _ hmem ?_
  exact List.mem_map_of_mem (mem_paths hfile)

/-- No file of a result stands above another one, nor at its place. -/
theorem eq_of_splitPath_le {file file' : GeneratedFile} (hfile : file ∈ result.files.items)
    (hfile' : file' ∈ result.files.items)
    (h : splitPath file.path.val <+: splitPath file'.path.val) : file = file' := by
  have hfold : splitPath (casefold file.path.val) <+: splitPath (casefold file'.path.val) := by
    rw [splitPath_casefold, splitPath_casefold]
    exact h.map casefold
  have hequal : splitPath (casefold file.path.val) = splitPath (casefold file'.path.val) := by
    by_contra hne
    refine casefold_notMem_ancestors hfile hfile' (mem_ancestors.mpr ?_)
    exact ⟨_, splitPath_ne_nil _, hfold, hne, (joinPath_splitPath _).symm⟩
  exact List.inj_on_of_nodup_map nodup_casefold hfile hfile' (splitPath_inj hequal)

/-- The files and the receipt can stand in one tree. -/
theorem fits_places (result : GenerationResult) (receipt : List UInt8) :
    ListedTree.Fits IsEntryName (places result receipt) := by
  constructor
  · rw [places, List.map_append, List.map_map, List.nodup_append]
    refine ⟨?_, by simp, ?_⟩
    · refine (List.Nodup.of_map _ nodup_casefold).map_on ?_
      intro file hfile file' hfile' heq
      refine eq_of_splitPath_le hfile hfile' ?_
      rw [show splitPath file.path.val = splitPath file'.path.val from heq]
    · rintro path hpath _ hreceipt rfl
      obtain ⟨file, -, rfl⟩ := List.mem_map.mp hpath
      refine generationReceiptName_notMem file.path ?_
      rw [show splitPath file.path.val = [generationReceiptName] by simpa [placeOf] using hreceipt]
      simp
  · intro place hplace
    rcases mem_places.mp hplace with ⟨file, -, rfl⟩ | rfl
    · exact splitPath_ne_nil _
    · simp
  · intro place hplace name hname
    rcases mem_places.mp hplace with ⟨file, -, rfl⟩ | rfl
    · exact file.path.isEntryName hname
    · rw [List.mem_singleton.mp hname]
      exact isEntryName_generationReceiptName
  · intro place hplace place' hplace' hle
    rcases mem_places.mp hplace with ⟨file, hfile, rfl⟩ | rfl <;>
      rcases mem_places.mp hplace' with ⟨file', hfile', rfl⟩ | rfl
    · rw [eq_of_splitPath_le hfile hfile' hle]
    · exfalso
      obtain ⟨first, rest, hsplit⟩ := List.exists_cons_of_ne_nil (splitPath_ne_nil file.path.val)
      refine generationReceiptName_notMem file.path ?_
      simp only [placeOf, hsplit, List.cons_prefix_cons] at hle ⊢
      simp [hle.1]
    · exfalso
      refine generationReceiptName_notMem file'.path (hle.mem ?_)
      simp
    · rfl

end Results

end Ucf.Generation
