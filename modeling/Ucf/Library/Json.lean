import Mathlib.Data.String.Basic
import Ucf.Library.Sorted

/-! JSON values, and the canonical form that a writer with sorted keys gives: the fields of every
object in key order, at every depth. -/

namespace Ucf

/-- A JSON value. Object fields keep the order in which they were written. -/
inductive Json where
  | null
  | bool (value : Bool)
  | int (value : Int)
  | float (token : String)
  | str (value : String)
  | arr (items : List Json)
  | obj (fields : List (String × Json))

namespace Json

/-- Induction over a JSON value: the items of an array and the field values of an object are its
parts. -/
@[elab_as_elim]
theorem induction {motive : Json → Prop} (null : motive .null) (bool : ∀ b, motive (.bool b))
    (int : ∀ n, motive (.int n)) (float : ∀ t, motive (.float t)) (str : ∀ s, motive (.str s))
    (arr : ∀ items, (∀ item ∈ items, motive item) → motive (.arr items))
    (obj : ∀ fields, (∀ field ∈ fields, motive field.2) → motive (.obj fields)) :
    ∀ j, motive j := by
  intro j
  refine @Json.rec motive (fun items => ∀ item ∈ items, motive item)
    (fun fields => ∀ field ∈ fields, motive field.2) (fun field => motive field.2)
    null bool int float str arr obj ?_ ?_ ?_ ?_ ?_ j
  · simp
  · intro head tail hhead htail
    simpa using ⟨hhead, htail⟩
  · simp
  · intro head tail hhead htail item hitem
    rcases List.mem_cons.mp hitem with rfl | hitem
    · exact hhead
    · exact htail item hitem
  · exact fun _ _ h => h

/-- The first value of a field, as a Python dictionary access on a decoded object. -/
def get? : Json → String → Option Json
  | .obj fields, name => (fields.find? fun field => field.1 = name).map Prod.snd
  | _, _ => none

/-- `value.model_dump(exclude=names)`. -/
def exclude (names : List String) : Json → Json
  | .obj fields => .obj (fields.filter fun field => field.1 ∉ names)
  | j => j

theorem exclude_second {name : String} {first : String × Json} {value value' : Json}
    {rest : List (String × Json)} :
    (obj (first :: (name, value) :: rest)).exclude [name] =
      (obj (first :: (name, value') :: rest)).exclude [name] := by
  simp [exclude, List.filter_cons]

theorem exclude_fourth {name : String} {first second third : String × Json} {value value' : Json}
    {rest : List (String × Json)} :
    (obj (first :: second :: third :: (name, value) :: rest)).exclude [name] =
      (obj (first :: second :: third :: (name, value') :: rest)).exclude [name] := by
  simp [exclude, List.filter_cons]

mutual

/-- The value with the fields of each of its objects in key order. -/
def canonical : Json → Json
  | .null => .null
  | .bool b => .bool b
  | .int n => .int n
  | .float t => .float t
  | .str s => .str s
  | .arr items => .arr (canonicalItems items)
  | .obj fields => .obj (sortedBy Prod.fst (canonicalFields fields))

/-- The canonical forms of the items of an array. -/
def canonicalItems : List Json → List Json
  | [] => []
  | item :: items => canonical item :: canonicalItems items

/-- The fields of an object with their values in canonical form. -/
def canonicalFields : List (String × Json) → List (String × Json)
  | [] => []
  | (name, value) :: fields => (name, canonical value) :: canonicalFields fields

end

theorem canonicalItems_eq_map (items : List Json) : canonicalItems items = items.map canonical := by
  induction items with
  | nil => rfl
  | cons item items ih => rw [canonicalItems, ih, List.map_cons]

theorem canonicalFields_eq_map (fields : List (String × Json)) :
    canonicalFields fields = fields.map fun field => (field.1, field.2.canonical) := by
  induction fields with
  | nil => rfl
  | cons field fields ih => rw [canonicalFields, ih, List.map_cons]

@[simp] theorem canonical_null : canonical .null = .null := by rw [canonical]

@[simp] theorem canonical_bool (b : Bool) : canonical (.bool b) = .bool b := by rw [canonical]

@[simp] theorem canonical_int (n : Int) : canonical (.int n) = .int n := by rw [canonical]

@[simp] theorem canonical_float (t : String) : canonical (.float t) = .float t := by rw [canonical]

@[simp] theorem canonical_str (s : String) : canonical (.str s) = .str s := by rw [canonical]

theorem canonical_arr (items : List Json) :
    canonical (.arr items) = .arr (items.map canonical) := by
  rw [canonical, canonicalItems_eq_map]

theorem canonical_obj (fields : List (String × Json)) :
    canonical (.obj fields) =
      .obj (sortedBy Prod.fst (fields.map fun field => (field.1, field.2.canonical))) := by
  rw [canonical, canonicalFields_eq_map]

theorem canonical_canonical (j : Json) : j.canonical.canonical = j.canonical := by
  induction j using Json.induction with
  | null | bool | int | float | str => simp
  | arr items ih =>
    simp only [canonical_arr, List.map_map, Json.arr.injEq, List.map_inj_left]
    exact ih
  | obj fields ih =>
    have hsort : ∀ l : List (String × Json),
        sortedBy Prod.fst (l.map fun field => (field.1, field.2.canonical)) =
          (sortedBy Prod.fst l).map fun field => (field.1, field.2.canonical) :=
      fun l => sortedBy_map _ _ l
    rw [canonical_obj, hsort, canonical_obj, hsort, hsort, sortedBy_sortedBy, List.map_map,
      Json.obj.injEq]
    refine List.map_congr_left fun field hfield => ?_
    simp [ih field (mem_sortedBy.mp hfield)]

/-! ### Equality -/

mutual

/-- Whether two values are equal. -/
def beq : Json → Json → Bool
  | .null, .null => true
  | .bool a, .bool b => a = b
  | .int a, .int b => a = b
  | .float a, .float b => a = b
  | .str a, .str b => a = b
  | .arr as, .arr bs => beqItems as bs
  | .obj as, .obj bs => beqFields as bs
  | _, _ => false

/-- Whether two arrays have equal items. -/
def beqItems : List Json → List Json → Bool
  | [], [] => true
  | a :: as, b :: bs => beq a b && beqItems as bs
  | _, _ => false

/-- Whether two objects have equal fields in the same order. -/
def beqFields : List (String × Json) → List (String × Json) → Bool
  | [], [] => true
  | (name, a) :: as, (name', b) :: bs => name = name' && beq a b && beqFields as bs
  | _, _ => false

end

theorem beq_iff_eq (a b : Json) : beq a b = true ↔ a = b := by
  induction a using Json.induction generalizing b with
  | null | bool | int | float | str => cases b <;> simp [beq]
  | arr items ih =>
    have hitems : ∀ bs, beqItems items bs = true ↔ items = bs := by
      induction items with
      | nil => intro bs; cases bs <;> simp [beqItems]
      | cons item items ihs =>
        intro bs
        cases bs with
        | nil => simp [beqItems]
        | cons b bs =>
          rw [beqItems, Bool.and_eq_true, ih item (by simp),
            ihs (fun item hitem => ih item (by simp [hitem])), List.cons.injEq]
    cases b <;> simp [beq, hitems]
  | obj fields ih =>
    have hfields : ∀ bs, beqFields fields bs = true ↔ fields = bs := by
      induction fields with
      | nil => intro bs; cases bs <;> simp [beqFields]
      | cons field fields ihs =>
        intro bs
        cases bs with
        | nil => simp [beqFields]
        | cons b bs =>
          simp only [beqFields, Bool.and_eq_true, decide_eq_true_eq, ih field (by simp),
            ihs (fun field hfield => ih field (by simp [hfield])), List.cons.injEq, Prod.ext_iff]
    cases b <;> simp [beq, hfields]

instance : DecidableEq Json := fun a b => decidable_of_iff _ (beq_iff_eq a b)

/-- Two values that differ only in the order of object fields. -/
def Same (j k : Json) : Prop := j.canonical = k.canonical

@[refl] theorem Same.refl (j : Json) : Same j j := rfl

theorem Same.symm {j k : Json} (h : Same j k) : Same k j := Eq.symm h

theorem Same.trans {j k l : Json} (h : Same j k) (h' : Same k l) : Same j l := Eq.trans h h'

theorem same_canonical (j : Json) : Same j.canonical j := canonical_canonical j

theorem same_null {j : Json} : Same j .null ↔ j = .null := by
  cases j <;> simp [Same, canonical_arr, canonical_obj]

theorem same_bool {j : Json} {b : Bool} : Same j (.bool b) ↔ j = .bool b := by
  cases j <;> simp [Same, canonical_arr, canonical_obj]

theorem same_int {j : Json} {n : Int} : Same j (.int n) ↔ j = .int n := by
  cases j <;> simp [Same, canonical_arr, canonical_obj]

theorem same_str {j : Json} {s : String} : Same j (.str s) ↔ j = .str s := by
  cases j <;> simp [Same, canonical_arr, canonical_obj]

theorem same_arr {j : Json} {items : List Json} :
    Same j (.arr items) ↔ ∃ items', j = .arr items' ∧ List.Forall₂ Same items' items := by
  have hforall : ∀ items' : List Json, List.Forall₂ Same items' items ↔
      items'.map canonical = items.map canonical := by
    intro items'
    rw [← List.forall₂_eq_eq_eq, List.forall₂_map_left_iff, List.forall₂_map_right_iff]
    rfl
  cases j <;> simp [Same, canonical_arr, canonical_obj, hforall]

/-- The first value of a field in a list of fields. -/
theorem get?_obj (fields : List (String × Json)) (name : String) :
    get? (.obj fields) name = (fields.find? fun field => field.1 = name).map Prod.snd := rfl

theorem mem_of_get?_obj {fields : List (String × Json)} {name : String} {value : Json}
    (h : get? (.obj fields) name = some value) : (name, value) ∈ fields := by
  rw [get?_obj, Option.map_eq_some_iff] at h
  obtain ⟨field, hfind, rfl⟩ := h
  have hname : field.1 = name := by simpa using List.find?_some hfind
  rw [← hname]
  exact List.mem_of_find?_eq_some hfind

theorem get?_obj_of_mem {fields : List (String × Json)} (hnodup : (fields.map Prod.fst).Nodup)
    {name : String} {value : Json} (h : (name, value) ∈ fields) :
    get? (.obj fields) name = some value := by
  induction fields with
  | nil => simp at h
  | cons field fields ih =>
    rw [List.map_cons, List.nodup_cons] at hnodup
    rcases List.mem_cons.mp h with rfl | htail
    · simp [get?_obj]
    · have hne : field.1 ≠ name := by
        rintro rfl
        exact hnodup.1 (List.mem_map.mpr ⟨_, htail, rfl⟩)
      rw [get?_obj, List.find?_cons_of_neg (by simpa using hne), ← get?_obj]
      exact ih hnodup.2 htail

/-- An object equals another up to field order exactly when it has the same field names, each
once, and equal values under each name. -/
theorem same_obj {fields fields' : List (String × Json)}
    (hnodup' : (fields'.map Prod.fst).Nodup) :
    Same (.obj fields) (.obj fields') ↔
      (fields.map Prod.fst).Nodup ∧ (∀ field ∈ fields, field.1 ∈ fields'.map Prod.fst) ∧
        ∀ field ∈ fields', ∃ value, get? (.obj fields) field.1 = some value ∧
          Same value field.2 := by
  have hfst : ∀ l : List (String × Json),
      (l.map fun field => (field.1, field.2.canonical)).map Prod.fst = l.map Prod.fst := by
    intro l
    simp [Function.comp_def]
  simp only [Same, canonical_obj, Json.obj.injEq]
  constructor
  · intro heq
    have hperm : (fields.map fun field => (field.1, field.2.canonical)).Perm
        (fields'.map fun field => (field.1, field.2.canonical)) :=
      (sortedBy_perm Prod.fst _).symm.trans (heq ▸ sortedBy_perm Prod.fst _)
    have hnames : (fields.map Prod.fst).Perm (fields'.map Prod.fst) := by
      simpa only [hfst] using hperm.map Prod.fst
    have hnodup := hnames.nodup_iff.mpr hnodup'
    refine ⟨hnodup, fun field hfield => ?_, fun field hfield => ?_⟩
    · exact hnames.mem_iff.mp (List.mem_map.mpr ⟨field, hfield, rfl⟩)
    · have hmem := hperm.mem_iff.mpr (List.mem_map.mpr ⟨field, hfield, rfl⟩)
      obtain ⟨⟨name, value⟩, hvalue, heq'⟩ := List.mem_map.mp hmem
      simp only [Prod.mk.injEq] at heq'
      obtain ⟨rfl, hsame⟩ := heq'
      exact ⟨value, get?_obj_of_mem hnodup hvalue, hsame⟩
  · rintro ⟨hnodup, hnames, hvalues⟩
    refine (sortedKeys_sortedBy (by rwa [hfst])).eq_of_mem_iff
      (sortedKeys_sortedBy (by rwa [hfst])) fun item => ?_
    simp only [mem_sortedBy, List.mem_map]
    constructor
    · rintro ⟨⟨name, value⟩, hmem, rfl⟩
      obtain ⟨field', hfield', hname⟩ := List.mem_map.mp (hnames _ hmem)
      obtain ⟨value', hget, hsame⟩ := hvalues field' hfield'
      simp only at hname
      rw [hname, get?_obj_of_mem hnodup hmem, Option.some.injEq] at hget
      subst hget
      exact ⟨field', hfield', by rw [hname]; exact congrArg (Prod.mk name) hsame.symm⟩
    · rintro ⟨field', hfield', rfl⟩
      obtain ⟨value, hget, hsame⟩ := hvalues field' hfield'
      exact ⟨_, mem_of_get?_obj hget, congrArg (Prod.mk field'.1) hsame⟩

/-- A field access on equal objects finds equal values. -/
theorem Same.get? {j k : Json} (h : Same j k) {fields : List (String × Json)}
    (hk : k = .obj fields) (hnodup : (fields.map Prod.fst).Nodup) {name : String} {value : Json}
    (hget : k.get? name = some value) : ∃ value', j.get? name = some value' ∧ Same value' value := by
  subst hk
  have hobj : ∃ fields', j = .obj fields' := by
    cases j <;> simp [Same, canonical_arr, canonical_obj] at h ⊢
  obtain ⟨fields', rfl⟩ := hobj
  exact ((same_obj hnodup).mp h).2.2 _ (mem_of_get?_obj hget)

/-- The values that a lookup finds under all of `names`. -/
def valuesAt (lookup : String → Option Json) : List String → Option (List Json)
  | [] => some []
  | name :: names =>
    match lookup name, valuesAt lookup names with
    | some value, some values => some (value :: values)
    | _, _ => none

theorem valuesAt_cons {lookup : String → Option Json} {name : String} {names : List String}
    {given : List Json} : valuesAt lookup (name :: names) = some given ↔
      ∃ value values, lookup name = some value ∧ valuesAt lookup names = some values ∧
        given = value :: values := by
  rw [valuesAt]
  cases lookup name <;> cases valuesAt lookup names <;> simp [eq_comm]

/-- The values under `names` in an object that has these fields and no others. -/
def members? (names : List String) : Json → Option (List Json)
  | .obj fields =>
    if (fields.map Prod.fst).Nodup ∧ ∀ field ∈ fields, field.1 ∈ names then
      valuesAt (get? (.obj fields)) names
    else none
  | _ => none

/-- An object equals one with given fields up to field order exactly when the values of its
members are equal to the values given. -/
theorem same_members {names : List String} (hnodup : names.Nodup) {values : List Json}
    (hlength : names.length = values.length) {j : Json} :
    Same j (.obj (names.zip values)) ↔
      ∃ given, j.members? names = some given ∧ List.Forall₂ Same given values := by
  have hkeys : (names.zip values).map Prod.fst = names := List.map_fst_zip hlength.le
  have hvalues : ∀ fields : List (String × Json),
      (∀ field ∈ names.zip values, ∃ value, get? (.obj fields) field.1 = some value ∧
        Same value field.2) ↔
      ∃ given, valuesAt (get? (.obj fields)) names = some given ∧
        List.Forall₂ Same given values := by
    intro fields
    clear hkeys hnodup
    induction names generalizing values with
    | nil =>
      obtain rfl : values = [] := List.length_eq_zero_iff.mp hlength.symm
      simp [valuesAt]
    | cons name names ih =>
      obtain ⟨value, values, rfl⟩ := List.exists_cons_of_length_pos (l := values) (by
        rw [← hlength]
        simp)
      have ih := @ih values (by simpa using hlength)
      simp only [List.zip_cons_cons, List.forall_mem_cons, ih, valuesAt_cons]
      constructor
      · rintro ⟨⟨head, hhead, hsame⟩, given, hgiven, hall⟩
        exact ⟨_, ⟨head, given, hhead, hgiven, rfl⟩, .cons hsame hall⟩
      · rintro ⟨_, ⟨head, given, hhead, hgiven, rfl⟩, hall⟩
        rw [List.forall₂_cons] at hall
        exact ⟨⟨head, hhead, hall.1⟩, given, hgiven, hall.2⟩
  cases j with
  | obj fields =>
    rw [same_obj (by rwa [hkeys]), hkeys, hvalues, members?]
    by_cases h : (fields.map Prod.fst).Nodup ∧ ∀ field ∈ fields, field.1 ∈ names
    · rw [if_pos h]
      exact ⟨fun hall => hall.2.2, fun hall => ⟨h.1, h.2, hall⟩⟩
    · rw [if_neg h]
      simp only [reduceCtorEq, false_and, exists_false, iff_false]
      exact fun hall => h ⟨hall.1, hall.2.1⟩
  | _ => simp [members?, Same, canonical_obj, canonical_arr]

mutual

/-- How deep arrays and objects nest in a value, counting the value itself. -/
def height : Json → Nat
  | .arr items => heightItems items + 1
  | .obj fields => heightFields fields + 1
  | _ => 1

/-- The greatest height of an item. -/
def heightItems : List Json → Nat
  | [] => 0
  | item :: items => max (height item) (heightItems items)

/-- The greatest height of a field value. -/
def heightFields : List (String × Json) → Nat
  | [] => 0
  | (_, value) :: fields => max (height value) (heightFields fields)

end

theorem height_pos (j : Json) : 0 < j.height := by
  cases j <;> simp [height]

theorem height_lt_of_mem_arr {items : List Json} {item : Json} (h : item ∈ items) :
    item.height < (Json.arr items).height := by
  rw [height]
  induction items with
  | nil => simp at h
  | cons head items ih =>
    rw [heightItems]
    rcases List.mem_cons.mp h with rfl | h
    · omega
    · have := ih h
      omega

theorem height_lt_of_mem_obj {fields : List (String × Json)} {field : String × Json}
    (h : field ∈ fields) : field.2.height < (Json.obj fields).height := by
  rw [height]
  induction fields with
  | nil => simp at h
  | cons head fields ih =>
    rw [heightFields]
    rcases List.mem_cons.mp h with rfl | h
    · omega
    · have := ih h
      omega

theorem height_lt_of_mem_members? {names : List String} {j : Json} {given : List Json}
    (h : j.members? names = some given) : ∀ value ∈ given, value.height < j.height := by
  unfold members? at h
  split at h
  · rename_i fields
    split at h
    · rename_i hfields
      clear hfields
      induction names generalizing given with
      | nil =>
        obtain rfl : [] = given := by simpa [valuesAt] using h
        simp
      | cons name names ih =>
        obtain ⟨value, values, hvalue, hvalues, rfl⟩ := valuesAt_cons.mp h
        rw [List.forall_mem_cons]
        exact ⟨height_lt_of_mem_obj (mem_of_get?_obj hvalue), ih hvalues⟩
    · cases h
  · cases h

end Json

end Ucf
