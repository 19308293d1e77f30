import Ucf.Ir.WellFormed

/-! The codec between the documents of the adapter profiles and the values of Behavior IR that carry
them over the wire. -/

namespace Ucf

/-- `MAX_PROFILE_VALUE_DEPTH` -/
def maxProfileValueDepth : Nat := 128

/-- What the codec raises: a `ValueError` of its own, or an exception of the models. -/
inductive ProfileValueError where
  | valueError (message : String)
  | raised (error : PyError)
deriving DecidableEq

/-- `_check_depth` -/
def checkDepth (depth : Nat) : Except ProfileValueError Unit :=
  require (depth ≤ maxProfileValueDepth)
    (.valueError "profile wire value exceeds the nesting limit")

/-- A model constructor call of the codec. -/
def constructed {α : Type} (x : Except (List Issue) α) : Except ProfileValueError α :=
  x.mapError fun issues => .raised (.validation issues)

@[simp] theorem constructed_eq_ok {α : Type} {x : Except (List Issue) α} {a : α} :
    constructed x = .ok a ↔ x = .ok a := by
  rw [constructed, mapError_eq_ok]

/-! ### The codec -/

/-- The `RecordEntry` of a name and of an encoded value, which is encoded first. -/
def recordEntry (field : String × Except ProfileValueError IRValue) :
    Except ProfileValueError (Identifier × IRValue) := do
  let value ← field.2
  let name ← constructed (modelValidate (α := Identifier) (.str field.1))
  pure (name, value)

/-- The entries of a record, in the order in which they are encoded. -/
def recordEntries : List (String × Except ProfileValueError IRValue) →
    Except ProfileValueError (List (Identifier × IRValue))
  | [] => .ok []
  | field :: fields => do
    let entry ← recordEntry field
    let entries ← recordEntries fields
    pure (entry :: entries)

mutual

/-- `_encode_value`. The names of a JSON object are strings. -/
def encodeValue (depth : Nat) : Json → Except ProfileValueError IRValue
  | .null => do
    checkDepth depth
    pure (.scalar (.null ⟨⟩))
  | .bool b => do
    checkDepth depth
    pure (.scalar (.boolean ⟨b⟩))
  | .str s => do
    checkDepth depth
    pure (.scalar (.string ⟨s⟩))
  | .int n => do
    checkDepth depth
    let value ← constructed (modelValidate (α := SafeInteger) (.int n))
    pure (.scalar (.integer ⟨value⟩))
  | .obj fields => do
    checkDepth depth
    let entries ← recordEntries (sortedBy Prod.fst (encodeFields (depth + 1) fields))
    pure (.record entries)
  | .arr items => do
    checkDepth depth
    let items ← encodeItems (depth + 1) items
    pure (.list items)
  | .float _ => do
    checkDepth depth
    .error (.valueError "profile document contains an unsupported value")

/-- The items of a list, encoded. -/
def encodeItems (depth : Nat) : List Json → Except ProfileValueError (List IRValue)
  | [] => .ok []
  | item :: items => do
    let value ← encodeValue depth item
    let values ← encodeItems depth items
    pure (value :: values)

/-- What encoding the fields of an object returns or raises, before the fields are sorted. -/
def encodeFields (depth : Nat) :
    List (String × Json) → List (String × Except ProfileValueError IRValue)
  | [] => []
  | (name, value) :: fields => (name, encodeValue depth value) :: encodeFields depth fields

end

/-- `json_profile_to_ir_value` -/
def jsonProfileToIrValue (value : Json) : Except ProfileValueError IRValue := do
  let encoded ← encodeValue 0 value
  (validateIrValue encoded).mapError .raised
  pure encoded

/-- `_decode_value` of a value without parts -/
def decodeScalar : ScalarValue → Except ProfileValueError Json
  | .null _ => .ok .null
  | .boolean v => .ok (.bool v.value)
  | .string v => .ok (.str v.value)
  | .integer v => .ok (.int v.value)
  | .decimal _ | .timestamp _ => .error (.valueError "profile wire value kind is unsupported")

/-- The names of the entries of a record. -/
def entryNames (entries : List (Identifier × IRValue)) : List String :=
  entries.map fun entry => entry.1.val

mutual

/-- `_decode_value` -/
def decodeValue (depth : Nat) : IRValue → Except ProfileValueError Json
  | .scalar value => do
    checkDepth depth
    decodeScalar value
  | .list items => do
    checkDepth depth
    let items ← decodeItems (depth + 1) items
    pure (.arr items)
  | .record entries => do
    checkDepth depth
    require (entryNames entries).Nodup (.valueError "profile wire record has duplicate names")
    require (entryNames entries = sortedBy id (entryNames entries))
      (.valueError "profile wire record names must be sorted")
    let fields ← decodeEntries (depth + 1) entries
    pure (.obj fields)

/-- The items of a list, decoded. -/
def decodeItems (depth : Nat) : List IRValue → Except ProfileValueError (List Json)
  | [] => .ok []
  | item :: items => do
    let value ← decodeValue depth item
    let values ← decodeItems depth items
    pure (value :: values)

/-- The fields of a record, decoded. -/
def decodeEntries (depth : Nat) :
    List (Identifier × IRValue) → Except ProfileValueError (List (String × Json))
  | [] => .ok []
  | (name, value) :: entries => do
    let value ← decodeValue depth value
    let fields ← decodeEntries depth entries
    pure ((name.val, value) :: fields)

end

/-- `ir_value_to_json_profile` -/
def irValueToJsonProfile (value : IRValue) : Except ProfileValueError Json := do
  (validateIrValue value).mapError .raised
  decodeValue 0 value

/-! ### Profile values -/

/-- A value without decimals and timestamps. -/
inductive IRValue.Plain : IRValue → Prop
  | null (v : NullValue) : Plain (.scalar (.null v))
  | boolean (v : BooleanValue) : Plain (.scalar (.boolean v))
  | string (v : StringValue) : Plain (.scalar (.string v))
  | integer (v : IntegerValue) : Plain (.scalar (.integer v))
  | list {items : List IRValue} (h : ∀ item ∈ items, Plain item) : Plain (.list items)
  | record {entries : List (Identifier × IRValue)} (h : ∀ entry ∈ entries, Plain entry.2) :
      Plain (.record entries)

/-- A value whose records have entry names that strictly increase. -/
inductive IRValue.Ordered : IRValue → Prop
  | scalar (value : ScalarValue) : Ordered (.scalar value)
  | list {items : List IRValue} (h : ∀ item ∈ items, Ordered item) : Ordered (.list items)
  | record {entries : List (Identifier × IRValue)} (hnames : (entryNames entries).Pairwise (· < ·))
      (h : ∀ entry ∈ entries, Ordered entry.2) : Ordered (.record entries)

mutual

/-- The number of values on the longest path from a value into its parts. -/
def IRValue.height : IRValue → Nat
  | .scalar _ => 1
  | .list items => heightOfItems items + 1
  | .record entries => heightOfEntries entries + 1

/-- The greatest height of an item. -/
def IRValue.heightOfItems : List IRValue → Nat
  | [] => 0
  | item :: items => max (height item) (heightOfItems items)

/-- The greatest height of the value of an entry. -/
def IRValue.heightOfEntries : List (Identifier × IRValue) → Nat
  | [] => 0
  | (_, value) :: entries => max (height value) (heightOfEntries entries)

end

mutual

/-- The JSON of a plain value. -/
def IRValue.toJson : IRValue → Json
  | .scalar (.boolean v) => .bool v.value
  | .scalar (.string v) => .str v.value
  | .scalar (.integer v) => .int v.value
  | .scalar _ => .null
  | .list items => .arr (toJsonItems items)
  | .record entries => .obj (toJsonEntries entries)

def IRValue.toJsonItems : List IRValue → List Json
  | [] => []
  | item :: items => toJson item :: toJsonItems items

def IRValue.toJsonEntries : List (Identifier × IRValue) → List (String × Json)
  | [] => []
  | (name, value) :: entries => (name.val, toJson value) :: toJsonEntries entries

end

/-- A value of the JSON profile: exact integers, and objects with different names that are
identifiers. -/
inductive Json.IsProfileValue : Json → Prop
  | null : IsProfileValue .null
  | bool (b : Bool) : IsProfileValue (.bool b)
  | int {n : Int} (h : SafeInt n) : IsProfileValue (.int n)
  | str (s : String) : IsProfileValue (.str s)
  | arr {items : List Json} (h : ∀ item ∈ items, IsProfileValue item) : IsProfileValue (.arr items)
  | obj {fields : List (String × Json)} (hnodup : (fields.map Prod.fst).Nodup)
      (hnames : ∀ field ∈ fields, ∃ name : Identifier, name.val = field.1)
      (h : ∀ field ∈ fields, IsProfileValue field.2) : IsProfileValue (.obj fields)

namespace IRValue

theorem heightOfItems_le {items : List IRValue} {n : Nat} :
    heightOfItems items ≤ n ↔ ∀ item ∈ items, item.height ≤ n := by
  induction items with
  | nil => simp [heightOfItems]
  | cons item items ih => rw [heightOfItems, max_le_iff, ih, List.forall_mem_cons]

theorem heightOfEntries_le {entries : List (Identifier × IRValue)} {n : Nat} :
    heightOfEntries entries ≤ n ↔ ∀ entry ∈ entries, entry.2.height ≤ n := by
  induction entries with
  | nil => simp [heightOfEntries]
  | cons entry entries ih => rw [heightOfEntries, max_le_iff, ih, List.forall_mem_cons]

theorem toJsonItems_eq_map (items : List IRValue) : toJsonItems items = items.map toJson := by
  induction items with
  | nil => rfl
  | cons item items ih => rw [toJsonItems, ih, List.map_cons]

theorem toJsonEntries_eq_map (entries : List (Identifier × IRValue)) :
    toJsonEntries entries = entries.map fun entry => (entry.1.val, entry.2.toJson) := by
  induction entries with
  | nil => rfl
  | cons entry entries ih => rw [toJsonEntries, ih, List.map_cons]

/-- Strictly increasing names are different. -/
theorem Ordered.uniqueNames {value : IRValue} (h : value.Ordered) : value.UniqueNames := by
  induction h with
  | scalar value => exact .scalar value
  | list _ ih => exact .list ih
  | @record entries hnames _ ih =>
    refine .record ?_ ih
    have hnodup : ((entries.map Prod.fst).map Subtype.val).Nodup := by
      rw [List.map_map]
      exact hnames.imp ne_of_lt
    exact hnodup.of_map

/-! ### The parts of a value -/

theorem plain_list {items : List IRValue} : (list items).Plain ↔ ∀ item ∈ items, item.Plain :=
  ⟨fun h => by cases h; assumption, .list⟩

theorem plain_record {entries : List (Identifier × IRValue)} :
    (record entries).Plain ↔ ∀ entry ∈ entries, entry.2.Plain :=
  ⟨fun h => by cases h; assumption, .record⟩

theorem ordered_list {items : List IRValue} : (list items).Ordered ↔ ∀ item ∈ items, item.Ordered :=
  ⟨fun h => by cases h; assumption, .list⟩

theorem ordered_record {entries : List (Identifier × IRValue)} : (record entries).Ordered ↔
    (entryNames entries).Pairwise (· < ·) ∧ ∀ entry ∈ entries, entry.2.Ordered :=
  ⟨fun h => by cases h; exact ⟨‹_›, ‹_›⟩, fun ⟨hnames, h⟩ => .record hnames h⟩

theorem height_list {items : List IRValue} {depth n : Nat} : depth + (list items).height ≤ n + 1 ↔
    depth ≤ n ∧ ∀ item ∈ items, depth + 1 + item.height ≤ n + 1 := by
  have hheight : (list items).height = heightOfItems items + 1 := by rw [height]
  have hle : heightOfItems items ≤ n - depth ↔ ∀ item ∈ items, item.height ≤ n - depth :=
    heightOfItems_le
  rw [hheight]
  constructor
  · intro h
    refine ⟨by omega, fun item hitem => ?_⟩
    have := hle.mp (by omega) item hitem
    omega
  · rintro ⟨hdepth, hitems⟩
    have := hle.mpr fun item hitem => by
      have := hitems item hitem
      omega
    omega

theorem height_record {entries : List (Identifier × IRValue)} {depth n : Nat} :
    depth + (record entries).height ≤ n + 1 ↔
      depth ≤ n ∧ ∀ entry ∈ entries, depth + 1 + entry.2.height ≤ n + 1 := by
  have hheight : (record entries).height = heightOfEntries entries + 1 := by rw [height]
  have hle : heightOfEntries entries ≤ n - depth ↔
      ∀ entry ∈ entries, entry.2.height ≤ n - depth := heightOfEntries_le
  rw [hheight]
  constructor
  · intro h
    refine ⟨by omega, fun entry hentry => ?_⟩
    have := hle.mp (by omega) entry hentry
    omega
  · rintro ⟨hdepth, hentries⟩
    have := hle.mpr fun entry hentry => by
      have := hentries entry hentry
      omega
    omega

end IRValue

/-- What the decoder accepts at a depth. -/
structure Decodable (depth : Nat) (value : IRValue) : Prop where
  plain : value.Plain
  ordered : value.Ordered
  within : depth + value.height ≤ maxProfileValueDepth + 1

theorem decodable_scalar {depth : Nat} {value : ScalarValue} :
    Decodable depth (.scalar value) ↔
      (IRValue.scalar value).Plain ∧ depth ≤ maxProfileValueDepth := by
  constructor
  · intro h
    have hwithin := h.within
    rw [IRValue.height] at hwithin
    exact ⟨h.plain, by omega⟩
  · rintro ⟨hplain, hdepth⟩
    refine ⟨hplain, .scalar value, ?_⟩
    rw [IRValue.height]
    omega

theorem decodable_list {depth : Nat} {items : List IRValue} : Decodable depth (.list items) ↔
    depth ≤ maxProfileValueDepth ∧ ∀ item ∈ items, Decodable (depth + 1) item := by
  constructor
  · intro h
    obtain ⟨hdepth, hitems⟩ := IRValue.height_list.mp h.within
    exact ⟨hdepth, fun item hitem => ⟨IRValue.plain_list.mp h.plain item hitem,
      IRValue.ordered_list.mp h.ordered item hitem, hitems item hitem⟩⟩
  · rintro ⟨hdepth, hitems⟩
    exact ⟨.list fun item hitem => (hitems item hitem).plain,
      .list fun item hitem => (hitems item hitem).ordered,
      IRValue.height_list.mpr ⟨hdepth, fun item hitem => (hitems item hitem).within⟩⟩

theorem decodable_record {depth : Nat} {entries : List (Identifier × IRValue)} :
    Decodable depth (.record entries) ↔ depth ≤ maxProfileValueDepth ∧
      (entryNames entries).Pairwise (· < ·) ∧
        ∀ entry ∈ entries, Decodable (depth + 1) entry.2 := by
  constructor
  · intro h
    obtain ⟨hdepth, hentries⟩ := IRValue.height_record.mp h.within
    obtain ⟨hnames, hordered⟩ := IRValue.ordered_record.mp h.ordered
    exact ⟨hdepth, hnames, fun entry hentry => ⟨IRValue.plain_record.mp h.plain entry hentry,
      hordered entry hentry, hentries entry hentry⟩⟩
  · rintro ⟨hdepth, hnames, hentries⟩
    exact ⟨.record fun entry hentry => (hentries entry hentry).plain,
      .record hnames fun entry hentry => (hentries entry hentry).ordered,
      IRValue.height_record.mpr ⟨hdepth, fun entry hentry => (hentries entry hentry).within⟩⟩

/-! ### Decoding -/

@[simp] theorem checkDepth_eq_ok {depth : Nat} {u : Unit} :
    checkDepth depth = .ok u ↔ depth ≤ maxProfileValueDepth := by
  rw [checkDepth, require_eq_ok]

theorem decodeScalar_eq_ok {value : ScalarValue} {j : Json} : decodeScalar value = .ok j ↔
    (IRValue.scalar value).Plain ∧ j = (IRValue.scalar value).toJson := by
  have hplain : ∀ v, ¬(IRValue.scalar (.decimal v)).Plain := by
    intro v h
    cases h
  have hplain' : ∀ v, ¬(IRValue.scalar (.timestamp v)).Plain := by
    intro v h
    cases h
  cases value with
  | null v => simp [decodeScalar, IRValue.toJson, IRValue.Plain.null, eq_comm]
  | boolean v => simp [decodeScalar, IRValue.toJson, IRValue.Plain.boolean, eq_comm]
  | string v => simp [decodeScalar, IRValue.toJson, IRValue.Plain.string, eq_comm]
  | integer v => simp [decodeScalar, IRValue.toJson, IRValue.Plain.integer, eq_comm]
  | decimal v => simp [decodeScalar, hplain]
  | timestamp v => simp [decodeScalar, hplain']

mutual

/-- The decoder returns the JSON of the values that it accepts; by recursion on the value. -/
theorem decodeValue_eq_ok : ∀ (depth : Nat) (value : IRValue) (j : Json),
    decodeValue depth value = .ok j ↔ Decodable depth value ∧ j = value.toJson
  | depth, .scalar value, j => by
    rw [decodeValue, decodable_scalar]
    simp only [bind_eq_ok, checkDepth_eq_ok, exists_const, decodeScalar_eq_ok]
    tauto
  | depth, .list items, j => by
    rw [decodeValue, decodable_list, IRValue.toJson]
    simp only [bind_eq_ok, checkDepth_eq_ok, exists_const, pure_eq_ok, Except.ok.injEq,
      decodeItems_eq_ok (depth + 1) items]
    constructor
    · rintro ⟨hdepth, js, ⟨hitems, rfl⟩, rfl⟩
      exact ⟨⟨hdepth, hitems⟩, rfl⟩
    · rintro ⟨⟨hdepth, hitems⟩, rfl⟩
      exact ⟨hdepth, _, ⟨hitems, rfl⟩, rfl⟩
  | depth, .record entries, j => by
    rw [decodeValue, decodable_record, IRValue.toJson, ← nodup_and_eq_sortedBy_iff]
    simp only [bind_eq_ok, checkDepth_eq_ok, require_eq_ok, exists_const, pure_eq_ok,
      Except.ok.injEq, decodeEntries_eq_ok (depth + 1) entries]
    constructor
    · rintro ⟨hdepth, hnodup, hsorted, fields, ⟨hentries, rfl⟩, rfl⟩
      exact ⟨⟨hdepth, ⟨hnodup, hsorted⟩, hentries⟩, rfl⟩
    · rintro ⟨⟨hdepth, ⟨hnodup, hsorted⟩, hentries⟩, rfl⟩
      exact ⟨hdepth, hnodup, hsorted, _, ⟨hentries, rfl⟩, rfl⟩

theorem decodeItems_eq_ok : ∀ (depth : Nat) (items : List IRValue) (js : List Json),
    decodeItems depth items = .ok js ↔
      (∀ item ∈ items, Decodable depth item) ∧ js = IRValue.toJsonItems items
  | depth, [], js => by simp [decodeItems, IRValue.toJsonItems, eq_comm]
  | depth, item :: items, js => by
    simp only [decodeItems, bind_eq_ok, pure_eq_ok, Except.ok.injEq, IRValue.toJsonItems,
      List.forall_mem_cons, decodeValue_eq_ok depth item, decodeItems_eq_ok depth items]
    constructor
    · rintro ⟨_, ⟨hitem, rfl⟩, _, ⟨hitems, rfl⟩, rfl⟩
      exact ⟨⟨hitem, hitems⟩, rfl⟩
    · rintro ⟨⟨hitem, hitems⟩, rfl⟩
      exact ⟨_, ⟨hitem, rfl⟩, _, ⟨hitems, rfl⟩, rfl⟩

theorem decodeEntries_eq_ok : ∀ (depth : Nat) (entries : List (Identifier × IRValue))
    (fields : List (String × Json)), decodeEntries depth entries = .ok fields ↔
      (∀ entry ∈ entries, Decodable depth entry.2) ∧ fields = IRValue.toJsonEntries entries
  | depth, [], fields => by simp [decodeEntries, IRValue.toJsonEntries, eq_comm]
  | depth, (name, value) :: entries, fields => by
    simp only [decodeEntries, bind_eq_ok, pure_eq_ok, Except.ok.injEq, IRValue.toJsonEntries,
      List.forall_mem_cons, decodeValue_eq_ok depth value, decodeEntries_eq_ok depth entries]
    constructor
    · rintro ⟨_, ⟨hvalue, rfl⟩, _, ⟨hentries, rfl⟩, rfl⟩
      exact ⟨⟨hvalue, hentries⟩, rfl⟩
    · rintro ⟨⟨hvalue, hentries⟩, rfl⟩
      exact ⟨_, ⟨hvalue, rfl⟩, _, ⟨hentries, rfl⟩, rfl⟩

end

theorem irValueToJsonProfile_eq_ok {value : IRValue} {j : Json} :
    irValueToJsonProfile value = .ok j ↔ Decodable 0 value ∧ j = value.toJson := by
  rw [irValueToJsonProfile, validateIrValue]
  simp only [bind_eq_ok, mapError_eq_ok, decodeValue_eq_ok]
  constructor
  · rintro ⟨_, -, h⟩
    exact h
  · intro h
    exact ⟨(), (validateValue_eq_ok _ _).mpr h.1.ordered.uniqueNames, h⟩

/-! ### Encoding -/

theorem encodeFields_eq_map (depth : Nat) (fields : List (String × Json)) :
    encodeFields depth fields = fields.map fun field => (field.1, encodeValue depth field.2) := by
  induction fields with
  | nil => rfl
  | cons field fields ih => rw [encodeFields, ih, List.map_cons]

theorem recordEntry_eq_ok {field : String × Except ProfileValueError IRValue}
    {entry : Identifier × IRValue} :
    recordEntry field = .ok entry ↔ field.1 = entry.1.val ∧ field.2 = .ok entry.2 := by
  have hname : ∀ name : Identifier,
      (Json.str field.1).Same (modelDump name) ↔ field.1 = name.val := by
    intro name
    show (Json.str field.1).Same (.str name.val) ↔ _
    rw [Json.same_str, Json.str.injEq]
  simp only [recordEntry, bind_eq_ok, constructed_eq_ok, modelValidate_eq_ok, hname, pure_eq_ok,
    Except.ok.injEq]
  constructor
  · rintro ⟨value, hvalue, name, hname, rfl⟩
    exact ⟨hname, hvalue⟩
  · rintro ⟨hname, hvalue⟩
    exact ⟨entry.2, hvalue, entry.1, hname, rfl⟩

theorem sortedBy_encodeFields (depth : Nat) (fields : List (String × Json)) :
    sortedBy Prod.fst (encodeFields depth fields) = encodeFields depth (sortedBy Prod.fst fields) := by
  rw [encodeFields_eq_map, encodeFields_eq_map, sortedBy_map]

theorem exists_obj_of_same {j : Json} {fields : List (String × Json)} (h : j.Same (.obj fields)) :
    ∃ fields', j = .obj fields' := by
  rw [Json.Same, Json.canonical_obj] at h
  cases j with
  | obj fields' => exact ⟨fields', rfl⟩
  | arr items => simp [Json.canonical_arr] at h
  | _ => simp at h

/-- An object has the JSON of an ordered record when its sorted fields are, one by one, those of the
record. -/
theorem same_toJson_record {fields : List (String × Json)} {entries : List (Identifier × IRValue)}
    (hnames : (entryNames entries).Pairwise (· < ·)) :
    (Json.obj fields).Same (IRValue.record entries).toJson ↔
      List.Forall₂ (fun field entry => field.1 = entry.1.val ∧ field.2.Same entry.2.toJson)
        (sortedBy Prod.fst fields) entries := by
  have hsorted : sortedBy Prod.fst (entries.map fun entry =>
      (entry.1.val, entry.2.toJson.canonical)) =
        entries.map fun entry => (entry.1.val, entry.2.toJson.canonical) := by
    refine List.Pairwise.insertionSort_eq ?_
    rw [List.pairwise_map]
    rw [entryNames, List.pairwise_map] at hnames
    exact hnames.imp le_of_lt
  have hcanonical : ∀ l : List (String × Json),
      sortedBy Prod.fst (l.map fun field => (field.1, field.2.canonical)) =
        (sortedBy Prod.fst l).map fun field => (field.1, field.2.canonical) :=
    fun l => sortedBy_map _ _ l
  rw [IRValue.toJson, IRValue.toJsonEntries_eq_map, Json.Same, Json.canonical_obj,
    Json.canonical_obj, hcanonical, List.map_map, Json.obj.injEq]
  show _ = sortedBy Prod.fst (entries.map fun entry => (entry.1.val, entry.2.toJson.canonical)) ↔ _
  rw [hsorted, ← List.forall₂_eq_eq_eq, List.forall₂_map_left_iff, List.forall₂_map_right_iff]
  simp only [Prod.mk.injEq, Json.Same]

mutual

/-- The encoder returns a value that the decoder accepts for every document with its JSON; by
recursion on the value. -/
theorem encodeValue_of_same : ∀ (value : IRValue) {depth : Nat} {j : Json},
    Decodable depth value → j.Same value.toJson → encodeValue depth j = .ok value
  | .scalar value, depth, j, h, hsame => by
    obtain ⟨hplain, hdepth⟩ := decodable_scalar.mp h
    cases hplain with
    | null v =>
      rw [IRValue.toJson, Json.same_null] at hsame
      · subst hsame
        simp [encodeValue, hdepth]
      all_goals simp
    | boolean v =>
      rw [IRValue.toJson, Json.same_bool] at hsame
      subst hsame
      simp [encodeValue, hdepth]
    | string v =>
      rw [IRValue.toJson, Json.same_str] at hsame
      subst hsame
      simp [encodeValue, hdepth]
    | integer v =>
      rw [IRValue.toJson, Json.same_int] at hsame
      subst hsame
      have hvalue : modelValidate (α := SafeInteger) (.int v.value) = .ok v.value :=
        modelValidate_eq_ok.mpr (.refl _)
      simp [encodeValue, hdepth, hvalue, constructed, Except.mapError]
  | .list items, depth, j, h, hsame => by
    obtain ⟨hdepth, hitems⟩ := decodable_list.mp h
    rw [IRValue.toJson, Json.same_arr] at hsame
    obtain ⟨js, rfl, hsame⟩ := hsame
    rw [encodeValue, encodeItems_of_same items hitems hsame]
    simp [hdepth]
  | .record entries, depth, j, h, hsame => by
    obtain ⟨hdepth, hnames, hentries⟩ := decodable_record.mp h
    obtain ⟨fields, rfl⟩ : ∃ fields, j = .obj fields := by
      rw [IRValue.toJson] at hsame
      exact exists_obj_of_same hsame
    rw [encodeValue, sortedBy_encodeFields,
      recordEntries_of_same entries hentries ((same_toJson_record hnames).mp hsame)]
    simp [hdepth]

theorem encodeItems_of_same : ∀ (items : List IRValue) {depth : Nat} {js : List Json},
    (∀ item ∈ items, Decodable depth item) → List.Forall₂ Json.Same js (IRValue.toJsonItems items) →
      encodeItems depth js = .ok items
  | [], depth, js, _, hsame => by
    rw [IRValue.toJsonItems, List.forall₂_nil_right_iff] at hsame
    subst hsame
    rfl
  | item :: items, depth, js, h, hsame => by
    rw [IRValue.toJsonItems, List.forall₂_cons_right_iff] at hsame
    obtain ⟨j, js, hitem, hitems, rfl⟩ := hsame
    obtain ⟨hhead, htail⟩ := List.forall_mem_cons.mp h
    rw [encodeItems, encodeValue_of_same item hhead hitem, encodeItems_of_same items htail hitems]
    rfl

theorem recordEntries_of_same : ∀ (entries : List (Identifier × IRValue)) {depth : Nat}
    {fields : List (String × Json)}, (∀ entry ∈ entries, Decodable depth entry.2) →
      List.Forall₂ (fun field entry => field.1 = entry.1.val ∧ field.2.Same entry.2.toJson)
        fields entries →
      recordEntries (encodeFields depth fields) = .ok entries
  | [], depth, fields, _, hsame => by
    rw [List.forall₂_nil_right_iff] at hsame
    subst hsame
    rfl
  | (name, value) :: entries, depth, fields, h, hsame => by
    rw [List.forall₂_cons_right_iff] at hsame
    obtain ⟨⟨text, j⟩, fields, ⟨rfl, hvalue⟩, hentries, rfl⟩ := hsame
    obtain ⟨hhead, htail⟩ := List.forall_mem_cons.mp h
    have hentry : recordEntry (name.val, encodeValue depth j) = .ok (name, value) :=
      recordEntry_eq_ok.mpr ⟨rfl, encodeValue_of_same value hhead hvalue⟩
    rw [encodeFields, recordEntries, hentry, recordEntries_of_same entries htail hentries]
    rfl

end

theorem jsonProfileToIrValue_of_same {j : Json} {value : IRValue} (h : Decodable 0 value)
    (hsame : j.Same value.toJson) : jsonProfileToIrValue j = .ok value := by
  rw [jsonProfileToIrValue, encodeValue_of_same value h hsame]
  simp only [ok_bind, bind_eq_ok, mapError_eq_ok]
  exact ⟨(), (validateValue_eq_ok _ _).mpr h.ordered.uniqueNames, rfl⟩

/-! ### The round trip -/

theorem exists_forall₂ {α β : Type} {R : α → β → Prop} {items : List α}
    (h : ∀ a ∈ items, ∃ b, R a b) : ∃ others, List.Forall₂ R items others := by
  induction items with
  | nil => exact ⟨[], .nil⟩
  | cons a items ih =>
    obtain ⟨⟨b, hb⟩, hrest⟩ := List.forall_mem_cons.mp h
    obtain ⟨others, hothers⟩ := ih hrest
    exact ⟨b :: others, .cons hb hothers⟩

theorem forall_right_of_forall₂ {α β : Type} {R : α → β → Prop} {p : β → Prop} {items : List α}
    {others : List β} (h : List.Forall₂ R items others) (hp : ∀ a ∈ items, ∀ b, R a b → p b) :
    ∀ b ∈ others, p b := by
  induction h with
  | nil => simp
  | cons hab _ ih =>
    rw [List.forall_mem_cons] at hp ⊢
    exact ⟨hp.1 _ hab, ih hp.2⟩

/-- A value that has the JSON of a document up to the order of fields, and nests no deeper. -/
structure Carries (j : Json) (value : IRValue) : Prop where
  plain : value.Plain
  ordered : value.Ordered
  height : value.height ≤ j.height
  same : j.Same value.toJson

theorem carries_scalar {j : Json} {value : ScalarValue} (hplain : (IRValue.scalar value).Plain)
    (hjson : j = (IRValue.scalar value).toJson) : Carries j (.scalar value) where
  plain := hplain
  ordered := .scalar value
  height := by
    rw [IRValue.height]
    exact j.height_pos
  same := by rw [hjson]

/-- Some value carries a profile value; by induction on the profile value. -/
theorem exists_carries {j : Json} (h : j.IsProfileValue) : ∃ value, Carries j value := by
  induction h with
  | null => exact ⟨_, carries_scalar (.null ⟨⟩) (by simp [IRValue.toJson])⟩
  | bool b => exact ⟨_, carries_scalar (.boolean ⟨b⟩) (by rw [IRValue.toJson])⟩
  | @int n h => exact ⟨_, carries_scalar (.integer ⟨⟨n, h⟩⟩) (by rw [IRValue.toJson])⟩
  | str s => exact ⟨_, carries_scalar (.string ⟨s⟩) (by rw [IRValue.toJson])⟩
  | @arr items h ih =>
    obtain ⟨values, hvalues⟩ := exists_forall₂ ih
    refine ⟨.list values, .list ?_, .list ?_, ?_, ?_⟩
    · exact forall_right_of_forall₂ hvalues fun _ _ _ hcarries => hcarries.plain
    · exact forall_right_of_forall₂ hvalues fun _ _ _ hcarries => hcarries.ordered
    · have hheights : IRValue.heightOfItems values ≤ (Json.arr items).height - 1 := by
        refine IRValue.heightOfItems_le.mpr (forall_right_of_forall₂ hvalues ?_)
        intro item hitem value hcarries
        have hlt := Json.height_lt_of_mem_arr hitem
        have hle := hcarries.height
        omega
      have hpos := (Json.arr items).height_pos
      rw [IRValue.height]
      omega
    · rw [IRValue.toJson, Json.same_arr]
      refine ⟨items, rfl, ?_⟩
      rw [IRValue.toJsonItems_eq_map, List.forall₂_map_right_iff]
      exact hvalues.imp fun _ _ hcarries => hcarries.same
  | @obj fields hnodup hnames h ih =>
    have hentry : ∀ field ∈ sortedBy Prod.fst fields, ∃ entry : Identifier × IRValue,
        field.1 = entry.1.val ∧ Carries field.2 entry.2 := by
      intro field hfield
      rw [mem_sortedBy] at hfield
      obtain ⟨name, hname⟩ := hnames field hfield
      obtain ⟨value, hcarries⟩ := ih field hfield
      exact ⟨(name, value), hname.symm, hcarries⟩
    obtain ⟨entries, hentries⟩ := exists_forall₂ hentry
    have hincreasing : (entryNames entries).Pairwise (· < ·) := by
      have heq : entryNames entries = (sortedBy Prod.fst fields).map Prod.fst := by
        rw [entryNames, eq_comm, ← List.forall₂_eq_eq_eq, List.forall₂_map_left_iff,
          List.forall₂_map_right_iff]
        exact hentries.imp fun _ _ hpair => hpair.1
      have hnodup' : ((sortedBy Prod.fst fields).map Prod.fst).Nodup :=
        ((sortedBy_perm _ fields).map _).nodup_iff.mpr hnodup
      rw [heq]
      exact (List.pairwise_map.mpr (pairwise_sortedBy Prod.fst fields)).imp₂
        (fun _ _ hle hne => lt_of_le_of_ne hle hne) hnodup'
    refine ⟨.record entries, .record ?_, .record hincreasing ?_, ?_, ?_⟩
    · exact forall_right_of_forall₂ hentries fun _ _ _ hpair => hpair.2.plain
    · exact forall_right_of_forall₂ hentries fun _ _ _ hpair => hpair.2.ordered
    · have hheights : IRValue.heightOfEntries entries ≤ (Json.obj fields).height - 1 := by
        refine IRValue.heightOfEntries_le.mpr (forall_right_of_forall₂ hentries ?_)
        intro field hfield entry hpair
        have hlt := Json.height_lt_of_mem_obj (mem_sortedBy.mp hfield)
        have hle := hpair.2.height
        omega
      have hpos := (Json.obj fields).height_pos
      rw [IRValue.height]
      omega
    · rw [same_toJson_record hincreasing]
      exact hentries.imp fun _ _ hpair => ⟨hpair.1, hpair.2.same⟩

/-- The codec between profile documents and values: what is encoded is decoded to the same document,
what is decoded is encoded to the same value, and the decoder accepts exactly the values without
decimals and timestamps whose entry names strictly increase, within the nesting limit. -/
structure RoundTrips : Prop where
  encoded : ∀ j : Json, j.IsProfileValue → j.height ≤ maxProfileValueDepth + 1 →
    ∃ value, jsonProfileToIrValue j = .ok value ∧
      ∃ j', irValueToJsonProfile value = .ok j' ∧ j'.Same j
  decoded : ∀ value j, irValueToJsonProfile value = .ok j → jsonProfileToIrValue j = .ok value
  accepts : ∀ value, (∃ j, irValueToJsonProfile value = .ok j) ↔
    value.Plain ∧ value.Ordered ∧ value.height ≤ maxProfileValueDepth + 1

/-- The codec of profile values is a round trip in both directions. -/
theorem profile_roundTrips : RoundTrips where
  encoded := by
    intro j hprofile hheight
    obtain ⟨value, hcarries⟩ := exists_carries hprofile
    have hdecodable : Decodable 0 value := by
      refine ⟨hcarries.plain, hcarries.ordered, ?_⟩
      rw [Nat.zero_add]
      exact hcarries.height.trans hheight
    exact ⟨value, jsonProfileToIrValue_of_same hdecodable hcarries.same, value.toJson,
      irValueToJsonProfile_eq_ok.mpr ⟨hdecodable, rfl⟩, hcarries.same.symm⟩
  decoded := by
    intro value j h
    obtain ⟨hdecodable, rfl⟩ := irValueToJsonProfile_eq_ok.mp h
    exact jsonProfileToIrValue_of_same hdecodable (.refl _)
  accepts := by
    intro value
    simp only [irValueToJsonProfile_eq_ok, exists_and_left, exists_eq, and_true]
    constructor
    · intro h
      refine ⟨h.plain, h.ordered, ?_⟩
      have hwithin := h.within
      omega
    · rintro ⟨hplain, hordered, hheight⟩
      exact ⟨hplain, hordered, by omega⟩

end Ucf
