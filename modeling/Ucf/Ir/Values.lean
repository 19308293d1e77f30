import Ucf.Ir.Models

/-! The values of Behavior IR: scalars, lists and records nested to any depth. -/

namespace Ucf

structure BooleanValue where
  value : Bool
deriving DecidableEq

instance : Model BooleanValue :=
  .record (.lit "kind" "boolean" <| .required "value" .nil) (fun v => (v.value, ()))
    (fun (value, ()) => ⟨value⟩)

structure StringValue where
  value : String
deriving DecidableEq

instance : Model StringValue :=
  .record (.lit "kind" "string" <| .required "value" .nil) (fun v => (v.value, ()))
    (fun (value, ()) => ⟨value⟩)

structure IntegerValue where
  value : SafeInteger
deriving DecidableEq

instance : Model IntegerValue :=
  .record (.lit "kind" "integer" <| .required "value" .nil) (fun v => (v.value, ()))
    (fun (value, ()) => ⟨value⟩)

structure DecimalValue where
  value : CanonicalDecimal
deriving DecidableEq

instance : Model DecimalValue :=
  .record (.lit "kind" "decimal" <| .required "value" .nil) (fun v => (v.value, ()))
    (fun (value, ()) => ⟨value⟩)

structure TimestampValue where
  value : Timestamp
deriving DecidableEq

instance : Model TimestampValue :=
  .record (.lit "kind" "timestamp" <| .required "value" .nil) (fun v => (v.value, ()))
    (fun (value, ()) => ⟨value⟩)

structure NullValue where
deriving DecidableEq

instance : Model NullValue :=
  .record (.lit "kind" "null" .nil) (fun _ => ()) (fun () => ⟨⟩)

/-- The values without parts. -/
inductive ScalarValue where
  | null (value : NullValue)
  | boolean (value : BooleanValue)
  | string (value : StringValue)
  | integer (value : IntegerValue)
  | decimal (value : DecimalValue)
  | timestamp (value : TimestampValue)
deriving DecidableEq

instance : Model ScalarValue :=
  .oneOf (.variant "null" <| .variant "boolean" <| .variant "string" <| .variant "integer" <|
      .variant "decimal" <| .variant "timestamp" .nil)
    (fun
      | .null v => .inl v
      | .boolean v => .inr (.inl v)
      | .string v => .inr (.inr (.inl v))
      | .integer v => .inr (.inr (.inr (.inl v)))
      | .decimal v => .inr (.inr (.inr (.inr (.inl v))))
      | .timestamp v => .inr (.inr (.inr (.inr (.inr (.inl v))))))
    (fun
      | .inl v => .null v
      | .inr (.inl v) => .boolean v
      | .inr (.inr (.inl v)) => .string v
      | .inr (.inr (.inr (.inl v))) => .integer v
      | .inr (.inr (.inr (.inr (.inl v)))) => .decimal v
      | .inr (.inr (.inr (.inr (.inr (.inl v))))) => .timestamp v)

/-- The values that bindings, effects and observations carry. -/
inductive IRValue where
  | scalar (value : ScalarValue)
  | list (items : List IRValue)
  | record (entries : List (Identifier × IRValue))

namespace IRValue

mutual

def decEq : (a b : IRValue) → Decidable (a = b)
  | .scalar v, .scalar w =>
    if h : v = w then .isTrue (by rw [h]) else .isFalse (by simpa using h)
  | .list as, .list bs =>
    match decEqItems as bs with
    | .isTrue h => .isTrue (by rw [h])
    | .isFalse h => .isFalse (by simpa using h)
  | .record as, .record bs =>
    match decEqEntries as bs with
    | .isTrue h => .isTrue (by rw [h])
    | .isFalse h => .isFalse (by simpa using h)
  | .scalar _, .list _ => .isFalse nofun
  | .scalar _, .record _ => .isFalse nofun
  | .list _, .scalar _ => .isFalse nofun
  | .list _, .record _ => .isFalse nofun
  | .record _, .scalar _ => .isFalse nofun
  | .record _, .list _ => .isFalse nofun

def decEqItems : (as bs : List IRValue) → Decidable (as = bs)
  | [], [] => .isTrue rfl
  | [], _ :: _ => .isFalse nofun
  | _ :: _, [] => .isFalse nofun
  | a :: as, b :: bs =>
    match decEq a b, decEqItems as bs with
    | .isTrue h, .isTrue h' => .isTrue (by rw [h, h'])
    | .isFalse h, _ => .isFalse (by simp [h])
    | _, .isFalse h => .isFalse (by simp [h])

def decEqEntries : (as bs : List (Identifier × IRValue)) → Decidable (as = bs)
  | [], [] => .isTrue rfl
  | [], _ :: _ => .isFalse nofun
  | _ :: _, [] => .isFalse nofun
  | (name, a) :: as, (name', b) :: bs =>
    if hname : name = name' then
      match decEq a b, decEqEntries as bs with
      | .isTrue h, .isTrue h' => .isTrue (by rw [hname, h, h'])
      | .isFalse h, _ => .isFalse (by simp [h])
      | _, .isFalse h => .isFalse (by simp [h])
    else .isFalse (by simp [hname])

end

instance : DecidableEq IRValue := decEq

mutual

/-- The JSON of a value. -/
def dump : IRValue → Json
  | .scalar value => modelDump value
  | .list items => .obj (["kind", "items"].zip [.str "list", .arr (dumpItems items)])
  | .record entries => .obj (["kind", "entries"].zip [.str "record", .arr (dumpEntries entries)])

def dumpItems : List IRValue → List Json
  | [] => []
  | item :: items => dump item :: dumpItems items

/-- `RecordEntry` documents. -/
def dumpEntries : List (Identifier × IRValue) → List Json
  | [] => []
  | (name, value) :: entries =>
    .obj (["kind", "name", "value"].zip [.str "record_entry", modelDump name, dump value]) ::
      dumpEntries entries

end

/-- One entry of a record, given how its value is read. -/
def loadEntry (loadValue : Json → Except (List Issue) IRValue) (j : Json) :
    Except (List Issue) (Identifier × IRValue) :=
  match j.members? ["kind", "name", "value"] with
  | some [.str "record_entry", name, value] =>
    both (under (.name "name") (modelValidate name)) (under (.name "value") (loadValue value))
  | _ => .error [⟨"model_type", []⟩]

/-- Read a value that nests at most as deep as the first argument. -/
def load : Nat → Json → Except (List Issue) IRValue
  | 0, _ => .error [⟨"recursion_loop", []⟩]
  | fuel + 1, j =>
    match j.members? ["kind", "items"], j.members? ["kind", "entries"] with
    | some [.str "list", .arr items], _ =>
      (under (.name "items") (Schema.loadItems (load fuel) 0 items)).map .list
    | _, some [.str "record", .arr entries] =>
      (under (.name "entries") (Schema.loadItems (loadEntry (load fuel)) 0 entries)).map .record
    | _, _ => (modelValidate j).map .scalar

theorem map_scalar_eq_ok {x : Except (List Issue) ScalarValue} {value : IRValue} :
    x.map IRValue.scalar = .ok value ↔ ∃ s, x = .ok s ∧ .scalar s = value := by
  cases x <;> simp [Except.map]

theorem dumpItems_eq_map (items : List IRValue) : dumpItems items = items.map dump := by
  induction items with
  | nil => rfl
  | cons item items ih => rw [dumpItems, ih, List.map_cons]

/-- The document of a record entry. -/
def dumpEntry (entry : Identifier × IRValue) : Json :=
  .obj (["kind", "name", "value"].zip [.str "record_entry", modelDump entry.1, entry.2.dump])

theorem dumpEntries_eq_map (entries : List (Identifier × IRValue)) :
    dumpEntries entries = entries.map dumpEntry := by
  induction entries with
  | nil => rfl
  | cons entry entries ih => rw [dumpEntries, ih, List.map_cons]; rfl

theorem forall₂_three {α β : Type} {r : α → β → Prop} {as : List α} {x y z : β} :
    List.Forall₂ r as [x, y, z] ↔ ∃ a b c, as = [a, b, c] ∧ r a x ∧ r b y ∧ r c z := by
  simp only [List.forall₂_cons_right_iff, List.forall₂_nil_right_iff]
  constructor
  · rintro ⟨a, _, ha, ⟨b, _, hb, ⟨c, _, hc, rfl, rfl⟩, rfl⟩, rfl⟩
    exact ⟨a, b, c, rfl, ha, hb, hc⟩
  · rintro ⟨a, b, c, rfl, ha, hb, hc⟩
    exact ⟨a, _, ha, ⟨b, _, hb, ⟨c, _, hc, rfl, rfl⟩, rfl⟩, rfl⟩

theorem forall₂_two {α β : Type} {r : α → β → Prop} {as : List α} {x y : β} :
    List.Forall₂ r as [x, y] ↔ ∃ a b, as = [a, b] ∧ r a x ∧ r b y := by
  simp only [List.forall₂_cons_right_iff, List.forall₂_nil_right_iff]
  constructor
  · rintro ⟨a, _, ha, ⟨b, _, hb, rfl, rfl⟩, rfl⟩
    exact ⟨a, b, rfl, ha, hb⟩
  · rintro ⟨a, b, rfl, ha, hb⟩
    exact ⟨a, _, ha, ⟨b, _, hb, rfl, rfl⟩, rfl⟩

theorem loadEntry_eq_ok {loadValue : Json → Except (List Issue) IRValue} {j : Json}
    {entry : Identifier × IRValue}
    (hvalue : ∀ value, value.height < j.height →
      (loadValue value = .ok entry.2 ↔ value.Same entry.2.dump)) :
    loadEntry loadValue j = .ok entry ↔ j.Same (dumpEntry entry) := by
  rw [dumpEntry, Json.same_members (by decide) rfl, loadEntry]
  simp only [forall₂_three, Json.same_str]
  split
  · rename_i name value hmembers
    have hheight := Json.height_lt_of_mem_members? hmembers value (by simp)
    simp only [hmembers, both_eq_ok, under_eq_ok, modelValidate_eq_ok, hvalue value hheight]
    constructor
    · rintro ⟨hname, hsame⟩
      exact ⟨_, rfl, _, _, _, rfl, rfl, hname, hsame⟩
    · rintro ⟨_, hgiven, _, _, _, rfl, rfl, hname, hsame⟩
      simp only [Option.some.injEq, List.cons.injEq] at hgiven
      obtain ⟨-, rfl, rfl, -⟩ := hgiven
      exact ⟨hname, hsame⟩
  · rename_i hnone
    simp only [reduceCtorEq, false_iff]
    rintro ⟨_, hgiven, _, name, value, rfl, rfl, -, -⟩
    exact hnone name value hgiven

/-- The `kind` of a value's document. -/
def tag : IRValue → String
  | .scalar (.null _) => "null"
  | .scalar (.boolean _) => "boolean"
  | .scalar (.string _) => "string"
  | .scalar (.integer _) => "integer"
  | .scalar (.decimal _) => "decimal"
  | .scalar (.timestamp _) => "timestamp"
  | .list _ => "list"
  | .record _ => "record"

theorem kindOf_dump (value : IRValue) : kindOf value.dump = some (.str value.tag) := by
  cases value with
  | scalar s => rw [dump]; cases s <;> rfl
  | list items => rw [dump]; rfl
  | record entries => rw [dump]; rfl

mutual

theorem exact_dump : ∀ value : IRValue, value.dump.Exact
  | .scalar value => by
    rw [dump]
    exact Model.schema.exact value
  | .list items => by
    rw [dump]
    refine .obj (show ["kind", "items"].Nodup by decide) ?_
    simp only [List.zip_cons_cons, List.zip_nil_right, List.forall_mem_cons, List.not_mem_nil,
      false_imp_iff, implies_true, and_true]
    exact ⟨.str _, .arr (exact_dumpItems items)⟩
  | .record entries => by
    rw [dump]
    refine .obj (show ["kind", "entries"].Nodup by decide) ?_
    simp only [List.zip_cons_cons, List.zip_nil_right, List.forall_mem_cons, List.not_mem_nil,
      false_imp_iff, implies_true, and_true]
    exact ⟨.str _, .arr (exact_dumpEntries entries)⟩

theorem exact_dumpItems : ∀ items : List IRValue, ∀ j ∈ dumpItems items, j.Exact
  | [] => by simp [dumpItems]
  | item :: items => by
    rw [dumpItems, List.forall_mem_cons]
    exact ⟨exact_dump item, exact_dumpItems items⟩

theorem exact_dumpEntries : ∀ entries : List (Identifier × IRValue),
    ∀ j ∈ dumpEntries entries, j.Exact
  | [] => by simp [dumpEntries]
  | (name, value) :: entries => by
    rw [dumpEntries, List.forall_mem_cons]
    refine ⟨.obj (show ["kind", "name", "value"].Nodup by decide) ?_,
      exact_dumpEntries entries⟩
    simp only [List.zip_cons_cons, List.zip_nil_right, List.forall_mem_cons, List.not_mem_nil,
      false_imp_iff, implies_true, and_true]
    exact ⟨.str _, Model.schema.exact name, exact_dump value⟩

end

theorem kindOf_of_members? {j : Json} {name : String} {kind value : Json}
    (h : j.members? ["kind", name] = some [kind, value]) : kindOf j = some kind := by
  unfold Json.members? at h
  split at h
  · split at h
    · obtain ⟨_, _, hkind, _, heq⟩ := Json.valuesAt_cons.mp h
      simp only [List.cons.injEq] at heq
      rw [kindOf, hkind, heq.1]
    · cases h
  · cases h

section Load

variable {loadItem : Json → Except (List Issue) IRValue} {j : Json}

/-- Reading a list document, given how its items are read. -/
theorem same_list_iff {items : List IRValue}
    (hitem : ∀ k, k.height < j.height → ∀ v, loadItem k = .ok v ↔ k.Same v.dump) :
    j.Same (dump (.list items)) ↔ ∃ js, j.members? ["kind", "items"] = some [.str "list", .arr js] ∧
      Schema.loadItems loadItem 0 js = .ok items := by
  rw [dump, Json.same_members (by decide) rfl]
  simp only [forall₂_two, Json.same_str, Json.same_arr, Schema.loadItems_eq_ok,
    dumpItems_eq_map, List.forall₂_map_right_iff]
  have hheight : ∀ {k js}, j.members? ["kind", "items"] = some [k, .arr js] →
      ∀ item ∈ js, item.height < j.height := fun h item hitem =>
    (Json.height_lt_of_mem_arr hitem).trans (Json.height_lt_of_mem_members? h _ (by simp))
  constructor
  · rintro ⟨_, hgiven, _, _, rfl, rfl, js, rfl, hsame⟩
    exact ⟨js, hgiven, forall₂_imp_of_mem hsame fun k hk v hkv =>
      (hitem k (hheight hgiven k hk) v).mpr hkv⟩
  · rintro ⟨js, hgiven, hload⟩
    exact ⟨_, hgiven, _, _, rfl, rfl, js, rfl, forall₂_imp_of_mem hload fun k hk v hkv =>
      (hitem k (hheight hgiven k hk) v).mp hkv⟩

/-- Reading a record document, given how the values of its entries are read. -/
theorem same_record_iff {entries : List (Identifier × IRValue)}
    (hitem : ∀ k, k.height < j.height → ∀ v, loadItem k = .ok v ↔ k.Same v.dump) :
    j.Same (dump (.record entries)) ↔
      ∃ js, j.members? ["kind", "entries"] = some [.str "record", .arr js] ∧
        Schema.loadItems (loadEntry loadItem) 0 js = .ok entries := by
  rw [dump, Json.same_members (by decide) rfl]
  simp only [forall₂_two, Json.same_str, Json.same_arr, Schema.loadItems_eq_ok,
    dumpEntries_eq_map, List.forall₂_map_right_iff]
  have hheight : ∀ {k js}, j.members? ["kind", "entries"] = some [k, .arr js] →
      ∀ item ∈ js, item.height < j.height := fun h item hitem =>
    (Json.height_lt_of_mem_arr hitem).trans (Json.height_lt_of_mem_members? h _ (by simp))
  have hentry : ∀ {k js}, j.members? ["kind", "entries"] = some [k, .arr js] →
      ∀ item ∈ js, ∀ entry, loadEntry loadItem item = .ok entry ↔ item.Same (dumpEntry entry) :=
    fun h item hmem entry => loadEntry_eq_ok fun value hvalue =>
      hitem value (hvalue.trans (hheight h item hmem)) entry.2
  constructor
  · rintro ⟨_, hgiven, _, _, rfl, rfl, js, rfl, hsame⟩
    exact ⟨js, hgiven, forall₂_imp_of_mem hsame fun k hk v hkv =>
      (hentry hgiven k hk v).mpr hkv⟩
  · rintro ⟨js, hgiven, hload⟩
    exact ⟨_, hgiven, _, _, rfl, rfl, js, rfl, forall₂_imp_of_mem hload fun k hk v hkv =>
      (hentry hgiven k hk v).mp hkv⟩

end Load

/-- A value is read from exactly the documents that are equal to its own. -/
theorem load_eq_ok {fuel : Nat} {j : Json} {value : IRValue} (h : j.height ≤ fuel) :
    load fuel j = .ok value ↔ j.Same value.dump := by
  induction fuel generalizing j value with
  | zero => exact absurd (Json.height_pos j) (by omega)
  | succ fuel ih =>
    have hitem : ∀ k, k.height < j.height → ∀ v, load fuel k = .ok v ↔ k.Same v.dump :=
      fun k hk v => ih (by omega)
    have hkind : ∀ v : IRValue, j.Same v.dump → kindOf j = some (.str v.tag) := fun v hsame =>
      kindOf_eq_of_same hsame (exact_dump v) (kindOf_dump v)
    have hlist : ∀ {α : Type} (x : Except (List Issue) α) (f : α → IRValue),
        x.map f = .ok value ↔ ∃ a, x = .ok a ∧ f a = value := by
      intro α x f
      cases x <;> simp [Except.map]
    rw [load]
    split
    · rename_i js hmembers
      rw [hlist]
      simp only [under_eq_ok]
      have htag := kindOf_of_members? hmembers
      constructor
      · rintro ⟨items, hload, rfl⟩
        exact (same_list_iff hitem).mpr ⟨js, hmembers, hload⟩
      · intro hsame
        have hv := hkind value hsame
        rw [htag, Option.some.injEq, Json.str.injEq] at hv
        obtain ⟨items, rfl⟩ : ∃ items, value = .list items := by
          cases value with
          | scalar s => cases s <;> simp [tag] at hv
          | list items => exact ⟨items, rfl⟩
          | record entries => simp [tag] at hv
        obtain ⟨js', hmembers', hload⟩ := (same_list_iff hitem).mp hsame
        rw [hmembers] at hmembers'
        simp only [Option.some.injEq, List.cons.injEq, Json.arr.injEq, and_true, true_and]
          at hmembers'
        subst hmembers'
        exact ⟨items, hload, rfl⟩
    · rename_i js hmembers hnot
      rw [hlist]
      simp only [under_eq_ok]
      have htag := kindOf_of_members? hmembers
      constructor
      · rintro ⟨entries, hload, rfl⟩
        exact (same_record_iff hitem).mpr ⟨js, hmembers, hload⟩
      · intro hsame
        have hv := hkind value hsame
        rw [htag, Option.some.injEq, Json.str.injEq] at hv
        obtain ⟨entries, rfl⟩ : ∃ entries, value = .record entries := by
          cases value with
          | scalar s => cases s <;> simp [tag] at hv
          | list items => simp [tag] at hv
          | record entries => exact ⟨entries, rfl⟩
        obtain ⟨js', hmembers', hload⟩ := (same_record_iff hitem).mp hsame
        rw [hmembers] at hmembers'
        simp only [Option.some.injEq, List.cons.injEq, Json.arr.injEq, and_true, true_and]
          at hmembers'
        subst hmembers'
        exact ⟨entries, hload, rfl⟩
    · rename_i hnotRecord hnotList
      rw [hlist]
      cases value with
      | scalar s => simp [modelValidate_eq_ok, dump]
      | list items =>
        simp only [reduceCtorEq, and_false, exists_false, false_iff]
        intro hsame
        obtain ⟨js, hmembers, _⟩ := (same_list_iff hitem).mp hsame
        first | exact hnotList js hmembers | exact hnotRecord js hmembers
      | record entries =>
        simp only [reduceCtorEq, and_false, exists_false, false_iff]
        intro hsame
        obtain ⟨js, hmembers, _⟩ := (same_record_iff hitem).mp hsame
        first | exact hnotRecord js hmembers | exact hnotList js hmembers

end IRValue

instance : Model IRValue where
  schema :=
    { dump := IRValue.dump
      load := fun j => IRValue.load j.height j
      depth := none
      load_eq_ok := fun _ _ => IRValue.load_eq_ok le_rfl
      exact := IRValue.exact_dump
      within := nofun }
  notNull value h := by
    have hkind := IRValue.kindOf_dump value
    rw [show value.dump = Json.null from h] at hkind
    cases hkind

end Ucf
