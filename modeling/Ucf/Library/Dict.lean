import Ucf.Library.Sorted

/-! Dictionaries as Python keeps them: keys in the order of their first insertion, each with the
value assigned to it last. -/

namespace Ucf

/-- A dictionary with its items in insertion order. -/
structure Dict (κ ν : Type) where
  items : List (κ × ν)
  nodup : (items.map Prod.fst).Nodup

namespace Dict

variable {κ ν : Type} [DecidableEq κ]

/-- The empty dictionary. -/
def empty : Dict κ ν := ⟨[], List.nodup_nil⟩

/-- `d[key] = value` on the items: a present key keeps its position. -/
def assign (key : κ) (value : ν) : List (κ × ν) → List (κ × ν)
  | [] => [(key, value)]
  | item :: items =>
    if item.1 = key then (key, value) :: items else item :: assign key value items

theorem mem_keys_assign {key : κ} {value : ν} {items : List (κ × ν)} {k : κ} :
    k ∈ (assign key value items).map Prod.fst ↔ k = key ∨ k ∈ items.map Prod.fst := by
  induction items with
  | nil => simp [assign]
  | cons item items ih =>
    by_cases h : item.1 = key
    · subst h
      simp [assign]
    · simp only [assign, h, if_false, List.map_cons, List.mem_cons, ih]
      tauto

theorem nodup_assign {key : κ} {value : ν} {items : List (κ × ν)}
    (h : (items.map Prod.fst).Nodup) : ((assign key value items).map Prod.fst).Nodup := by
  induction items with
  | nil => simp [assign]
  | cons item items ih =>
    rw [List.map_cons, List.nodup_cons] at h
    by_cases hkey : item.1 = key
    · subst hkey
      simpa [assign] using h
    · rw [assign, if_neg hkey, List.map_cons, List.nodup_cons, mem_keys_assign]
      exact ⟨fun hmem => hmem.elim hkey h.1, ih h.2⟩

/-- `d[key] = value`. -/
def insert (d : Dict κ ν) (key : κ) (value : ν) : Dict κ ν :=
  ⟨assign key value d.items, nodup_assign d.nodup⟩

/-- `d.update(pairs)`. -/
def update (d : Dict κ ν) (pairs : List (κ × ν)) : Dict κ ν :=
  pairs.foldl (fun d pair => d.insert pair.1 pair.2) d

/-- `{key: value for key, value in pairs}`. -/
def ofList (pairs : List (κ × ν)) : Dict κ ν := empty.update pairs

/-- `{key(item): item for item in items}`. -/
def index {α : Type} (key : α → κ) (items : List α) : Dict κ α :=
  ofList (items.map fun item => (key item, item))

/-- The keys in insertion order. -/
def keys (d : Dict κ ν) : List κ := d.items.map Prod.fst

/-- `len(d)`. -/
def size (d : Dict κ ν) : Nat := d.items.length

/-- `d.pop(key, None)`. -/
def erase (d : Dict κ ν) (key : κ) : Dict κ ν :=
  ⟨d.items.filter fun item => item.1 ≠ key, d.nodup.sublist (List.filter_sublist.map _)⟩

/-- `d.get(key)`. -/
def get? (d : Dict κ ν) (key : κ) : Option ν :=
  (d.items.find? fun item => item.1 = key).map Prod.snd

/-- `key in d`. -/
def contains (d : Dict κ ν) (key : κ) : Bool := (d.get? key).isSome

/-- `tuple(d[key] for key in sorted(d))`. -/
def valuesByKey {κ : Type} [LinearOrder κ] (d : Dict κ ν) : List ν :=
  (sortedBy Prod.fst d.items).map Prod.snd

theorem get?_eq_some {d : Dict κ ν} {key : κ} {value : ν} :
    d.get? key = some value ↔ (key, value) ∈ d.items := by
  have hnodup := d.nodup
  obtain ⟨items, _⟩ := d
  simp only [get?]
  induction items with
  | nil => simp
  | cons item items ih =>
    rw [List.map_cons, List.nodup_cons] at hnodup
    rw [List.find?_cons]
    by_cases h : item.1 = key
    · subst h
      have hnot : (item.1, value) ∉ items := fun hmem =>
        hnodup.1 (List.mem_map.mpr ⟨_, hmem, rfl⟩)
      simp only [decide_true, Option.map_some, Option.some.injEq, List.mem_cons, hnot, or_false]
      constructor
      · rintro rfl
        rfl
      · intro heq
        rw [← heq]
    · simp only [h, decide_false, ih hnodup.2 hnodup.2, List.mem_cons]
      constructor
      · exact Or.inr
      · rintro (rfl | hmem)
        · exact absurd rfl h
        · exact hmem

theorem mem_keys {d : Dict κ ν} {key : κ} : key ∈ d.keys ↔ ∃ value, d.get? key = some value := by
  simp [keys, get?_eq_some]

theorem get?_eq_none {d : Dict κ ν} {key : κ} : d.get? key = none ↔ key ∉ d.keys := by
  rw [mem_keys, ← Option.isSome_iff_exists]
  cases d.get? key <;> simp

@[simp] theorem contains_iff {d : Dict κ ν} {key : κ} : d.contains key = true ↔ key ∈ d.keys := by
  rw [contains, Option.isSome_iff_exists, mem_keys]

@[simp] theorem mem_keys_insert {d : Dict κ ν} {key k : κ} {value : ν} :
    k ∈ (d.insert key value).keys ↔ k = key ∨ k ∈ d.keys :=
  mem_keys_assign

theorem mem_items_insert {d : Dict κ ν} {key : κ} {value : ν} {item : κ × ν} :
    item ∈ (d.insert key value).items ↔
      item = (key, value) ∨ (item.1 ≠ key ∧ item ∈ d.items) := by
  have hnodup := d.nodup
  obtain ⟨items, _⟩ := d
  simp only [insert]
  induction items with
  | nil => simp [assign]
  | cons head items ih =>
    rw [List.map_cons, List.nodup_cons] at hnodup
    by_cases h : head.1 = key
    · subst h
      simp only [assign, if_true, List.mem_cons]
      constructor
      · rintro (rfl | hmem)
        · exact Or.inl rfl
        · refine Or.inr ⟨fun heq => hnodup.1 ?_, Or.inr hmem⟩
          exact List.mem_map.mpr ⟨item, hmem, heq⟩
      · rintro (rfl | ⟨hne, rfl | hmem⟩)
        · exact Or.inl rfl
        · exact absurd rfl hne
        · exact Or.inr hmem
    · simp only [assign, h, if_false, List.mem_cons, ih hnodup.2 hnodup.2]
      constructor
      · rintro (rfl | rfl | ⟨hne, hmem⟩)
        · exact Or.inr ⟨h, Or.inl rfl⟩
        · exact Or.inl rfl
        · exact Or.inr ⟨hne, Or.inr hmem⟩
      · rintro (rfl | ⟨hne, rfl | hmem⟩)
        · exact Or.inr (Or.inl rfl)
        · exact Or.inl rfl
        · exact Or.inr (Or.inr ⟨hne, hmem⟩)

/-- Updating with unique keys: each new pair is there, and each old item whose key is not among
the new ones. -/
theorem mem_items_update {d : Dict κ ν} {pairs : List (κ × ν)}
    (h : (pairs.map Prod.fst).Nodup) {item : κ × ν} :
    item ∈ (d.update pairs).items ↔
      item ∈ pairs ∨ (item.1 ∉ pairs.map Prod.fst ∧ item ∈ d.items) := by
  induction pairs generalizing d with
  | nil => simp [update]
  | cons pair pairs ih =>
    rw [List.map_cons, List.nodup_cons] at h
    have hcons : d.update (pair :: pairs) = (d.insert pair.1 pair.2).update pairs := rfl
    rw [hcons, ih h.2, mem_items_insert]
    simp only [List.mem_cons, List.map_cons, not_or]
    constructor
    · rintro (hmem | ⟨hnot, rfl | ⟨hne, hmem⟩⟩)
      · exact Or.inl (Or.inr hmem)
      · exact Or.inl (Or.inl rfl)
      · exact Or.inr ⟨⟨hne, hnot⟩, hmem⟩
    · rintro ((rfl | hmem) | ⟨⟨hne, hnot⟩, hmem⟩)
      · exact Or.inr ⟨h.1, Or.inl rfl⟩
      · exact Or.inl hmem
      · exact Or.inr ⟨hnot, Or.inr ⟨hne, hmem⟩⟩

theorem mem_keys_update {d : Dict κ ν} {pairs : List (κ × ν)} {key : κ} :
    key ∈ (d.update pairs).keys ↔ key ∈ pairs.map Prod.fst ∨ key ∈ d.keys := by
  induction pairs generalizing d with
  | nil => simp [update]
  | cons pair pairs ih =>
    have hcons : d.update (pair :: pairs) = (d.insert pair.1 pair.2).update pairs := rfl
    rw [hcons, ih, mem_keys_insert, List.map_cons, List.mem_cons]
    tauto

@[simp] theorem mem_keys_ofList {pairs : List (κ × ν)} {key : κ} :
    key ∈ (ofList pairs).keys ↔ key ∈ pairs.map Prod.fst := by
  rw [ofList, mem_keys_update]
  simp [keys, empty]

theorem assign_of_notMem {key : κ} {value : ν} {items : List (κ × ν)}
    (h : key ∉ items.map Prod.fst) : assign key value items = items ++ [(key, value)] := by
  induction items with
  | nil => rfl
  | cons item items ih =>
    rw [List.map_cons, List.mem_cons, not_or] at h
    simp [assign, Ne.symm h.1, ih h.2]

theorem items_update {d : Dict κ ν} {pairs : List (κ × ν)}
    (h : ((d.items ++ pairs).map Prod.fst).Nodup) : (d.update pairs).items = d.items ++ pairs := by
  induction pairs generalizing d with
  | nil => simp [update]
  | cons pair pairs ih =>
    have hcons : d.update (pair :: pairs) = (d.insert pair.1 pair.2).update pairs := rfl
    have hnot : pair.1 ∉ d.items.map Prod.fst := by
      rw [List.map_append, List.nodup_append] at h
      exact fun hmem => h.2.2 _ hmem _ (by simp) rfl
    have hitems : (d.insert pair.1 pair.2).items = d.items ++ [pair] :=
      assign_of_notMem hnot
    rw [hcons, ih (by rw [hitems]; simpa using h), hitems]
    simp

/-- A dictionary built from pairs with unique keys holds exactly these pairs, in order. -/
theorem items_ofList {pairs : List (κ × ν)} (h : (pairs.map Prod.fst).Nodup) :
    (ofList pairs).items = pairs := by
  rw [ofList, items_update (by simpa [empty] using h)]
  rfl

theorem mem_of_mem_assign {key : κ} {value : ν} {items : List (κ × ν)} {item : κ × ν}
    (h : item ∈ assign key value items) : item = (key, value) ∨ item ∈ items := by
  induction items with
  | nil => exact Or.inl (List.mem_singleton.mp h)
  | cons head items ih =>
    rw [assign] at h
    split at h
    · rcases List.mem_cons.mp h with rfl | h
      · exact Or.inl rfl
      · exact Or.inr (List.mem_cons_of_mem _ h)
    · rcases List.mem_cons.mp h with rfl | h
      · exact Or.inr List.mem_cons_self
      · exact (ih h).imp_right (List.mem_cons_of_mem _)

/-- An item of an updated dictionary is one of the new pairs or an item that was there. -/
theorem mem_of_mem_update {d : Dict κ ν} {pairs : List (κ × ν)} {item : κ × ν}
    (h : item ∈ (d.update pairs).items) : item ∈ pairs ∨ item ∈ d.items := by
  induction pairs generalizing d with
  | nil => exact Or.inr h
  | cons pair pairs ih =>
    rcases ih (show item ∈ ((d.insert pair.1 pair.2).update pairs).items from h) with h | h
    · exact Or.inl (List.mem_cons_of_mem _ h)
    · rcases mem_of_mem_assign h with rfl | h
      · exact Or.inl List.mem_cons_self
      · exact Or.inr h

theorem mem_of_mem_ofList {pairs : List (κ × ν)} {item : κ × ν} (h : item ∈ (ofList pairs).items) :
    item ∈ pairs :=
  (mem_of_mem_update h).resolve_right (by simp [empty])

/-- `{**d, **e}` holds the values of `e`, and of `d` where `e` has none. -/
theorem get?_update (d e : Dict κ ν) (key : κ) :
    (d.update e.items).get? key = (e.get? key).or (d.get? key) := by
  cases he : e.get? key with
  | some value =>
    rw [Option.some_or, get?_eq_some, mem_items_update e.nodup]
    exact Or.inl (get?_eq_some.mp he)
  | none =>
    rw [Option.none_or]
    apply Option.ext
    intro value
    have hnot : key ∉ e.items.map Prod.fst := get?_eq_none.mp he
    rw [get?_eq_some, get?_eq_some, mem_items_update e.nodup]
    constructor
    · rintro (hmem | ⟨-, hmem⟩)
      · exact absurd (List.mem_map_of_mem hmem) hnot
      · exact hmem
    · exact fun hmem => Or.inr ⟨hnot, hmem⟩

theorem get?_ofList {pairs : List (κ × ν)} (h : (pairs.map Prod.fst).Nodup) {key : κ}
    {value : ν} : (ofList pairs).get? key = some value ↔ (key, value) ∈ pairs := by
  rw [get?_eq_some, items_ofList h]

section Index

variable {α : Type} {key : α → κ} {items : List α}

@[simp] theorem mem_keys_index {k : κ} : k ∈ (index key items).keys ↔ ∃ a ∈ items, key a = k := by
  simp [index]

theorem index_items (h : (items.map key).Nodup) :
    (index key items).items = items.map fun item => (key item, item) :=
  items_ofList (by simpa [Function.comp_def] using h)

/-- Looking up in an index with unique keys. -/
theorem get?_index (h : (items.map key).Nodup) {k : κ} {a : α} :
    (index key items).get? k = some a ↔ a ∈ items ∧ key a = k := by
  rw [get?_eq_some, index_items h, List.mem_map]
  constructor
  · rintro ⟨b, hb, heq⟩
    cases heq
    exact ⟨hb, rfl⟩
  · rintro ⟨ha, rfl⟩
    exact ⟨a, ha, rfl⟩

theorem get?_index_eq_none {k : κ} :
    (index key items).get? k = none ↔ ∀ a ∈ items, key a ≠ k := by
  rw [get?_eq_none, mem_keys_index]
  push Not
  rfl

theorem get?_index_some {k : κ} (h : ∃ a ∈ items, key a = k) :
    ∃ a, (index key items).get? k = some a := by
  rw [← mem_keys, mem_keys_index]
  exact h

/-- Whatever its keys are, an index finds only members with the key looked up. -/
theorem mem_of_get?_index {k : κ} {a : α} (h : (index key items).get? k = some a) :
    a ∈ items ∧ key a = k := by
  suffices hall : ∀ (pairs : List (κ × α)) (d : Dict κ α) (item : κ × α),
      item ∈ (d.update pairs).items → item ∈ pairs ∨ item ∈ d.items by
    rcases hall _ _ _ (get?_eq_some.mp h) with hmem | hmem
    · obtain ⟨b, hb, heq⟩ := List.mem_map.mp hmem
      cases heq
      exact ⟨hb, rfl⟩
    · simp [empty] at hmem
  intro pairs
  induction pairs with
  | nil => exact fun _ _ => Or.inr
  | cons pair pairs ih =>
    intro d item hmem
    rcases ih (d.insert pair.1 pair.2) item hmem with hmem | hmem
    · exact Or.inl (List.mem_cons_of_mem _ hmem)
    · rcases mem_items_insert.mp hmem with rfl | ⟨_, hmem⟩
      · exact Or.inl (by simp)
      · exact Or.inr hmem

end Index

theorem mem_valuesByKey {κ : Type} [LinearOrder κ] {d : Dict κ ν} {value : ν} :
    value ∈ d.valuesByKey ↔ ∃ key, (key, value) ∈ d.items := by
  simp [valuesByKey]

@[simp] theorem length_valuesByKey {κ : Type} [LinearOrder κ] (d : Dict κ ν) :
    d.valuesByKey.length = d.items.length := by
  simp [valuesByKey]

/-- The values in key order, when each value determines its key. -/
theorem sortedKeys_valuesByKey {κ : Type} [LinearOrder κ] {d : Dict κ ν} {key : ν → κ}
    (h : ∀ item ∈ d.items, key item.2 = item.1) : SortedKeys key d.valuesByKey := by
  have hsorted := sortedKeys_sortedBy d.nodup
  rw [SortedKeys, valuesByKey, List.pairwise_map]
  refine hsorted.imp_of_mem fun {a b} ha hb hlt => ?_
  rwa [h a (mem_sortedBy.mp ha), h b (mem_sortedBy.mp hb)]

/-- A dictionary of values by a key of their own, updated with more of them: the values in order. -/
theorem valuesByKey_update_ofList {κ : Type} [LinearOrder κ] [DecidableEq κ] {key : ν → κ} {old new : List ν}
    (h : ((old ++ new).map key).Nodup) :
    ((ofList (old.map fun value => (key value, value))).update
      (new.map fun value => (key value, value))).valuesByKey = sortedBy key (old ++ new) := by
  have hold : ((old.map fun value => (key value, value)).map Prod.fst).Nodup := by
    rw [List.map_append, List.nodup_append] at h
    simpa [Function.comp_def] using h.1
  have hkeys : (((ofList (old.map fun value => (key value, value))).items ++
      new.map fun value => (key value, value)).map Prod.fst).Nodup := by
    rw [items_ofList hold, ← List.map_append, List.map_map]
    exact h
  have hitems := items_update hkeys
  rw [valuesByKey, hitems, items_ofList hold, ← List.map_append, sortedBy_map, List.map_map]
  exact List.map_id _

theorem get?_insert {d : Dict κ ν} {key k : κ} {value : ν} :
    (d.insert key value).get? k = if k = key then some value else d.get? k := by
  ext v
  rw [get?_eq_some, mem_items_insert]
  by_cases h : k = key
  · simp [h, eq_comm]
  · simp [h, get?_eq_some]

theorem get?_erase {d : Dict κ ν} {key k : κ} :
    (d.erase key).get? k = if k = key then none else d.get? k := by
  ext v
  by_cases h : k = key <;> simp [get?_eq_some, erase, h]

theorem size_insert {d : Dict κ ν} {key : κ} {value : ν} (h : d.get? key = none) :
    (d.insert key value).size = d.size + 1 := by
  have hitems : (d.insert key value).items = d.items ++ [(key, value)] :=
    assign_of_notMem (get?_eq_none.mp h)
  simp [size, hitems]

theorem size_erase_le {d : Dict κ ν} {key : κ} : (d.erase key).size ≤ d.size :=
  List.length_filter_le _ _

/-- A dictionary without items. -/
def isEmpty (d : Dict κ ν) : Bool := d.items.isEmpty

theorem isEmpty_iff {d : Dict κ ν} : d.isEmpty = true ↔ ∀ key, d.get? key = none := by
  rw [isEmpty, List.isEmpty_iff]
  constructor
  · intro h key
    simp [get?, h]
  · intro h
    rw [List.eq_nil_iff_forall_not_mem]
    rintro ⟨key, value⟩ hmem
    have := h key
    rw [get?_eq_some.mpr hmem] at this
    cases this

@[simp] theorem get?_empty {key : κ} : (empty : Dict κ ν).get? key = none := rfl

end Dict

end Ucf
