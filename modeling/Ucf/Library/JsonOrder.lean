import Ucf.Library.JsonRoundTrip

/-! Canonical forms of JSON values for any order of the member names, and when two orders give the
same form. -/

namespace Ucf

/-- Two keys sort a list alike exactly when they order its items alike. -/
theorem sortedBy_eq_sortedBy_iff {α κ κ' : Type} [LinearOrder κ] [LinearOrder κ'] {key : α → κ}
    {key' : α → κ'} {items : List α} (h : (items.map key).Nodup) (h' : (items.map key').Nodup) :
    sortedBy key items = sortedBy key' items ↔
      ∀ a ∈ items, ∀ b ∈ items, (key a < key b ↔ key' a < key' b) := by
  have hsorted := sortedKeys_sortedBy h
  have hsorted' := sortedKeys_sortedBy h'
  constructor
  · intro heq
    rw [← heq] at hsorted'
    have hboth := hsorted.and hsorted'
    have halike : (sortedBy key items).Pairwise fun a b =>
        (key a < key b ↔ key' a < key' b) ∧ (key b < key a ↔ key' b < key' a) := by
      refine hboth.imp ?_
      rintro a b ⟨hlt, hlt'⟩
      exact ⟨iff_of_true hlt hlt', iff_of_false (lt_asymm hlt) (lt_asymm hlt')⟩
    intro a ha b hb
    by_cases hab : a = b
    · rw [hab]
      exact iff_of_false (lt_irrefl _) (lt_irrefl _)
    · have : Std.Symm fun a b =>
          (key a < key b ↔ key' a < key' b) ∧ (key b < key a ↔ key' b < key' a) :=
        ⟨fun _ _ h => ⟨h.2, h.1⟩⟩
      exact (halike.forall (mem_sortedBy.mpr ha) (mem_sortedBy.mpr hb) hab).1
  · intro halike
    have hkeys : SortedKeys key' (sortedBy key items) := by
      refine List.Pairwise.imp_of_mem ?_ hsorted
      intro a b ha hb hlt
      exact (halike a (mem_sortedBy.mp ha) b (mem_sortedBy.mp hb)).mp hlt
    exact hkeys.eq_of_mem_iff hsorted' fun a => by simp

namespace Json

mutual

/-- The strings in a value, the names of members included. -/
def texts : Json → List String
  | .str s => [s]
  | .arr items => textsItems items
  | .obj fields => textsFields fields
  | _ => []

def textsItems : List Json → List String
  | [] => []
  | item :: items => texts item ++ textsItems items

def textsFields : List (String × Json) → List String
  | [] => []
  | (name, value) :: fields => name :: texts value ++ textsFields fields

end

mutual

/-- The names of the members of each object in a value. -/
def memberNames : Json → List (List String)
  | .arr items => memberNamesItems items
  | .obj fields => fields.map Prod.fst :: memberNamesFields fields
  | _ => []

def memberNamesItems : List Json → List (List String)
  | [] => []
  | item :: items => memberNames item ++ memberNamesItems items

def memberNamesFields : List (String × Json) → List (List String)
  | [] => []
  | (_, value) :: fields => memberNames value ++ memberNamesFields fields

end

theorem mem_texts_arr {items : List Json} {s : String} :
    s ∈ (arr items).texts ↔ ∃ item ∈ items, s ∈ item.texts := by
  rw [texts]
  induction items with
  | nil => simp [textsItems]
  | cons item items ih => simp [textsItems, ih]

theorem mem_texts_obj {fields : List (String × Json)} {s : String} :
    s ∈ (obj fields).texts ↔ ∃ field ∈ fields, s = field.1 ∨ s ∈ field.2.texts := by
  rw [texts]
  induction fields with
  | nil => simp [textsFields]
  | cons field fields ih => simp [textsFields, ih, or_assoc]

theorem mem_memberNames_arr {items : List Json} {names : List String} :
    names ∈ (arr items).memberNames ↔ ∃ item ∈ items, names ∈ item.memberNames := by
  rw [memberNames]
  induction items with
  | nil => simp [memberNamesItems]
  | cons item items ih => simp [memberNamesItems, ih]

theorem mem_memberNames_obj {fields : List (String × Json)} {names : List String} :
    names ∈ (obj fields).memberNames ↔
      names = fields.map Prod.fst ∨ ∃ field ∈ fields, names ∈ field.2.memberNames := by
  have hfields : names ∈ memberNamesFields fields ↔
      ∃ field ∈ fields, names ∈ field.2.memberNames := by
    induction fields with
    | nil => simp [memberNamesFields]
    | cons field fields ih => simp [memberNamesFields, ih]
  rw [memberNames, List.mem_cons, hfields]

theorem mem_texts_canonical {j : Json} {s : String} : s ∈ j.canonical.texts ↔ s ∈ j.texts := by
  induction j using Json.induction with
  | null | bool | int | float | str => simp
  | arr items ih =>
    simp only [canonical_arr, mem_texts_arr, List.mem_map]
    constructor
    · rintro ⟨_, ⟨item, hitem, rfl⟩, hs⟩
      exact ⟨item, hitem, (ih item hitem).mp hs⟩
    · rintro ⟨item, hitem, hs⟩
      exact ⟨_, ⟨item, hitem, rfl⟩, (ih item hitem).mpr hs⟩
  | obj fields ih =>
    simp only [canonical_obj, mem_texts_obj, mem_sortedBy, List.mem_map]
    constructor
    · rintro ⟨_, ⟨field, hfield, rfl⟩, hs⟩
      exact ⟨field, hfield, hs.imp_right (ih field hfield).mp⟩
    · rintro ⟨field, hfield, hs⟩
      exact ⟨_, ⟨field, hfield, rfl⟩, hs.imp_right (ih field hfield).mpr⟩

theorem Same.mem_texts {j k : Json} (h : Same j k) {s : String} : s ∈ j.texts ↔ s ∈ k.texts := by
  rw [← mem_texts_canonical, h, mem_texts_canonical]

variable {κ : Type} [LinearOrder κ] (key : String → κ)

mutual

/-- The value with the members of each of its objects in the order of a key. -/
def canonicalBy : Json → Json
  | .null => .null
  | .bool b => .bool b
  | .int n => .int n
  | .float t => .float t
  | .str s => .str s
  | .arr items => .arr (canonicalByItems items)
  | .obj fields => .obj (sortedBy (fun field => key field.1) (canonicalByFields fields))

def canonicalByItems : List Json → List Json
  | [] => []
  | item :: items => canonicalBy item :: canonicalByItems items

def canonicalByFields : List (String × Json) → List (String × Json)
  | [] => []
  | (name, value) :: fields => (name, canonicalBy value) :: canonicalByFields fields

end

theorem canonicalBy_arr (items : List Json) :
    canonicalBy key (.arr items) = .arr (items.map (canonicalBy key)) := by
  have hitems : canonicalByItems key items = items.map (canonicalBy key) := by
    induction items with
    | nil => rfl
    | cons item items ih => rw [canonicalByItems, ih, List.map_cons]
  rw [canonicalBy, hitems]

theorem canonicalBy_obj (fields : List (String × Json)) :
    canonicalBy key (.obj fields) = .obj (sortedBy (fun field => key field.1)
      (fields.map fun field => (field.1, field.2.canonicalBy key))) := by
  have hfields : canonicalByFields key fields =
      fields.map fun field => (field.1, field.2.canonicalBy key) := by
    induction fields with
    | nil => rfl
    | cons field fields ih => rw [canonicalByFields, ih, List.map_cons]
  rw [canonicalBy, hfields]

variable {key}

theorem canonicalBy_exact {j : Json} (h : j.Exact) :
    (j.canonicalBy key).Exact := by
  induction h with
  | null => simpa [canonicalBy] using Exact.null
  | bool b => simpa [canonicalBy] using Exact.bool b
  | int hn => simpa [canonicalBy] using Exact.int hn
  | str s => simpa [canonicalBy] using Exact.str s
  | arr _ ih =>
    rw [canonicalBy_arr]
    refine .arr fun item hitem => ?_
    obtain ⟨item', hitem', rfl⟩ := List.mem_map.mp hitem
    exact ih item' hitem'
  | @obj fields hnodup _ ih =>
    rw [canonicalBy_obj]
    refine .obj ?_ fun field hfield => ?_
    · rw [((sortedBy_perm _ _).map Prod.fst).nodup_iff]
      simpa [Function.comp_def] using hnodup
    · obtain ⟨field', hfield', rfl⟩ := List.mem_map.mp (mem_sortedBy.mp hfield)
      exact ih field' hfield'

/-- The form does not depend on the order in which the members are given. -/
theorem canonicalBy_canonical (hkey : Function.Injective key) {j : Json} (h : j.Exact) :
    j.canonical.canonicalBy key = j.canonicalBy key := by
  induction h with
  | null | bool | int | str => simp
  | arr _ ih =>
    rw [canonical_arr, canonicalBy_arr, canonicalBy_arr, List.map_map, Json.arr.injEq]
    exact List.map_congr_left ih
  | @obj fields hnodup _ ih =>
    rw [canonical_obj, canonicalBy_obj, canonicalBy_obj, Json.obj.injEq]
    have hmap : fields.map (fun field => (field.1, field.2.canonicalBy key)) =
        (fields.map fun field => (field.1, field.2.canonical)).map
          fun field => (field.1, field.2.canonicalBy key) := by
      rw [List.map_map]
      exact List.map_congr_left fun field hfield => by simp [ih field hfield]
    rw [hmap]
    refine sortedBy_eq_of_perm ((sortedBy_perm _ _).map _) ?_
    rw [List.map_map, ((sortedBy_perm Prod.fst _).map _).nodup_iff, List.map_map]
    simpa [Function.comp_def] using List.Nodup.map hkey hnodup

theorem canonicalBy_congr (hkey : Function.Injective key) {j k : Json} (hj : j.Exact)
    (hk : k.Exact) (h : Same j k) : j.canonicalBy key = k.canonicalBy key := by
  rw [← canonicalBy_canonical hkey hj, h, canonicalBy_canonical hkey hk]

/-- A key gives the canonical form exactly when it orders the names of each object as strings are
ordered. -/
theorem canonicalBy_eq_canonical_iff (hkey : Function.Injective key) {j : Json} (h : j.Exact) :
    j.canonicalBy key = j.canonical ↔
      ∀ names ∈ j.memberNames, ∀ a ∈ names, ∀ b ∈ names, (key a < key b ↔ a < b) := by
  induction h with
  | null | bool | int | str => simp [canonicalBy, memberNames]
  | @arr items _ ih =>
    rw [canonicalBy_arr, canonical_arr, Json.arr.injEq, List.map_inj_left]
    simp only [mem_memberNames_arr]
    constructor
    · rintro heq names ⟨item, hitem, hnames⟩
      exact (ih item hitem).mp (heq item hitem) names hnames
    · intro hall item hitem
      exact (ih item hitem).mpr fun names hnames => hall names ⟨item, hitem, hnames⟩
  | @obj fields hnodup _ ih =>
    have hsort : ∀ {κ' : Type} [LinearOrder κ'] (key' : String → κ') (value : Json → Json),
        sortedBy (fun field => key' field.1) (fields.map fun field => (field.1, value field.2)) =
          (sortedBy (fun field => key' field.1) fields).map
            fun field => (field.1, value field.2) :=
      fun key' value => sortedBy_map _ _ fields
    have hnames : (∀ a ∈ fields.map Prod.fst, ∀ b ∈ fields.map Prod.fst, (key a < key b ↔ a < b)) ↔
        sortedBy (fun field => key field.1) fields = sortedBy (fun field => id field.1) fields := by
      rw [sortedBy_eq_sortedBy_iff]
      · simp
      · simpa [Function.comp_def] using List.Nodup.map hkey hnodup
      · simpa using hnodup
    have hfst : ∀ l : List (String × Json), ∀ value : Json → Json,
        (l.map fun field => (field.1, value field.2)).map Prod.fst = l.map Prod.fst := by
      simp
    rw [canonicalBy_obj, canonical_obj, Json.obj.injEq, hsort key (canonicalBy key),
      show sortedBy Prod.fst (fields.map fun field => (field.1, field.2.canonical)) =
        (sortedBy (fun field => id field.1) fields).map fun field => (field.1, field.2.canonical)
        from hsort id canonical]
    simp only [mem_memberNames_obj]
    constructor
    · intro heq
      have hequal : sortedBy key (fields.map Prod.fst) = sortedBy id (fields.map Prod.fst) := by
        have hmapped := congrArg (List.map Prod.fst) heq
        rw [hfst, hfst] at hmapped
        rwa [sortedBy_map key Prod.fst, sortedBy_map id Prod.fst]
      have halike := (sortedBy_eq_sortedBy_iff (List.Nodup.map hkey hnodup)
        (by simpa using hnodup)).mp hequal
      rw [hnames.mp halike, List.map_inj_left] at heq
      rintro names (rfl | ⟨field, hfield, hmem⟩)
      · exact halike
      · have hvalue := heq field (mem_sortedBy.mpr hfield)
        exact (ih field hfield).mp (Prod.ext_iff.mp hvalue).2 names hmem
    · intro hall
      rw [hnames.mp (hall _ (Or.inl rfl)), List.map_inj_left]
      intro field hfield
      rw [mem_sortedBy] at hfield
      have hvalue := (ih field hfield).mpr fun names hmem => hall names (Or.inr ⟨field, hfield, hmem⟩)
      rw [hvalue]

/-! ### Writers that differ in what they escape -/

section

variable (escape : Char → List Char)

/-- A string literal with the given escapes. -/
def literal (s : String) : List Char := '"' :: s.toList.flatMap escape ++ ['"']

mutual

/-- The text of a value with the given escapes. -/
def writeWith : Json → List Char
  | .null => ['n', 'u', 'l', 'l']
  | .bool true => ['t', 'r', 'u', 'e']
  | .bool false => ['f', 'a', 'l', 's', 'e']
  | .int n => writeInt n
  | .float token => token.toList
  | .str s => literal escape s
  | .arr items => '[' :: List.intercalate [','] (writeWithItems items) ++ [']']
  | .obj fields => '{' :: List.intercalate [','] (writeWithFields fields) ++ ['}']

def writeWithItems : List Json → List (List Char)
  | [] => []
  | item :: items => writeWith item :: writeWithItems items

def writeWithFields : List (String × Json) → List (List Char)
  | [] => []
  | (name, value) :: fields =>
    (literal escape name ++ ':' :: writeWith value) :: writeWithFields fields

end

theorem writeWith_arr (items : List Json) : writeWith escape (.arr items) =
    '[' :: List.intercalate [','] (items.map (writeWith escape)) ++ [']'] := by
  have hitems : writeWithItems escape items = items.map (writeWith escape) := by
    induction items with
    | nil => rfl
    | cons item items ih => rw [writeWithItems, ih, List.map_cons]
  rw [writeWith, hitems]

/-- The text of a member. -/
def writeField (field : String × Json) : List Char :=
  literal escape field.1 ++ ':' :: writeWith escape field.2

theorem writeWith_obj (fields : List (String × Json)) : writeWith escape (.obj fields) =
    '{' :: List.intercalate [','] (fields.map (writeField escape)) ++ ['}'] := by
  have hfields : writeWithFields escape fields = fields.map (writeField escape) := by
    induction fields with
    | nil => rfl
    | cons field fields ih => rw [writeWithFields, ih, List.map_cons, writeField]
  rw [writeWith, hfields]

end

theorem writeWith_escapeChar (j : Json) : writeWith escapeChar j = j.write := by
  induction j using Json.induction with
  | null | float | str => rfl
  | bool b => cases b <;> rfl
  | int n => rw [writeWith, write]
  | arr items ih =>
    rw [writeWith_arr, write]
    have hitems : List.intercalate [','] (items.map (writeWith escapeChar)) = writeItems items := by
      induction items with
      | nil => rfl
      | cons item items ihs =>
        have ihs := ihs fun item hitem => ih item (List.mem_cons_of_mem _ hitem)
        cases items with
        | nil => simp [writeItems, ih, List.intercalate]
        | cons next items =>
          rw [writeItems, ← ihs, ← ih item List.mem_cons_self]
          · simp [List.intercalate]
          · simp
    rw [hitems]
  | obj fields ih =>
    rw [writeWith_obj, write]
    have hfields : List.intercalate [','] (fields.map (writeField escapeChar)) =
        writeFields fields := by
      induction fields with
      | nil => rfl
      | cons field fields ihs =>
        have ihs := ihs fun field hfield => ih field (List.mem_cons_of_mem _ hfield)
        have hfield : writeField escapeChar field = writeString field.1 ++ ':' :: field.2.write := by
          rw [writeField, ih field List.mem_cons_self]
          rfl
        cases fields with
        | nil => simp [writeFields, hfield, List.intercalate]
        | cons next fields =>
          rw [writeFields, ← ihs, ← hfield]
          · simp [List.intercalate, hfield]
          · simp
    rw [hfields]

theorem literal_congr {escape escape' : Char → List Char} {s : String}
    (h : ∀ c ∈ s.toList, escape c = escape' c) : literal escape s = literal escape' s := by
  have hmap : s.toList.flatMap escape = s.toList.flatMap escape' := List.flatMap_congr h
  rw [literal, literal, hmap]

/-- Only the characters that occur in a value matter for its text. -/
theorem writeWith_congr {escape escape' : Char → List Char} {j : Json}
    (h : ∀ s ∈ j.texts, ∀ c ∈ s.toList, escape c = escape' c) :
    writeWith escape j = writeWith escape' j := by
  induction j using Json.induction with
  | null | int | float => rfl
  | bool b => cases b <;> rfl
  | str s => exact literal_congr (h s (by simp [texts]))
  | arr items ih =>
    have hitems : items.map (writeWith escape) = items.map (writeWith escape') :=
      List.map_congr_left fun item hitem =>
        ih item hitem fun s hs => h s (mem_texts_arr.mpr ⟨item, hitem, hs⟩)
    rw [writeWith_arr, writeWith_arr, hitems]
  | obj fields ih =>
    have hfields : fields.map (writeField escape) = fields.map (writeField escape') := by
      refine List.map_congr_left fun field hfield => ?_
      have hname := literal_congr (h field.1 (mem_texts_obj.mpr ⟨field, hfield, Or.inl rfl⟩))
      have hvalue := ih field hfield fun s hs => h s (mem_texts_obj.mpr ⟨field, hfield, Or.inr hs⟩)
      rw [writeField, writeField, hname, hvalue]
    rw [writeWith_obj, writeWith_obj, hfields]

theorem mem_intercalate {α : Type} {sep part : List α} {parts : List (List α)} {x : α}
    (h : part ∈ parts) (hx : x ∈ part) : x ∈ List.intercalate sep parts := by
  induction parts with
  | nil => simp at h
  | cons first parts ih =>
    cases parts with
    | nil => simpa [List.intercalate, ← List.mem_singleton.mp h] using hx
    | cons next parts =>
      rw [List.intercalate_cons_cons, List.mem_append, List.mem_append]
      rcases List.mem_cons.mp h with rfl | h
      · exact Or.inl (Or.inl hx)
      · exact Or.inr (ih h)

theorem mem_literal {escape : Char → List Char} {s : String} {c x : Char} (hc : c ∈ s.toList)
    (hx : x ∈ escape c) : x ∈ literal escape s := by
  rw [literal, List.mem_append, List.mem_cons]
  exact Or.inl (Or.inr (List.mem_flatMap.mpr ⟨c, hc, hx⟩))

/-- What is written for a character of a value stands in its text. -/
theorem mem_writeWith {escape : Char → List Char} {j : Json} {s : String} (hs : s ∈ j.texts)
    {c x : Char} (hc : c ∈ s.toList) (hx : x ∈ escape c) : x ∈ writeWith escape j := by
  induction j using Json.induction with
  | null | bool | int | float => simp [texts] at hs
  | str t =>
    rw [texts, List.mem_singleton] at hs
    subst hs
    exact mem_literal hc hx
  | arr items ih =>
    obtain ⟨item, hitem, hs⟩ := mem_texts_arr.mp hs
    have hmem := @mem_intercalate _ [','] _ _ _ (List.mem_map.mpr ⟨item, hitem, rfl⟩)
      (ih item hitem hs)
    rw [writeWith_arr, List.mem_append, List.mem_cons]
    exact Or.inl (Or.inr hmem)
  | obj fields ih =>
    obtain ⟨field, hfield, hs⟩ := mem_texts_obj.mp hs
    have hpart : x ∈ writeField escape field := by
      rw [writeField, List.mem_append, List.mem_cons]
      rcases hs with rfl | hs
      · exact Or.inl (mem_literal hc hx)
      · exact Or.inr (Or.inr (ih field hfield hs))
    have hmem := @mem_intercalate _ [','] _ _ _ (List.mem_map.mpr ⟨field, hfield, rfl⟩) hpart
    rw [writeWith_obj, List.mem_append, List.mem_cons]
    exact Or.inl (Or.inr hmem)

end Json

end Ucf
