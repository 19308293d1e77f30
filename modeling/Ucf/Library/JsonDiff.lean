import Ucf.Library.CodeUnits
import Ucf.Library.Schema
import Ucf.Library.WordOrder

/-! The places at which two JSON values differ, as a walk through both finds them, and the order of
their JSON pointers. -/

namespace Ucf

namespace Json

/-! ### The walk -/

section Walk

variable {π : Type}

mutual

/-- The places below `path` at which two values differ, with the members of objects in key order and
the items of arrays in their order. -/
def changes (child : π → Coordinate → π) : Json → Json → π → List π
  | .obj base, final, path =>
    match final with
    | .obj final =>
      (sortedSet (base.map Prod.fst ++ final.map Prod.fst)).flatMap fun key =>
        match (memberChanges child base).find? fun member => member.1 = key,
          (Json.obj final).get? key with
        | some member, some value => member.2 value (child path (.name key))
        | _, _ => [child path (.name key)]
    | _ => [path]
  | .arr base, final, path =>
    match final with
    | .arr final => itemChanges child base final 0 path
    | _ => [path]
  | .null, final, path => if final = .null then [] else [path]
  | .bool b, final, path => if final = .bool b then [] else [path]
  | .int n, final, path => if final = .int n then [] else [path]
  | .float t, final, path => if final = .float t then [] else [path]
  | .str s, final, path => if final = .str s then [] else [path]

/-- For each member, the walk through its value. -/
def memberChanges (child : π → Coordinate → π) :
    List (String × Json) → List (String × (Json → π → List π))
  | [] => []
  | (key, value) :: fields => (key, changes child value) :: memberChanges child fields

/-- The walk through the items from an index on. -/
def itemChanges (child : π → Coordinate → π) : List Json → List Json → Nat → π → List π
  | [], final, start, path =>
    (List.range' start final.length).map fun index => child path (.index index)
  | value :: base, final, start, path =>
    match final with
    | [] => (List.range' start (base.length + 1)).map fun index => child path (.index index)
    | value' :: final =>
      changes child value value' (child path (.index start)) ++
        itemChanges child base final (start + 1) path

end

variable {child : π → Coordinate → π}

theorem find?_memberChanges {fields : List (String × Json)} {key : String} :
    (memberChanges child fields).find? (fun member => member.1 = key) =
      ((Json.obj fields).get? key).map fun value => (key, changes child value) := by
  rw [get?_obj]
  induction fields with
  | nil => rfl
  | cons field fields ih =>
    obtain ⟨name, value⟩ := field
    rw [memberChanges, List.find?_cons, List.find?_cons]
    by_cases h : name = key
    · simp [h]
    · simp only [h, decide_false, ih]

/-- The walk through the members under one key. -/
def changesAt (child : π → Coordinate → π) (base final : Option Json) (path : π) : List π :=
  match base, final with
  | some value, some value' => changes child value value' path
  | _, _ => [path]

theorem changes_obj {base final : List (String × Json)} {path : π} :
    changes child (.obj base) (.obj final) path =
      (sortedSet (base.map Prod.fst ++ final.map Prod.fst)).flatMap fun key =>
        changesAt child ((Json.obj base).get? key) ((Json.obj final).get? key)
          (child path (.name key)) := by
  rw [changes]
  congr 1
  funext key
  rw [find?_memberChanges]
  cases (Json.obj base).get? key <;> cases (Json.obj final).get? key <;> rfl

theorem itemChanges_eq {base final : List Json} {start : Nat} {path : π} :
    itemChanges child base final start path =
      (List.range (max base.length final.length)).flatMap fun index =>
        changesAt child base[index]? final[index]? (child path (.index (start + index))) := by
  have hmap : ∀ n start, (List.range' start n).map (fun index => child path (.index index)) =
      (List.range n).flatMap fun index => [child path (.index (start + index))] := by
    intro n start
    rw [List.range'_eq_map_range, List.map_map, ← List.map_eq_flatMap]
    rfl
  induction base generalizing final start with
  | nil =>
    rw [itemChanges, hmap, List.length_nil, Nat.zero_max]
    rfl
  | cons value base ih =>
    cases final with
    | nil =>
      rw [itemChanges, hmap, List.length_nil, Nat.max_zero, List.length_cons]
      congr 1
      funext index
      cases (value :: base)[index]? <;> rfl
    | cons value' final =>
      rw [itemChanges, ih, List.length_cons, List.length_cons, Nat.succ_max_succ,
        List.range_succ_eq_map, List.flatMap_cons, List.flatMap_map]
      congr 1
      refine List.flatMap_congr fun index _ => ?_
      rw [Nat.add_assoc, Nat.add_comm 1 index]
      rfl

end Walk

/-! ### Containers and their parts -/

/-- Both are objects, or both are arrays. -/
def Alike : Json → Json → Prop
  | .obj _, .obj _ => True
  | .arr _, .arr _ => True
  | _, _ => False

/-- The value of a member, or an item. -/
def at? : Json → Coordinate → Option Json
  | .obj fields, .name name => (Json.obj fields).get? name
  | .arr items, .index index => items[index]?
  | _, _ => none

/-- The coordinates of the parts of both, in the order of the walk. -/
def places : Json → Json → List Coordinate
  | .obj base, .obj final => (sortedSet (base.map Prod.fst ++ final.map Prod.fst)).map .name
  | .arr base, .arr final => (List.range (max base.length final.length)).map .index
  | _, _ => []

/-- Names come in their order and indexes in theirs. -/
inductive CoordinateLt : Coordinate → Coordinate → Prop
  | name {a b : String} (h : a < b) : CoordinateLt (.name a) (.name b)
  | index {i j : Nat} (h : i < j) : CoordinateLt (.index i) (.index j)

/-- Induction over a value and its parts. -/
@[elab_as_elim]
theorem partsInduction {motive : Json → Prop}
    (h : ∀ a, (∀ c x, a.at? c = some x → motive x) → motive a) (a : Json) : motive a := by
  induction a using Json.induction with
  | arr items ih =>
    refine h _ fun c x hx => ?_
    cases c with
    | name name => cases hx
    | index index => exact ih x (List.mem_of_getElem? hx)
  | obj fields ih =>
    refine h _ fun c x hx => ?_
    cases c with
    | name name => exact ih (name, x) (mem_of_get?_obj hx)
    | index index => cases hx
  | _ => exact h _ fun c x hx => by cases c <;> cases hx

theorem places_sorted (a b : Json) : (places a b).Pairwise CoordinateLt := by
  unfold places
  split
  · exact List.pairwise_map.mpr ((sortedSet_pairwise _).imp .name)
  · exact List.pairwise_map.mpr (List.pairwise_lt_range.imp .index)
  · exact .nil

theorem mem_names_iff {fields : List (String × Json)} {name : String} :
    name ∈ fields.map Prod.fst ↔ ∃ x, (Json.obj fields).get? name = some x := by
  rw [get?_obj]
  simp only [Option.map_eq_some_iff, List.mem_map]
  constructor
  · rintro ⟨field, hmem, rfl⟩
    cases hfind : fields.find? fun f => f.1 = field.1 with
    | some found => exact ⟨_, found, rfl, rfl⟩
    | none =>
      have hne := List.find?_eq_none.mp hfind field hmem
      simp at hne
  · rintro ⟨x, field, hfind, rfl⟩
    exact ⟨field, List.mem_of_find?_eq_some hfind, by simpa using List.find?_some hfind⟩

theorem mem_places {a b : Json} (h : Alike a b) {c : Coordinate} :
    c ∈ places a b ↔ (∃ x, a.at? c = some x) ∨ ∃ y, b.at? c = some y := by
  unfold Alike at h
  split at h
  · cases c with
    | name name => simp [places, at?, ← mem_names_iff]
    | index index => simp [places, at?]
  · cases c with
    | name name => simp [places, at?]
    | index index => simp [places, at?, List.getElem?_eq_some_iff]
  · exact absurd h id

section Walk

variable {π : Type} {child : π → Coordinate → π} {a b : Json}

theorem changes_of_alike (h : Alike a b) {path : π} : changes child a b path =
    (places a b).flatMap fun c => changesAt child (a.at? c) (b.at? c) (child path c) := by
  unfold Alike at h
  split at h
  · rw [changes_obj, places, List.flatMap_map]
    rfl
  · rw [changes, itemChanges_eq, places, List.flatMap_map]
    simp only [Nat.zero_add]
    rfl
  · exact absurd h id

theorem changes_of_not_alike (h : ¬Alike a b) {path : π} :
    changes child a b path = if b = a then [] else [path] := by
  cases a with
  | obj base =>
    cases b with
    | obj final => exact absurd trivial h
    | _ => rw [changes] <;> simp
  | arr base =>
    cases b with
    | arr final => exact absurd trivial h
    | _ => rw [changes] <;> simp
  | _ => rw [changes]

end Walk

/-! ### Differences -/

/-- The values differ at a position: both have it and it is no common container, or one of them
has it in a common container. -/
inductive DiffersAt : Json → Json → List Coordinate → Prop
  | here {a b : Json} (hnot : ¬Alike a b) (hne : a ≠ b) : DiffersAt a b []
  | under {a b x y : Json} {c : Coordinate} {position : List Coordinate} (halike : Alike a b)
      (hx : a.at? c = some x) (hy : b.at? c = some y) (h : DiffersAt x y position) :
      DiffersAt a b (c :: position)
  | left {a b x : Json} {c : Coordinate} (halike : Alike a b) (hx : a.at? c = some x)
      (hy : b.at? c = none) : DiffersAt a b [c]
  | right {a b y : Json} {c : Coordinate} (halike : Alike a b) (hx : a.at? c = none)
      (hy : b.at? c = some y) : DiffersAt a b [c]

/-- The positions that the walk finds. -/
def differences (a b : Json) : List (List Coordinate) :=
  changes (fun position c => position ++ [c]) a b []

theorem mem_changes {a b : Json} {start position : List Coordinate} :
    position ∈ changes (fun position c => position ++ [c]) a b start ↔
      ∃ rest, DiffersAt a b rest ∧ position = start ++ rest := by
  induction a using partsInduction generalizing b start with
  | h a ih =>
    by_cases halike : Alike a b
    · rw [changes_of_alike halike, List.mem_flatMap]
      constructor
      · rintro ⟨c, hc, hmem⟩
        cases hx : a.at? c with
        | none =>
          obtain ⟨y, hy⟩ := ((mem_places halike).mp hc).resolve_left (by simp [hx])
          rw [hx, changesAt, List.mem_singleton] at hmem
          · exact ⟨[c], .right halike hx hy, hmem⟩
          · simp
        | some x =>
          cases hy : b.at? c with
          | none =>
            rw [hx, hy, changesAt, List.mem_singleton] at hmem
            · exact ⟨[c], .left halike hx hy, hmem⟩
            · simp
          | some y =>
            rw [hx, hy, changesAt, ih c x hx] at hmem
            obtain ⟨rest, hrest, rfl⟩ := hmem
            exact ⟨c :: rest, .under halike hx hy hrest, by simp⟩
      · rintro ⟨rest, hrest, rfl⟩
        cases hrest with
        | here hnot => exact absurd halike hnot
        | @under _ _ x y c rest _ hx hy h =>
          refine ⟨c, (mem_places halike).mpr (.inl ⟨x, hx⟩), ?_⟩
          rw [hx, hy, changesAt, ih c x hx]
          exact ⟨rest, h, by simp⟩
        | @left _ _ x c _ hx hy =>
          refine ⟨c, (mem_places halike).mpr (.inl ⟨x, hx⟩), ?_⟩
          rw [hx, hy]
          exact List.mem_singleton_self _
        | @right _ _ y c _ hx hy =>
          refine ⟨c, (mem_places halike).mpr (.inr ⟨y, hy⟩), ?_⟩
          rw [hx, hy]
          exact List.mem_singleton_self _
    · rw [changes_of_not_alike halike]
      constructor
      · intro hmem
        split at hmem
        · cases hmem
        · rename_i hne
          rw [List.mem_singleton] at hmem
          exact ⟨[], .here halike fun heq => hne heq.symm, by rw [hmem, List.append_nil]⟩
      · rintro ⟨rest, hrest, rfl⟩
        cases hrest with
        | here _ hne => rw [if_neg fun heq => hne heq.symm, List.append_nil, List.mem_singleton]
        | under halike' => exact absurd halike' halike
        | left halike' => exact absurd halike' halike
        | right halike' => exact absurd halike' halike

/-- The walk finds the positions at which the values differ. -/
theorem mem_differences {a b : Json} {position : List Coordinate} :
    position ∈ differences a b ↔ DiffersAt a b position := by
  rw [differences, mem_changes]
  simp

/-- A walk that keeps other paths finds the images of the same positions. -/
theorem map_changes {π ρ : Type} {child : π → Coordinate → π} {child' : ρ → Coordinate → ρ}
    {f : π → ρ} (h : ∀ path c, f (child path c) = child' (f path) c) {a b : Json} {path : π} :
    (changes child a b path).map f = changes child' a b (f path) := by
  induction a using partsInduction generalizing b path with
  | h a ih =>
    by_cases halike : Alike a b
    · rw [changes_of_alike halike, changes_of_alike halike, List.map_flatMap]
      congr 1
      funext c
      rw [← h]
      cases hx : a.at? c with
      | none => rfl
      | some x =>
        cases hy : b.at? c with
        | none => rfl
        | some y => exact ih c x hx
    · rw [changes_of_not_alike halike, changes_of_not_alike halike]
      split <;> rfl

theorem changes_eq_map {π : Type} {child : π → Coordinate → π} {a b : Json} {path : π} :
    changes child a b path = (differences a b).map fun position => position.foldl child path := by
  have h := @map_changes _ π (fun position c => position ++ [c]) child
    (fun position => position.foldl child path) (by simp) a b []
  exact h.symm

/-! ### The order of the walk -/

theorem exists_of_mem_changesAt {x y : Option Json} {start position : List Coordinate}
    {c : Coordinate} (h : position ∈ changesAt (fun position c => position ++ [c]) x y
      (start ++ [c])) : ∃ rest, position = start ++ c :: rest := by
  unfold changesAt at h
  split at h
  · obtain ⟨rest, -, rfl⟩ := mem_changes.mp h
    exact ⟨rest, by simp⟩
  · exact ⟨[], List.mem_singleton.mp h⟩

theorem changes_pairwise {a b : Json} {start : List Coordinate} :
    (changes (fun position c => position ++ [c]) a b start).Pairwise fun p q =>
      ∃ r s, p = start ++ r ∧ q = start ++ s ∧ Differs CoordinateLt r s := by
  induction a using partsInduction generalizing b start with
  | h a ih =>
    by_cases halike : Alike a b
    · rw [changes_of_alike halike, List.pairwise_flatMap]
      constructor
      · intro c _
        cases hx : a.at? c with
        | none => exact List.pairwise_singleton _ _
        | some x =>
          cases hy : b.at? c with
          | none => exact List.pairwise_singleton _ _
          | some y =>
            refine (@ih c x hx y (start ++ [c])).imp ?_
            rintro p q ⟨r, s, rfl, rfl, hdiffers⟩
            exact ⟨c :: r, c :: s, by simp, by simp, differs_cons.mpr (.inr ⟨rfl, hdiffers⟩)⟩
      · refine (places_sorted a b).imp fun {c c'} hlt p hp q hq => ?_
        obtain ⟨r, rfl⟩ := exists_of_mem_changesAt hp
        obtain ⟨s, rfl⟩ := exists_of_mem_changesAt hq
        exact ⟨c :: r, c' :: s, rfl, rfl, differs_cons.mpr (.inl hlt)⟩
    · rw [changes_of_not_alike halike]
      split
      · exact .nil
      · exact List.pairwise_singleton _ _

/-- Of two positions the walk finds the one first that goes on with the lesser coordinate. -/
theorem differences_pairwise (a b : Json) :
    (differences a b).Pairwise (Differs CoordinateLt) := by
  refine changes_pairwise.imp ?_
  rintro p q ⟨r, s, rfl, rfl, h⟩
  exact h

theorem CoordinateLt.asymm {c c' : Coordinate} (h : CoordinateLt c c') : ¬CoordinateLt c' c := by
  intro h'
  cases h with
  | name hlt =>
    cases h' with
    | name hlt' => exact lt_asymm hlt hlt'
  | index hlt =>
    cases h' with
    | index hlt' => exact Nat.lt_asymm hlt hlt'

theorem not_differs_of_lt {common r s : List Coordinate} {c c' : Coordinate}
    (h : CoordinateLt c c') : ¬Differs CoordinateLt (common ++ c' :: s) (common ++ c :: r) := by
  induction common with
  | nil =>
    rw [List.nil_append, List.nil_append, differs_cons]
    rintro (hlt | ⟨rfl, -⟩)
    · exact h.asymm hlt
    · exact h.asymm h
  | cons d common ih =>
    rw [List.cons_append, List.cons_append, differs_cons]
    rintro (hlt | ⟨-, hdiffers⟩)
    · exact hlt.asymm hlt
    · exact ih hdiffers

/-! ### Pointers -/

/-- `value.replace("~", "~0").replace("/", "~1")` -/
def escapePointer (value : String) : String :=
  String.ofList ((value.toList.flatMap fun c => if c = '~' then ['~', '0'] else [c]).flatMap
    fun c => if c = '/' then ['~', '1'] else [c])

/-- The text of a coordinate in a pointer. -/
def token : Coordinate → String
  | .name name => escapePointer name
  | .index index => toString index

/-- The JSON pointer of a position. -/
def pointer (position : List Coordinate) : String :=
  position.foldl (fun path c => path ++ "/" ++ token c) ""

theorem toList_foldl_pointer (start : String) (position : List Coordinate) :
    (position.foldl (fun path c => path ++ "/" ++ token c) start).toList =
      start.toList ++ position.flatMap fun c => '/' :: (token c).toList := by
  induction position generalizing start with
  | nil => simp
  | cons c position ih =>
    rw [List.foldl_cons, ih, String.toList_append, String.toList_append, List.flatMap_cons]
    simp

theorem toList_pointer (position : List Coordinate) :
    (pointer position).toList = position.flatMap fun c => '/' :: (token c).toList := by
  rw [pointer, toList_foldl_pointer]
  rfl

theorem pointer_lt_iff {common r s : List Coordinate} {c c' : Coordinate}
    (hc : WordAfter '/' (token c)) (hc' : WordAfter '/' (token c')) (hne : token c ≠ token c') :
    pointer (common ++ c :: r) < pointer (common ++ c' :: s) ↔ token c < token c' := by
  have hrest : ∀ position : List Coordinate,
      ∀ x ∈ (position.flatMap fun c => '/' :: (token c).toList).head?, x = '/' := by
    intro position
    cases position with
    | nil => simp
    | cons d position => simp
  rw [String.lt_iff_toList_lt, String.lt_iff_toList_lt, toList_pointer, toList_pointer,
    List.flatMap_append, List.flatMap_append, append_lt_append_left_iff, List.flatMap_cons,
    List.flatMap_cons, List.cons_append, List.cons_append, List.cons_lt_cons_iff,
    append_word_lt_iff hc hc' (hrest r) (hrest s) fun h => hne (String.toList_inj.mp h)]
  simp

/-- The characters of a name come after `@`, and none is the escape. -/
def PlainName (name : String) : Prop := ∀ c ∈ name.toList, '@' < c ∧ c ≠ '~'

/-- All member names in the value are plain. -/
inductive PlainKeys : Json → Prop
  | null : PlainKeys .null
  | bool (b : Bool) : PlainKeys (.bool b)
  | int (n : Int) : PlainKeys (.int n)
  | float (t : String) : PlainKeys (.float t)
  | str (s : String) : PlainKeys (.str s)
  | arr {items : List Json} (h : ∀ item ∈ items, PlainKeys item) : PlainKeys (.arr items)
  | obj {fields : List (String × Json)} (hnames : ∀ field ∈ fields, PlainName field.1)
      (h : ∀ field ∈ fields, PlainKeys field.2) : PlainKeys (.obj fields)

theorem escapePointer_of_plain {name : String} (h : PlainName name) : escapePointer name = name := by
  have htilde : (name.toList.flatMap fun c => if c = '~' then ['~', '0'] else [c]) =
      name.toList := by
    rw [List.flatMap_congr fun c hc => if_neg (h c hc).2]
    exact List.flatMap_singleton' _
  have hslash : (name.toList.flatMap fun c => if c = '/' then ['~', '1'] else [c]) =
      name.toList := by
    rw [List.flatMap_congr fun c hc => if_neg (by
      rintro rfl
      exact absurd (h _ hc).1 (by decide))]
    exact List.flatMap_singleton' _
  rw [escapePointer, htilde, hslash, String.ofList_toList]

/-- A coordinate is an index or has a plain name. -/
def PlainCoordinate : Coordinate → Prop
  | .name name => PlainName name
  | .index _ => True

theorem isDigit_of_mem_toString {n : Nat} {d : Char} (h : d ∈ (toString n).toList) :
    '0' ≤ d ∧ d ≤ '9' := by
  rw [Nat.toString_eq_repr, Nat.toList_repr] at h
  have hdigit := @Nat.isDigit_of_mem_toDigits 10 n d (by decide) (by decide) h
  simp only [Char.isDigit, ge_iff_le, Bool.and_eq_true, decide_eq_true_eq] at hdigit
  exact hdigit

theorem wordAfter_token {c : Coordinate} (h : PlainCoordinate c) : WordAfter '/' (token c) := by
  cases c with
  | name name =>
    rw [token, escapePointer_of_plain h]
    exact fun d hd => lt_trans (by decide) (h d hd).1
  | index index => exact fun d hd => lt_of_lt_of_le (by decide) (isDigit_of_mem_toString hd).1

theorem at_notMem_token {c : Coordinate} (h : PlainCoordinate c) : '@' ∉ (token c).toList := by
  cases c with
  | name name =>
    rw [token, escapePointer_of_plain h]
    exact fun hmem => lt_irrefl _ (h _ hmem).1
  | index index => exact fun hmem => absurd (isDigit_of_mem_toString hmem).2 (by decide)

theorem at_notMem_pointer {position : List Coordinate} (h : ∀ c ∈ position, PlainCoordinate c) :
    '@' ∉ (pointer position).toList := by
  rw [toList_pointer, List.mem_flatMap]
  rintro ⟨c, hc, hmem⟩
  rcases List.mem_cons.mp hmem with hslash | htoken
  · exact absurd hslash (by decide)
  · exact at_notMem_token (h c hc) htoken

theorem toString_nat_inj {i j : Nat} (h : toString i = toString j) : i = j := by
  have hdigits := congrArg String.toList h
  rw [Nat.toString_eq_repr, Nat.toString_eq_repr, Nat.toList_repr, Nat.toList_repr] at hdigits
  rw [← @Nat.ofDigitChars_ten_toDigits i, hdigits, Nat.ofDigitChars_ten_toDigits]

theorem token_ne {c c' : Coordinate} (h : PlainCoordinate c) (h' : PlainCoordinate c')
    (hlt : CoordinateLt c c') : token c ≠ token c' := by
  cases hlt with
  | name hlt =>
    rw [token, token, escapePointer_of_plain h, escapePointer_of_plain h']
    exact hlt.ne
  | index hlt => exact fun heq => hlt.ne (toString_nat_inj heq)

/-! ### Sorted pointers -/

section Sorted

variable {a b : Json}

theorem PlainKeys.at? {x : Json} {c : Coordinate} (h : PlainKeys a) (hx : a.at? c = some x) :
    PlainCoordinate c ∧ PlainKeys x := by
  cases h with
  | obj hnames hfields =>
    cases c with
    | name name =>
      have hmem := mem_of_get?_obj hx
      exact ⟨hnames _ hmem, hfields _ hmem⟩
    | index index => cases hx
  | arr hitems =>
    cases c with
    | name name => cases hx
    | index index => exact ⟨trivial, hitems x (List.mem_of_getElem? hx)⟩
  | _ => cases c <;> cases hx

theorem DiffersAt.plain {position : List Coordinate} (h : DiffersAt a b position)
    (ha : PlainKeys a) (hb : PlainKeys b) : ∀ c ∈ position, PlainCoordinate c := by
  induction h with
  | here => simp
  | under _ hx hy _ ih =>
    exact List.forall_mem_cons.mpr ⟨(ha.at? hx).1, ih (ha.at? hx).2 (hb.at? hy).2⟩
  | left _ hx => simpa using (ha.at? hx).1
  | right _ _ hy => simpa using (hb.at? hy).1

/-- Where the values differ below two indexes of one array, the indexes are in the same order as
texts and as numbers. -/
def IndexesOrdered (a b : Json) : Prop :=
  ∀ common i j r s, DiffersAt a b (common ++ .index i :: r) →
    DiffersAt a b (common ++ .index j :: s) → i < j → toString i < toString j

theorem pairwise_of_not_before {α : Type} {r s : α → α → Prop} {items : List α}
    (hr : items.Pairwise r) (hs : items.Pairwise s) {p q : α} (hp : p ∈ items) (hq : q ∈ items)
    (hne : p ≠ q) (hnot : ¬r q p) : s p q := by
  obtain ⟨i, hi, rfl⟩ := List.mem_iff_getElem.mp hp
  obtain ⟨j, hj, rfl⟩ := List.mem_iff_getElem.mp hq
  rcases Nat.lt_trichotomy i j with hij | rfl | hij
  · exact List.pairwise_iff_getElem.mp hs i j hi hj hij
  · exact absurd rfl hne
  · exact absurd (List.pairwise_iff_getElem.mp hr j i hj hi hij) hnot

/-- The pointers come sorted exactly when the indexes do. -/
theorem pointers_sorted_iff (ha : PlainKeys a) (hb : PlainKeys b) :
    ((differences a b).map pointer).Pairwise (· < ·) ↔ IndexesOrdered a b := by
  have hplain : ∀ {common r : List Coordinate} {c : Coordinate},
      DiffersAt a b (common ++ c :: r) → PlainCoordinate c := fun h =>
    h.plain ha hb _ (by simp)
  rw [List.pairwise_map]
  constructor
  · intro hsorted common i j r s hi hj hlt
    have hindex : CoordinateLt (.index i) (.index j) := .index hlt
    have hne : common ++ .index i :: r ≠ common ++ .index j :: s := by
      intro heq
      have hcons := List.append_cancel_left heq
      rw [List.cons.injEq, Coordinate.index.injEq] at hcons
      exact hlt.ne hcons.1
    have hpointer := pairwise_of_not_before (differences_pairwise a b) hsorted
      (mem_differences.mpr hi) (mem_differences.mpr hj) hne (not_differs_of_lt hindex)
    exact (pointer_lt_iff (wordAfter_token (hplain hi)) (wordAfter_token (hplain hj))
      (token_ne (hplain hi) (hplain hj) hindex)).mp hpointer
  · intro hordered
    refine List.Pairwise.imp_of_mem (fun {p q} hp hq hdiffers => ?_) (differences_pairwise a b)
    obtain ⟨common, c, c', r, s, rfl, rfl, hlt⟩ := hdiffers
    have hp := mem_differences.mp hp
    have hq := mem_differences.mp hq
    have hne := token_ne (hplain hp) (hplain hq) hlt
    rw [pointer_lt_iff (wordAfter_token (hplain hp)) (wordAfter_token (hplain hq)) hne]
    cases hlt with
    | @name k k' hlt =>
      rw [token, token, escapePointer_of_plain (hplain hp), escapePointer_of_plain (hplain hq)]
      exact hlt
    | index hlt => exact hordered _ _ _ _ _ hp hq hlt

/-- Different positions have different pointers. -/
theorem pointers_nodup (ha : PlainKeys a) (hb : PlainKeys b) :
    ((differences a b).map pointer).Nodup := by
  rw [List.Nodup, List.pairwise_map]
  refine List.Pairwise.imp_of_mem (fun {p q} hp hq hdiffers => ?_) (differences_pairwise a b)
  obtain ⟨common, c, c', r, s, rfl, rfl, hlt⟩ := hdiffers
  have hc := (mem_differences.mp hp).plain ha hb c (by simp)
  have hc' := (mem_differences.mp hq).plain ha hb c' (by simp)
  have hne := token_ne hc hc' hlt
  rcases lt_or_gt_of_ne hne with h | h
  · exact ((pointer_lt_iff (wordAfter_token hc) (wordAfter_token hc') hne).mpr h).ne
  · exact ((pointer_lt_iff (wordAfter_token hc') (wordAfter_token hc) hne.symm).mpr h).ne'

end Sorted

/-! ### No difference -/

theorem same_of_not_differsAt {a b : Json} (ha : a.Exact) (hb : b.Exact)
    (h : ∀ position, ¬DiffersAt a b position) : a.Same b := by
  induction a using partsInduction generalizing b with
  | h a ih =>
    by_cases halike : Alike a b
    · have hpart : ∀ c x y, a.at? c = some x → b.at? c = some y → x.Exact → y.Exact → x.Same y :=
        fun c x y hx hy hxe hye => ih c x hx hxe hye fun position hdiffers =>
          h _ (.under halike hx hy hdiffers)
      have hleft : ∀ c x, a.at? c = some x → ∃ y, b.at? c = some y := by
        intro c x hx
        cases hy : b.at? c with
        | none => exact absurd (.left halike hx hy) (h _)
        | some y => exact ⟨y, rfl⟩
      have hright : ∀ c y, b.at? c = some y → ∃ x, a.at? c = some x := by
        intro c y hy
        cases hx : a.at? c with
        | none => exact absurd (.right halike hx hy) (h _)
        | some x => exact ⟨x, rfl⟩
      cases ha with
      | @obj base hbase hbaseExact =>
        cases hb with
        | @obj final hfinal hfinalExact =>
          rw [same_obj hfinal]
          refine ⟨hbase, fun field hfield => ?_, fun field hfield => ?_⟩
          · rw [mem_names_iff]
            exact hleft (.name field.1) field.2 (get?_obj_of_mem hbase hfield)
          · have hy : (Json.obj final).get? field.1 = some field.2 := get?_obj_of_mem hfinal hfield
            obtain ⟨x, hx⟩ := hright (.name field.1) field.2 hy
            exact ⟨x, hx, hpart (.name field.1) x field.2 hx hy
              (hbaseExact _ (mem_of_get?_obj hx)) (hfinalExact _ hfield)⟩
        | _ => exact absurd halike id
      | @arr base hbase =>
        cases hb with
        | @arr final hfinal =>
          rw [same_arr]
          refine ⟨base, rfl, List.forall₂_iff_get.mpr ⟨?_, fun i hi hi' => ?_⟩⟩
          · refine Nat.le_antisymm (Nat.le_of_not_lt fun hlt => ?_) (Nat.le_of_not_lt fun hlt => ?_)
            · obtain ⟨y, hy⟩ := hleft (.index final.length) _ (List.getElem?_eq_getElem hlt)
              exact absurd (List.getElem?_eq_some_iff.mp hy).1 (Nat.lt_irrefl _)
            · obtain ⟨x, hx⟩ := hright (.index base.length) _ (List.getElem?_eq_getElem hlt)
              exact absurd (List.getElem?_eq_some_iff.mp hx).1 (Nat.lt_irrefl _)
          · exact hpart (.index i) _ _ (List.getElem?_eq_getElem hi) (List.getElem?_eq_getElem hi')
              (hbase _ (List.getElem_mem hi)) (hfinal _ (List.getElem_mem hi'))
        | _ => exact absurd halike id
      | _ => exact absurd halike id
    · by_contra hsame
      refine h [] (.here halike ?_)
      rintro rfl
      exact hsame (.refl _)

end Json

end Ucf
