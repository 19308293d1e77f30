import Ucf.Library.Check
import Ucf.Library.Json

/-! Schemas of strict data models: how a value is written as JSON and which JSON a value is read
from. A schema reads exactly the JSON it writes, up to the order of object fields, so that every
document has one JSON form and every accepted JSON form is that of one document. -/

namespace Ucf

namespace Json

/-- The integers that every JSON implementation represents exactly. -/
def SafeInt (n : Int) : Prop := -9007199254740991 ≤ n ∧ n ≤ 9007199254740991

instance (n : Int) : Decidable (SafeInt n) := inferInstanceAs (Decidable (_ ∧ _))

/-- JSON without fractional numbers, with safe integers only and no repeated field names. -/
inductive Exact : Json → Prop
  | null : Exact .null
  | bool (b : Bool) : Exact (.bool b)
  | int {n : Int} (h : SafeInt n) : Exact (.int n)
  | str (s : String) : Exact (.str s)
  | arr {items : List Json} (h : ∀ item ∈ items, Exact item) : Exact (.arr items)
  | obj {fields : List (String × Json)} (hnodup : (fields.map Prod.fst).Nodup)
      (h : ∀ field ∈ fields, Exact field.2) : Exact (.obj fields)

/-- Arrays and objects nest at most `n` deep. -/
inductive Within : Nat → Json → Prop
  | null (n : Nat) : Within n .null
  | bool (n : Nat) (b : Bool) : Within n (.bool b)
  | int (n : Nat) (i : Int) : Within n (.int i)
  | float (n : Nat) (t : String) : Within n (.float t)
  | str (n : Nat) (s : String) : Within n (.str s)
  | arr {n : Nat} {items : List Json} (h : ∀ item ∈ items, Within n item) :
      Within (n + 1) (.arr items)
  | obj {n : Nat} {fields : List (String × Json)} (h : ∀ field ∈ fields, Within n field.2) :
      Within (n + 1) (.obj fields)

theorem Within.mono {n m : Nat} {j : Json} (h : Within n j) (hle : n ≤ m) : Within m j := by
  induction h generalizing m with
  | null => exact .null m
  | bool => exact .bool m _
  | int => exact .int m _
  | float => exact .float m _
  | str => exact .str m _
  | arr _ ih =>
    obtain ⟨m, rfl⟩ : ∃ k, m = k + 1 := ⟨m - 1, by omega⟩
    exact .arr fun item hitem => ih item hitem (by omega)
  | obj _ ih =>
    obtain ⟨m, rfl⟩ : ∃ k, m = k + 1 := ⟨m - 1, by omega⟩
    exact .obj fun field hfield => ih field hfield (by omega)

end Json

/-- One step of the path to a value inside a document. -/
inductive Coordinate where
  | name (name : String)
  | index (position : Nat)
deriving DecidableEq, Repr

/-- What a failed validation reports about one value: the type of the error and the path. -/
structure Issue where
  type : String
  loc : List Coordinate
deriving DecidableEq, Repr

/-- The issues of the value under `coordinate`, seen from the value that contains it. -/
def under {α : Type} (coordinate : Coordinate) :
    Except (List Issue) α → Except (List Issue) α
  | .ok a => .ok a
  | .error issues => .error (issues.map fun issue => { issue with loc := coordinate :: issue.loc })

@[simp] theorem under_eq_ok {α : Type} {coordinate : Coordinate} {x : Except (List Issue) α}
    {a : α} : under coordinate x = .ok a ↔ x = .ok a := by
  cases x <;> simp [under]

/-- Validate two parts, collecting the issues of both. -/
def both {α β : Type} : Except (List Issue) α → Except (List Issue) β →
    Except (List Issue) (α × β)
  | .ok a, .ok b => .ok (a, b)
  | .error issues, .ok _ => .error issues
  | .ok _, .error issues => .error issues
  | .error issues, .error issues' => .error (issues ++ issues')

@[simp] theorem both_eq_ok {α β : Type} {x : Except (List Issue) α} {y : Except (List Issue) β}
    {p : α × β} : both x y = .ok p ↔ x = .ok p.1 ∧ y = .ok p.2 := by
  cases x <;> cases y <;> simp [both, Prod.ext_iff]

/-- How values of a type are written as JSON and read from it. `depth` bounds the nesting of the
JSON written, where there is such a bound. -/
structure Schema (α : Type) where
  dump : α → Json
  load : Json → Except (List Issue) α
  depth : Option Nat
  load_eq_ok : ∀ j a, load j = .ok a ↔ j.Same (dump a)
  exact : ∀ a, (dump a).Exact
  within : ∀ n, depth = some n → ∀ a, (dump a).Within n

namespace Schema

variable {α β : Type}

theorem load_dump (s : Schema α) (a : α) : s.load (s.dump a) = .ok a :=
  (s.load_eq_ok _ a).mpr rfl

theorem load_canonical_dump (s : Schema α) (a : α) : s.load (s.dump a).canonical = .ok a :=
  (s.load_eq_ok _ a).mpr (Json.canonical_canonical _)

/-- The JSON written for a value determines the value. -/
theorem eq_of_same (s : Schema α) {a b : α} (h : (s.dump a).Same (s.dump b)) : a = b := by
  have ha := (s.load_eq_ok _ b).mpr h
  rw [s.load_dump a, Except.ok.injEq] at ha
  exact ha

/-- Strings of some form, with the error type that other strings give. -/
def ofString (print : α → String) (parse : String → Except String α)
    (h : ∀ s a, parse s = .ok a ↔ s = print a) : Schema α where
  dump a := .str (print a)
  load
    | .str s => (parse s).mapError fun type => [⟨type, []⟩]
    | _ => .error [⟨"string_type", []⟩]
  depth := some 0
  load_eq_ok j a := by
    rw [Json.same_str]
    cases j with
    | str s =>
      have hmap : ∀ x : Except String α, (x.mapError fun type => [(⟨type, []⟩ : Issue)]) = .ok a ↔
          x = .ok a := by
        intro x
        cases x <;> simp [Except.mapError]
      simp [hmap, h]
    | _ => simp
  exact a := .str _
  within n _ a := .str n _

/-- Any string. -/
def str : Schema String :=
  ofString id .ok fun s a => by simp

/-- A boolean. -/
def bool : Schema Bool where
  dump := .bool
  load
    | .bool b => .ok b
    | _ => .error [⟨"bool_type", []⟩]
  depth := some 0
  load_eq_ok j a := by
    rw [Json.same_bool]
    cases j <;> simp
  exact := .bool
  within n _ a := .bool n a

theorem exact_nat {lower upper : Nat} (h : upper ≤ 9007199254740991)
    (n : { n : Nat // lower ≤ n ∧ n ≤ upper }) : (Json.int n.val).Exact := by
  have hn := n.property
  exact .int ⟨by omega, by omega⟩

theorem within_nat {lower upper : Nat} (depth : Nat) (_ : some 0 = some depth)
    (n : { n : Nat // lower ≤ n ∧ n ≤ upper }) : (Json.int n.val).Within depth :=
  .int _ _

/-- `SafeInteger` with a lower bound of zero or more and an optional upper bound. -/
def nat (lower upper : Nat) (h : upper ≤ 9007199254740991) :
    Schema { n : Nat // lower ≤ n ∧ n ≤ upper } where
  dump n := .int n.val
  load
    | .int i =>
      if h : (lower : Int) ≤ i then
        if h' : i ≤ upper then .ok ⟨i.toNat, by omega⟩ else .error [⟨"less_than_equal", []⟩]
      else .error [⟨"greater_than_equal", []⟩]
    | _ => .error [⟨"int_type", []⟩]
  depth := some 0
  load_eq_ok j a := by
    obtain ⟨n, hn⟩ := a
    rw [Json.same_int]
    cases j with
    | int i =>
      simp only [Json.int.injEq]
      by_cases hlow : (lower : Int) ≤ i
      · by_cases hup : i ≤ upper
        · simp only [hlow, hup, dif_pos, Except.ok.injEq, Subtype.mk.injEq]
          omega
        · simp only [hlow, hup, dif_pos, dif_neg, not_false_eq_true, reduceCtorEq, false_iff]
          omega
      · simp only [hlow, dif_neg, not_false_eq_true, reduceCtorEq, false_iff]
        omega
    | _ => simp
  exact := exact_nat h
  within := within_nat

/-- Any safe integer. -/
def safeInt : Schema { n : Int // Json.SafeInt n } where
  dump n := .int n.val
  load
    | .int i =>
      if h : Json.SafeInt i then .ok ⟨i, h⟩
      else .error [⟨if i < 0 then "greater_than_equal" else "less_than_equal", []⟩]
    | _ => .error [⟨"int_type", []⟩]
  depth := some 0
  load_eq_ok j a := by
    obtain ⟨n, hn⟩ := a
    rw [Json.same_int]
    cases j with
    | int i =>
      simp only [Json.int.injEq]
      by_cases h : Json.SafeInt i
      · simp [h]
      · simp only [h, dif_neg, not_false_eq_true, reduceCtorEq, false_iff]
        rintro rfl
        exact h hn
    | _ => simp
  exact n := .int n.property
  within n _ a := .int n _

/-- Values of `s` seen as values of an equivalent type. -/
def iso (s : Schema α) (view : β → α) (make : α → β) (make_view : ∀ b, make (view b) = b)
    (view_make : ∀ a, view (make a) = a) : Schema β where
  dump b := s.dump (view b)
  load j := (s.load j).map make
  depth := s.depth
  load_eq_ok j b := by
    rw [← s.load_eq_ok]
    cases hload : s.load j with
    | error issues => simp [Except.map]
    | ok a =>
      simp only [Except.map, Except.ok.injEq]
      exact ⟨fun h => by rw [← h, view_make], fun h => by rw [h, make_view]⟩
  exact b := s.exact _
  within n h b := s.within n h _

/-- Values of `s` that a further check accepts; others give an error of type `type`. -/
def refine (type : String) (s : Schema α) (p : α → Prop) [DecidablePred p] :
    Schema { a : α // p a } where
  dump a := s.dump a.val
  load j :=
    match s.load j with
    | .error issues => .error issues
    | .ok a => if h : p a then .ok ⟨a, h⟩ else .error [⟨type, []⟩]
  depth := s.depth
  load_eq_ok j a := by
    obtain ⟨a, ha⟩ := a
    rw [← s.load_eq_ok]
    cases hload : s.load j with
    | error issues => simp
    | ok b =>
      by_cases hb : p b
      · simp [hb]
      · simp only [hb, dif_neg, not_false_eq_true, reduceCtorEq, Except.ok.injEq, false_iff]
        rintro rfl
        exact hb ha
  exact a := s.exact _
  within n h a := s.within n h _

/-- `X | None`. -/
def option (s : Schema α) (h : ∀ a, s.dump a ≠ .null) : Schema (Option α) where
  dump
    | none => .null
    | some a => s.dump a
  load j :=
    if j matches .null then .ok none else (s.load j).map some
  depth := s.depth
  load_eq_ok j a := by
    have hnull : ∀ a, ¬Json.Same .null (s.dump a) := fun a hsame =>
      h a (Json.same_null.mp hsame.symm)
    cases a with
    | none =>
      have hmap : ∀ x : Except (List Issue) α, x.map some ≠ .ok none := by
        intro x
        cases x <;> simp [Except.map]
      rw [Json.same_null]
      cases j <;> simp [hmap]
    | some a =>
      have hmap : ∀ x : Except (List Issue) α, x.map some = .ok (some a) ↔ x = .ok a := by
        intro x
        cases x <;> simp [Except.map]
      rw [← s.load_eq_ok]
      cases j with
      | null => simp [s.load_eq_ok, hnull]
      | _ => simp [hmap]
  exact
    | none => .null
    | some a => s.exact a
  within n hn
    | none => .null n
    | some a => s.within n hn a

/-- The elements of an array, each read at its position. -/
def loadItems (load : Json → Except (List Issue) α) : Nat → List Json →
    Except (List Issue) (List α)
  | _, [] => .ok []
  | position, j :: js =>
    (both (under (.index position) (load j)) (loadItems load (position + 1) js)).map
      fun p => p.1 :: p.2

theorem loadItems_eq_ok {load : Json → Except (List Issue) α} {position : Nat} {js : List Json}
    {items : List α} : loadItems load position js = .ok items ↔
      List.Forall₂ (fun j a => load j = .ok a) js items := by
  induction js generalizing position items with
  | nil => simp [loadItems, eq_comm]
  | cons j js ih =>
    have hmap : ∀ x : Except (List Issue) (α × List α),
        x.map (fun p => p.1 :: p.2) = .ok items ↔ ∃ p, x = .ok p ∧ p.1 :: p.2 = items := by
      intro x
      cases x <;> simp [Except.map]
    rw [loadItems, hmap, List.forall₂_cons_left_iff]
    simp only [both_eq_ok, under_eq_ok, ih]
    constructor
    · rintro ⟨⟨a, as⟩, ⟨ha, has⟩, rfl⟩
      exact ⟨a, as, ha, has, rfl⟩
    · rintro ⟨a, as, ha, has, rfl⟩
      exact ⟨(a, as), ⟨ha, has⟩, rfl⟩

/-- `tuple[X, ...]`. -/
def list (s : Schema α) : Schema (List α) where
  dump as := .arr (as.map s.dump)
  load
    | .arr js => loadItems s.load 0 js
    | _ => .error [⟨"tuple_type", []⟩]
  depth := s.depth.map (· + 1)
  load_eq_ok j as := by
    rw [Json.same_arr]
    cases j with
    | arr js =>
      simp only [loadItems_eq_ok, Json.arr.injEq, exists_eq_left', List.forall₂_map_right_iff,
        s.load_eq_ok]
    | _ => simp
  exact as := .arr fun item hitem => by
    obtain ⟨a, _, rfl⟩ := List.mem_map.mp hitem
    exact s.exact a
  within n hn as := by
    obtain ⟨m, hm, rfl⟩ := Option.map_eq_some_iff.mp hn
    refine .arr fun item hitem => ?_
    obtain ⟨a, _, rfl⟩ := List.mem_map.mp hitem
    exact s.within m hm a

/-- `X | Y`, where no value has a JSON form of both. -/
def union (s : Schema α) (t : Schema β) (h : ∀ a b, ¬(s.dump a).Same (t.dump b)) :
    Schema (α ⊕ β) where
  dump
    | .inl a => s.dump a
    | .inr b => t.dump b
  load j :=
    match s.load j, t.load j with
    | .ok a, _ => .ok (.inl a)
    | .error _, .ok b => .ok (.inr b)
    | .error issues, .error issues' => .error (issues ++ issues')
  depth :=
    match s.depth, t.depth with
    | some m, some n => some (max m n)
    | _, _ => none
  load_eq_ok j a := by
    cases a with
    | inl a =>
      rw [← s.load_eq_ok]
      cases s.load j <;> cases t.load j <;> simp
    | inr b =>
      rw [← t.load_eq_ok]
      cases hs : s.load j with
      | error issues => cases t.load j <;> simp
      | ok a =>
        simp only [Except.ok.injEq, reduceCtorEq, false_iff, t.load_eq_ok]
        exact fun hb => h a b (((s.load_eq_ok _ _).mp hs).symm.trans hb)
  exact
    | .inl a => s.exact a
    | .inr b => t.exact b
  within n hn a := by
    cases hs : s.depth <;> cases ht : t.depth <;> simp only [hs, ht, reduceCtorEq] at hn
    rw [Option.some.injEq] at hn
    cases a with
    | inl a => exact (s.within _ hs a).mono (by omega)
    | inr b => exact (t.within _ ht b).mono (by omega)

end Schema

/-- The fields of a model, in order: how they are written and read. -/
structure Fields (α : Type) where
  names : List String
  dump : α → List (String × Json)
  load : Json → Except (List Issue) α
  depth : Option Nat
  names_dump : ∀ a, (dump a).map Prod.fst = names
  load_eq_ok : ∀ j a, load j = .ok a ↔
    ∀ field ∈ dump a, ∃ value, j.get? field.1 = some value ∧ value.Same field.2
  exact : ∀ a, ∀ field ∈ dump a, field.2.Exact
  within : ∀ n, depth = some n → ∀ a, ∀ field ∈ dump a, field.2.Within n

namespace Fields

variable {α β : Type}

/-- No fields. -/
def nil : Fields Unit where
  names := []
  dump _ := []
  load _ := .ok ()
  depth := some 0
  names_dump _ := rfl
  load_eq_ok _ _ := by simp
  exact _ := by simp
  within _ _ _ := by simp

/-- A field that holds one fixed string. -/
def lit (name value : String) (rest : Fields α) : Fields α where
  names := name :: rest.names
  dump a := (name, .str value) :: rest.dump a
  load j :=
    let head : Except (List Issue) Unit :=
      match j.get? name with
      | none => .error [⟨"missing", []⟩]
      | some (.str s) => if s = value then .ok () else .error [⟨"literal_error", []⟩]
      | some _ => .error [⟨"literal_error", []⟩]
    (both (under (.name name) head) (rest.load j)).map Prod.snd
  depth := rest.depth
  names_dump a := by rw [List.map_cons, rest.names_dump]
  load_eq_ok j a := by
    have hmap : ∀ x : Except (List Issue) (Unit × α), x.map Prod.snd = .ok a ↔ x = .ok ((), a) := by
      intro x
      cases x <;> simp [Except.map, Prod.ext_iff]
    simp only [hmap, both_eq_ok, under_eq_ok, rest.load_eq_ok, List.forall_mem_cons,
      Json.same_str]
    refine and_congr_left fun _ => ?_
    cases j.get? name with
    | none => simp
    | some value' => cases value' <;> simp
  exact a := List.forall_mem_cons.mpr ⟨.str _, rest.exact a⟩
  within n hn a := List.forall_mem_cons.mpr ⟨.str n _, rest.within n hn a⟩

/-- A field that holds a value of a schema. -/
def field (name : String) (s : Schema β) (rest : Fields α) : Fields (β × α) where
  names := name :: rest.names
  dump p := (name, s.dump p.1) :: rest.dump p.2
  load j :=
    let head :=
      match j.get? name with
      | none => .error [⟨"missing", []⟩]
      | some value => s.load value
    both (under (.name name) head) (rest.load j)
  depth :=
    match s.depth, rest.depth with
    | some m, some n => some (max m n)
    | _, _ => none
  names_dump p := by rw [List.map_cons, rest.names_dump]
  load_eq_ok j p := by
    simp only [both_eq_ok, under_eq_ok, rest.load_eq_ok, List.forall_mem_cons]
    refine and_congr_left fun _ => ?_
    cases j.get? name <;> simp [s.load_eq_ok]
  exact p := List.forall_mem_cons.mpr ⟨s.exact p.1, rest.exact p.2⟩
  within n hn p := by
    cases hs : s.depth <;> cases hr : rest.depth <;> simp only [hs, hr, reduceCtorEq] at hn
    rw [Option.some.injEq] at hn
    exact List.forall_mem_cons.mpr ⟨(s.within _ hs p.1).mono (by omega), fun field hfield =>
      (rest.within _ hr p.2 field hfield).mono (by omega)⟩

end Fields

namespace Schema

variable {α β : Type}

/-- A model with these fields and no others. -/
def record (fields : Fields α) (h : fields.names.Nodup) : Schema α where
  dump a := .obj (fields.dump a)
  load
    | .obj given =>
      let extra := (given.map Prod.fst).filter fun name => name ∉ fields.names
      let issues := extra.map fun name => ⟨"extra_forbidden", [.name name]⟩
      if (given.map Prod.fst).Nodup then
        (both (fields.load (.obj given)) (if issues = [] then .ok () else .error issues)).map Prod.fst
      else .error [⟨"json_invalid", []⟩]
    | _ => .error [⟨"model_type", []⟩]
  depth := fields.depth.map (· + 1)
  load_eq_ok j a := by
    have hnames := fields.names_dump a
    cases j with
    | obj given =>
      rw [Json.same_obj (by rw [hnames]; exact h), hnames]
      have hmap : ∀ x : Except (List Issue) (α × Unit), x.map Prod.fst = .ok a ↔
          x = .ok (a, ()) := by
        intro x
        cases x <;> simp [Except.map, Prod.ext_iff]
      by_cases hnodup : (given.map Prod.fst).Nodup
      · simp only [hnodup, if_true, hmap, both_eq_ok, fields.load_eq_ok, true_and]
        rw [and_comm]
        refine and_congr_left fun _ => ?_
        simp
      · simp [hnodup]
    | _ => simp [Json.Same, Json.canonical_obj, Json.canonical_arr]
  exact a := .obj (by rw [fields.names_dump]; exact h) (fields.exact a)
  within n hn a := by
    obtain ⟨m, hm, rfl⟩ := Option.map_eq_some_iff.mp hn
    exact .obj (fields.within m hm a)

/-- Strings in which a check finds no error; the check names the type of the error it finds. -/
def checked (check : String → Option String) : Schema { s : String // check s = none } :=
  ofString Subtype.val
    (fun s => match h : check s with
      | none => .ok ⟨s, h⟩
      | some type => .error type)
    fun s a => by
      obtain ⟨t, ht⟩ := a
      split
      · simp
      · rename_i type h
        simp only [reduceCtorEq, false_iff]
        rintro rfl
        rw [ht] at h
        cases h

/-- An enumeration of strings. -/
def enum [DecidableEq α] (values : List α) (value : α → String)
    (hnodup : (values.map value).Nodup) (hall : ∀ a, a ∈ values) : Schema α :=
  ofString value (fun s => orRaise (values.find? fun a => value a = s) "enum") fun s a => by
    rw [orRaise_eq_ok]
    constructor
    · intro h
      have hvalue : value a = s := by simpa using List.find?_some h
      exact hvalue.symm
    · rintro rfl
      have hinj := List.inj_on_of_nodup_map hnodup
      cases hfind : values.find? fun b => value b = value a with
      | none =>
        have := List.find?_eq_none.mp hfind a (hall a)
        simp at this
      | some b =>
        have hb : value b = value a := by simpa using List.find?_some hfind
        rw [hinj (hall b) (hall a) hb]

end Schema

/-- The kind that a document declares. -/
def kindOf (j : Json) : Option Json := j.get? "kind"

/-- Documents that are equal up to field order declare the same kind. -/
theorem kindOf_eq_of_same {j k : Json} (h : j.Same k) (hexact : k.Exact) {tag : String}
    (htag : kindOf k = some (.str tag)) : kindOf j = some (.str tag) := by
  cases hexact with
  | obj hnodup _ =>
    obtain ⟨value, hvalue, hsame⟩ := h.get? rfl hnodup htag
    rw [Json.same_str] at hsame
    rw [kindOf, hvalue, hsame]
  | _ => simp [kindOf, Json.get?] at htag

/-- The alternatives of a union that the `kind` field tells apart. -/
structure Cases (α : Type) where
  tags : List String
  dump : α → Json
  load : String → Json → Except (List Issue) α
  depth : Option Nat
  kind_dump : ∀ a, ∃ tag ∈ tags, kindOf (dump a) = some (.str tag)
  load_eq_ok : ∀ tag j a, kindOf j = some (.str tag) → (load tag j = .ok a ↔ j.Same (dump a))
  exact : ∀ a, (dump a).Exact
  within : ∀ n, depth = some n → ∀ a, (dump a).Within n

namespace Cases

variable {α β : Type}

/-- No alternatives. -/
def nil : Cases Empty where
  tags := []
  dump := Empty.elim
  load _ _ := .error [⟨"union_tag_invalid", []⟩]
  depth := some 0
  kind_dump := nofun
  load_eq_ok _ _ := nofun
  exact := nofun
  within _ _ := nofun

/-- One more alternative, for the documents of one kind. -/
def case (tag : String) (s : Schema β) (hkind : ∀ b, kindOf (s.dump b) = some (.str tag))
    (rest : Cases α) (hnot : tag ∉ rest.tags) : Cases (β ⊕ α) where
  tags := tag :: rest.tags
  dump
    | .inl b => s.dump b
    | .inr a => rest.dump a
  load kind j :=
    if kind = tag then under (.name tag) ((s.load j).map .inl)
    else (rest.load kind j).map .inr
  depth :=
    match s.depth, rest.depth with
    | some m, some n => some (max m n)
    | _, _ => none
  kind_dump
    | .inl b => ⟨tag, List.mem_cons_self, hkind b⟩
    | .inr a => by
      obtain ⟨kind, hmem, hkind⟩ := rest.kind_dump a
      exact ⟨kind, List.mem_cons_of_mem _ hmem, hkind⟩
  load_eq_ok kind j a hj := by
    have hinl : ∀ (x : Except (List Issue) β) (b : β),
        x.map (Sum.inl (β := α)) = .ok (.inl b) ↔ x = .ok b := by
      intro x b
      cases x <;> simp [Except.map]
    have hinr : ∀ (x : Except (List Issue) α) (a : α),
        x.map (Sum.inr (α := β)) = .ok (.inr a) ↔ x = .ok a := by
      intro x a
      cases x <;> simp [Except.map]
    have hinl' : ∀ (x : Except (List Issue) β) (a : α), x.map (Sum.inl (β := α)) ≠ .ok (.inr a) := by
      intro x a
      cases x <;> simp [Except.map]
    have hinr' : ∀ (x : Except (List Issue) α) (b : β), x.map (Sum.inr (α := β)) ≠ .ok (.inl b) := by
      intro x b
      cases x <;> simp [Except.map]
    have hsame : ∀ k : Json, k.Exact → ∀ kind', kindOf k = some (.str kind') → j.Same k →
        kind = kind' := by
      intro k hk kind' hkind' h
      have := kindOf_eq_of_same h hk hkind'
      rw [hj] at this
      simpa using this
    by_cases h : kind = tag
    · rw [if_pos h]
      cases a with
      | inl b => rw [under_eq_ok, hinl, s.load_eq_ok]
      | inr a =>
        rw [under_eq_ok]
        obtain ⟨kind', hmem, hkind'⟩ := rest.kind_dump a
        refine ⟨fun heq => absurd heq (hinl' _ _), fun heq => ?_⟩
        rw [← hsame _ (rest.exact a) _ hkind' heq, h] at hmem
        exact absurd hmem hnot
    · rw [if_neg h]
      cases a with
      | inl b =>
        refine ⟨fun heq => absurd heq (hinr' _ _), fun heq => ?_⟩
        exact absurd (hsame _ (s.exact b) _ (hkind b) heq) h
      | inr a => rw [hinr, rest.load_eq_ok _ _ _ hj]
  exact
    | .inl b => s.exact b
    | .inr a => rest.exact a
  within n hn a := by
    cases hs : s.depth <;> cases hr : rest.depth <;> simp only [hs, hr, reduceCtorEq] at hn
    rw [Option.some.injEq] at hn
    cases a with
    | inl b => exact (s.within _ hs b).mono (by omega)
    | inr a => exact (rest.within _ hr a).mono (by omega)

end Cases

/-- A union that the `kind` field tells apart. -/
def Schema.oneOf {α : Type} (cases : Cases α) : Schema α where
  dump := cases.dump
  load j :=
    match kindOf j with
    | some (.str tag) => cases.load tag j
    | _ => .error [⟨"union_tag_not_found", []⟩]
  depth := cases.depth
  load_eq_ok j a := by
    split
    · rename_i tag htag
      exact cases.load_eq_ok tag j a htag
    · rename_i hnone
      simp only [reduceCtorEq, false_iff]
      intro h
      obtain ⟨tag, _, htag⟩ := cases.kind_dump a
      exact hnone tag (kindOf_eq_of_same h (cases.exact a) htag)
  exact := cases.exact
  within := cases.within

/-- Types whose values are documents or parts of documents. -/
class Model (α : Type) where
  schema : Schema α
  notNull : ∀ a, schema.dump a ≠ .null

section Model

variable {α β : Type}

/-- `value.model_dump(mode="json")`. -/
def modelDump [Model α] (a : α) : Json := (Model.schema : Schema α).dump a

/-- `Model.model_validate_json` on decoded JSON. -/
def modelValidate [Model α] (j : Json) : Except (List Issue) α := Model.schema.load j

theorem modelValidate_eq_ok [Model α] {j : Json} {a : α} :
    modelValidate j = .ok a ↔ j.Same (modelDump a) :=
  Model.schema.load_eq_ok j a

theorem modelDump_injective [Model α] {a b : α} (h : (modelDump a).Same (modelDump b)) : a = b :=
  Model.schema.eq_of_same h

/-- A required field. -/
def Fields.required (name : String) [Model α] (rest : Fields β) : Fields (α × β) :=
  .field name Model.schema rest

/-- A required field that may be null. -/
def Fields.nullable (name : String) [Model α] (rest : Fields β) : Fields (Option α × β) :=
  .field name (.option Model.schema Model.notNull) rest

@[simp] theorem Fields.names_nil : Fields.nil.names = [] := rfl

@[simp] theorem Fields.names_lit (name value : String) (rest : Fields β) :
    (Fields.lit name value rest).names = name :: rest.names := rfl

@[simp] theorem Fields.names_required (name : String) [Model α] (rest : Fields β) :
    (Fields.required (α := α) name rest).names = name :: rest.names := rfl

@[simp] theorem Fields.names_nullable (name : String) [Model α] (rest : Fields β) :
    (Fields.nullable (α := α) name rest).names = name :: rest.names := rfl

/-- The names of a record differ, as a fact about its fields. -/
theorem Fields.nodup_names {fields : Fields β} (h : fields.names.Nodup) : fields.names.Nodup := h

/-- A model given by its fields. -/
@[reducible] def Model.record (fields : Fields β) (view : α → β) (make : β → α)
    (h : fields.names.Nodup := by exact Fields.nodup_names (by simp)) (p : ∀ a, make (view a) = a := by intros; rfl)
    (q : ∀ b, view (make b) = b := by intros; rfl) : Model α where
  schema := .iso (.record fields h) view make p q
  notNull _ := nofun

/-- A model given by its fields and an after-validator. -/
@[reducible] def Model.recordWhere (fields : Fields β) (p : β → Prop) [DecidablePred p]
    (view : α → { b : β // p b }) (make : { b : β // p b } → α)
    (h : fields.names.Nodup := by exact Fields.nodup_names (by simp))
    (q : ∀ a, make (view a) = a := by intros; rfl)
    (r : ∀ b, view (make b) = b := by intros; rfl) : Model α where
  schema := .iso (.refine "value_error" (.record fields h) p) view make q r
  notNull _ := nofun

/-- A type whose values pass a further check. -/
@[reducible] def Model.refine (type : String) (p : α → Prop) [Model α] [DecidablePred p] :
    Model { a : α // p a } where
  schema := .refine type Model.schema p
  notNull a := Model.notNull a.val

/-- A type with the same documents as another. -/
@[reducible] def Model.iso [Model β] (view : α → β) (make : β → α)
    (p : ∀ a, make (view a) = a := by intros; rfl)
    (q : ∀ b, view (make b) = b := by intros; rfl) : Model α where
  schema := .iso Model.schema view make p q
  notNull a := Model.notNull (view a)

/-- An enumeration. -/
@[reducible] def Model.enum [DecidableEq α] (values : List α) (value : α → String)
    (h : (values.map value).Nodup := by decide)
    (p : ∀ a, a ∈ values := by intro a; cases a <;> decide) : Model α where
  schema := .enum values value h p
  notNull _ := nofun

/-- One more alternative of a union. -/
def Cases.variant (tag : String) [Model β] (rest : Cases α)
    (h : ∀ b : β, kindOf (modelDump b) = some (.str tag) := by intro; rfl)
    (g : tag ∉ rest.tags := by exact of_decide_eq_false rfl) : Cases (β ⊕ α) :=
  .case tag Model.schema h rest g

/-- A union that the `kind` field tells apart. -/
@[reducible] def Model.oneOf (cases : Cases β) (view : α → β) (make : β → α)
    (p : ∀ a, make (view a) = a := by intro a; cases a <;> rfl)
    (q : ∀ b, view (make b) = b := by
      intro b
      repeat' first | exact Empty.elim b | rfl | rcases b with b | b) : Model α where
  schema := .iso (.oneOf cases) view make p q
  notNull a h := by
    obtain ⟨tag, _, htag⟩ := cases.kind_dump (view a)
    have hnull : cases.dump (view a) = .null := h
    rw [hnull] at htag
    cases htag

instance : Model String := ⟨.str, fun _ => nofun⟩

instance : Model Bool := ⟨.bool, fun _ => nofun⟩

instance (check : String → Option String) : Model { s : String // check s = none } :=
  ⟨.checked check, fun _ => nofun⟩

instance [Model α] : Model (List α) := ⟨.list Model.schema, fun _ => nofun⟩

end Model

/-- `tuple[X, ...]` with a minimum and a maximum length. -/
structure Tuple (lower upper : Nat) (α : Type) where
  items : List α
  lower_le : lower ≤ items.length
  le_upper : items.length ≤ upper
deriving DecidableEq

theorem Tuple.nil_lower {α : Type} : 0 ≤ ([] : List α).length := Nat.zero_le _

theorem Tuple.nil_upper {α : Type} {upper : Nat} : ([] : List α).length ≤ upper := Nat.zero_le _

namespace Tuple

variable {lower upper : Nat} {α : Type}

@[ext] theorem ext {s t : Tuple lower upper α} (h : s.items = t.items) : s = t := by
  cases s
  cases t
  cases h
  rfl

/-- The tuple of a list, or the error type of a list that is too long or too short. -/
def ofList (items : List α) : Except (List Issue) (Tuple lower upper α) :=
  if hupper : items.length ≤ upper then
    if hlower : lower ≤ items.length then .ok ⟨items, hlower, hupper⟩
    else .error [⟨"too_short", []⟩]
  else .error [⟨"too_long", []⟩]

theorem ofList_eq_ok {items : List α} {t : Tuple lower upper α} :
    ofList items = .ok t ↔ t.items = items := by
  unfold ofList
  split
  · split
    · simp [Tuple.ext_iff, eq_comm]
    · simp only [reduceCtorEq, false_iff]
      rintro rfl
      exact absurd t.lower_le ‹_›
  · simp only [reduceCtorEq, false_iff]
    rintro rfl
    exact absurd t.le_upper ‹_›

theorem ofList_of_le {items : List α} (hlower : lower ≤ items.length)
    (hupper : items.length ≤ upper) : ofList items = .ok ⟨items, hlower, hupper⟩ :=
  ofList_eq_ok.mpr rfl

instance : Membership α (Tuple lower upper α) := ⟨fun t a => a ∈ t.items⟩

end Tuple

/-- Tuples read from an array of elements. -/
def Schema.tuple {α : Type} (lower upper : Nat) (s : Schema α) : Schema (Tuple lower upper α) where
  dump t := (Schema.list s).dump t.items
  load
    | .arr js =>
      if js.length ≤ upper then
        if lower ≤ js.length then (Schema.list s).load (.arr js) >>= Tuple.ofList
        else .error [⟨"too_short", []⟩]
      else .error [⟨"too_long", []⟩]
    | _ => .error [⟨"tuple_type", []⟩]
  depth := (Schema.list s).depth
  load_eq_ok j t := by
    rw [← (Schema.list s).load_eq_ok]
    cases j with
    | arr js =>
      have hlength : (Schema.list s).load (.arr js) = .ok t.items →
          js.length = t.items.length := fun h => (Schema.loadItems_eq_ok.mp h).length_eq
      have hbind : ((Schema.list s).load (.arr js) >>= Tuple.ofList) = .ok t ↔
          (Schema.list s).load (.arr js) = .ok t.items := by
        simp [Tuple.ofList_eq_ok]
      have hlower := t.lower_le
      have hupper := t.le_upper
      by_cases h : js.length ≤ upper ∧ lower ≤ js.length
      · simp only [h.1, h.2, if_true, hbind]
      · have hne : (Schema.list s).load (.arr js) ≠ .ok t.items := fun hload => by
          have := hlength hload
          omega
        simp only [hne, iff_false]
        split
        · split
          · omega
          · simp
        · simp
    | _ => simp [Schema.list]
  exact t := (Schema.list s).exact t.items
  within n h t := (Schema.list s).within n h t.items

instance {lower upper : Nat} {α : Type} [Model α] : Model (Tuple lower upper α) :=
  ⟨.tuple lower upper Model.schema, fun _ => nofun⟩

end Ucf
