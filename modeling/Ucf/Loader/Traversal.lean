import Ucf.Library.Collect
import Ucf.Library.Stateful
import Ucf.Loader.Yaml

/-! What the traversal of a YAML value computes when a reference may fail to load: the value with
what was loaded in place of each reference, or the exception of the first that fails. -/

namespace Ucf.Loader

/-- Induction over a YAML value: the items of a sequence and the values of a mapping are its
parts. -/
@[elab_as_elim]
theorem Yaml.induction {motive : Yaml → Prop} (scalar : ∀ value, motive (.scalar value))
    (seq : ∀ items, (∀ item ∈ items, motive item) → motive (.seq items))
    (mapping : ∀ items, (∀ item ∈ items, motive item.2) → motive (.mapping items)) :
    ∀ data, motive data := by
  intro data
  refine @Yaml.rec motive (fun items => ∀ item ∈ items, motive item)
    (fun items => ∀ item ∈ items, motive item.2) (fun item => motive item.2)
    scalar seq mapping ?_ ?_ ?_ ?_ ?_ data
  · simp
  · intro head tail hhead htail
    simpa using ⟨hhead, htail⟩
  · simp
  · intro head tail hhead htail item hitem
    rcases List.mem_cons.mp hitem with rfl | hitem
    · exact hhead
    · exact htail item hitem
  · exact fun _ _ h => h

/-! ### Substitution -/

/-- The substitution in the items of a sequence. -/
def substituteItems (f : Yaml → Yaml) (items : List Yaml) : List Yaml := walkItems (m := Id) f items

/-- The substitution in the values of a mapping. -/
def substituteFields (f : Yaml → Yaml) (items : Mapping) : Mapping := walkFields (m := Id) f items

variable {f g : Yaml → Yaml}

theorem substitute_scalar (value : Scalar) : substitute f (.scalar value) = .scalar value := by
  rw [substitute, walk]
  rfl

theorem substitute_seq (items : List Yaml) :
    substitute f (.seq items) = .seq (substituteItems f items) := by
  rw [substitute, walk]
  rfl

theorem substitute_ref {items : Mapping} {ref : Yaml} (h : refOf? items = some ref) :
    substitute f (.mapping items) = f ref := by
  rw [substitute, walk, h]

theorem substitute_mapping {items : Mapping} (h : refOf? items = none) :
    substitute f (.mapping items) = .mapping (substituteFields f items) := by
  rw [substitute, walk, h]
  rfl

theorem substituteItems_cons (item : Yaml) (items : List Yaml) :
    substituteItems f (item :: items) = substitute f item :: substituteItems f items := by
  rw [substituteItems, walkItems]
  rfl

theorem substituteFields_cons (key : Scalar) (value : Yaml) (items : Mapping) :
    substituteFields f ((key, value) :: items) =
      (key, substitute f value) :: substituteFields f items := by
  rw [substituteFields, walkFields]
  rfl

theorem map_fst_substituteFields (items : Mapping) :
    (substituteFields f items).map Prod.fst = items.map Prod.fst := by
  induction items with
  | nil => rw [substituteFields, walkFields]; rfl
  | cons item items ih => rw [substituteFields_cons, List.map_cons, List.map_cons, ih]

/-- Whether a mapping is a reference depends on its keys only. -/
theorem refOf?_eq_none_iff {items : Mapping} :
    refOf? items = none ↔ items.map Prod.fst ≠ [.str "$ref"] := by
  match items with
  | [] => simp [refOf?]
  | [(key, value)] =>
    by_cases hkey : key = .str "$ref"
    · simp [refOf?, hkey]
    · simp only [List.map_cons, List.map_nil, ne_eq, List.cons.injEq, and_true, hkey,
        not_false_eq_true, iff_true]
      unfold refOf?
      split
      · rename_i heq
        cases heq
        exact absurd rfl hkey
      · rfl
  | _ :: _ :: _ => simp [refOf?]

theorem refsOf_seq (items : List Yaml) : refsOf (.seq items) = refsOfItems items := by
  rw [refsOf]

theorem refsOf_ref {items : Mapping} {ref : Yaml} (h : refOf? items = some ref) :
    refsOf (.mapping items) = [ref] := by
  rw [refsOf, h]

theorem refsOf_mapping {items : Mapping} (h : refOf? items = none) :
    refsOf (.mapping items) = refsOfFields items := by
  rw [refsOf, h]

theorem substitute_congr {data : Yaml} (h : ∀ ref ∈ refsOf data, f ref = g ref) :
    substitute f data = substitute g data := by
  induction data using Yaml.induction with
  | scalar value => rw [substitute_scalar, substitute_scalar]
  | seq items ih =>
    rw [refsOf_seq] at h
    rw [substitute_seq, substitute_seq, Yaml.seq.injEq]
    induction items with
    | nil => rw [substituteItems, walkItems, substituteItems, walkItems]
    | cons item items ihi =>
      rw [refsOfItems, List.forall_mem_append] at h
      rw [List.forall_mem_cons] at ih
      rw [substituteItems_cons, substituteItems_cons, ih.1 h.1, ihi ih.2 h.2]
  | mapping items ih =>
    cases href : refOf? items with
    | some ref =>
      rw [refsOf_ref href] at h
      rw [substitute_ref href, substitute_ref href]
      exact h ref (by simp)
    | none =>
      rw [refsOf_mapping href] at h
      rw [substitute_mapping href, substitute_mapping href, Yaml.mapping.injEq]
      clear href
      induction items with
      | nil => rw [substituteFields, walkFields, substituteFields, walkFields]
      | cons item items ihi =>
        rw [refsOfFields, List.forall_mem_append] at h
        rw [List.forall_mem_cons] at ih
        rw [substituteFields_cons, substituteFields_cons, ih.1 h.1, ihi ih.2 h.2]

/-- When no reference is left in what is put in, none is left. -/
theorem refsOf_substitute {data : Yaml} (h : ∀ ref ∈ refsOf data, refsOf (f ref) = []) :
    refsOf (substitute f data) = [] := by
  induction data using Yaml.induction with
  | scalar value => rw [substitute_scalar, refsOf]
  | seq items ih =>
    rw [refsOf_seq] at h
    rw [substitute_seq, refsOf_seq]
    induction items with
    | nil => rw [substituteItems, walkItems]; exact refsOfItems.eq_def _
    | cons item items ihi =>
      rw [refsOfItems, List.forall_mem_append] at h
      rw [List.forall_mem_cons] at ih
      rw [substituteItems_cons, refsOfItems, ih.1 h.1, ihi ih.2 h.2, List.append_nil]
  | mapping items ih =>
    cases href : refOf? items with
    | some ref =>
      rw [refsOf_ref href] at h
      rw [substitute_ref href]
      exact h ref (by simp)
    | none =>
      rw [refsOf_mapping href] at h
      have hleft : refOf? (substituteFields f items) = none := by
        rw [refOf?_eq_none_iff, map_fst_substituteFields]
        exact refOf?_eq_none_iff.mp href
      rw [substitute_mapping href, refsOf_mapping hleft]
      clear href hleft
      induction items with
      | nil => rw [substituteFields, walkFields]; exact refsOfFields.eq_def _
      | cons item items ihi =>
        rw [refsOfFields, List.forall_mem_append] at h
        rw [List.forall_mem_cons] at ih
        rw [substituteFields_cons, refsOfFields, ih.1 h.1, ihi ih.2 h.2, List.append_nil]

/-! ### Loading -/

section Load

variable {ε : Type} {load : Yaml → Except ε Yaml}

/-- What is loaded for a reference; the reference itself where it fails. -/
def loaded (load : Yaml → Except ε Yaml) (ref : Yaml) : Yaml :=
  match load ref with
  | .ok data => data
  | .error _ => ref

theorem loaded_of_ok {ref data : Yaml} (h : load ref = .ok data) : loaded load ref = data := by
  rw [loaded, h]

/-- The traversal loads the references in order and puts in what they give. -/
theorem walk_eq (data : Yaml) :
    walk load data = collect load (refsOf data) >>= fun _ => .ok (substitute (loaded load) data) := by
  induction data using Yaml.induction with
  | scalar value => rw [walk, refsOf, substitute_scalar]; rfl
  | seq items ih =>
    have hitems : walkItems load items = collect load (refsOfItems items) >>= fun _ =>
        .ok (substituteItems (loaded load) items) := by
      induction items with
      | nil => rw [walkItems, refsOfItems, substituteItems, walkItems]; rfl
      | cons item items ihi =>
        rw [List.forall_mem_cons] at ih
        rw [walkItems, ih.1, ihi ih.2, refsOfItems, collect_append, substituteItems_cons]
        cases collect load (refsOf item) <;> cases collect load (refsOfItems items) <;> rfl
    rw [walk, hitems, refsOf_seq, substitute_seq]
    cases collect load (refsOfItems items) <;> rfl
  | mapping items ih =>
    cases href : refOf? items with
    | some ref =>
      rw [refsOf_ref href, walk, href, substitute_ref href, loaded]
      cases h : load ref <;> simp [collect_cons, h]
    | none =>
      have hitems : walkFields load items = collect load (refsOfFields items) >>= fun _ =>
          .ok (substituteFields (loaded load) items) := by
        clear href
        induction items with
        | nil => rw [walkFields, refsOfFields, substituteFields, walkFields]; rfl
        | cons item items ihi =>
          rw [List.forall_mem_cons] at ih
          rw [walkFields, ih.1, ihi ih.2, refsOfFields, collect_append, substituteFields_cons]
          cases collect load (refsOf item.2) <;> cases collect load (refsOfFields items) <;> rfl
      rw [walk, href, refsOf_mapping href, substitute_mapping href]
      dsimp only
      rw [hitems]
      cases collect load (refsOfFields items) <;> rfl

theorem walk_eq_ok {data tree : Yaml} : walk load data = .ok tree ↔
    (∀ ref ∈ refsOf data, load ref = .ok (loaded load ref)) ∧
      tree = substitute (loaded load) data := by
  have hcollect : (∃ trees, collect load (refsOf data) = .ok trees) ↔
      ∀ ref ∈ refsOf data, load ref = .ok (loaded load ref) := by
    constructor
    · rintro ⟨trees, htrees⟩ ref href
      obtain ⟨tree, -, htree⟩ := exists_of_mem_collect htrees href
      rw [loaded_of_ok htree, htree]
    · exact fun h => ⟨_, collect_eq_ok_of_forall h⟩
  rw [walk_eq, bind_eq_ok, ← hcollect]
  constructor
  · rintro ⟨trees, htrees, htree⟩
    cases htree
    exact ⟨⟨trees, htrees⟩, rfl⟩
  · rintro ⟨⟨trees, htrees⟩, rfl⟩
    exact ⟨trees, htrees, rfl⟩

/-- The traversal fails with the exception of the first reference that fails. -/
theorem walk_eq_error {data : Yaml} {e : ε} : walk load data = .error e ↔
    ∃ before ref after, refsOf data = before ++ ref :: after ∧
      (∀ other ∈ before, ∃ tree, load other = .ok tree) ∧ load ref = .error e := by
  rw [walk_eq, ← collect_eq_error]
  cases collect load (refsOf data) <;> simp

end Load

/-! ### State -/

section State

variable {σ ε : Type} {inv : σ → Prop} {grows : σ → σ → Prop}

/-- A traversal computes what the traversal without a state does when each reference does. -/
theorem computes_walk (hrefl : ∀ s, grows s s)
    (htrans : ∀ s t u, grows s t → grows t u → grows s u) {load : Yaml → Stateful σ ε Yaml}
    {load' : Yaml → Except ε Yaml} (h : ∀ ref, Stateful.Computes inv grows (load ref) (load' ref))
    (data : Yaml) : Stateful.Computes inv grows (walk load data) (walk load' data) := by
  induction data using Yaml.induction with
  | scalar value => rw [walk, walk]; exact .of_pure hrefl _
  | seq items ih =>
    have hitems : Stateful.Computes inv grows (walkItems load items) (walkItems load' items) := by
      induction items with
      | nil => rw [walkItems, walkItems]; exact .of_pure hrefl _
      | cons item items ihi =>
        rw [List.forall_mem_cons] at ih
        rw [walkItems, walkItems]
        exact .bind htrans ih.1 fun _ _ => .bind htrans (ihi ih.2) fun _ _ => .of_pure hrefl _
    rw [walk, walk]
    exact .bind htrans hitems fun _ _ => .of_pure hrefl _
  | mapping items ih =>
    have hitems : Stateful.Computes inv grows (walkFields load items) (walkFields load' items) := by
      induction items with
      | nil => rw [walkFields, walkFields]; exact .of_pure hrefl _
      | cons item items ihi =>
        rw [List.forall_mem_cons] at ih
        rw [walkFields, walkFields]
        exact .bind htrans ih.1 fun _ _ => .bind htrans (ihi ih.2) fun _ _ => .of_pure hrefl _
    rw [walk, walk]
    cases refOf? items with
    | some ref => exact h ref
    | none => exact .bind htrans hitems fun _ _ => .of_pure hrefl _

end State

end Ucf.Loader
