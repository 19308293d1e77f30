import Mathlib.Data.List.Forall2
import Mathlib.Data.List.Induction
import Mathlib.Data.List.Nodup

/-! Programs that return a value or raise an exception, as `Except`: what it takes for a sequence
of checks, a loop of checks, and a loop that builds a list to return. -/

namespace Ucf

/-- The lists of characters and of code units compare as their members do. -/
instance lawfulBEqChars : LawfulBEq (List Char) := inferInstance

instance lawfulBEqUnits : LawfulBEq (List Nat) := inferInstance

variable {ε α β γ : Type}

/-- Raise `e` unless `p` holds. -/
def require (p : Prop) [Decidable p] (e : ε) : Except ε Unit :=
  if p then .ok () else .error e

@[simp] theorem require_eq_ok {p : Prop} [Decidable p] {e : ε} {u : Unit} :
    require p e = .ok u ↔ p := by
  unfold require
  split <;> simp_all

theorem require_of_not {p : Prop} [Decidable p] {e : ε} (h : ¬p) : require p e = .error e := by
  simp [require, h]

@[simp] theorem ok_bind (a : α) (f : α → Except ε β) : (Except.ok a >>= f) = f a := rfl

@[simp] theorem error_bind (e : ε) (f : α → Except ε β) :
    (Except.error e >>= f) = .error e := rfl

@[simp] theorem bind_eq_ok {x : Except ε α} {f : α → Except ε β} {b : β} :
    x >>= f = .ok b ↔ ∃ a, x = .ok a ∧ f a = .ok b := by
  cases x with
  | error e => simp
  | ok a => simp

@[simp] theorem map_eq_ok {x : Except ε α} {f : α → β} {b : β} :
    f <$> x = .ok b ↔ ∃ a, x = .ok a ∧ f a = b := by
  cases x <;> simp [Functor.map, Except.map]

@[simp] theorem pure_eq_ok (a : α) : (pure a : Except ε α) = .ok a := rfl

@[simp] theorem throw_eq_error (e : ε) : (throw e : Except ε α) = .error e := rfl

@[simp] theorem mapError_eq_ok {ε' : Type} {x : Except ε α} {f : ε → ε'} {a : α} :
    x.mapError f = .ok a ↔ x = .ok a := by
  cases x <;> simp [Except.mapError]

/-- The value that an optional lookup finds, or the exception `e`. -/
def orRaise (x : Option α) (e : ε) : Except ε α :=
  match x with
  | some a => .ok a
  | none => .error e

@[simp] theorem orRaise_eq_ok {x : Option α} {e : ε} {a : α} :
    orRaise x e = .ok a ↔ x = some a := by
  cases x <;> simp [orRaise]

@[simp] theorem orRaise_some (a : α) (e : ε) : orRaise (some a) e = .ok a := rfl

/-- `for position, item in enumerate(items, start)` with a check in its body. -/
def checkFrom (check : Nat → α → Except ε Unit) : Nat → List α → Except ε Unit
  | _, [] => .ok ()
  | start, item :: items => do
    check start item
    checkFrom check (start + 1) items

/-- `for position, item in enumerate(items)` with a check in its body. -/
def checkEach (check : Nat → α → Except ε Unit) (items : List α) : Except ε Unit :=
  checkFrom check 0 items

theorem checkFrom_eq_ok {check : Nat → α → Except ε Unit} {start : Nat} {items : List α}
    {u : Unit} : checkFrom check start items = .ok u ↔
      ∀ i (h : i < items.length), check (start + i) items[i] = .ok () := by
  induction items generalizing start with
  | nil => simp [checkFrom]
  | cons item items ih =>
    simp only [checkFrom, bind_eq_ok, ih]
    constructor
    · rintro ⟨_, hitem, hitems⟩ i hi
      cases i with
      | zero => exact hitem
      | succ i =>
        have := hitems i (by simpa using hi)
        rwa [Nat.add_assoc, Nat.add_comm 1 i] at this
    · intro h
      refine ⟨(), h 0 (by simp), fun i hi => ?_⟩
      have := h (i + 1) (by simpa using hi)
      rwa [Nat.add_assoc, Nat.add_comm 1 i]

/-- A loop of checks passes exactly when every item passes at its position. -/
theorem checkEach_eq_ok {check : Nat → α → Except ε Unit} {items : List α} {u : Unit} :
    checkEach check items = .ok u ↔ ∀ i (h : i < items.length), check i items[i] = .ok () := by
  simp [checkEach, checkFrom_eq_ok]

/-- A loop of checks whose outcome does not depend on the position. -/
theorem checkEach_eq_ok_of_mem {check : Nat → α → Except ε Unit} {items : List α} {u : Unit}
    {P : α → Prop} (h : ∀ i, ∀ a ∈ items, (check i a = .ok () ↔ P a)) :
    checkEach check items = .ok u ↔ ∀ a ∈ items, P a := by
  rw [checkEach_eq_ok]
  constructor
  · intro hall a ha
    obtain ⟨i, hi, rfl⟩ := List.mem_iff_getElem.mp ha
    exact (h i _ (List.getElem_mem hi)).mp (hall i hi)
  · intro hall i hi
    exact (h i _ (List.getElem_mem hi)).mpr (hall _ (List.getElem_mem hi))

theorem checkEach_eq_ok_of_iff {check : Nat → α → Except ε Unit} {items : List α} {u : Unit}
    {P : α → Prop} (h : ∀ i a, check i a = .ok () ↔ P a) :
    checkEach check items = .ok u ↔ ∀ a ∈ items, P a :=
  checkEach_eq_ok_of_mem fun i a _ => h i a

@[simp] theorem checkEach_require_eq_ok {p : α → Prop} [∀ a, Decidable (p a)]
    {e : Nat → α → ε} {items : List α} {u : Unit} :
    checkEach (fun i a => require (p a) (e i a)) items = .ok u ↔ ∀ a ∈ items, p a :=
  checkEach_eq_ok_of_iff fun _ _ => require_eq_ok

theorem forall₂_imp_of_mem {r s : α → β → Prop} {as : List α} {bs : List β}
    (h : List.Forall₂ r as bs) (himp : ∀ a ∈ as, ∀ b, r a b → s a b) : List.Forall₂ s as bs := by
  induction h with
  | nil => exact .nil
  | cons hab _ ih =>
    exact .cons (himp _ (by simp) _ hab) (ih fun a ha b => himp a (by simp [ha]) b)

/-- A list comprehension whose element expression may raise. -/
def collect (f : α → Except ε β) : List α → Except ε (List β)
  | [] => .ok []
  | a :: as => do
    let b ← f a
    let bs ← collect f as
    pure (b :: bs)

@[simp] theorem collect_nil (f : α → Except ε β) : collect f [] = .ok [] := rfl

theorem collect_cons (f : α → Except ε β) (a : α) (as : List α) :
    collect f (a :: as) = f a >>= fun b => collect f as >>= fun bs => .ok (b :: bs) := rfl

/-- The elements that a comprehension collects are those of its source list, in order. -/
theorem collect_eq_ok {f : α → Except ε β} {as : List α} {bs : List β} :
    collect f as = .ok bs ↔ List.Forall₂ (fun a b => f a = .ok b) as bs := by
  induction as generalizing bs with
  | nil => simp [eq_comm]
  | cons a as ih =>
    simp only [collect_cons, bind_eq_ok, List.forall₂_cons_left_iff, ih, Except.ok.injEq]
    constructor
    · rintro ⟨b, hb, bs', hbs, rfl⟩
      exact ⟨b, bs', hb, hbs, rfl⟩
    · rintro ⟨b, bs', hb, hbs, rfl⟩
      exact ⟨b, hb, bs', hbs, rfl⟩

theorem collect_eq_ok_of_forall {f : α → Except ε β} {g : α → β} {as : List α}
    (h : ∀ a ∈ as, f a = .ok (g a)) : collect f as = .ok (as.map g) := by
  induction as with
  | nil => rfl
  | cons a as ih =>
    rw [collect_cons, h a (by simp), ih fun b hb => h b (by simp [hb])]
    rfl

theorem exists_collect {f : α → Except ε β} {r : α → β → Prop} {as : List α}
    (h : ∀ a ∈ as, ∃ b, f a = .ok b ∧ r a b) :
    ∃ bs, collect f as = .ok bs ∧ List.Forall₂ r as bs := by
  induction as with
  | nil => exact ⟨[], rfl, .nil⟩
  | cons a as ih =>
    rw [List.forall_mem_cons] at h
    obtain ⟨⟨b, hb, hr⟩, hrest⟩ := h
    obtain ⟨bs, hbs, hrs⟩ := ih hrest
    refine ⟨b :: bs, ?_, .cons hr hrs⟩
    rw [collect_cons, hb, ok_bind, hbs, ok_bind]

theorem mem_of_collect {f : α → Except ε β} {as : List α} {bs : List β}
    (h : collect f as = .ok bs) (b : β) : b ∈ bs ↔ ∃ a ∈ as, f a = .ok b := by
  rw [collect_eq_ok] at h
  induction h with
  | nil => simp
  | @cons a b' as bs' hab _ ih =>
    rw [List.mem_cons, ih, List.exists_mem_cons_iff, hab, Except.ok.injEq, eq_comm]

theorem length_of_collect {f : α → Except ε β} {as : List α} {bs : List β}
    (h : collect f as = .ok bs) : bs.length = as.length :=
  (collect_eq_ok.mp h).length_eq.symm

theorem map_of_collect {f : α → Except ε β} {g : α → γ} {k : β → γ} {as : List α}
    {bs : List β} (h : collect f as = .ok bs)
    (hf : ∀ a ∈ as, ∀ b, f a = .ok b → k b = g a) : bs.map k = as.map g := by
  have hall := collect_eq_ok.mp h
  clear h
  induction hall with
  | nil => rfl
  | cons hab _ ih =>
    rw [List.map_cons, List.map_cons, hf _ (by simp) _ hab,
      ih fun a ha b => hf a (List.mem_cons_of_mem _ ha) b]

theorem collect_of_forall {f : α → Except ε β} {P : β → Prop} {as : List α}
    (h : ∀ a ∈ as, ∃ b, f a = .ok b ∧ P b) : ∃ bs, collect f as = .ok bs ∧ ∀ b ∈ bs, P b := by
  induction as with
  | nil => exact ⟨[], rfl, by simp⟩
  | cons a as ih =>
    rw [List.forall_mem_cons] at h
    obtain ⟨⟨b, hb, hP⟩, hrest⟩ := h
    obtain ⟨bs, hbs, hall⟩ := ih hrest
    refine ⟨b :: bs, ?_, List.forall_mem_cons.mpr ⟨hP, hall⟩⟩
    rw [collect_cons, hb, ok_bind, hbs, ok_bind]

/-! ### Loops that look back -/

/-- A loop that refuses a value that it has met before passes exactly when the values are
unique. -/
theorem nodup_filterMap_iff {f : α → Option β} {items : List α} :
    (items.filterMap f).Nodup ↔ ∀ i (h : i < items.length), ∀ b, f items[i] = some b →
      b ∉ (items.take i).filterMap f := by
  induction items using List.reverseRecOn with
  | nil => simp
  | append_singleton items a ih =>
    rw [List.filterMap_append, List.nodup_append, ih]
    constructor
    · rintro ⟨hitems, _, hlast⟩ i hi b hb hmem
      rw [List.length_append, List.length_singleton] at hi
      by_cases hlt : i < items.length
      · rw [List.getElem_append_left hlt] at hb
        rw [List.take_append_of_le_length (Nat.le_of_lt hlt)] at hmem
        exact hitems i hlt b hb hmem
      · obtain rfl : i = items.length := by omega
        rw [List.getElem_concat_length rfl] at hb
        rw [List.take_left'] at hmem
        · exact hlast b hmem b (by simp [hb]) rfl
        · rfl
    · intro h
      refine ⟨fun i hi b hb => ?_, ?_, ?_⟩
      · have := h i (by simp; omega) b (by rw [List.getElem_append_left hi]; exact hb)
        rwa [List.take_append_of_le_length (Nat.le_of_lt hi)] at this
      · cases hf : f a <;> simp [hf]
      · intro b hb c hc
        rintro rfl
        have hfa : f a = some b := by
          cases hf : f a with
          | none => simp [hf] at hc
          | some c => simp [hf] at hc; rw [hc]
        have := h items.length (by simp) b (by rw [List.getElem_concat_length rfl]; exact hfa)
        rw [List.take_left' rfl] at this
        exact this hb

/-- A loop that refuses a key that it has met before passes exactly when the keys are unique. -/
theorem nodup_map_iff {key : α → β} {items : List α} :
    (items.map key).Nodup ↔ ∀ i (h : i < items.length),
      key items[i] ∉ (items.take i).map key := by
  have h := @nodup_filterMap_iff _ _ (fun a => some (key a)) items
  simpa only [List.filterMap_eq_map', Option.some.injEq, forall_eq'] using h

end Ucf
