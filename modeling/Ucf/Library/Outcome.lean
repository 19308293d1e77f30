import Ucf.Library.Check

/-! Programs that differ in what they raise only, such as a check at two locations of a document:
when one returns, the other returns the same value. -/

namespace Ucf

variable {ε α β σ : Type}

/-- What is tested of the value of a program that returns. -/
theorem exists_of_any {x : Except ε α} {p : α → Bool} (h : x.toOption.any p = true) :
    ∃ a, x = .ok a ∧ p a = true := by
  cases x with
  | error e => cases h
  | ok a => exact ⟨a, rfl, h⟩

/-- What is computed from the value of a program that returns. -/
theorem exists_of_map {x : Except ε α} {f : α → β} {b : β} (h : x.toOption.map f = some b) :
    ∃ a, x = .ok a ∧ f a = b := by
  cases x with
  | error e => cases h
  | ok a => exact ⟨a, rfl, Option.some.inj h⟩

/-- Both programs return the same value, or both raise. -/
def SameValue (x y : Except ε α) : Prop := ∀ a, x = .ok a ↔ y = .ok a

namespace SameValue

theorem refl (x : Except ε α) : SameValue x x := fun _ => Iff.rfl

theorem error (e e' : ε) : SameValue (.error e : Except ε α) (.error e') := by
  intro a
  simp

theorem require (p : Prop) [Decidable p] (e e' : ε) :
    SameValue (Ucf.require p e) (Ucf.require p e') := by
  intro a
  simp

theorem orRaise (x : Option α) (e e' : ε) : SameValue (Ucf.orRaise x e) (Ucf.orRaise x e') := by
  intro a
  simp

theorem ite (p : Prop) [Decidable p] {x y x' y' : Except ε α} (h : SameValue x x')
    (h' : SameValue y y') : SameValue (if p then x else y) (if p then x' else y') := by
  by_cases hp : p
  · rwa [if_pos hp, if_pos hp]
  · rwa [if_neg hp, if_neg hp]

theorem bind {x y : Except ε α} {f g : α → Except ε β} (h : SameValue x y)
    (hrest : ∀ a, SameValue (f a) (g a)) : SameValue (x >>= f) (y >>= g) := by
  intro b
  rw [bind_eq_ok, bind_eq_ok]
  exact exists_congr fun a => and_congr (h a) (hrest a b)

theorem checkEach {check check' : Nat → α → Except ε Unit} {items : List α}
    (h : ∀ i a, SameValue (check i a) (check' i a)) :
    SameValue (Ucf.checkEach check items) (Ucf.checkEach check' items) := by
  intro u
  rw [checkEach_eq_ok, checkEach_eq_ok]
  exact forall_congr' fun i => forall_congr' fun _ => h i _ ()

theorem foldlM {f g : σ → α → Except ε σ} {items : List α} {start : σ}
    (h : ∀ s a, SameValue (f s a) (g s a)) :
    SameValue (items.foldlM f start) (items.foldlM g start) := by
  induction items generalizing start with
  | nil => exact .refl _
  | cons a items ih =>
    rw [List.foldlM_cons, List.foldlM_cons]
    exact .bind (h start a) fun _ => ih

end SameValue

end Ucf
