import Mathlib.Data.List.Basic

/-! Programs with a state that may raise an exception, whose result the state does not change: each
computes what a program without a state computes, keeps an invariant of the state, and changes the
state only in one direction. -/

namespace Ucf

/-- A program with a state of type `σ` that keeps the state when it raises. -/
abbrev Stateful (σ ε : Type) : Type → Type := ExceptT ε (StateM σ)

namespace Stateful

variable {σ ε α β : Type}

/-- What the program returns or raises from a state. -/
def outcome (x : Stateful σ ε α) (s : σ) : Except ε α := (x s).1

/-- The state in which the program ends. -/
def after (x : Stateful σ ε α) (s : σ) : σ := (x s).2

@[simp] theorem outcome_pure (a : α) (s : σ) : outcome (pure a : Stateful σ ε α) s = .ok a := rfl

@[simp] theorem after_pure (a : α) (s : σ) : after (pure a : Stateful σ ε α) s = s := rfl

@[simp] theorem outcome_throw (e : ε) (s : σ) :
    outcome (throw e : Stateful σ ε α) s = .error e := rfl

@[simp] theorem after_throw (e : ε) (s : σ) : after (throw e : Stateful σ ε α) s = s := rfl

theorem outcome_bind (x : Stateful σ ε α) (f : α → Stateful σ ε β) (s : σ) :
    outcome (x >>= f) s = outcome x s >>= fun a => outcome (f a) (after x s) := by
  rcases h : x s with ⟨a | e, s'⟩ <;>
    simp only [outcome, after, bind, ExceptT.bind, ExceptT.mk, ExceptT.bindCont, StateT.bind, h,
      Except.bind]
  rfl

theorem after_bind (x : Stateful σ ε α) (f : α → Stateful σ ε β) (s : σ) :
    after (x >>= f) s = match outcome x s with
      | .ok a => after (f a) (after x s)
      | .error _ => after x s := by
  rcases h : x s with ⟨a | e, s'⟩ <;>
    simp only [outcome, after, bind, ExceptT.bind, ExceptT.mk, ExceptT.bindCont, StateT.bind, h]
  rfl

@[simp] theorem ofExcept_self (x : Except ε α) : (MonadExcept.ofExcept x : Except ε α) = x := by
  cases x <;> rfl

/-- The program that returns what `x` returns or raises. -/
def attempt (x : Stateful σ ε α) : Stateful σ ε (Except ε α) := fun s => (.ok (x s).1, (x s).2)

/-- From every state with the invariant, `x` returns or raises what `y` does, and its state keeps
the invariant and moves along `grows`. -/
def Computes (inv : σ → Prop) (grows : σ → σ → Prop) (x : Stateful σ ε α) (y : Except ε α) : Prop :=
  ∀ s, inv s → outcome x s = y ∧ inv (after x s) ∧ grows s (after x s)

section Computes

variable {inv : σ → Prop} {grows : σ → σ → Prop}

theorem Computes.of_pure (hrefl : ∀ s, grows s s) (a : α) :
    Computes inv grows (pure a : Stateful σ ε α) (.ok a) :=
  fun s hs => ⟨rfl, hs, hrefl s⟩

theorem Computes.of_throw (hrefl : ∀ s, grows s s) (e : ε) :
    Computes inv grows (throw e : Stateful σ ε α) (.error e) :=
  fun s hs => ⟨rfl, hs, hrefl s⟩

theorem Computes.bind (htrans : ∀ s t u, grows s t → grows t u → grows s u)
    {x : Stateful σ ε α} {y : Except ε α} {f : α → Stateful σ ε β} {g : α → Except ε β}
    (hx : Computes inv grows x y) (hf : ∀ a, y = .ok a → Computes inv grows (f a) (g a)) :
    Computes inv grows (x >>= f) (y >>= g) := by
  intro s hs
  obtain ⟨hout, hinv, hgrows⟩ := hx s hs
  rw [outcome_bind, after_bind, hout]
  cases y with
  | error e => exact ⟨rfl, hinv, hgrows⟩
  | ok a =>
    obtain ⟨hout', hinv', hgrows'⟩ := hf a rfl (after x s) hinv
    exact ⟨hout', hinv', htrans _ _ _ hgrows hgrows'⟩

theorem Computes.attempt {x : Stateful σ ε α} {y : Except ε α} (h : Computes inv grows x y) :
    Computes inv grows (attempt x) (.ok y : Except ε (Except ε α)) := by
  intro s hs
  obtain ⟨hout, hinv, hgrows⟩ := h s hs
  exact ⟨congrArg Except.ok hout, hinv, hgrows⟩

theorem Computes.ofExcept (hrefl : ∀ s, grows s s) (y : Except ε α) :
    Computes inv grows (MonadExcept.ofExcept y : Stateful σ ε α) y := by
  cases y with
  | error e => exact .of_throw hrefl e
  | ok a => exact .of_pure hrefl a

theorem Computes.mono {grows' : σ → σ → Prop} (hmono : ∀ s t, grows s t → grows' s t)
    {x : Stateful σ ε α} {y : Except ε α} (h : Computes inv grows x y) :
    Computes inv grows' x y := by
  intro s hs
  obtain ⟨hout, hinv, hgrows⟩ := h s hs
  exact ⟨hout, hinv, hmono _ _ hgrows⟩

/-- A state reached by a list of programs, each run whatever the ones before it did, keeps the
invariant. -/
theorem inv_foldl {ι : Type} {run : ι → Stateful σ ε α} {result : ι → Except ε α}
    (h : ∀ i, Computes inv grows (run i) (result i)) (requests : List ι) {s : σ} (hs : inv s) :
    inv (requests.foldl (fun s i => after (run i) s) s) := by
  induction requests generalizing s with
  | nil => exact hs
  | cons i requests ih => exact ih (h i s hs).2.1

end Computes

end Stateful

end Ucf
