import Ucf.Library.Check

/-! Loops that thread a state and may raise: what holds of the state when such a loop returns, and
of each item that it has passed. -/

namespace Ucf

variable {ε α σ : Type} {f : σ → α → Except ε σ} {items : List α} {start final : σ}

/-- What holds at the start and is kept by each turn holds at the end. -/
theorem foldlM_invariant {P : σ → Prop} (h : items.foldlM f start = .ok final) (hstart : P start)
    (hstep : ∀ a ∈ items, ∀ s s', P s → f s a = .ok s' → P s') : P final := by
  induction items generalizing start with
  | nil =>
    obtain rfl : start = final := Except.ok.inj h
    exact hstart
  | cons a items ih =>
    rw [List.foldlM_cons, bind_eq_ok] at h
    obtain ⟨next, hnext, hrest⟩ := h
    exact ih hrest (hstep a (by simp) start next hstart hnext)
      fun b hb => hstep b (by simp [hb])

/-- What a turn says of its item holds of every item. -/
theorem foldlM_forall {Q : α → Prop} (h : items.foldlM f start = .ok final)
    (hstep : ∀ a ∈ items, ∀ s s', f s a = .ok s' → Q a) : ∀ a ∈ items, Q a := by
  induction items generalizing start with
  | nil => nofun
  | cons a items ih =>
    rw [List.foldlM_cons, bind_eq_ok] at h
    obtain ⟨next, hnext, hrest⟩ := h
    rw [List.forall_mem_cons]
    exact ⟨hstep a (by simp) start next hnext, ih hrest fun b hb => hstep b (by simp [hb])⟩

end Ucf
