import Mathlib.Data.List.Basic

/-! Runs of a machine that takes one event after another and says what can be observed of each
step. -/

namespace Ucf

variable {σ ε ο : Type}

/-- A machine: where it starts, and for each event the next state and what is observed. An event
that has no effect in a state leaves it as it is. -/
structure Machine (σ ε ο : Type) where
  start : σ
  step : σ → ε → σ × List ο

namespace Machine

variable (m : Machine σ ε ο)

/-- The state after some more events, and all that was observed so far. -/
def runFrom (s : σ) (trace : List ο) : List ε → σ × List ο
  | [] => (s, trace)
  | event :: events => runFrom (m.step s event).1 (trace ++ (m.step s event).2) events

/-- A run from the start. -/
def run (events : List ε) : σ × List ο := m.runFrom m.start [] events

theorem runFrom_append (s : σ) (trace : List ο) (events more : List ε) :
    m.runFrom s trace (events ++ more) =
      m.runFrom (m.runFrom s trace events).1 (m.runFrom s trace events).2 more := by
  induction events generalizing s trace with
  | nil => rfl
  | cons event events ih => exact ih _ _

theorem run_append (events more : List ε) :
    m.run (events ++ more) = m.runFrom (m.run events).1 (m.run events).2 more :=
  m.runFrom_append _ _ _ _

/-- The last step of a run. -/
theorem run_snoc (events : List ε) (event : ε) :
    m.run (events ++ [event]) = ((m.step (m.run events).1 event).1,
      (m.run events).2 ++ (m.step (m.run events).1 event).2) :=
  m.run_append _ _

variable {m}

/-- What holds at first, and that each step keeps, holds after any further run. -/
theorem runFrom_induction {P : σ → List ο → Prop} {s : σ} {trace : List ο} (hstart : P s trace)
    (hstep : ∀ s trace event, P s trace →
      P (m.step s event).1 (trace ++ (m.step s event).2)) (events : List ε) :
    P (m.runFrom s trace events).1 (m.runFrom s trace events).2 := by
  induction events generalizing s trace with
  | nil => exact hstart
  | cons event events ih => exact ih (hstep _ _ _ hstart)

/-- The induction rule for runs. -/
theorem run_induction {P : σ → List ο → Prop} (hstart : P m.start [])
    (hstep : ∀ s trace event, P s trace →
      P (m.step s event).1 (trace ++ (m.step s event).2)) (events : List ε) :
    P (m.run events).1 (m.run events).2 :=
  runFrom_induction hstart hstep events

/-- A state that some run reaches. -/
def Reachable (m : Machine σ ε ο) (s : σ) : Prop := ∃ events, (m.run events).1 = s

theorem Reachable.step {s : σ} (h : m.Reachable s) (event : ε) :
    m.Reachable (m.step s event).1 := by
  obtain ⟨events, rfl⟩ := h
  exact ⟨events ++ [event], by rw [run_snoc]⟩

theorem Reachable.induction {P : σ → Prop} (hstart : P m.start)
    (hstep : ∀ s event, P s → P (m.step s event).1) {s : σ} (h : m.Reachable s) : P s := by
  obtain ⟨events, rfl⟩ := h
  exact run_induction (P := fun s _ => P s) hstart (fun s _ event => hstep s event) events

end Machine

end Ucf
