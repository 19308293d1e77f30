import Mathlib.Logic.Function.Basic

/-! Requests to store a value under a key: one that overwrites takes effect always, one that does
not takes effect where nothing is stored yet. -/

namespace Ucf

structure Request (κ ν : Type) where
  key : κ
  value : ν
  overwrite : Bool

namespace Request

variable {κ ν : Type} [DecidableEq κ]

def apply (store : κ → Option ν) (r : Request κ ν) : κ → Option ν :=
  if r.overwrite = true ∨ store r.key = none then Function.update store r.key (some r.value)
  else store

def applyAll (store : κ → Option ν) (requests : List (Request κ ν)) : κ → Option ν :=
  requests.foldl apply store

/-- The value of the last request that overwrites a key. -/
def lastOverwrite (key : κ) : List (Request κ ν) → Option ν
  | [] => none
  | r :: rs =>
    (lastOverwrite key rs).or (if r.key = key ∧ r.overwrite = true then some r.value else none)

/-- The value of the first request for a key. -/
def first (key : κ) : List (Request κ ν) → Option ν
  | [] => none
  | r :: rs => if r.key = key then some r.value else first key rs

/-- What requests leave under a key: the last value that overwrites, else what was stored before,
else the first value. -/
def due (stored : Option ν) (key : κ) (requests : List (Request κ ν)) : Option ν :=
  (lastOverwrite key requests).or (stored.or (first key requests))

theorem apply_apply (store : κ → Option ν) (r : Request κ ν) (key : κ) :
    r.apply store key = due (store key) key [r] := by
  rw [apply, due, lastOverwrite, lastOverwrite, first, first]
  by_cases hkey : r.key = key
  · subst hkey
    cases r.overwrite <;> cases hstored : store r.key <;> simp [hstored]
  · have hne : key ≠ r.key := Ne.symm hkey
    split <;> simp [hkey, hne]

theorem applyAll_apply (store : κ → Option ν) (requests : List (Request κ ν)) (key : κ) :
    applyAll store requests key = due (store key) key requests := by
  induction requests generalizing store with
  | nil => simp [applyAll, due, lastOverwrite, first]
  | cons r rs ih =>
    rw [applyAll, List.foldl_cons, ← applyAll, ih, apply_apply]
    simp only [due, lastOverwrite, first, Option.none_or, Option.or_assoc]
    by_cases hkey : r.key = key
    · simp only [hkey, if_true, true_and]
      cases r.overwrite <;> simp
    · simp [hkey]

/-- Requests that are made a second time change nothing. -/
theorem applyAll_applyAll (store : κ → Option ν) (requests : List (Request κ ν)) :
    applyAll (applyAll store requests) requests = applyAll store requests := by
  funext key
  rw [applyAll_apply, applyAll_apply, due, due]
  cases lastOverwrite key requests with
  | some value => rfl
  | none => cases store key <;> cases first key requests <;> rfl

theorem applyAll_append (store : κ → Option ν) (rs ss : List (Request κ ν)) :
    applyAll store (rs ++ ss) = applyAll (applyAll store rs) ss := by
  rw [applyAll, applyAll, applyAll, List.foldl_append]

/-- What is requested is stored. -/
theorem applyAll_ne_none {store : κ → Option ν} {requests : List (Request κ ν)}
    {r : Request κ ν} (h : r ∈ requests) : applyAll store requests r.key ≠ none := by
  have hfirst : first r.key requests ≠ none := by
    induction requests with
    | nil => cases h
    | cons s ss ih =>
      rw [first]
      split
      · simp
      · rename_i hne
        exact ih ((List.mem_cons.mp h).resolve_left fun heq => hne (congrArg key heq.symm))
  rw [applyAll_apply, due]
  intro hnone
  simp only [Option.or_eq_none_iff] at hnone
  exact hfirst hnone.2.2

end Request

end Ucf
