import Ucf.Library.Dict
import Mathlib.Data.List.Forall2
import Mathlib.Data.Option.Defs

/-! Lookups in dictionaries that are built from pairs, and in two dictionaries with related items. -/

namespace Ucf.Dict

variable {κ ν : Type} [DecidableEq κ]

/-- The values of each key, in the order of their pairs: `d.setdefault(key, []).append(value)` for one
pair after another. -/
def collect (pairs : List (κ × ν)) : Dict κ (List ν) :=
  pairs.foldl (fun d pair => d.insert pair.1 ((d.get? pair.1).getD [] ++ [pair.2])) empty

/-- The values of one key. -/
theorem getD_collect (pairs : List (κ × ν)) (key : κ) :
    ((collect pairs).get? key).getD [] =
      (pairs.filter fun pair => pair.1 = key).map Prod.snd := by
  have hfold : ∀ d : Dict κ (List ν),
      ((pairs.foldl (fun d pair => d.insert pair.1 ((d.get? pair.1).getD [] ++ [pair.2])) d).get?
        key).getD [] =
      (d.get? key).getD [] ++ (pairs.filter fun pair => pair.1 = key).map Prod.snd := by
    induction pairs with
    | nil => simp
    | cons pair pairs ih =>
      intro d
      rw [List.foldl_cons, ih, get?_insert]
      by_cases hkey : pair.1 = key
      · subst hkey
        simp
      · simp [hkey, Ne.symm hkey]
  rw [collect, hfold, get?_empty, Option.getD_none, List.nil_append]

theorem keys_insert_of_mem {d : Dict κ ν} {key : κ} {value : ν} (h : key ∈ d.keys) :
    (d.insert key value).keys = d.keys := by
  rw [keys] at h
  change (assign key value d.items).map Prod.fst = d.items.map Prod.fst
  generalize d.items = items at h ⊢
  induction items with
  | nil => simp at h
  | cons item items ih =>
    by_cases hkey : item.1 = key
    · rw [assign, if_pos hkey, List.map_cons, List.map_cons, hkey]
    · have hmem : key ∈ items.map Prod.fst := (List.mem_cons.mp h).resolve_left (Ne.symm hkey)
      rw [assign, if_neg hkey, List.map_cons, List.map_cons, ih hmem]

/-- A choice of items by their values is a choice of keys by what the dictionary holds. -/
theorem filter_items (d : Dict κ ν) (p : ν → Bool) (default : ν) :
    (d.items.filter fun item => p item.2).map Prod.fst =
      d.keys.filter fun key => p ((d.get? key).getD default) := by
  rw [keys, List.filter_map]
  congr 1
  apply List.filter_congr
  intro item hitem
  have hget : d.get? item.1 = some item.2 := get?_eq_some.mpr hitem
  simp [hget]

/-- What a dictionary from pairs holds under a key with one value. -/
theorem get?_ofList_of_unique {pairs : List (κ × ν)} {key : κ} {value : ν}
    (hmem : (key, value) ∈ pairs) (hunique : ∀ other, (key, other) ∈ pairs → other = value) :
    (ofList pairs).get? key = some value := by
  obtain ⟨found, hfound⟩ := mem_keys.mp (mem_keys_ofList.mpr (List.mem_map_of_mem hmem))
  rw [hfound, hunique found (mem_of_mem_ofList (get?_eq_some.mp hfound))]

theorem get?_ofList_append (xs ys : List (κ × ν)) (key : κ) :
    (ofList (xs ++ ys)).get? key = ((ofList ys).get? key).or ((ofList xs).get? key) := by
  have hfold : ∀ d : Dict κ ν, (d.update ys).get? key = ((ofList ys).get? key).or (d.get? key) := by
    induction ys using List.reverseRecOn with
    | nil => simp [update, ofList]
    | append_singleton ys y ih =>
      intro d
      have hlast : ∀ e : Dict κ ν, e.update (ys ++ [y]) = (e.update ys).insert y.1 y.2 := by
        simp [update]
      rw [ofList, hlast, hlast, get?_insert, get?_insert, ih]
      by_cases hkey : key = y.1
      · simp [hkey]
      · rw [if_neg hkey, if_neg hkey, ofList]
  have happend : ofList (xs ++ ys) = (ofList xs).update ys := by
    rw [ofList, update, List.foldl_append]
    rfl
  rw [happend, hfold]

/-- Dictionaries with the same keys and related values, item by item. -/
def Related {μ : Type} (R : ν → μ → Prop) (d : Dict κ ν) (e : Dict κ μ) : Prop :=
  List.Forall₂ (fun item other => item.1 = other.1 ∧ R item.2 other.2) d.items e.items

theorem Related.get? {μ : Type} {R : ν → μ → Prop} {d : Dict κ ν} {e : Dict κ μ}
    (h : Related R d e) (key : κ) : Option.Rel R (d.get? key) (e.get? key) := by
  rw [Dict.get?, Dict.get?]
  rw [Related] at h
  generalize d.items = items, e.items = others at h
  induction h with
  | nil => exact .none
  | @cons item other _ _ hitem _ ih =>
    by_cases hkey : item.1 = key
    · have hother : other.1 = key := hitem.1 ▸ hkey
      simpa [hkey, hother] using hitem.2
    · have hother : other.1 ≠ key := hitem.1 ▸ hkey
      simpa [hkey, hother] using ih

end Ucf.Dict
