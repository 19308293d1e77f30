import Ucf.Library.Dict

/-! A loop that indexes items by a key and stops at the first key that comes twice. -/

namespace Ucf

variable {α κ : Type} [DecidableEq κ] (key : α → κ)

/-- The items by their keys, after those that are seen, or the first two of one key. -/
def indexUnique (seen : Dict κ α) : List α → Except (α × α) (Dict κ α)
  | [] => .ok seen
  | a :: items =>
    match seen.get? (key a) with
    | some previous => .error (previous, a)
    | none => indexUnique (seen.insert (key a) a) items

variable {key} {before items : List α}

theorem index_concat {a : α} :
    Dict.index key (before ++ [a]) = (Dict.index key before).insert (key a) a := by
  simp [Dict.index, Dict.ofList, Dict.update, List.foldl_append]

theorem indexUnique_index (h : ((before ++ items).map key).Nodup) :
    indexUnique key (Dict.index key before) items = .ok (Dict.index key (before ++ items)) := by
  induction items generalizing before with
  | nil => rw [indexUnique, List.append_nil]
  | cons a items ih =>
    have hsplit : before ++ a :: items = before ++ [a] ++ items := by simp
    have hnone : (Dict.index key before).get? (key a) = none := by
      refine Dict.get?_index_eq_none.mpr fun other hother heq => ?_
      rw [List.map_append, List.map_cons] at h
      exact (List.nodup_append.mp h).2.2 _ (List.mem_map_of_mem hother) _ List.mem_cons_self heq
    rw [indexUnique, hnone, ← index_concat, hsplit]
    rw [hsplit] at h
    exact ih h

/-- Two items of one key are found. -/
theorem indexUnique_error (hbefore : (before.map key).Nodup)
    (h : ¬((before ++ items).map key).Nodup) :
    ∃ pair, indexUnique key (Dict.index key before) items = .error pair := by
  induction items generalizing before with
  | nil => exact absurd (by rwa [List.append_nil]) h
  | cons a items ih =>
    rw [indexUnique]
    cases hget : (Dict.index key before).get? (key a) with
    | some previous => exact ⟨(previous, a), rfl⟩
    | none =>
      have hfresh := Dict.get?_index_eq_none.mp hget
      rw [← index_concat]
      refine ih ?_ (by simpa using h)
      rw [List.map_append, List.nodup_append]
      refine ⟨hbefore, by simp, fun k hk other hother => ?_⟩
      obtain ⟨b, hb, rfl⟩ := List.mem_map.mp hk
      rw [List.map_cons, List.map_nil, List.mem_singleton] at hother
      rw [hother]
      exact hfresh b hb

/-- The loop ends exactly when the keys are different. -/
theorem indexUnique_eq_ok {index : Dict κ α} :
    indexUnique key .empty items = .ok index ↔
      (items.map key).Nodup ∧ index = Dict.index key items := by
  have hempty : (Dict.empty : Dict κ α) = Dict.index key [] := rfl
  rw [hempty]
  constructor
  · intro h
    by_cases hnodup : (items.map key).Nodup
    · rw [@indexUnique_index _ _ _ key [] items hnodup] at h
      exact ⟨hnodup, (Except.ok.inj h).symm⟩
    · obtain ⟨pair, herror⟩ := @indexUnique_error _ _ _ key [] items List.nodup_nil hnodup
      rw [herror] at h
      cases h
  · rintro ⟨hnodup, rfl⟩
    exact @indexUnique_index _ _ _ key [] items hnodup

end Ucf
