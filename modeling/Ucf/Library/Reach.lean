import Mathlib.Data.List.Basic
import Mathlib.Logic.Relation

/-! The nodes that a worklist reaches along the edges of a finite graph. -/

namespace Ucf.Reach

open Relation

variable {κ : Type} [DecidableEq κ] (nodes : List κ) (edges : κ → List κ)

/-- The nodes that the worklist has not come to. -/
def unseen (visited : List κ) : List κ := nodes.filter fun node => node ∉ visited

variable {nodes} in
theorem length_unseen_lt {visited : List κ} {node : κ} (hnode : node ∈ nodes)
    (hvisited : node ∉ visited) :
    (unseen nodes (visited ++ [node])).length < (unseen nodes visited).length := by
  have hsub : unseen nodes (visited ++ [node]) =
      (unseen nodes visited).filter fun other => other ≠ node := by
    rw [unseen, unseen, List.filter_filter]
    refine List.filter_congr fun other _ => ?_
    rw [← Bool.decide_and, decide_eq_decide, List.mem_append, List.mem_singleton, not_or]
    exact and_comm
  rw [hsub]
  refine List.length_filter_lt_length_iff_exists.mpr ⟨node, ?_, by simp⟩
  rw [unseen, List.mem_filter, decide_eq_true_iff]
  exact ⟨hnode, hvisited⟩

/-- The worklist: each node that it comes to for the first time adds the targets of its edges. What
is no node is left out. -/
def closure (visited : List κ) : List κ → List κ
  | [] => visited
  | node :: pending =>
    if node ∈ visited then closure visited pending
    else if _h : node ∈ nodes then closure (visited ++ [node]) (edges node ++ pending)
    else closure visited pending
termination_by pending => ((unseen nodes visited).length, pending.length)
decreasing_by
  · exact Prod.Lex.right _ (by simp)
  · exact Prod.Lex.left _ _ (length_unseen_lt _h ‹_›)
  · exact Prod.Lex.right _ (by simp)

variable {nodes edges}

/-- An edge between nodes. -/
def Step (nodes : List κ) (edges : κ → List κ) (a b : κ) : Prop := b ∈ edges a ∧ b ∈ nodes

/-- What the worklist holds comes from what it held and what was pending. -/
theorem mem_closure_sound {visited pending : List κ} {a : κ}
    (h : a ∈ closure nodes edges visited pending) :
    a ∈ visited ∨ ∃ root ∈ pending, root ∈ nodes ∧ ReflTransGen (Step nodes edges) root a := by
  induction visited, pending using closure.induct nodes edges with
  | case1 visited =>
    rw [closure] at h
    exact Or.inl h
  | case2 visited node pending hvisited ih =>
    rw [closure, if_pos hvisited] at h
    rcases ih h with hmem | ⟨root, hroot, hrest⟩
    · exact Or.inl hmem
    · exact Or.inr ⟨root, List.mem_cons_of_mem _ hroot, hrest⟩
  | case3 visited node pending hvisited hnode ih =>
    rw [closure, if_neg hvisited, dif_pos hnode] at h
    rcases ih h with hmem | ⟨root, hroot, hin, hreach⟩
    · rcases List.mem_append.mp hmem with hmem | hmem
      · exact Or.inl hmem
      · rw [List.mem_singleton] at hmem
        subst hmem
        exact Or.inr ⟨a, List.mem_cons_self, hnode, .refl⟩
    · rcases List.mem_append.mp hroot with hroot | hroot
      · exact Or.inr ⟨node, List.mem_cons_self, hnode, .head ⟨hroot, hin⟩ hreach⟩
      · exact Or.inr ⟨root, List.mem_cons_of_mem _ hroot, hin, hreach⟩
  | case4 visited node pending hvisited hnode ih =>
    rw [closure, if_neg hvisited, dif_neg hnode] at h
    rcases ih h with hmem | ⟨root, hroot, hrest⟩
    · exact Or.inl hmem
    · exact Or.inr ⟨root, List.mem_cons_of_mem _ hroot, hrest⟩

theorem subset_closure {visited pending : List κ} {a : κ} (h : a ∈ visited) :
    a ∈ closure nodes edges visited pending := by
  induction visited, pending using closure.induct nodes edges with
  | case1 visited =>
    rw [closure]
    exact h
  | case2 visited node pending hvisited ih =>
    rw [closure, if_pos hvisited]
    exact ih h
  | case3 visited node pending hvisited hnode ih =>
    rw [closure, if_neg hvisited, dif_pos hnode]
    exact ih (List.mem_append_left _ h)
  | case4 visited node pending hvisited hnode ih =>
    rw [closure, if_neg hvisited, dif_neg hnode]
    exact ih h

/-- The result is closed under the edges, when each edge from a visited node leads to a visited or a
pending one. -/
theorem closed_closure {visited pending : List κ}
    (h : ∀ a ∈ visited, ∀ b, Step nodes edges a b → b ∈ visited ∨ b ∈ pending) :
    (∀ a ∈ closure nodes edges visited pending, ∀ b, Step nodes edges a b →
      b ∈ closure nodes edges visited pending) ∧
    ∀ root ∈ pending, root ∈ nodes → root ∈ closure nodes edges visited pending := by
  induction visited, pending using closure.induct nodes edges with
  | case1 visited =>
    rw [closure]
    refine ⟨fun a ha b hab => (h a ha b hab).resolve_right (by simp), by simp⟩
  | case2 visited node pending hvisited ih =>
    rw [closure, if_pos hvisited]
    obtain ⟨hclosed, hpending⟩ := ih (by
      intro a ha b hab
      rcases h a ha b hab with hb | hb
      · exact Or.inl hb
      · rcases List.mem_cons.mp hb with rfl | hb
        · exact Or.inl hvisited
        · exact Or.inr hb)
    refine ⟨hclosed, fun root hroot hin => ?_⟩
    rcases List.mem_cons.mp hroot with rfl | hroot
    · exact subset_closure hvisited
    · exact hpending root hroot hin
  | case3 visited node pending hvisited hnode ih =>
    rw [closure, if_neg hvisited, dif_pos hnode]
    obtain ⟨hclosed, hpending⟩ := ih (by
      intro a ha b hab
      rw [List.mem_append, List.mem_append]
      rcases List.mem_append.mp ha with ha | ha
      · rcases h a ha b hab with hb | hb
        · exact Or.inl (Or.inl hb)
        · rcases List.mem_cons.mp hb with rfl | hb
          · exact Or.inl (Or.inr List.mem_cons_self)
          · exact Or.inr (Or.inr hb)
      · rw [List.mem_singleton] at ha
        subst ha
        exact Or.inr (Or.inl hab.1))
    refine ⟨hclosed, fun root hroot hin => ?_⟩
    rcases List.mem_cons.mp hroot with rfl | hroot
    · exact subset_closure (List.mem_append_right _ List.mem_cons_self)
    · exact hpending root (List.mem_append_right _ hroot) hin
  | case4 visited node pending hvisited hnode ih =>
    rw [closure, if_neg hvisited, dif_neg hnode]
    obtain ⟨hclosed, hpending⟩ := ih (by
      intro a ha b hab
      rcases h a ha b hab with hb | hb
      · exact Or.inl hb
      · rcases List.mem_cons.mp hb with rfl | hb
        · exact absurd hab.2 hnode
        · exact Or.inr hb)
    refine ⟨hclosed, fun root hroot hin => ?_⟩
    rcases List.mem_cons.mp hroot with rfl | hroot
    · exact absurd hin hnode
    · exact hpending root hroot hin

/-- The worklist ends with exactly the nodes that are reached from the roots. -/
theorem mem_closure {roots : List κ} {a : κ} : a ∈ closure nodes edges [] roots ↔
    ∃ root ∈ roots, root ∈ nodes ∧ ReflTransGen (Step nodes edges) root a := by
  constructor
  · intro h
    exact (mem_closure_sound h).resolve_left (by simp)
  · rintro ⟨root, hroot, hin, hreach⟩
    obtain ⟨hclosed, hpending⟩ := @closed_closure κ _ nodes edges [] roots (by simp)
    induction hreach with
    | refl => exact hpending root hroot hin
    | tail _ hstep ih => exact hclosed _ ih _ hstep

end Ucf.Reach
