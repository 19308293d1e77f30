import Mathlib.Algebra.GroupWithZero.Nat
import Mathlib.Data.List.Basic

/-! Depth-first search for a cycle with an explicit stack. Where a rank falls along every edge, the
search finds none. -/

namespace Ucf.CycleSearch

variable {κ : Type} [DecidableEq κ] (nodes : List κ) (edges : κ → List κ)

/-- The nodes on the stack. -/
def active (stack : List (κ × List κ)) : List κ := stack.map Prod.fst

/-- The nodes that the search has not come to. -/
def unseen (visited : List κ) (stack : List (κ × List κ)) : List κ :=
  nodes.filter fun node => node ∉ visited ∧ node ∉ active stack

/-- The edges that are still to be followed, and the nodes to be left. -/
def pending (stack : List (κ × List κ)) : Nat := (stack.map fun frame => frame.2.length + 1).sum

variable {nodes} in
theorem length_unseen_lt {visited : List κ} {stack : List (κ × List κ)} {node : κ}
    {targets : List κ} (hnode : node ∈ nodes) (hvisited : node ∉ visited)
    (hstack : node ∉ active stack) :
    (unseen nodes visited ((node, targets) :: stack)).length <
      (unseen nodes visited stack).length := by
  have hsub : (unseen nodes visited ((node, targets) :: stack)) =
      (unseen nodes visited stack).filter fun other => other ≠ node := by
    rw [unseen, unseen, List.filter_filter]
    refine List.filter_congr fun other _ => ?_
    rw [← Bool.decide_and, decide_eq_decide]
    simp only [active, List.map_cons, List.mem_cons, not_or]
    tauto
  rw [hsub]
  refine List.length_filter_lt_length_iff_exists.mpr ⟨node, ?_, by simp⟩
  rw [unseen, List.mem_filter, decide_eq_true_iff]
  exact ⟨hnode, hvisited, hstack⟩

/-- The search from the frames of a stack, the last one first: the nodes it has left, and the cycle
that it found. An edge to no node is skipped. -/
def search (visited : List κ) : List (κ × List κ) → List κ × Option (List κ)
  | [] => (visited, none)
  | (node, []) :: stack => search (node :: visited) stack
  | (node, target :: targets) :: stack =>
    if target ∈ active ((node, targets) :: stack) then
      (visited, some (((active ((node, targets) :: stack)).takeWhile (· ≠ target) ++
        [target]).reverse ++ [target]))
    else if target ∈ visited then search visited ((node, targets) :: stack)
    else if _h : target ∈ nodes then
      search visited ((target, edges target) :: (node, targets) :: stack)
    else search visited ((node, targets) :: stack)
termination_by stack => ((unseen nodes visited stack).length, pending stack)
decreasing_by
  · have hsame : unseen nodes (node :: visited) stack = unseen nodes visited ((node, []) :: stack) := by
      refine List.filter_congr fun other _ => decide_eq_decide.mpr ?_
      simp only [active, List.map_cons, List.mem_cons, not_or]
      tauto
    rw [hsame]
    exact Prod.Lex.right _ (by simp [pending])
  · exact Prod.Lex.right _ (by simp [pending])
  · rename_i hactive hvisited
    exact Prod.Lex.left _ _ (length_unseen_lt _h hvisited hactive)
  · exact Prod.Lex.right _ (by simp [pending])

/-- The search from each of the roots that no earlier one has come to. -/
def findFrom : List κ → List κ → Option (List κ)
  | [], _ => none
  | root :: roots, visited =>
    if root ∈ visited then findFrom roots visited
    else
      match search nodes edges visited [(root, edges root)] with
      | (_, some cycle) => some cycle
      | (visited, none) => findFrom roots visited

/-- A cycle, if there is one. -/
def find : Option (List κ) := findFrom nodes edges nodes []

section Rank

variable {nodes edges} {rank : κ → Nat} (hrank : ∀ node ∈ nodes, ∀ target ∈ edges node,
  rank target < rank node)
include hrank

/-- The frames of a search along falling ranks. -/
structure Falls (rank : κ → Nat) (stack : List (κ × List κ)) : Prop where
  below : ∀ frame ∈ stack, ∀ target ∈ frame.2, rank target < rank frame.1
  ordered : stack.Pairwise fun upper lower => rank upper.1 < rank lower.1

omit [DecidableEq κ] hrank in
theorem Falls.tail {frame : κ × List κ} {stack : List (κ × List κ)}
    (h : Falls rank (frame :: stack)) : Falls rank stack :=
  ⟨fun frame hframe => h.below frame (List.mem_cons_of_mem _ hframe), h.ordered.of_cons⟩

omit [DecidableEq κ] hrank in
theorem Falls.skip {node target : κ} {targets : List κ} {stack : List (κ × List κ)}
    (h : Falls rank ((node, target :: targets) :: stack)) :
    Falls rank ((node, targets) :: stack) := by
  have hordered := List.pairwise_cons.mp h.ordered
  refine ⟨?_, List.pairwise_cons.mpr hordered⟩
  rintro frame hframe other hother
  rcases List.mem_cons.mp hframe with rfl | hframe
  · exact h.below _ List.mem_cons_self other (List.mem_cons_of_mem _ hother)
  · exact h.below frame (List.mem_cons_of_mem _ hframe) other hother

theorem search_of_falls {visited : List κ} {stack : List (κ × List κ)} (h : Falls rank stack) :
    (search nodes edges visited stack).2 = none := by
  induction visited, stack using search.induct nodes edges with
  | case1 visited => rw [search]
  | case2 visited node stack ih =>
    rw [search]
    exact ih h.tail
  | case3 visited node target targets stack hactive =>
    have hbelow : rank target < rank node := h.below _ List.mem_cons_self target List.mem_cons_self
    rcases List.mem_cons.mp hactive with rfl | hmem
    · omega
    · obtain ⟨frame, hframe, rfl⟩ := List.mem_map.mp hmem
      have habove : rank node < rank frame.1 := (List.pairwise_cons.mp h.ordered).1 frame hframe
      omega
  | case4 visited node target targets stack hactive hvisited ih =>
    rw [search]
    rw [if_neg hactive, if_pos hvisited]
    exact ih h.skip
  | case5 visited node target targets stack hactive hvisited hnode ih =>
    rw [search]
    rw [if_neg hactive, if_neg hvisited, dif_pos hnode]
    have hskip := h.skip
    have hbelow : rank target < rank node := h.below _ List.mem_cons_self target List.mem_cons_self
    refine ih ⟨?_, List.pairwise_cons.mpr ⟨?_, hskip.ordered⟩⟩
    · intro frame hframe other hother
      rcases List.mem_cons.mp hframe with rfl | hframe
      · exact hrank target hnode other hother
      · exact hskip.below frame hframe other hother
    · intro frame hframe
      rcases List.mem_cons.mp hframe with rfl | hframe
      · exact hbelow
      · have habove : rank node < rank frame.1 :=
          (List.pairwise_cons.mp h.ordered).1 frame hframe
        show rank target < rank frame.1
        omega
  | case6 visited node target targets stack hactive hvisited hnode ih =>
    rw [search]
    rw [if_neg hactive, if_neg hvisited, dif_neg hnode]
    exact ih h.skip

/-- There is no cycle where a rank falls along every edge. -/
theorem find_eq_none : find nodes edges = none := by
  have hfrom : ∀ roots visited, roots ⊆ nodes → findFrom nodes edges roots visited = none := by
    intro roots
    induction roots with
    | nil => exact fun _ _ => rfl
    | cons root roots ih =>
      intro visited hsub
      rw [findFrom]
      split_ifs with hvisited
      · exact ih _ fun _ hmem => hsub (List.mem_cons_of_mem _ hmem)
      · have hfalls : Falls rank [(root, edges root)] :=
          ⟨fun frame hframe => by
            cases List.mem_singleton.mp hframe
            exact hrank root (hsub List.mem_cons_self), List.pairwise_singleton _ _⟩
        have hnone := @search_of_falls _ _ _ _ _ hrank visited _ hfalls
        split
        · rename_i cycle hsearch
          rw [hsearch] at hnone
          cases hnone
        · exact ih _ fun _ hmem => hsub (List.mem_cons_of_mem _ hmem)
  exact hfrom nodes [] fun _ h => h

end Rank

end Ucf.CycleSearch
