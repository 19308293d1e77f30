import Mathlib.Data.List.Chain
import Mathlib.Data.List.Nodup
import Mathlib.Logic.Relation
import Ucf.Library.CycleSearch

/-! What the search for a cycle returns on a graph whose edges lead to nodes: a cycle exactly when
there is one. The nodes that the search has left have all their edges among themselves and lie on no
cycle, and the frames of the stack are a path. -/

namespace Ucf.CycleSearch

open Relation

variable {κ : Type} {nodes : List κ} {edges : κ → List κ}

/-- A walk along edges that ends where it starts, and comes to no other node twice. -/
structure IsCycle (nodes : List κ) (edges : κ → List κ) (cycle : List κ) : Prop where
  two_le_length : 2 ≤ cycle.length
  closed : cycle.head? = cycle.getLast?
  edges : cycle.IsChain fun a b => b ∈ edges a
  nodup : cycle.dropLast.Nodup
  subset : cycle ⊆ nodes

/-- The first node of a cycle leads back to itself. -/
theorem IsCycle.exists_transGen {cycle : List κ} (h : IsCycle nodes edges cycle) :
    ∃ a ∈ nodes, TransGen (fun a b => b ∈ edges a) a a := by
  match cycle, h with
  | [], h => exact absurd h.two_le_length (by simp)
  | [_], h => exact absurd h.two_le_length (by simp)
  | a :: b :: rest, h =>
    obtain ⟨hab, hchain⟩ := List.isChain_cons_cons.mp h.edges
    have hlast : (b :: rest).getLast (List.cons_ne_nil _ _) = a := by
      have hclosed := h.closed
      rw [List.head?_cons, List.getLast?_cons_cons, List.getLast?_eq_getLast_of_ne_nil
        (List.cons_ne_nil _ _), Option.some.injEq] at hclosed
      exact hclosed.symm
    have hback : ReflTransGen (fun a b => b ∈ edges a) b a :=
      List.relationReflTransGen_of_exists_isChain_cons rest hchain hlast
    exact ⟨a, h.subset List.mem_cons_self, TransGen.head' hab hback⟩

/-- The nodes that the search has left. -/
structure Settled (edges : κ → List κ) (visited : List κ) : Prop where
  closed : ∀ a ∈ visited, ∀ b ∈ edges a, b ∈ visited
  acyclic : ∀ a ∈ visited, ¬TransGen (fun a b => b ∈ edges a) a a

/-- The frames of a stack: each node has an edge to the one above it, and its other edges are still to
be followed or lead to nodes that the search has left. -/
inductive Frames (edges : κ → List κ) (visited : List κ) : Option κ → List (κ × List κ) → Prop
  | nil (above : Option κ) : Frames edges visited above []
  | cons {above : Option κ} {node : κ} {targets : List κ} {stack : List (κ × List κ)}
      (left : targets ⊆ edges node) (followed : ∀ a ∈ edges node, a ∈ targets ∨ a ∈ visited ∨ a ∈ above)
      (edge : ∀ a ∈ above, a ∈ edges node) (below : Frames edges visited (some node) stack) :
      Frames edges visited above ((node, targets) :: stack)

/-- The state of the search. -/
structure Invariant (nodes : List κ) (edges : κ → List κ) (visited : List κ)
    (stack : List (κ × List κ)) : Prop where
  settled : Settled edges visited
  frames : Frames edges visited none stack
  nodup : (active stack).Nodup
  unvisited : ∀ a ∈ active stack, a ∉ visited
  nodes : active stack ⊆ nodes

namespace Settled

variable {visited : List κ}

theorem mem_of_transGen (h : Settled edges visited) {a b : κ} (ha : a ∈ visited)
    (hab : TransGen (fun a b => b ∈ edges a) a b) : b ∈ visited := by
  induction hab with
  | single hedge => exact h.closed _ ha _ hedge
  | tail _ hedge ih => exact h.closed _ ih _ hedge

/-- A node whose edges all lead to nodes that are left can be left. -/
theorem leave (h : Settled edges visited) {node : κ} (hnode : node ∉ visited)
    (hedges : ∀ a ∈ edges node, a ∈ visited) : Settled edges (node :: visited) := by
  refine ⟨?_, ?_⟩
  · intro a ha b hb
    rcases List.mem_cons.mp ha with rfl | ha
    · exact List.mem_cons_of_mem _ (hedges b hb)
    · exact List.mem_cons_of_mem _ (h.closed a ha b hb)
  · intro a ha hcycle
    rcases List.mem_cons.mp ha with rfl | ha
    · obtain ⟨b, hab, hba⟩ := TransGen.head'_iff.mp hcycle
      rcases reflTransGen_iff_eq_or_transGen.mp hba with rfl | hba
      · exact hnode (hedges _ hab)
      · exact hnode (h.mem_of_transGen (hedges b hab) hba)
    · exact h.acyclic a ha hcycle

end Settled

namespace Frames

variable {visited : List κ} {stack : List (κ × List κ)}

/-- The node above the frames is left. -/
theorem leave {node : κ} (h : Frames edges visited (some node) stack) :
    Frames edges (node :: visited) none stack := by
  have hmono : ∀ {above stack}, Frames edges visited above stack →
      Frames edges (node :: visited) above stack := by
    intro above stack h
    induction h with
    | nil above => exact .nil above
    | cons left followed edge _ ih =>
      exact .cons left (fun a ha => (followed a ha).imp_right (.imp_left (List.mem_cons_of_mem _)))
        edge ih
  cases h with
  | nil => exact .nil none
  | cons left followed edge below =>
    refine .cons left (fun a ha => ?_) (by simp) (hmono below)
    rcases followed a ha with hleft | hvisited | habove
    · exact .inl hleft
    · exact .inr (.inl (List.mem_cons_of_mem _ hvisited))
    · cases habove
      exact .inr (.inl List.mem_cons_self)

theorem isChain {above : Option κ} (h : Frames edges visited above stack) :
    (active stack).IsChain fun a b => a ∈ edges b := by
  induction h with
  | nil => exact List.isChain_nil
  | @cons above node targets stack left followed edge below ih =>
    cases below with
    | nil => exact List.isChain_singleton _
    | cons _ _ edge' _ => exact List.isChain_cons_cons.mpr ⟨edge' node rfl, ih⟩

end Frames

namespace Invariant

variable {visited : List κ} {node target : κ} {targets : List κ} {stack : List (κ × List κ)}

theorem leave (h : Invariant nodes edges visited ((node, []) :: stack)) :
    Invariant nodes edges (node :: visited) stack := by
  have hnodup := List.nodup_cons.mp h.nodup
  have hnode : node ∉ visited := h.unvisited node List.mem_cons_self
  cases h.frames with
  | cons left followed edge below =>
    have hedges : ∀ a ∈ edges node, a ∈ visited := by
      intro a ha
      simpa using followed a ha
    refine ⟨h.settled.leave hnode hedges, below.leave, hnodup.2, ?_, ?_⟩
    · intro a ha hvisited
      rcases List.mem_cons.mp hvisited with rfl | hvisited
      · exact hnodup.1 ha
      · exact h.unvisited a (List.mem_cons_of_mem _ ha) hvisited
    · exact fun a ha => h.nodes (List.mem_cons_of_mem _ ha)

theorem skip (h : Invariant nodes edges visited ((node, target :: targets) :: stack))
    (hvisited : target ∈ visited) :
    Invariant nodes edges visited ((node, targets) :: stack) := by
  refine ⟨h.settled, ?_, h.nodup, h.unvisited, h.nodes⟩
  cases h.frames with
  | cons left followed edge below =>
    refine .cons (fun a ha => left (List.mem_cons_of_mem _ ha)) (fun a ha => ?_) edge below
    rcases followed a ha with hleft | hfollowed
    · rcases List.mem_cons.mp hleft with rfl | hleft
      · exact .inr (.inl hvisited)
      · exact .inl hleft
    · exact .inr hfollowed

theorem push (h : Invariant nodes edges visited ((node, target :: targets) :: stack))
    (hactive : target ∉ active ((node, targets) :: stack)) (hvisited : target ∉ visited)
    (hnode : target ∈ nodes) :
    Invariant nodes edges visited ((target, edges target) :: (node, targets) :: stack) := by
  refine ⟨h.settled, ?_, List.nodup_cons.mpr ⟨hactive, h.nodup⟩, ?_, ?_⟩
  · cases h.frames with
    | cons left followed edge below =>
      have htarget : target ∈ edges node := left List.mem_cons_self
      refine .cons (fun _ ha => ha) (fun a ha => .inl ha) (by simp) (.cons
        (fun a ha => left (List.mem_cons_of_mem _ ha)) (fun a ha => ?_) (by simpa) below)
      rcases followed a ha with hleft | hfollowed | habove
      · rcases List.mem_cons.mp hleft with rfl | hleft
        · exact .inr (.inr rfl)
        · exact .inl hleft
      · exact .inr (.inl hfollowed)
      · cases habove
  · intro a ha
    rcases List.mem_cons.mp ha with rfl | ha
    · exact hvisited
    · exact h.unvisited a ha
  · intro a ha
    rcases List.mem_cons.mp ha with rfl | ha
    · exact hnode
    · exact h.nodes ha

end Invariant

/-! ### The run -/

variable [DecidableEq κ]

theorem exists_takeWhile_append {l : List κ} {target : κ} (h : target ∈ l) :
    ∃ rest, l = l.takeWhile (· ≠ target) ++ [target] ++ rest := by
  induction l with
  | nil => cases h
  | cons a l ih =>
    by_cases heq : a = target
    · exact ⟨l, by simp [heq]⟩
    · obtain ⟨rest, hrest⟩ := ih ((List.mem_cons.mp h).resolve_left (Ne.symm heq))
      refine ⟨rest, ?_⟩
      rw [List.takeWhile_cons_of_pos (by simpa using heq), List.cons_append, List.cons_append,
        ← hrest]

/-- The path on the stack from a node on, closed by an edge to that node. -/
theorem isCycle_of_path {path : List κ} {top target : κ}
    (hpath : (top :: path).IsChain fun a b => a ∈ edges b) (hnodup : (top :: path).Nodup)
    (hnodes : top :: path ⊆ nodes) (hmem : target ∈ top :: path) (hedge : target ∈ edges top) :
    IsCycle nodes edges
      (((top :: path).takeWhile (· ≠ target) ++ [target]).reverse ++ [target]) := by
  obtain ⟨rest, hsplit⟩ := exists_takeWhile_append hmem
  generalize hwalk : (top :: path).takeWhile (· ≠ target) ++ [target] = walk at hsplit
  have hlast : walk.getLast? = some target := by rw [← hwalk, List.getLast?_concat]
  have hhead : walk.head? = some top := by
    cases walk with
    | nil => cases hlast
    | cons a walk =>
      rw [List.cons_append] at hsplit
      rw [List.head?_cons, (List.cons.inj hsplit).1]
  rw [hsplit] at hpath hnodup hnodes
  refine ⟨?_, ?_, ?_, ?_, ?_⟩
  · have hpos : 0 < walk.length := by
      cases walk with
      | nil => cases hlast
      | cons a walk => simp
    simp only [List.length_append, List.length_reverse, List.length_singleton]
    omega
  · rw [List.getLast?_concat, List.head?_append, List.head?_reverse, hlast]
    rfl
  · refine List.isChain_append.mpr ⟨List.isChain_reverse.mpr hpath.left_of_append,
      List.isChain_singleton _, ?_⟩
    intro a ha b hb
    rw [List.getLast?_reverse, hhead] at ha
    cases ha
    cases hb
    exact hedge
  · rw [List.dropLast_concat]
    exact List.nodup_reverse.mpr (List.nodup_append.mp hnodup).1
  · intro a ha
    have ha : a ∈ walk := by
      rcases List.mem_append.mp ha with ha | ha
      · exact List.mem_reverse.mp ha
      · rw [List.mem_singleton.mp ha]
        exact List.mem_of_getLast? hlast
    exact hnodes (List.mem_append_left _ ha)

theorem Invariant.isCycle {visited : List κ} {node target : κ} {targets : List κ}
    {stack : List (κ × List κ)}
    (h : Invariant nodes edges visited ((node, target :: targets) :: stack))
    (hactive : target ∈ active ((node, targets) :: stack)) : IsCycle nodes edges
      (((active ((node, targets) :: stack)).takeWhile (· ≠ target) ++ [target]).reverse ++
        [target]) := by
  have hchain := h.frames.isChain
  cases h.frames with
  | cons left followed edge below =>
    exact isCycle_of_path hchain h.nodup h.nodes hactive (left List.mem_cons_self)

/-- What a search has done with the nodes on the stack. -/
structure Searched (nodes : List κ) (edges : κ → List κ) (visited active : List κ)
    (result : List κ × Option (List κ)) : Prop where
  isCycle : ∀ cycle, result.2 = some cycle → IsCycle nodes edges cycle
  settled : result.2 = none → Settled edges result.1
  visited : result.2 = none → visited ⊆ result.1 ∧ active ⊆ result.1

theorem searched_search (hclosed : ∀ node ∈ nodes, edges node ⊆ nodes) {visited : List κ}
    {stack : List (κ × List κ)} (h : Invariant nodes edges visited stack) :
    Searched nodes edges visited (active stack) (search nodes edges visited stack) := by
  induction visited, stack using search.induct nodes edges with
  | case1 visited =>
    rw [search]
    refine ⟨?_, fun _ => h.settled, fun _ => ⟨fun _ ha => ha, List.nil_subset _⟩⟩
    rintro cycle ⟨⟩
  | case2 visited node stack ih =>
    rw [search]
    obtain ⟨hcycle, hsettled, hvisited⟩ := ih h.leave
    refine ⟨hcycle, hsettled, fun hnone => ?_⟩
    have hvisited := hvisited hnone
    exact ⟨fun a ha => hvisited.1 (List.mem_cons_of_mem _ ha),
      List.cons_subset.mpr ⟨hvisited.1 List.mem_cons_self, hvisited.2⟩⟩
  | case3 visited node target targets stack hactive =>
    rw [search, if_pos hactive]
    refine ⟨?_, ?_, ?_⟩
    · rintro cycle ⟨⟩
      exact h.isCycle hactive
    · rintro ⟨⟩
    · rintro ⟨⟩
  | case4 visited node target targets stack hactive hvisited ih =>
    rw [search, if_neg hactive, if_pos hvisited]
    exact ih (h.skip hvisited)
  | case5 visited node target targets stack hactive hvisited hnode ih =>
    rw [search, if_neg hactive, if_neg hvisited, dif_pos hnode]
    obtain ⟨hcycle, hsettled, hsubset⟩ := ih (h.push hactive hvisited hnode)
    refine ⟨hcycle, hsettled, fun hnone => ?_⟩
    have hsubset := hsubset hnone
    exact ⟨hsubset.1, fun a ha => hsubset.2 (List.mem_cons_of_mem _ ha)⟩
  | case6 visited node target targets stack hactive hvisited hnode ih =>
    have hmem : node ∈ nodes := h.nodes List.mem_cons_self
    cases h.frames with
    | cons left followed edge below =>
      exact absurd (hclosed node hmem (left List.mem_cons_self)) hnode

theorem searched_findFrom (hclosed : ∀ node ∈ nodes, edges node ⊆ nodes) {roots visited : List κ}
    (hroots : roots ⊆ nodes) (h : Settled edges visited) :
    (∀ cycle, findFrom nodes edges roots visited = some cycle → IsCycle nodes edges cycle) ∧
      (findFrom nodes edges roots visited = none →
        ∃ visited', Settled edges visited' ∧ visited ⊆ visited' ∧ roots ⊆ visited') := by
  induction roots generalizing visited with
  | nil =>
    refine ⟨?_, fun _ => ⟨visited, h, fun _ ha => ha, List.nil_subset _⟩⟩
    rintro cycle ⟨⟩
  | cons root roots ih =>
    obtain ⟨hroot, hroots⟩ := List.cons_subset.mp hroots
    rw [findFrom]
    by_cases hvisited : root ∈ visited
    · rw [if_pos hvisited]
      obtain ⟨hcycle, hnone⟩ := ih hroots h
      refine ⟨hcycle, fun heq => ?_⟩
      obtain ⟨visited', hsettled, hsub, hsub'⟩ := hnone heq
      exact ⟨visited', hsettled, hsub, List.cons_subset.mpr ⟨hsub hvisited, hsub'⟩⟩
    · rw [if_neg hvisited]
      have hstart : Invariant nodes edges visited [(root, edges root)] :=
        ⟨h, .cons (fun _ ha => ha) (fun _ ha => .inl ha) (by simp) (.nil _), by simp [active],
          by simpa [active] using hvisited, by simpa [active] using hroot⟩
      have hsearch := searched_search hclosed hstart
      split
      · rename_i cycle heq
        rw [heq] at hsearch
        refine ⟨?_, ?_⟩
        · rintro cycle ⟨⟩
          exact hsearch.isCycle cycle rfl
        · rintro ⟨⟩
      · rename_i visited' heq
        rw [heq] at hsearch
        have hsub := hsearch.visited rfl
        obtain ⟨hcycle, hnone⟩ := ih hroots (hsearch.settled rfl)
        refine ⟨hcycle, fun heq => ?_⟩
        obtain ⟨visited'', hsettled, hsub', hsub''⟩ := hnone heq
        exact ⟨visited'', hsettled, fun a ha => hsub' (hsub.1 ha),
          List.cons_subset.mpr ⟨hsub' (hsub.2 List.mem_cons_self), hsub''⟩⟩

theorem isCycle_of_find (hclosed : ∀ node ∈ nodes, edges node ⊆ nodes) {cycle : List κ}
    (h : find nodes edges = some cycle) : IsCycle nodes edges cycle :=
  (searched_findFrom hclosed (fun _ ha => ha) ⟨by simp, by simp⟩).1 cycle h

/-- The search finds nothing exactly where there is no cycle. -/
theorem find_eq_none_iff (hclosed : ∀ node ∈ nodes, edges node ⊆ nodes) :
    find nodes edges = none ↔ ∀ a ∈ nodes, ¬TransGen (fun a b => b ∈ edges a) a a := by
  constructor
  · intro h
    obtain ⟨visited, hsettled, -, hsub⟩ :=
      (searched_findFrom hclosed (fun _ ha => ha) ⟨by simp, by simp⟩).2 h
    exact fun a ha => hsettled.acyclic a (hsub ha)
  · intro h
    cases hfind : find nodes edges with
    | none => rfl
    | some cycle =>
      obtain ⟨a, ha, hcycle⟩ := (isCycle_of_find hclosed hfind).exists_transGen
      exact absurd hcycle (h a ha)

end Ucf.CycleSearch
