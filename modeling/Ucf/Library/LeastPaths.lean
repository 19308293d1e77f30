import Mathlib.Data.List.Lex
import Mathlib.Data.Prod.Lex
import Ucf.Library.Sorted

/-! The paths on which a labelled graph leads from its seeds to its nodes, and a search with a
priority queue that finds the least of them to every node: a shortest one, and among these the first
in the order of the labels. -/

namespace Ucf

/-- A graph with labelled edges, of which only the nodes in the support have any. -/
structure LabelledGraph (κ : Type) where
  next : κ → List (Nat × κ)
  support : List κ
  next_eq_nil : ∀ node, node ∉ support → next node = []

namespace LabelledGraph

variable {κ : Type}

/-! ### The order of paths -/

/-- The rank of a path: its length, then its labels. -/
def rank (path : List Nat) : Nat ×ₗ List Nat := toLex (path.length, path)

theorem rank_injective : Function.Injective rank := fun _ _ h =>
  congrArg Prod.snd (toLex.injective h)

theorem rank_lt_iff {path path' : List Nat} : rank path < rank path' ↔
    path.length < path'.length ∨ path.length = path'.length ∧ path < path' :=
  Prod.Lex.toLex_lt_toLex

theorem append_lt_append {path path' : List Nat} (h : path < path')
    (hlength : path.length = path'.length) (rest : List Nat) : path ++ rest < path' ++ rest := by
  induction path generalizing path' with
  | nil =>
    cases path' with
    | nil => exact absurd h (lt_irrefl _)
    | cons label path' => simp at hlength
  | cons label path ih =>
    cases path' with
    | nil => simp at hlength
    | cons label' path' =>
      rw [List.cons_append, List.cons_append, List.cons_lt_cons_iff]
      rcases List.cons_lt_cons_iff.mp h with hlt | ⟨rfl, hlt⟩
      · exact Or.inl hlt
      · exact Or.inr ⟨rfl, ih hlt (by simpa using hlength)⟩

/-- A path comes before what it is continued to. -/
theorem rank_le_append (path rest : List Nat) : rank path ≤ rank (path ++ rest) := by
  cases rest with
  | nil => rw [List.append_nil]
  | cons label rest => exact le_of_lt (rank_lt_iff.mpr (Or.inl (by simp)))

/-- Two paths that are continued in the same way keep their order. -/
theorem rank_append_le {path path' : List Nat} (h : rank path ≤ rank path') (rest : List Nat) :
    rank (path ++ rest) ≤ rank (path' ++ rest) := by
  rcases h.lt_or_eq with hlt | heq
  · refine le_of_lt (rank_lt_iff.mpr ?_)
    rw [List.length_append, List.length_append]
    rcases rank_lt_iff.mp hlt with hshort | ⟨hlength, hless⟩
    · exact Or.inl (by omega)
    · exact Or.inr ⟨by omega, append_lt_append hless hlength rest⟩
  · rw [rank_injective heq]

/-! ### Paths -/

variable (g : LabelledGraph κ) (seeds : List κ)

/-- The path leads from a seed to the node. -/
inductive Leads : List Nat → κ → Prop
  | seed {node : κ} : node ∈ seeds → Leads [] node
  | step {path : List Nat} {node : κ} {edge : Nat × κ} : Leads path node → edge ∈ g.next node →
      Leads (path ++ [edge.1]) edge.2

/-- The path is the first of those that lead to the node. -/
def IsLeast (path : List Nat) (node : κ) : Prop :=
  g.Leads seeds path node ∧ ∀ path', g.Leads seeds path' node → rank path ≤ rank path'

variable {g seeds}

theorem IsLeast.unique {path path' : List Nat} {node : κ} (h : g.IsLeast seeds path node)
    (h' : g.IsLeast seeds path' node) : path = path' :=
  rank_injective (le_antisymm (h.2 _ h'.1) (h'.2 _ h.1))

/-- The least path to a seed is the empty one. -/
theorem isLeast_nil_iff {node : κ} : g.IsLeast seeds [] node ↔ node ∈ seeds := by
  constructor
  · rintro ⟨hleads, -⟩
    generalize hpath : ([] : List Nat) = path at hleads
    cases hleads with
    | seed h => exact h
    | step _ _ => simp at hpath
  · exact fun h => ⟨.seed h, fun path' _ => rank_le_append [] path'⟩

/-! ### The search -/

section Search

variable [LinearOrder κ]

/-- What the queue is ordered by. -/
def priority (item : List Nat × κ) : (Nat ×ₗ List Nat) ×ₗ κ := toLex (rank item.1, item.2)

theorem rank_le_of_priority_le {item item' : List Nat × κ} (h : priority item ≤ priority item') :
    rank item.1 ≤ rank item'.1 := by
  rcases Prod.Lex.toLex_le_toLex.mp h with hlt | ⟨heq, -⟩
  · exact le_of_lt hlt
  · exact le_of_eq heq

/-- Put an item into the queue. -/
def push (queue : List (List Nat × κ)) (item : List Nat × κ) : List (List Nat × κ) :=
  queue.orderedInsert (fun a b => priority a ≤ priority b) item

/-- Put the edges to the nodes that are not visited into the queue. -/
def pushAll (visited : List κ) (path : List Nat) (edges : List (Nat × κ))
    (queue : List (List Nat × κ)) : List (List Nat × κ) :=
  ((edges.filter fun edge => edge.2 ∉ visited).map fun edge => (path ++ [edge.1], edge.2)).foldl
    push queue

theorem mem_foldl_push {items queue : List (List Nat × κ)} {item : List Nat × κ} :
    item ∈ items.foldl push queue ↔ item ∈ items ∨ item ∈ queue := by
  induction items generalizing queue with
  | nil => simp
  | cons first items ih =>
    rw [List.foldl_cons, ih, push, List.mem_orderedInsert, List.mem_cons]
    tauto

theorem mem_pushAll {visited : List κ} {path : List Nat} {edges : List (Nat × κ)}
    {queue : List (List Nat × κ)} {item : List Nat × κ} :
    item ∈ pushAll visited path edges queue ↔
      (∃ edge ∈ edges, edge.2 ∉ visited ∧ item = (path ++ [edge.1], edge.2)) ∨ item ∈ queue := by
  rw [pushAll, mem_foldl_push]
  simp only [List.mem_map, List.mem_filter, decide_eq_true_eq, and_assoc, @eq_comm _ item]

theorem pairwise_push {queue : List (List Nat × κ)}
    (h : queue.Pairwise fun a b => priority a ≤ priority b) (item : List Nat × κ) :
    (push queue item).Pairwise fun a b => priority a ≤ priority b := by
  have : Std.Total (fun a b : List Nat × κ => priority a ≤ priority b) := ⟨fun a b => le_total _ _⟩
  have : IsTrans (List Nat × κ) (fun a b => priority a ≤ priority b) := ⟨fun _ _ _ => le_trans⟩
  exact List.Pairwise.orderedInsert item queue h

theorem pairwise_pushAll {queue : List (List Nat × κ)}
    (h : queue.Pairwise fun a b => priority a ≤ priority b) (visited : List κ) (path : List Nat)
    (edges : List (Nat × κ)) :
    (pushAll visited path edges queue).Pairwise fun a b => priority a ≤ priority b := by
  rw [pushAll]
  generalize (edges.filter _).map _ = items
  induction items generalizing queue with
  | nil => exact h
  | cons item items ih => exact ih (pairwise_push h item)

variable (g)

/-- The nodes with edges that are not visited. -/
def unvisited (visited : List κ) : List κ := g.support.filter fun node => node ∉ visited

theorem length_unvisited_lt {visited : List κ} {node : κ} (hnode : node ∈ g.support)
    (hvisited : node ∉ visited) :
    (g.unvisited (node :: visited)).length < (g.unvisited visited).length := by
  have hsub : g.unvisited (node :: visited) =
      (g.unvisited visited).filter fun other => other ≠ node := by
    rw [unvisited, unvisited, List.filter_filter]
    refine List.filter_congr fun other _ => ?_
    rw [← Bool.decide_and, decide_eq_decide, List.mem_cons, not_or]
  rw [hsub]
  refine List.length_filter_lt_length_iff_exists.mpr ⟨node, ?_, by simp⟩
  rw [unvisited, List.mem_filter, decide_eq_true_iff]
  exact ⟨hnode, hvisited⟩

theorem unvisited_cons {visited : List κ} {node : κ} (hnode : node ∉ g.support) :
    g.unvisited (node :: visited) = g.unvisited visited := by
  refine List.filter_congr fun other hother => ?_
  rw [decide_eq_decide, List.mem_cons, not_or]
  exact and_iff_right fun heq => hnode (heq ▸ hother)

/-- Take the items from the queue in their order. The first item of a node is kept, and the edges of
the node are put into the queue. -/
def search (visited : List κ) : List (List Nat × κ) → List (List Nat × κ)
  | [] => []
  | (path, node) :: queue =>
    if node ∈ visited then search visited queue
    else (path, node) ::
      search (node :: visited) (pushAll (node :: visited) path (g.next node) queue)
termination_by queue => ((g.unvisited visited).length, queue.length)
decreasing_by
  · exact Prod.Lex.right _ (by simp)
  · by_cases hnode : node ∈ g.support
    · exact Prod.Lex.left _ _ (g.length_unvisited_lt hnode ‹_›)
    · rw [g.unvisited_cons hnode, g.next_eq_nil node hnode]
      exact Prod.Lex.right _ (by simp [pushAll])

/-- The search from the seeds. -/
def leastPaths (seeds : List κ) : List (List Nat × κ) :=
  g.search [] (sortedBy priority (seeds.map fun node => ([], node)))

variable {g}

/-- What the search has found and what is in its queue. -/
structure Invariant (g : LabelledGraph κ) (seeds : List κ) (found queue : List (List Nat × κ)) :
    Prop where
  leads : ∀ item ∈ queue, g.Leads seeds item.1 item.2
  least : ∀ item ∈ found, g.IsLeast seeds item.1 item.2
  seed : ∀ node ∈ seeds, node ∈ found.map Prod.snd ∨ ([], node) ∈ queue
  frontier : ∀ item ∈ found, ∀ edge ∈ g.next item.2,
    edge.2 ∈ found.map Prod.snd ∨ (item.1 ++ [edge.1], edge.2) ∈ queue
  nodup : (found.map Prod.snd).Nodup
  sorted : queue.Pairwise fun a b => priority a ≤ priority b

variable {found queue : List (List Nat × κ)}

theorem invariant_start (g : LabelledGraph κ) (seeds : List κ) :
    g.Invariant seeds [] (sortedBy priority (seeds.map fun node => ([], node))) where
  leads := by
    intro item hitem
    obtain ⟨node, hnode, rfl⟩ := List.mem_map.mp (mem_sortedBy.mp hitem)
    exact .seed hnode
  least := by simp
  seed := fun node hnode => Or.inr (mem_sortedBy.mpr (List.mem_map.mpr ⟨node, hnode, rfl⟩))
  frontier := by simp
  nodup := by simp
  sorted := pairwise_sortedBy _ _

/-- A path to a node that is not found passes an item of the queue, which is no later than it; by
induction on the path. -/
theorem Invariant.exists_item (h : g.Invariant seeds found queue) {path : List Nat} {node : κ}
    (hleads : g.Leads seeds path node) (hnode : node ∉ found.map Prod.snd) :
    ∃ item ∈ queue, rank item.1 ≤ rank path := by
  induction hleads with
  | seed hseed => exact ⟨_, (h.seed _ hseed).resolve_left hnode, le_rfl⟩
  | @step path node edge hleads hedge ih =>
    by_cases hfound : node ∈ found.map Prod.snd
    · obtain ⟨item, hitem, rfl⟩ := List.mem_map.mp hfound
      exact ⟨_, (h.frontier item hitem edge hedge).resolve_left hnode,
        rank_append_le ((h.least item hitem).2 path hleads) [edge.1]⟩
    · obtain ⟨item, hitem, hle⟩ := ih hfound
      exact ⟨item, hitem, hle.trans (rank_le_append path _)⟩

/-- An item of a node that is already found is dropped. -/
theorem Invariant.drop {path : List Nat} {node : κ}
    (h : g.Invariant seeds found ((path, node) :: queue)) (hnode : node ∈ found.map Prod.snd) :
    g.Invariant seeds found queue where
  leads := fun item hitem => h.leads item (List.mem_cons_of_mem _ hitem)
  least := h.least
  seed := by
    intro seed hseed
    rcases h.seed seed hseed with hfound | hqueue
    · exact Or.inl hfound
    · rcases List.mem_cons.mp hqueue with heq | hqueue
      · rw [(Prod.mk.inj heq).2]
        exact Or.inl hnode
      · exact Or.inr hqueue
  frontier := by
    intro item hitem edge hedge
    rcases h.frontier item hitem edge hedge with hfound | hqueue
    · exact Or.inl hfound
    · rcases List.mem_cons.mp hqueue with heq | hqueue
      · rw [(Prod.mk.inj heq).2]
        exact Or.inl hnode
      · exact Or.inr hqueue
  nodup := h.nodup
  sorted := (List.pairwise_cons.mp h.sorted).2

/-- The first item of a node is its least path. -/
theorem Invariant.isLeast_head {path : List Nat} {node : κ}
    (h : g.Invariant seeds found ((path, node) :: queue)) (hnode : node ∉ found.map Prod.snd) :
    g.IsLeast seeds path node := by
  refine ⟨h.leads _ List.mem_cons_self, fun path' hleads => ?_⟩
  obtain ⟨item, hitem, hle⟩ := h.exists_item hleads hnode
  rcases List.mem_cons.mp hitem with rfl | hitem
  · exact hle
  · exact (rank_le_of_priority_le ((List.pairwise_cons.mp h.sorted).1 item hitem)).trans hle

/-- It is kept, and the edges of the node come into the queue. -/
theorem Invariant.keep {path : List Nat} {node : κ}
    (h : g.Invariant seeds found ((path, node) :: queue)) (hnode : node ∉ found.map Prod.snd) :
    g.Invariant seeds ((path, node) :: found)
      (pushAll (node :: found.map Prod.snd) path (g.next node) queue) where
  leads := by
    intro item hitem
    rcases mem_pushAll.mp hitem with ⟨edge, hedge, -, rfl⟩ | hitem
    · exact .step (h.leads _ List.mem_cons_self) hedge
    · exact h.leads item (List.mem_cons_of_mem _ hitem)
  least := List.forall_mem_cons.mpr ⟨h.isLeast_head hnode, h.least⟩
  seed := by
    intro seed hseed
    rw [List.map_cons, List.mem_cons]
    rcases h.seed seed hseed with hfound | hqueue
    · exact Or.inl (Or.inr hfound)
    · rcases List.mem_cons.mp hqueue with heq | hqueue
      · exact Or.inl (Or.inl (Prod.mk.inj heq).2)
      · exact Or.inr (mem_pushAll.mpr (Or.inr hqueue))
  frontier := by
    intro item hitem edge hedge
    rw [List.map_cons, List.mem_cons]
    rcases List.mem_cons.mp hitem with rfl | hitem
    · by_cases hvisited : edge.2 ∈ node :: found.map Prod.snd
      · exact Or.inl (List.mem_cons.mp hvisited)
      · exact Or.inr (mem_pushAll.mpr (Or.inl ⟨edge, hedge, hvisited, rfl⟩))
    · rcases h.frontier item hitem edge hedge with hfound | hqueue
      · exact Or.inl (Or.inr hfound)
      · rcases List.mem_cons.mp hqueue with heq | hqueue
        · exact Or.inl (Or.inl (Prod.mk.inj heq).2)
        · exact Or.inr (mem_pushAll.mpr (Or.inr hqueue))
  nodup := List.nodup_cons.mpr ⟨hnode, h.nodup⟩
  sorted := pairwise_pushAll (List.pairwise_cons.mp h.sorted).2 _ _ _

/-- Every node that is led to is found once, with its least path. -/
structure Complete (g : LabelledGraph κ) (seeds : List κ) (found : List (List Nat × κ)) :
    Prop where
  least : ∀ item ∈ found, g.IsLeast seeds item.1 item.2
  reached : ∀ path node, g.Leads seeds path node → node ∈ found.map Prod.snd
  nodup : (found.map Prod.snd).Nodup

omit [LinearOrder κ] in
theorem Complete.perm {found' : List (List Nat × κ)} (h : g.Complete seeds found)
    (hperm : found'.Perm found) : g.Complete seeds found' where
  least := fun item hitem => h.least item (hperm.mem_iff.mp hitem)
  reached := fun path node hleads => (hperm.map Prod.snd).mem_iff.mpr (h.reached path node hleads)
  nodup := (hperm.map Prod.snd).nodup_iff.mpr h.nodup

/-- The search completes what is found; by induction on its steps. When the queue is empty, no node
is left to which a path could lead. -/
theorem Invariant.complete (h : g.Invariant seeds found queue) :
    g.Complete seeds (found ++ g.search (found.map Prod.snd) queue) := by
  generalize hvisited : found.map Prod.snd = visited
  induction visited, queue using search.induct g generalizing found with
  | case1 visited =>
    rw [search, List.append_nil]
    refine ⟨h.least, fun path node hleads => ?_, h.nodup⟩
    by_contra hnode
    obtain ⟨item, hitem, -⟩ := h.exists_item hleads hnode
    simp at hitem
  | case2 visited path node queue hnode ih =>
    rw [search, if_pos hnode]
    exact ih (h.drop (hvisited ▸ hnode)) hvisited
  | case3 visited path node queue hnode ih =>
    subst hvisited
    rw [search, if_neg hnode]
    exact (ih (h.keep hnode) rfl).perm List.perm_middle

theorem complete_leastPaths (g : LabelledGraph κ) (seeds : List κ) :
    g.Complete seeds (g.leastPaths seeds) := (invariant_start g seeds).complete

/-- The search finds exactly the least paths. -/
theorem mem_leastPaths {path : List Nat} {node : κ} :
    (path, node) ∈ g.leastPaths seeds ↔ g.IsLeast seeds path node := by
  have hcomplete := complete_leastPaths g seeds
  refine ⟨hcomplete.least _, fun hleast => ?_⟩
  obtain ⟨item, hitem, rfl⟩ := List.mem_map.mp (hcomplete.reached path node hleast.1)
  rw [hleast.unique (hcomplete.least item hitem)]
  exact hitem

end Search

end LabelledGraph

end Ucf
