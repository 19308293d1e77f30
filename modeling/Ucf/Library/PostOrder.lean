import Mathlib.Data.List.Basic
import Mathlib.Data.List.Induction
import Mathlib.Data.List.Nodup
import Mathlib.Logic.Relation

/-! Depth-first search that lists the nodes of a finite graph after all nodes that their edges lead
to, or finds that an edge leads back to a node under visit. -/

namespace Ucf.PostOrder

open Relation

/-! ### Listings -/

section Listings

variable {κ : Type} {nodes : List κ} {edges : κ → List κ} {chain done : List κ}

/-- A list of nodes in which each comes after all that its edges lead to. -/
inductive Listed (edges : κ → List κ) : List κ → Prop
  | nil : Listed edges []
  | snoc {done : List κ} {node : κ} (earlier : Listed edges done) (fresh : node ∉ done)
      (edges_subset : edges node ⊆ done) : Listed edges (done ++ [node])

namespace Listed

theorem nodup (h : Listed edges done) : done.Nodup := by
  induction h with
  | nil => exact List.nodup_nil
  | snoc _ fresh _ ih =>
    refine List.nodup_append.mpr ⟨ih, List.nodup_singleton _, fun a ha b hb heq => ?_⟩
    rw [heq, List.mem_singleton.mp hb] at ha
    exact fresh ha

theorem edges_subset (h : Listed edges done) {node : κ} (hnode : node ∈ done) :
    edges node ⊆ done := by
  induction h with
  | nil => cases hnode
  | snoc _ _ hsub ih =>
    rcases List.mem_append.mp hnode with hmem | hmem
    · exact fun a ha => List.mem_append_left _ (ih hmem ha)
    · rw [List.mem_singleton.mp hmem]
      exact fun a ha => List.mem_append_left _ (hsub ha)

theorem mem_of_transGen (h : Listed edges done) {a b : κ} (ha : a ∈ done)
    (hab : TransGen (fun a b => b ∈ edges a) a b) : b ∈ done := by
  induction hab with
  | single hedge => exact h.edges_subset ha hedge
  | tail _ hedge ih => exact h.edges_subset ih hedge

/-- No node of such a list lies on a cycle. -/
theorem acyclic (h : Listed edges done) {a : κ} (ha : a ∈ done) :
    ¬TransGen (fun a b => b ∈ edges a) a a := by
  induction h with
  | nil => cases ha
  | @snoc done node earlier fresh hsub ih =>
    rcases List.mem_append.mp ha with hmem | hmem
    · exact ih hmem
    · rw [List.mem_singleton.mp hmem]
      intro hcycle
      obtain ⟨b, hedge, hback⟩ := TransGen.head'_iff.mp hcycle
      rcases reflTransGen_iff_eq_or_transGen.mp hback with rfl | hback
      · exact fresh (hsub hedge)
      · exact fresh (earlier.mem_of_transGen (hsub hedge) hback)

theorem of_isPrefix (h : Listed edges done) {first : List κ} (hle : first <+: done) :
    Listed edges first := by
  induction h with
  | nil => rw [List.prefix_nil.mp hle]; exact .nil
  | @snoc done node earlier fresh hsub ih =>
    rcases List.prefix_concat_iff.mp hle with rfl | hle
    · exact .snoc earlier fresh hsub
    · exact ih hle

theorem of_concat {node : κ} (h : Listed edges (done ++ [node])) :
    node ∉ done ∧ edges node ⊆ done := by
  generalize hlist : done ++ [node] = list at h
  cases h with
  | nil => simp at hlist
  | snoc earlier fresh hsub =>
    obtain ⟨rfl, heq⟩ := List.append_inj' hlist rfl
    cases heq
    exact ⟨fresh, hsub⟩

theorem of_forall {list : List κ} (hnodup : list.Nodup)
    (h : ∀ before a after, list = before ++ a :: after → edges a ⊆ before) :
    Listed edges list := by
  induction list using List.reverseRecOn with
  | nil => exact .nil
  | append_singleton list node ih =>
    obtain ⟨hlist, -, hfresh⟩ := List.nodup_append.mp hnodup
    refine .snoc (ih hlist fun before a after hsplit => ?_) ?_ (h list node [] rfl)
    · refine h before a (after ++ [node]) ?_
      rw [hsplit, List.append_assoc, List.cons_append]
    · exact fun hmem => hfresh node hmem node List.mem_cons_self rfl

end Listed

/-- What a visit of targets leaves, or why it fails. -/
def Outcome (nodes : List κ) (edges : κ → List κ) (chain targets : List κ) :
    Except (List κ) {done' : List κ // done <+: done'} → Prop
  | .error _ => ∃ a ∈ nodes, TransGen (fun a b => b ∈ edges a) a a
  | .ok done' => Listed edges done'.val ∧ (∀ a ∈ chain, a ∉ done'.val) ∧
      done'.val ⊆ nodes ∧ targets ⊆ done'.val

/-- What has been listed and the chain, before a visit of targets. -/
structure Before (nodes : List κ) (edges : κ → List κ) (chain done targets : List κ) : Prop where
  listed : Listed edges done
  apart : ∀ a ∈ chain, a ∉ done
  inside : done ⊆ nodes
  known : targets ⊆ nodes
  path : ∀ a ∈ chain, a ∈ nodes ∧ ∀ b ∈ targets, TransGen (fun a b => b ∈ edges a) a b

theorem Before.enter (hclosed : ∀ node ∈ nodes, edges node ⊆ nodes) {node : κ}
    (h : Before nodes edges chain done [node]) (hdone : node ∉ done) :
    Before nodes edges (chain ++ [node]) done (edges node) := by
  have hnode : node ∈ nodes := h.known List.mem_cons_self
  refine ⟨h.listed, ?_, h.inside, hclosed node hnode, ?_⟩
  · intro a ha
    rcases List.mem_append.mp ha with ha | ha
    · exact h.apart a ha
    · rw [List.mem_singleton.mp ha]
      exact hdone
  · intro a ha
    rcases List.mem_append.mp ha with ha | ha
    · exact ⟨(h.path a ha).1, fun b hb => ((h.path a ha).2 node List.mem_cons_self).tail hb⟩
    · rw [List.mem_singleton.mp ha]
      exact ⟨hnode, fun b hb => .single hb⟩

theorem Before.first {node : κ} {rest : List κ}
    (h : Before nodes edges chain done (node :: rest)) : Before nodes edges chain done [node] where
  listed := h.listed
  apart := h.apart
  inside := h.inside
  known := by simpa using h.known List.mem_cons_self
  path a ha := by
    refine ⟨(h.path a ha).1, fun b hb => (h.path a ha).2 b ?_⟩
    rw [List.mem_singleton.mp hb]
    exact List.mem_cons_self

/-- What the visit of the first target leaves for the others. -/
theorem Before.next {node : κ} {rest done' : List κ}
    (h : Before nodes edges chain done (node :: rest)) (hlisted : Listed edges done')
    (hapart : ∀ a ∈ chain, a ∉ done') (hinside : done' ⊆ nodes) :
    Before nodes edges chain done' rest where
  listed := hlisted
  apart := hapart
  inside := hinside
  known _ ha := h.known (List.mem_cons_of_mem _ ha)
  path a ha := ⟨(h.path a ha).1, fun b hb => (h.path a ha).2 b (List.mem_cons_of_mem _ hb)⟩

end Listings

/-! ### The search -/

variable {κ : Type} [DecidableEq κ] (nodes : List κ) (edges : κ → List κ)

/-- The nodes that are neither listed nor under visit. -/
def unseen (chain done : List κ) : List κ := nodes.filter fun node => node ∉ done ∧ node ∉ chain

variable {nodes} in
theorem length_unseen_lt {chain done : List κ} {node : κ} (hnode : node ∈ nodes)
    (hdone : node ∉ done) (hchain : node ∉ chain) :
    (unseen nodes (chain ++ [node]) done).length < (unseen nodes chain done).length := by
  have hsub : unseen nodes (chain ++ [node]) done =
      (unseen nodes chain done).filter fun other => other ≠ node := by
    rw [unseen, unseen, List.filter_filter]
    refine List.filter_congr fun other _ => ?_
    rw [← Bool.decide_and, decide_eq_decide]
    simp only [List.mem_append, List.mem_singleton, not_or]
    tauto
  rw [hsub]
  refine List.length_filter_lt_length_iff_exists.mpr ⟨node, ?_, by simp⟩
  rw [unseen, List.mem_filter, decide_eq_true_iff]
  exact ⟨hnode, hdone, hchain⟩

variable {nodes} in
theorem length_unseen_le {chain done done' : List κ} (h : done <+: done') :
    (unseen nodes chain done').length ≤ (unseen nodes chain done).length := by
  refine (List.monotone_filter_right nodes fun node hnode => ?_).length_le
  rw [decide_eq_true_iff] at hnode ⊢
  exact ⟨fun hmem => hnode.1 (h.subset hmem), hnode.2⟩

mutual

/-- The visit of a node whose ancestors are `chain`, after the nodes in `done` are listed: the new list,
or the chain that leads back to one of its nodes. -/
def visit (chain done : List κ) (node : κ) : Except (List κ) {done' : List κ // done <+: done'} :=
  if _hdone : node ∈ done then .ok ⟨done, List.prefix_rfl⟩
  else if _hchain : node ∈ chain then .error (chain ++ [node])
  else if _hnode : node ∈ nodes then
    match visitEach (chain ++ [node]) done (edges node) with
    | .error cycle => .error cycle
    | .ok ⟨done', h⟩ => .ok ⟨done' ++ [node], h.trans (List.prefix_append _ _)⟩
  else .ok ⟨done, List.prefix_rfl⟩
termination_by ((unseen nodes chain done).length, 0)
decreasing_by exact Prod.Lex.left _ _ (length_unseen_lt _hnode _hdone _hchain)

/-- The visits of nodes one after the other. -/
def visitEach (chain done : List κ) : List κ → Except (List κ) {done' : List κ // done <+: done'}
  | [] => .ok ⟨done, List.prefix_rfl⟩
  | node :: rest =>
    match visit chain done node with
    | .error cycle => .error cycle
    | .ok ⟨done', h⟩ =>
      match visitEach chain done' rest with
      | .error cycle => .error cycle
      | .ok ⟨done'', h'⟩ => .ok ⟨done'', h.trans h'⟩
termination_by rest => ((unseen nodes chain done).length, rest.length + 1)
decreasing_by
  · exact Prod.Lex.right _ (by simp)
  · rcases Nat.lt_or_eq_of_le (@length_unseen_le _ _ nodes chain _ _ h) with hlt | heq
    · exact Prod.Lex.left _ _ hlt
    · rw [heq]
      exact Prod.Lex.right _ (by simp)

end

/-- The nodes, each after all that its edges lead to. -/
def order : Except (List κ) (List κ) := (visitEach nodes edges [] [] nodes).map Subtype.val

variable {nodes edges} {chain done : List κ}

theorem outcome_visit (hclosed : ∀ node ∈ nodes, edges node ⊆ nodes) :
    (∀ chain done node, Before nodes edges chain done [node] →
        Outcome nodes edges chain [node] (visit nodes edges chain done node)) ∧
      ∀ chain done targets, Before nodes edges chain done targets →
        Outcome nodes edges chain targets (visitEach nodes edges chain done targets) := by
  refine visit.mutual_induct nodes edges _ _ ?_ ?_ ?_ ?_ ?_ ?_ ?_ ?_ ?_
  · intro chain done node hdone h
    rw [visit, dif_pos hdone]
    exact ⟨h.listed, h.apart, h.inside, by simpa using hdone⟩
  · intro chain done node hdone hchain h
    rw [visit, dif_neg hdone, dif_pos hchain]
    exact ⟨node, (h.path node hchain).1, (h.path node hchain).2 node List.mem_cons_self⟩
  · intro chain done node hdone hchain hnode cycle heq ih h
    rw [visit, dif_neg hdone, dif_neg hchain, dif_pos hnode, heq]
    have hcycle := ih (h.enter hclosed hdone)
    rw [heq] at hcycle
    exact hcycle
  · intro chain done node hdone hchain hnode done' hle heq ih h
    rw [visit, dif_neg hdone, dif_neg hchain, dif_pos hnode, heq]
    have houtcome := ih (h.enter hclosed hdone)
    rw [heq] at houtcome
    obtain ⟨hlisted, hdisjoint, hnodes, hedges⟩ := houtcome
    have hfresh : node ∉ done' := hdisjoint node (by simp)
    refine ⟨hlisted.snoc hfresh hedges, ?_, ?_, by simp⟩
    · intro a ha hmem
      rcases List.mem_append.mp hmem with hmem | hmem
      · exact hdisjoint a (List.mem_append_left _ ha) hmem
      · rw [List.mem_singleton.mp hmem] at ha
        exact hchain ha
    · intro a ha
      rcases List.mem_append.mp ha with ha | ha
      · exact hnodes ha
      · rw [List.mem_singleton.mp ha]
        exact hnode
  · intro chain done node _ _ hnode h
    exact absurd (h.known List.mem_cons_self) hnode
  · intro chain done h
    rw [visitEach]
    exact ⟨h.listed, h.apart, h.inside, List.nil_subset _⟩
  · intro chain done node rest cycle heq ih h
    rw [visitEach, heq]
    have hcycle := ih h.first
    rw [heq] at hcycle
    exact hcycle
  · intro chain done node rest done' hle heq cycle heq' ih ih' h
    have houtcome := ih h.first
    rw [heq] at houtcome
    have hcycle := ih' (h.next houtcome.1 houtcome.2.1 houtcome.2.2.1)
    rw [heq'] at hcycle
    simp only [visitEach, heq, heq']
    exact hcycle
  · intro chain done node rest done' hle heq done'' hle' heq' ih ih' h
    have houtcome := ih h.first
    rw [heq] at houtcome
    have hrest := ih' (h.next houtcome.1 houtcome.2.1 houtcome.2.2.1)
    rw [heq'] at hrest
    simp only [visitEach, heq, heq']
    obtain ⟨hlisted, hapart, hinside, htargets⟩ := hrest
    refine ⟨hlisted, hapart, hinside, List.cons_subset.mpr ⟨?_, htargets⟩⟩
    exact hle'.subset (houtcome.2.2.2 List.mem_cons_self)

/-! ### The order -/

section Order

variable (hclosed : ∀ node ∈ nodes, edges node ⊆ nodes)
include hclosed

theorem outcome_order :
    Outcome nodes edges [] nodes (visitEach nodes edges [] [] nodes) :=
  (outcome_visit hclosed).2 [] [] nodes ⟨.nil, by simp, by simp, fun _ ha => ha, by simp⟩

/-- The order lists the nodes. -/
theorem listed_of_order {result : List κ} (h : order nodes edges = .ok result) :
    Listed edges result ∧ ∀ a, a ∈ result ↔ a ∈ nodes := by
  have houtcome := outcome_order hclosed
  rw [order] at h
  cases hvisit : visitEach nodes edges [] [] nodes with
  | error cycle => rw [hvisit] at h; cases h
  | ok done' =>
    rw [hvisit] at h houtcome
    cases h
    obtain ⟨hlisted, -, hinside, htargets⟩ := houtcome
    exact ⟨hlisted, fun a => ⟨fun ha => hinside ha, fun ha => htargets ha⟩⟩

/-- There is no order exactly when there is a cycle. -/
theorem exists_order_iff :
    (∃ result, order nodes edges = .ok result) ↔
      ∀ a ∈ nodes, ¬TransGen (fun a b => b ∈ edges a) a a := by
  constructor
  · rintro ⟨result, hresult⟩ a ha
    obtain ⟨hlisted, hmem⟩ := listed_of_order hclosed hresult
    exact hlisted.acyclic ((hmem a).mpr ha)
  · intro hacyclic
    have houtcome := outcome_order hclosed
    rw [order]
    cases hvisit : visitEach nodes edges [] [] nodes with
    | error cycle =>
      rw [hvisit] at houtcome
      obtain ⟨a, ha, hcycle⟩ := houtcome
      exact absurd hcycle (hacyclic a ha)
    | ok done' => exact ⟨done'.val, rfl⟩

end Order

/-! ### Orders that are kept -/

theorem visitEach_of_subset {targets : List κ} (h : targets ⊆ done) :
    visitEach nodes edges chain done targets = .ok ⟨done, List.prefix_rfl⟩ := by
  induction targets with
  | nil => rw [visitEach]
  | cons node rest ih =>
    obtain ⟨hnode, hrest⟩ := List.cons_subset.mp h
    have hvisit : visit nodes edges chain done node = .ok ⟨done, List.prefix_rfl⟩ := by
      rw [visit, dif_pos hnode]
    simp only [visitEach, hvisit, ih hrest]

theorem visitEach_of_listed {rest : List κ} (hnodes : rest ⊆ nodes)
    (h : Listed edges (done ++ rest)) :
    (visitEach nodes edges [] done rest).map Subtype.val = .ok (done ++ rest) := by
  induction rest generalizing done with
  | nil => rw [visitEach, List.append_nil]; rfl
  | cons node rest ih =>
    obtain ⟨hnode, hrest⟩ := List.cons_subset.mp hnodes
    have hsplit : done ++ node :: rest = done ++ [node] ++ rest := by simp
    rw [hsplit] at h ⊢
    obtain ⟨hfresh, hedges⟩ := (h.of_isPrefix (List.prefix_append _ _)).of_concat
    have hvisit : visit nodes edges [] done node = .ok ⟨done ++ [node], List.prefix_append _ _⟩ := by
      rw [visit, dif_neg hfresh, dif_neg List.not_mem_nil, dif_pos hnode,
        visitEach_of_subset hedges]
    have hvisits := ih hrest h
    cases heq : visitEach nodes edges [] (done ++ [node]) rest with
    | error cycle => rw [heq] at hvisits; cases hvisits
    | ok done' =>
      rw [heq] at hvisits
      simp only [visitEach, hvisit, heq]
      exact congrArg Except.ok (Except.ok.inj hvisits)

/-- Nodes that are in order already keep their order. -/
theorem order_eq_of_listed (h : Listed edges nodes) : order nodes edges = .ok nodes :=
  visitEach_of_listed (fun _ ha => ha) h

/-! ### Gathering

The same search where edges back to a node under visit are passed over. -/

section Gather

variable (nodes edges)

variable {nodes} in
theorem length_unvisited_lt {visited : List κ} {node : κ} (hnode : node ∈ nodes)
    (hvisited : node ∉ visited) : (unseen nodes [] (visited ++ [node])).length <
      (unseen nodes [] visited).length := by
  have hlt := length_unseen_lt hnode hvisited (List.not_mem_nil (a := node))
  have heq : unseen nodes ([] ++ [node]) visited = unseen nodes [] (visited ++ [node]) := by
    refine List.filter_congr fun other _ => decide_eq_decide.mpr ?_
    simp only [List.nil_append, List.mem_append, List.mem_singleton, List.not_mem_nil, not_or]
    tauto
  rwa [heq] at hlt

mutual

/-- The visit of a node from what is visited and what is gathered. -/
def gather (visited order : List κ) (node : κ) : {next : List κ × List κ // visited <+: next.1} :=
  if _h : node ∈ nodes ∧ node ∉ visited then
    let next := gatherEach (visited ++ [node]) order (edges node)
    ⟨(next.val.1, next.val.2 ++ [node]), (List.prefix_append _ _).trans next.property⟩
  else ⟨(visited, order), List.prefix_rfl⟩
termination_by ((unseen nodes [] visited).length, 0)
decreasing_by exact Prod.Lex.left _ _ (length_unvisited_lt _h.1 _h.2)

def gatherEach (visited order : List κ) :
    List κ → {next : List κ × List κ // visited <+: next.1}
  | [] => ⟨(visited, order), List.prefix_rfl⟩
  | node :: rest =>
    let first := gather visited order node
    let next := gatherEach first.val.1 first.val.2 rest
    ⟨next.val, first.property.trans next.property⟩
termination_by rest => ((unseen nodes [] visited).length, rest.length + 1)
decreasing_by
  · exact Prod.Lex.right _ (by simp)
  · rcases Nat.lt_or_eq_of_le (@length_unseen_le _ _ nodes [] _ _ first.property) with hlt | heq
    · exact Prod.Lex.left _ _ hlt
    · rw [heq]
      exact Prod.Lex.right _ (by simp)

end

/-- The nodes that the targets lead to, each after those that its edges lead to first. -/
def gathered (targets : List κ) : List κ := (gatherEach nodes edges [] [] targets).val.2

end Gather

end Ucf.PostOrder
