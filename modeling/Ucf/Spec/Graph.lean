import Ucf.Library.Reach
import Ucf.Spec.Extends

/-! The dependency graph of a registry and its impact analysis: which specs depend on a spec. -/

namespace Ucf.Spec

open Relation

/-- `EdgeType` -/
inductive EdgeType where
  | dependsOn
  | implements
  | conflictsWith
  | constrains
  | emits
  | triggers
deriving DecidableEq, Repr

/-- The singular of a plural prefix. Any other prefix stays as it is. -/
def singularOf (head : String) : String :=
  match [Kind.action, .event, .component, .protocol, .usecase, .invariant].find? fun kind =>
    kind.plural = head with
  | some kind => kind.value
  | none => head

/-- `_normalize_ref` -/
def normalizeRef (ref : String) : String :=
  match splitRef ref with
  | some (head, tail) => singularOf head ++ "/" ++ tail
  | none => ref

/-- `f"{kind}/{name}"` -/
def nodeOf (kind : Kind) (name : String) : String := kind.value ++ "/" ++ name

/-- `_node_id` -/
def AnySpec.nodeId (spec : AnySpec) : String := nodeOf spec.kind spec.name

/-- A `DiGraph`: the kind of each node, and the type of each edge. -/
structure DiGraph where
  nodes : Dict String Kind
  edges : Dict (String × String) EdgeType

namespace DiGraph

variable (g : DiGraph)

/-- `g.has_node(node)` -/
def hasNode (node : String) : Bool := g.nodes.contains node

/-- The predecessors of a node, with the types of their edges, in the order in which the edges were
added. -/
def predecessors (node : String) : List (String × EdgeType) :=
  (g.edges.items.filter fun edge => edge.1.2 = node).map fun edge => (edge.1.1, edge.2)

/-- `nx.ancestors(g, node)`. The order of a set is not determined; nothing here depends on it. -/
def ancestors (node : String) : List String :=
  (Reach.closure g.nodes.keys (fun n => (g.predecessors n).map Prod.fst) []
    ((g.predecessors node).map Prod.fst)).filter fun ancestor => ancestor ≠ node

end DiGraph

/-! ### Building the graph -/

/-- An edge that is added when its target, or for an implementation its source, is a node. -/
structure EdgeCandidate where
  source : String
  target : String
  type : EdgeType

/-- The edge to what a reference is normalised to. -/
def dependsOn (source ref : String) : EdgeCandidate := ⟨source, normalizeRef ref, .dependsOn⟩

/-- `_build_usecase_edges` -/
def usecaseEdges (uc : UseCaseSpec) : List EdgeCandidate :=
  let id := nodeOf .usecase uc.name
  (uc.steps.map fun step => dependsOn id step.use) ++
  (uc.alternativeFlows.flatMap fun alt => alt.steps.map fun step => dependsOn id step.use) ++
  (uc.requires.map fun requirement => dependsOn id requirement.ref) ++
  uc.invariants.map fun binding => dependsOn id (invariantReference binding)

def componentEdges (comp : ComponentSpec) : List EdgeCandidate :=
  comp.steps.map fun step => dependsOn (nodeOf .component comp.metadata.name) step.use

def protocolEdges (proto : ProtocolSpec) : List EdgeCandidate :=
  proto.implementations.map fun binding =>
    ⟨normalizeRef (implementationReference binding), nodeOf .protocol proto.metadata.name,
      .implements⟩

def eventEdges (event : EventSpec) : List EdgeCandidate :=
  match present? event.trigger with
  | some after => [⟨nodeOf .action after, nodeOf .event event.metadata.name, .emits⟩]
  | none => []

def invariantEdges (inv : InvariantSpec) : List EdgeCandidate :=
  inv.appliesTo.flatMap fun binding =>
    ((present? binding.action).toList ++ (present? binding.usecase).toList).map fun ref =>
      ⟨nodeOf .invariant inv.metadata.name, normalizeRef ref, .constrains⟩

/-- The edges that `_build` looks at, in its order. -/
def edgeCandidates (r : SpecRegistry) : List EdgeCandidate :=
  r.usecases.flatMap usecaseEdges ++ r.components.flatMap componentEdges ++
  r.protocols.flatMap protocolEdges ++ r.events.flatMap eventEdges ++
  r.invariants.flatMap invariantEdges

/-- The nodes that `_build` adds. -/
def graphNodes (r : SpecRegistry) : Dict String Kind :=
  .ofList (r.allSpecs.map fun spec => (spec.nodeId, spec.kind))

/-- `DependencyGraph(registry).g`. The source asks `has_node` of the end that comes from a reference;
the other end is the spec itself, which is a node. -/
def buildGraph (r : SpecRegistry) : DiGraph where
  nodes := graphNodes r
  edges := .ofList (((edgeCandidates r).filter fun e =>
    (graphNodes r).contains e.source ∧ (graphNodes r).contains e.target).map fun e =>
      ((e.source, e.target), e.type))

/-- `ImpactResult` -/
structure ImpactResult where
  target : String
  directDependents : List String := []
  transitiveDependents : List String := []
  invariants : List String := []
  conflicts : List String := []

/-- `DependencyGraph.impact` -/
def impact (r : SpecRegistry) (ref : String) : ImpactResult :=
  let g := buildGraph r
  let node := normalizeRef ref
  if g.hasNode node then
    let preds := g.predecessors node
    let direct := (preds.filter fun pred =>
      pred.2 ≠ .constrains ∧ pred.2 ≠ .conflictsWith).map Prod.fst
    { target := node
      directDependents := direct
      transitiveDependents := (g.ancestors node).filter fun ancestor =>
        ancestor ∉ direct ∧ ancestor ≠ node ∧
          (g.nodes.get? ancestor = some .usecase ∨ g.nodes.get? ancestor = some .component)
      invariants := (preds.filter fun pred => pred.2 = .constrains).map Prod.fst
      conflicts := (preds.filter fun pred => pred.2 = .conflictsWith).map Prod.fst }
  else { target := node }

/-! ### Nodes and references -/

variable {r : SpecRegistry} {s t spec : AnySpec} {ref : String}

theorem nodeOf_inj {kind kind' : Kind} {name name' : String} (h : nodeOf kind name = nodeOf kind' name') :
    kind = kind' ∧ name = name' := by
  have hsplit := congrArg splitRef h
  simp only [nodeOf, splitRef_append _ (slash_notMem_value _), Option.some.injEq,
    Prod.mk.injEq] at hsplit
  exact ⟨Kind.value_injective hsplit.1, hsplit.2⟩

theorem singularOf_eq_value {head : String} {kind : Kind} :
    singularOf head = kind.value ↔ head = kind.plural ∨ head = kind.value := by
  rw [singularOf]
  constructor
  · intro h
    split at h
    · rename_i found hfound
      obtain rfl := Kind.value_injective h
      have hplural := List.find?_some hfound
      exact Or.inl (of_decide_eq_true hplural).symm
    · exact Or.inr h
  · rintro (rfl | rfl)
    · cases kind <;> rfl
    · cases kind <;> rfl

/-- A reference is normalised to the node of a spec exactly when it names the spec. -/
theorem normalizeRef_eq_nodeOf {kind : Kind} {name : String} :
    normalizeRef ref = nodeOf kind name ↔ SpecRegistry.Names ref kind name := by
  constructor
  · intro h
    rw [normalizeRef] at h
    split at h
    · rename_i head tail hsplit
      obtain ⟨rfl, hslash⟩ := splitRef_eq_some hsplit
      have hnot : '/' ∉ (singularOf head).toList := by
        rw [singularOf]
        split
        · exact slash_notMem_value _
        · exact hslash
      have hparts := congrArg splitRef h
      simp only [nodeOf, splitRef_append _ (slash_notMem_value _), splitRef_append _ hnot,
        Option.some.injEq, Prod.mk.injEq] at hparts
      obtain ⟨hhead, rfl⟩ := hparts
      rcases singularOf_eq_value.mp hhead with rfl | rfl
      · exact Or.inl rfl
      · exact Or.inr rfl
    · rename_i hsplit
      rw [h, nodeOf, splitRef_append _ (slash_notMem_value _)] at hsplit
      cases hsplit
  · rintro (rfl | rfl)
    · rw [normalizeRef]
      simp only [splitRef_append _ (slash_notMem_plural _), nodeOf]
      rw [singularOf_eq_value.mpr (Or.inl rfl)]
    · rw [normalizeRef]
      simp only [splitRef_append _ (slash_notMem_value _), nodeOf]
      rw [singularOf_eq_value.mpr (Or.inr rfl)]

theorem normalizeRef_eq_nodeId (h : t ∈ r.allSpecs) :
    normalizeRef ref = t.nodeId ↔ r.resolveRef ref = some t := by
  rw [AnySpec.nodeId, normalizeRef_eq_nodeOf, SpecRegistry.resolveRef_eq_some]
  exact (and_iff_right h).symm

theorem mem_graphNodes {node : String} :
    node ∈ (graphNodes r).keys ↔ ∃ spec ∈ r.allSpecs, spec.nodeId = node := by
  simp [graphNodes]

theorem get?_graphNodes (hs : s ∈ r.allSpecs) : (graphNodes r).get? s.nodeId = some s.kind := by
  obtain ⟨kind, hkind⟩ := Dict.mem_keys.mp (mem_graphNodes.mpr ⟨s, hs, rfl⟩)
  obtain ⟨other, -, heq⟩ := List.mem_map.mp (Dict.mem_of_mem_ofList (Dict.get?_eq_some.mp hkind))
  rw [Prod.mk.injEq] at heq
  rw [hkind, ← heq.2, (nodeOf_inj heq.1).1]

theorem nodeId_inj (hs : s ∈ r.allSpecs) (ht : t ∈ r.allSpecs) (h : s.nodeId = t.nodeId) : s = t := by
  obtain ⟨hkind, hname⟩ := nodeOf_inj h
  exact SpecRegistry.eq_of_name hs ht hkind hname

/-- An edge of the graph, whatever its type. -/
def Edge (r : SpecRegistry) (a b : String) : Prop := (a, b) ∈ (buildGraph r).edges.keys

theorem edge_iff {a b : String} : Edge r a b ↔ a ∈ (graphNodes r).keys ∧ b ∈ (graphNodes r).keys ∧
    ∃ e ∈ edgeCandidates r, e.source = a ∧ e.target = b := by
  simp only [Edge, buildGraph, Dict.mem_keys_ofList, List.map_map, List.mem_map, List.mem_filter,
    decide_eq_true_iff, Dict.contains_iff, Function.comp_apply, Prod.mk.injEq]
  constructor
  · rintro ⟨e, ⟨he, hsource, htarget⟩, rfl, rfl⟩
    exact ⟨hsource, htarget, e, he, rfl, rfl⟩
  · rintro ⟨hsource, htarget, e, he, rfl, rfl⟩
    exact ⟨e, ⟨he, hsource, htarget⟩, rfl, rfl⟩

theorem mem_predecessors {a b : String} :
    a ∈ ((buildGraph r).predecessors b).map Prod.fst ↔ Edge r a b := by
  simp only [DiGraph.predecessors, Edge, Dict.keys, List.map_map, List.mem_map, List.mem_filter,
    decide_eq_true_iff, Function.comp_apply]
  constructor
  · rintro ⟨edge, ⟨hedge, rfl⟩, rfl⟩
    exact ⟨edge, hedge, rfl⟩
  · rintro ⟨edge, hedge, heq⟩
    exact ⟨edge, ⟨hedge, by rw [heq]⟩, by rw [heq]⟩

/-- The ancestors of a node are the nodes with a path to it. -/
theorem mem_ancestors {a b : String} :
    a ∈ (buildGraph r).ancestors b ↔ a ≠ b ∧ TransGen (Edge r) a b := by
  have hnodes : (buildGraph r).nodes = graphNodes r := rfl
  have hstep : ∀ {a b}, Reach.Step (graphNodes r).keys
      (fun n => ((buildGraph r).predecessors n).map Prod.fst) b a ↔ Edge r a b := by
    intro a b
    rw [Reach.Step, mem_predecessors]
    exact and_iff_left_of_imp fun h => (edge_iff.mp h).1
  rw [DiGraph.ancestors, List.mem_filter, decide_eq_true_iff, hnodes, Reach.mem_closure, and_comm]
  refine and_congr_right fun hne => ?_
  clear hne
  constructor
  · rintro ⟨root, hroot, -, hreach⟩
    rw [mem_predecessors] at hroot
    induction hreach with
    | refl => exact .single hroot
    | tail _ h ih => exact .head (hstep.mp h) ih
  · intro hpath
    induction hpath using TransGen.head_induction_on with
    | single h => exact ⟨_, mem_predecessors.mpr h, (edge_iff.mp h).1, .refl⟩
    | head h _ ih =>
      obtain ⟨root, hroot, hin, hreach⟩ := ih
      exact ⟨root, hroot, hin, hreach.tail (hstep.mpr h)⟩

/-! ### References -/

/-- A reference of a use case or a component to a spec, other than `extends`. -/
inductive Mentions (r : SpecRegistry) : AnySpec → AnySpec → Prop
  | step {uc : UseCaseSpec} {step : StepDef} {t : AnySpec} (hstep : step ∈ uc.steps)
      (h : r.resolveRef step.use = some t) : Mentions r (.usecase uc) t
  | flowStep {uc : UseCaseSpec} {alt : AlternativeFlow} {step : StepDef} {t : AnySpec}
      (halt : alt ∈ uc.alternativeFlows) (hstep : step ∈ alt.steps)
      (h : r.resolveRef step.use = some t) : Mentions r (.usecase uc) t
  | requires {uc : UseCaseSpec} {requirement : ComponentRequirement} {t : AnySpec}
      (hrequires : requirement ∈ uc.requires) (h : r.resolveRef requirement.ref = some t) :
      Mentions r (.usecase uc) t
  | invariant {uc : UseCaseSpec} {binding : Binding InvariantSpec} {t : AnySpec}
      (hbinding : binding ∈ uc.invariants) (h : r.resolveRef (invariantReference binding) = some t) :
      Mentions r (.usecase uc) t
  | componentStep {comp : ComponentSpec} {step : StepDef} {t : AnySpec} (hstep : step ∈ comp.steps)
      (h : r.resolveRef step.use = some t) : Mentions r (.component comp) t

/-- A reference of a use case or a component that the validator resolves. -/
def Refers (r : SpecRegistry) (s t : AnySpec) : Prop :=
  Mentions r s t ∨ ∃ uc parent, s = .usecase uc ∧ t = .usecase parent ∧ Extends r uc parent

/-- A spec is an implementation of a protocol, or an action triggers an event. -/
inductive Relates (r : SpecRegistry) : AnySpec → AnySpec → Prop
  | implements {s : AnySpec} {proto : ProtocolSpec} {binding : Binding ComponentSpec}
      (hbinding : binding ∈ proto.implementations)
      (h : r.resolveRef (implementationReference binding) = some s) : Relates r s (.protocol proto)
  | triggers {action : ActionSpec} {event : EventSpec}
      (h : present? event.trigger = some action.metadata.name) :
      Relates r (.action action) (.event event)

/-- An invariant names the spec among what it applies to, with a prefix. -/
inductive Constrains (r : SpecRegistry) : AnySpec → AnySpec → Prop
  | action {inv : InvariantSpec} {binding : AppliesTo} {t : AnySpec} {ref : String}
      (hbinding : binding ∈ inv.appliesTo) (href : present? binding.action = some ref)
      (h : r.resolveRef ref = some t) : Constrains r (.invariant inv) t
  | usecase {inv : InvariantSpec} {binding : AppliesTo} {t : AnySpec} {ref : String}
      (hbinding : binding ∈ inv.appliesTo) (href : present? binding.usecase = some ref)
      (h : r.resolveRef ref = some t) : Constrains r (.invariant inv) t

theorem mem_of_resolveRef (h : r.resolveRef ref = some t) : t ∈ r.allSpecs :=
  (SpecRegistry.resolveRef_eq_some.mp h).1

/-- The edge that a reference gives. -/
theorem edge_of_candidate {e : EdgeCandidate} (he : e ∈ edgeCandidates r) (hs : s ∈ r.allSpecs)
    (ht : t ∈ r.allSpecs) (hsource : e.source = s.nodeId) (htarget : e.target = t.nodeId) :
    Edge r s.nodeId t.nodeId :=
  edge_iff.mpr ⟨mem_graphNodes.mpr ⟨s, hs, rfl⟩, mem_graphNodes.mpr ⟨t, ht, rfl⟩, e, he, hsource,
    htarget⟩

theorem edge_of_mentions (hs : s ∈ r.allSpecs) (h : Mentions r s t) : Edge r s.nodeId t.nodeId := by
  have hdepends : ∀ ref, r.resolveRef ref = some t → dependsOn s.nodeId ref ∈ edgeCandidates r →
      Edge r s.nodeId t.nodeId := fun ref hres hmem =>
    edge_of_candidate hmem hs (mem_of_resolveRef hres) rfl
      ((normalizeRef_eq_nodeId (mem_of_resolveRef hres)).mpr hres)
  have husecase : ∀ uc e, s = .usecase uc → e ∈ usecaseEdges uc → e ∈ edgeCandidates r := by
    rintro uc e rfl he
    simp only [edgeCandidates, List.mem_append]
    exact Or.inl (Or.inl (Or.inl (Or.inl
      (List.mem_flatMap.mpr ⟨uc, SpecRegistry.mem_usecases.mpr hs, he⟩))))
  cases h with
  | @step uc step _ hstep hres =>
    refine hdepends _ hres (husecase uc _ rfl ?_)
    simp only [usecaseEdges, List.mem_append]
    exact Or.inl (Or.inl (Or.inl (List.mem_map.mpr ⟨step, hstep, rfl⟩)))
  | @flowStep uc alt step _ halt hstep hres =>
    refine hdepends _ hres (husecase uc _ rfl ?_)
    simp only [usecaseEdges, List.mem_append]
    exact Or.inl (Or.inl (Or.inr
      (List.mem_flatMap.mpr ⟨alt, halt, List.mem_map.mpr ⟨step, hstep, rfl⟩⟩)))
  | @requires uc requirement _ hrequires hres =>
    refine hdepends _ hres (husecase uc _ rfl ?_)
    simp only [usecaseEdges, List.mem_append]
    exact Or.inl (Or.inr (List.mem_map.mpr ⟨requirement, hrequires, rfl⟩))
  | @invariant uc binding _ hbinding hres =>
    refine hdepends _ hres (husecase uc _ rfl ?_)
    simp only [usecaseEdges, List.mem_append]
    exact Or.inr (List.mem_map.mpr ⟨binding, hbinding, rfl⟩)
  | @componentStep comp step _ hstep hres =>
    refine hdepends _ hres ?_
    simp only [edgeCandidates, List.mem_append]
    exact Or.inl (Or.inl (Or.inl (Or.inr (List.mem_flatMap.mpr
      ⟨comp, SpecRegistry.mem_components.mpr hs, List.mem_map.mpr ⟨step, hstep, rfl⟩⟩))))

theorem edge_of_constrains_usecase {inv : InvariantSpec} {binding : AppliesTo}
    (hs : .invariant inv ∈ r.allSpecs) (hbinding : binding ∈ inv.appliesTo)
    (href : present? binding.usecase = some ref) (h : r.resolveRef ref = some t) :
    Edge r (AnySpec.invariant inv).nodeId t.nodeId := by
  have hmem : ⟨nodeOf .invariant inv.metadata.name, normalizeRef ref, .constrains⟩ ∈
      invariantEdges inv := by
    refine List.mem_flatMap.mpr ⟨binding, hbinding, List.mem_map.mpr ⟨ref, ?_, rfl⟩⟩
    simp [href]
  refine edge_of_candidate (List.mem_append_right _
    (List.mem_flatMap.mpr ⟨inv, SpecRegistry.mem_invariants.mpr hs, hmem⟩)) hs
    (mem_of_resolveRef h) rfl ?_
  exact (normalizeRef_eq_nodeId (mem_of_resolveRef h)).mpr h

/-- What the candidates of a use case and of a component stand for. -/
theorem mentions_of_usecaseEdges {uc : UseCaseSpec} {e : EdgeCandidate} (he : e ∈ usecaseEdges uc)
    (ht : t ∈ r.allSpecs) (htarget : e.target = t.nodeId) : Mentions r (.usecase uc) t := by
  simp only [usecaseEdges, List.mem_append, List.mem_map, List.mem_flatMap] at he
  rcases he with ((⟨step, hstep, rfl⟩ | ⟨alt, halt, step, hstep, rfl⟩) |
    ⟨requirement, hrequires, rfl⟩) | ⟨binding, hbinding, rfl⟩
  all_goals have hres := (normalizeRef_eq_nodeId ht).mp htarget
  · exact .step hstep hres
  · exact .flowStep halt hstep hres
  · exact .requires hrequires hres
  · exact .invariant hbinding hres

theorem mentions_of_componentEdges {comp : ComponentSpec} {e : EdgeCandidate}
    (he : e ∈ componentEdges comp) (ht : t ∈ r.allSpecs) (htarget : e.target = t.nodeId) :
    Mentions r (.component comp) t := by
  obtain ⟨step, hstep, rfl⟩ := List.mem_map.mp he
  exact .componentStep hstep ((normalizeRef_eq_nodeId ht).mp htarget)

theorem source_of_usecaseEdges {uc : UseCaseSpec} {e : EdgeCandidate} (he : e ∈ usecaseEdges uc) :
    e.source = (AnySpec.usecase uc).nodeId := by
  simp only [usecaseEdges, List.mem_append, List.mem_map, List.mem_flatMap] at he
  rcases he with ((⟨_, -, rfl⟩ | ⟨_, -, _, -, rfl⟩) | ⟨_, -, rfl⟩) | ⟨_, -, rfl⟩
  all_goals rfl

theorem source_of_componentEdges {comp : ComponentSpec} {e : EdgeCandidate}
    (he : e ∈ componentEdges comp) : e.source = (AnySpec.component comp).nodeId := by
  obtain ⟨_, -, rfl⟩ := List.mem_map.mp he
  rfl

/-- What an edge candidate between two specs says about them, by its type. -/
theorem candidate_cases {e : EdgeCandidate} (he : e ∈ edgeCandidates r) (hs : s ∈ r.allSpecs)
    (ht : t ∈ r.allSpecs) (hsource : e.source = s.nodeId) (htarget : e.target = t.nodeId) :
    Mentions r s t ∨ Relates r s t ∨ (e.type = .constrains ∧ Constrains r s t) := by
  have hnode : ∀ {other : AnySpec}, other ∈ r.allSpecs → other.nodeId = e.source → s = other :=
    fun hother heq => (nodeId_inj hother hs (heq.trans hsource)).symm
  simp only [edgeCandidates, List.mem_append, List.mem_flatMap] at he
  rcases he with (((⟨uc, huc, he⟩ | ⟨comp, hcomp, he⟩) | ⟨proto, hproto, he⟩) | ⟨event, hevent, he⟩) |
    ⟨inv, hinv, he⟩
  · obtain rfl := hnode (SpecRegistry.mem_usecases.mp huc) (source_of_usecaseEdges he).symm
    exact Or.inl (mentions_of_usecaseEdges he ht htarget)
  · obtain rfl := hnode (SpecRegistry.mem_components.mp hcomp) (source_of_componentEdges he).symm
    exact Or.inl (mentions_of_componentEdges he ht htarget)
  · obtain ⟨binding, hbinding, rfl⟩ := List.mem_map.mp he
    obtain rfl := nodeId_inj ht (SpecRegistry.mem_protocols.mp hproto) htarget.symm
    exact Or.inr (Or.inl (.implements hbinding ((normalizeRef_eq_nodeId hs).mp hsource)))
  · rw [eventEdges] at he
    split at he
    · rename_i after hafter
      rw [List.mem_singleton] at he
      subst he
      obtain rfl := nodeId_inj ht (SpecRegistry.mem_events.mp hevent) htarget.symm
      obtain ⟨hkind, hname⟩ := nodeOf_inj hsource
      cases s <;> cases hkind
      subst hname
      exact Or.inr (Or.inl (.triggers hafter))
    · cases he
  · simp only [invariantEdges, List.mem_flatMap, List.mem_map, List.mem_append,
      Option.mem_toList] at he
    obtain ⟨binding, hbinding, ref, href | href, rfl⟩ := he
    all_goals
      obtain rfl := hnode (SpecRegistry.mem_invariants.mp hinv) rfl
      have hres := (normalizeRef_eq_nodeId ht).mp htarget
      refine Or.inr (Or.inr ⟨rfl, ?_⟩)
    · exact .action hbinding href hres
    · exact .usecase hbinding href hres

/-- Two specs with an edge between their nodes. -/
theorem exists_of_edge {a b : String} (h : Edge r a b) :
    ∃ s ∈ r.allSpecs, ∃ t ∈ r.allSpecs, s.nodeId = a ∧ t.nodeId = b ∧
      (Mentions r s t ∨ Relates r s t ∨ Constrains r s t) := by
  obtain ⟨ha, hb, e, he, hsource, htarget⟩ := edge_iff.mp h
  obtain ⟨s, hs, rfl⟩ := mem_graphNodes.mp ha
  obtain ⟨t, ht, rfl⟩ := mem_graphNodes.mp hb
  refine ⟨s, hs, t, ht, rfl, rfl, ?_⟩
  rcases candidate_cases he hs ht hsource htarget with h | h | ⟨-, h⟩
  · exact Or.inl h
  · exact Or.inr (Or.inl h)
  · exact Or.inr (Or.inr h)

theorem mem_predecessors_type {a b : String} {type : EdgeType}
    (h : (a, type) ∈ (buildGraph r).predecessors b) :
    ∃ e ∈ edgeCandidates r, e.source = a ∧ e.target = b ∧ e.type = type ∧ Edge r a b := by
  simp only [DiGraph.predecessors, List.mem_map, List.mem_filter, decide_eq_true_iff,
    Prod.mk.injEq] at h
  obtain ⟨⟨⟨a, b⟩, type⟩, ⟨hedge, rfl⟩, rfl, rfl⟩ := h
  have hkey : Edge r a b := List.mem_map_of_mem hedge
  obtain ⟨e, he, heq⟩ := List.mem_map.mp (Dict.mem_of_mem_ofList hedge)
  simp only [Prod.mk.injEq] at heq
  obtain ⟨⟨rfl, rfl⟩, rfl⟩ := heq
  exact ⟨e, (List.mem_filter.mp he).1, rfl, rfl, rfl, hkey⟩

/-! ### Validated registries -/

section Validated

variable [ReprStrings] [SetOrder]

/-- The validator reports no error. -/
def Validated (r : SpecRegistry) : Prop := ∀ issue ∈ validateAll r, issue.severity ≠ .error

omit [ReprStrings] [SetOrder] in
/-- Where a reference gives no error, it resolves to a spec of an expected kind. -/
theorem resolves_of_noError {specName relationship : String} {expected : List Kind}
    (h : ∀ issue ∈ validateIdentityRef r ref specName relationship expected,
      issue.severity ≠ .error) : ∃ t, r.resolveRef ref = some t ∧ t.kind ∈ expected := by
  rw [validateIdentityRef] at h
  split at h
  · simp at h
  · rename_i t ht
    split at h
    · rename_i hkind
      exact ⟨t, ht, hkind⟩
    · simp at h

omit [ReprStrings] [SetOrder] in
theorem stepResolves_of_noError {use specName : String}
    (h : ∀ issue ∈ validateStepRef r use specName, issue.severity ≠ .error) :
    ∃ t, r.resolveRef use = some t ∧ (t.kind = .action ∨ t.kind = .protocol) := by
  rw [validateStepRef] at h
  split at h
  · simp at h
  · obtain ⟨t, ht, hkind⟩ := resolves_of_noError h
    exact ⟨t, ht, by simpa using hkind⟩

variable {uc parent : UseCaseSpec}

theorem Validated.usecase (h : Validated r) (huc : .usecase uc ∈ r.allSpecs) :
    ∀ issue ∈ validateUsecase r uc, issue.severity ≠ .error := by
  intro issue hissue
  refine h issue ?_
  have hmem : issue ∈ r.usecases.flatMap (validateUsecase r) :=
    List.mem_flatMap.mpr ⟨uc, SpecRegistry.mem_usecases.mpr huc, hissue⟩
  simp only [validateAll, List.mem_append]
  tauto

theorem Validated.not_faulty (h : Validated r) : ¬Faulty r := by
  intro hfaulty
  obtain ⟨issue, hissue, herror, -⟩ := reports_iff_faulty.mpr hfaulty
  exact h issue hissue herror

/-- A validated use case or component mentions components, actions, protocols and invariants; an
invariant only a use case, among its own invariants. -/
theorem Validated.mentions (h : Validated r) (hs : s ∈ r.allSpecs) (hmentions : Mentions r s t) :
    t.kind = .action ∨ t.kind = .protocol ∨
    (t.kind = .component ∧ ∃ uc, s = .usecase uc) ∨
    (t.kind = .invariant ∧ ∃ uc, s = .usecase uc ∧
      ∃ binding ∈ uc.invariants, r.resolveRef (invariantReference binding) = some t) := by
  have husecase : ∀ {uc : UseCaseSpec} {issues : List ValidationIssue}, .usecase uc ∈ r.allSpecs →
      (∀ issue ∈ issues, issue ∈ validateUsecase r uc) → ∀ issue ∈ issues, issue.severity ≠ .error :=
    fun huc hsub issue hissue => h.usecase huc issue (hsub issue hissue)
  cases hmentions with
  | @step uc step _ hstep hres =>
    obtain ⟨t', hres', hkind⟩ := stepResolves_of_noError (husecase hs fun issue hissue => by
      have hmem : issue ∈ uc.steps.flatMap fun step =>
          validateStepRef r step.use uc.name ++ validateDependsOn step uc.stepIds uc.name "" :=
        List.mem_flatMap.mpr ⟨step, hstep, List.mem_append_left _ hissue⟩
      simp only [validateUsecase, List.mem_append]
      tauto)
    rw [hres, Option.some.injEq] at hres'
    subst hres'
    tauto
  | @flowStep uc alt step _ halt hstep hres =>
    obtain ⟨t', hres', hkind⟩ := stepResolves_of_noError (husecase hs fun issue hissue => by
      have hmem : issue ∈ uc.alternativeFlows.flatMap fun alt => alt.steps.flatMap fun step =>
          validateStepRef r step.use uc.name ++
            validateDependsOn step (uc.stepIds ++ alt.steps.map StepDef.id) uc.name
              (" in alternative flow '" ++ alt.name ++ "'") :=
        List.mem_flatMap.mpr ⟨alt, halt,
          List.mem_flatMap.mpr ⟨step, hstep, List.mem_append_left _ hissue⟩⟩
      simp only [validateUsecase, List.mem_append]
      tauto)
    rw [hres, Option.some.injEq] at hres'
    subst hres'
    tauto
  | @requires uc requirement _ hrequires hres =>
    obtain ⟨t', hres', hkind⟩ := resolves_of_noError (husecase hs fun issue hissue => by
      have hmem : issue ∈ uc.requires.flatMap fun requirement =>
          validateIdentityRef r requirement.ref uc.name "requires" [.component] :=
        List.mem_flatMap.mpr ⟨requirement, hrequires, hissue⟩
      simp only [validateUsecase, List.mem_append]
      tauto)
    rw [hres, Option.some.injEq] at hres'
    subst hres'
    exact Or.inr (Or.inr (Or.inl ⟨by simpa using hkind, uc, rfl⟩))
  | @invariant uc binding _ hbinding hres =>
    obtain ⟨t', hres', hkind⟩ := resolves_of_noError (husecase hs fun issue hissue => by
      have hmem : issue ∈ uc.invariants.flatMap fun binding =>
          validateIdentityRef r (invariantReference binding) uc.name "invariant" [.invariant] :=
        List.mem_flatMap.mpr ⟨binding, hbinding, hissue⟩
      simp only [validateUsecase, List.mem_append]
      tauto)
    rw [hres, Option.some.injEq] at hres'
    subst hres'
    exact Or.inr (Or.inr (Or.inr ⟨by simpa using hkind, uc, rfl, binding, hbinding, hres⟩))
  | @componentStep comp step _ hstep hres =>
    obtain ⟨t', hres', hkind⟩ := stepResolves_of_noError (fun issue hissue => h issue (by
      have hmem : issue ∈ r.components.flatMap (validateComponent r) :=
        List.mem_flatMap.mpr ⟨comp, SpecRegistry.mem_components.mpr hs, List.mem_append_right _
          (List.mem_flatMap.mpr ⟨step, hstep, List.mem_append_left _ hissue⟩)⟩
      simp only [validateAll, List.mem_append]
      tauto))
    rw [hres, Option.some.injEq] at hres'
    subst hres'
    tauto

/-- A validated invariant applies to actions and to use cases, the latter by their own field. -/
theorem Validated.constrains (h : Validated r) (hs : s ∈ r.allSpecs)
    (hconstrains : Constrains r s t) : t.kind = .action ∨
      (t.kind = .usecase ∧ ∃ inv, s = .invariant inv ∧ ∃ binding ∈ inv.appliesTo,
        ∃ ref, present? binding.usecase = some ref ∧ r.resolveRef ref = some t) := by
  have hslash : ∀ {ref}, r.resolveRef ref = some t → ∀ default, withDefaultPrefix ref default = ref := by
    intro ref hres default
    rw [withDefaultPrefix, if_pos]
    by_contra hnot
    rw [SpecRegistry.resolveRef_of_no_slash hnot] at hres
    cases hres
  have hinvariant : ∀ {inv : InvariantSpec} {issues : List ValidationIssue},
      .invariant inv ∈ r.allSpecs → (∀ issue ∈ issues, issue ∈ validateInvariant r inv) →
        ∀ issue ∈ issues, issue.severity ≠ .error := by
    intro inv issues hinv hsub issue hissue
    refine h issue ?_
    have hmem : issue ∈ r.invariants.flatMap (validateInvariant r) :=
      List.mem_flatMap.mpr ⟨inv, SpecRegistry.mem_invariants.mpr hinv, hsub issue hissue⟩
    simp only [validateAll, List.mem_append]
    tauto
  cases hconstrains with
  | @action inv binding _ ref hbinding href hres =>
    obtain ⟨t', hres', hkind⟩ := resolves_of_noError (hinvariant hs fun issue hissue => by
      refine List.mem_append_right _ (List.mem_flatMap.mpr ⟨binding, hbinding, ?_⟩)
      refine List.mem_append_left _ ?_
      rw [href]
      exact hissue)
    rw [hslash hres, hres, Option.some.injEq] at hres'
    subst hres'
    exact Or.inl (by simpa using hkind)
  | @usecase inv binding _ ref hbinding href hres =>
    obtain ⟨t', hres', hkind⟩ := resolves_of_noError (hinvariant hs fun issue hissue => by
      refine List.mem_append_right _ (List.mem_flatMap.mpr ⟨binding, hbinding, ?_⟩)
      refine List.mem_append_right _ ?_
      rw [href]
      exact hissue)
    rw [hslash hres, hres, Option.some.injEq] at hres'
    subst hres'
    exact Or.inr ⟨by simpa using hkind, inv, rfl, binding, hbinding, ref, href, hres⟩

/-! ### Paths -/

/-- The use case is bound to an invariant that names the other use case, with a prefix, among what
it applies to. -/
def Guards (r : SpecRegistry) (uc other : UseCaseSpec) : Prop :=
  ∃ binding ∈ uc.invariants, ∃ inv, r.resolveRef (invariantReference binding) = some (.invariant inv) ∧
    ∃ target ∈ inv.appliesTo, ∃ ref, present? target.usecase = some ref ∧
      r.resolveRef ref = some (.usecase other)

omit [ReprStrings] [SetOrder] in
theorem Guards.mem_usecases (h : Guards r uc parent) : parent ∈ r.usecases := by
  obtain ⟨_, _, _, _, _, _, _, _, hres⟩ := h
  exact SpecRegistry.mem_usecases.mpr (mem_of_resolveRef hres)

omit [ReprStrings] [SetOrder] in
theorem path_of_guards (huc : uc ∈ r.usecases) (h : Guards r uc parent) :
    TransGen (Edge r) (AnySpec.usecase uc).nodeId (AnySpec.usecase parent).nodeId := by
  obtain ⟨binding, hbinding, inv, hinv, target, htarget, ref, href, hres⟩ := h
  exact .tail (.single (edge_of_mentions (SpecRegistry.mem_usecases.mp huc) (.invariant hbinding hinv)))
    (edge_of_constrains_usecase (mem_of_resolveRef hinv) htarget href hres)

omit [ReprStrings] [SetOrder] in
theorem path_of_guards_path (huc : uc ∈ r.usecases) (h : TransGen (Guards r) uc parent) :
    TransGen (Edge r) (AnySpec.usecase uc).nodeId (AnySpec.usecase parent).nodeId := by
  induction h with
  | single h => exact path_of_guards huc h
  | tail hpath h ih =>
    refine ih.trans (path_of_guards ?_ h)
    cases hpath with
    | single h => exact h.mem_usecases
    | tail _ h => exact h.mem_usecases

/-- On a validated registry a path of the graph from a use case to a use case runs through
invariants only. The induction is on the path, for its ends at use cases and at invariants. -/
theorem Validated.guards_of_path (h : Validated r) (huc : uc ∈ r.usecases) {node : String}
    (hpath : TransGen (Edge r) (AnySpec.usecase uc).nodeId node) :
    (∀ other : UseCaseSpec, other ∈ r.usecases → node = (AnySpec.usecase other).nodeId →
      TransGen (Guards r) uc other) ∧
    ∀ inv : InvariantSpec, .invariant inv ∈ r.allSpecs → node = (AnySpec.invariant inv).nodeId →
      ∃ last, ReflTransGen (Guards r) uc last ∧ ∃ binding ∈ last.invariants,
        r.resolveRef (invariantReference binding) = some (.invariant inv) := by
  -- An edge into a use case comes from an invariant that applies to it.
  have hinto : ∀ {a : String} {other : UseCaseSpec}, other ∈ r.usecases →
      Edge r a (AnySpec.usecase other).nodeId → ∃ inv, .invariant inv ∈ r.allSpecs ∧
        a = (AnySpec.invariant inv).nodeId ∧ ∃ target ∈ inv.appliesTo, ∃ ref,
          present? target.usecase = some ref ∧ r.resolveRef ref = some (.usecase other) := by
    intro a other hother hedge
    obtain ⟨s, hs, t, ht, rfl, hnode, hcases⟩ := exists_of_edge hedge
    obtain rfl := nodeId_inj ht (SpecRegistry.mem_usecases.mp hother) hnode
    rcases hcases with hmentions | hrelates | hconstrains
    · rcases h.mentions hs hmentions with hkind | hkind | ⟨hkind, -⟩ | ⟨hkind, -⟩ <;> cases hkind
    · cases hrelates
    · rcases h.constrains hs hconstrains with hkind | ⟨-, inv, rfl, hrest⟩
      · cases hkind
      · exact ⟨inv, hs, rfl, hrest⟩
  -- An edge into an invariant comes from a use case that is bound to it.
  have hbound : ∀ {a : String} {inv : InvariantSpec}, .invariant inv ∈ r.allSpecs →
      Edge r a (AnySpec.invariant inv).nodeId → ∃ last ∈ r.usecases,
        a = (AnySpec.usecase last).nodeId ∧ ∃ binding ∈ last.invariants,
          r.resolveRef (invariantReference binding) = some (.invariant inv) := by
    intro a inv hinv hedge
    obtain ⟨s, hs, t, ht, rfl, hnode, hcases⟩ := exists_of_edge hedge
    obtain rfl := nodeId_inj ht hinv hnode
    rcases hcases with hmentions | hrelates | hconstrains
    · rcases h.mentions hs hmentions with hkind | hkind | ⟨hkind, -⟩ | ⟨-, last, rfl, hrest⟩
      · cases hkind
      · cases hkind
      · cases hkind
      · exact ⟨last, SpecRegistry.mem_usecases.mpr hs, rfl, hrest⟩
    · cases hrelates
    · rcases h.constrains hs hconstrains with hkind | ⟨hkind, -⟩ <;> cases hkind
  induction hpath with
  | single hedge =>
    constructor
    · rintro other hother rfl
      obtain ⟨inv, -, heq, -⟩ := hinto hother hedge
      cases (nodeOf_inj heq).1
    · rintro inv hinv rfl
      obtain ⟨last, hlast, heq, hrest⟩ := hbound hinv hedge
      obtain rfl := SpecRegistry.usecase_eq_of_name huc hlast (nodeOf_inj heq).2
      exact ⟨uc, .refl, hrest⟩
  | tail _ hedge ih =>
    constructor
    · rintro other hother rfl
      obtain ⟨inv, hinv, rfl, target, htarget, ref, href, hres⟩ := hinto hother hedge
      obtain ⟨last, hreach, binding, hbinding, hinvres⟩ := ih.2 inv hinv rfl
      exact TransGen.tail' hreach ⟨binding, hbinding, inv, hinvres, target, htarget, ref, href, hres⟩
    · rintro inv hinv rfl
      obtain ⟨last, hlast, rfl, hrest⟩ := hbound hinv hedge
      exact ⟨last, (ih.1 last hlast rfl).to_reflTransGen, hrest⟩

omit [ReprStrings] [SetOrder] in
theorem Refers.mem_allSpecs (h : Refers r s t) : t ∈ r.allSpecs := by
  rcases h with hmentions | ⟨uc, parent, rfl, rfl, hext⟩
  · cases hmentions with
    | step _ h => exact mem_of_resolveRef h
    | flowStep _ _ h => exact mem_of_resolveRef h
    | requires _ h => exact mem_of_resolveRef h
    | invariant _ h => exact mem_of_resolveRef h
    | componentStep _ h => exact mem_of_resolveRef h
  · exact SpecRegistry.mem_usecases.mp hext.mem_usecases

/-- On a validated registry the references lead into a use case along `extends` only. -/
theorem Validated.extends_of_refers (h : Validated r) (hs : s ∈ r.allSpecs)
    (hpath : TransGen (Refers r) s t) : ∀ other : UseCaseSpec, t = .usecase other →
      ∃ uc, s = .usecase uc ∧ TransGen (Extends r) uc other := by
  have hstep : ∀ {a : AnySpec} {other : UseCaseSpec}, a ∈ r.allSpecs → Refers r a (.usecase other) →
      ∃ uc, a = .usecase uc ∧ Extends r uc other := by
    rintro a other ha (hmentions | ⟨uc, parent, rfl, heq, hext⟩)
    · rcases h.mentions ha hmentions with hkind | hkind | ⟨hkind, -⟩ | ⟨hkind, -⟩ <;> cases hkind
    · cases heq
      exact ⟨uc, rfl, hext⟩
  induction hpath with
  | single hrefers =>
    rintro other rfl
    obtain ⟨uc, rfl, hext⟩ := hstep hs hrefers
    exact ⟨uc, rfl, .single hext⟩
  | @tail b c hpath hrefers ih =>
    rintro other rfl
    have hb : b ∈ r.allSpecs := by
      cases hpath with
      | single h => exact h.mem_allSpecs
      | tail _ h => exact h.mem_allSpecs
    obtain ⟨last, rfl, hext⟩ := hstep hb hrefers
    obtain ⟨uc, rfl, hreach⟩ := ih last rfl
    exact ⟨uc, rfl, hreach.tail hext⟩

omit [ReprStrings] [SetOrder] in
/-- Only use cases and components refer to specs. -/
theorem Refers.source_kind (h : Refers r s t) : s.kind = .usecase ∨ s.kind = .component := by
  rcases h with hmentions | ⟨uc, _, rfl, -, -⟩
  · cases hmentions
    all_goals simp [AnySpec.kind]
  · exact Or.inl rfl

omit [ReprStrings] [SetOrder] in
theorem refersPath_source_kind (h : TransGen (Refers r) s t) :
    s.kind = .usecase ∨ s.kind = .component := by
  obtain ⟨_, hrefers, -⟩ := TransGen.head'_iff.mp h
  exact hrefers.source_kind

/-- No spec of a validated registry refers to itself, directly or not. -/
theorem Validated.not_refers_self (h : Validated r) (hs : s ∈ r.allSpecs) :
    ¬TransGen (Refers r) s s := by
  intro hcycle
  cases s with
  | usecase uc =>
    obtain ⟨_, heq, hextends⟩ := h.extends_of_refers hs hcycle uc rfl
    cases heq
    exact h.not_faulty ⟨uc, SpecRegistry.mem_usecases.mpr hs, Or.inr (Or.inl ⟨uc, .refl, hextends⟩)⟩
  | component comp =>
    obtain ⟨last, hreach, hrefers⟩ := TransGen.tail'_iff.mp hcycle
    have hlast : last ∈ r.allSpecs := by
      cases hreach with
      | refl => exact hs
      | tail _ h => exact h.mem_allSpecs
    rcases hrefers with hmentions | ⟨_, _, rfl, heq, _⟩
    · rcases h.mentions hlast hmentions with hkind | hkind | ⟨-, uc, rfl⟩ | ⟨hkind, -⟩
      · cases hkind
      · cases hkind
      · rcases reflTransGen_iff_eq_or_transGen.mp hreach with heq | hpath
        · cases heq
        · obtain ⟨_, heq, -⟩ := h.extends_of_refers hs hpath uc rfl
          cases heq
      · cases hkind
    · cases heq
  | action _ => rcases refersPath_source_kind hcycle with hkind | hkind <;> cases hkind
  | event _ => rcases refersPath_source_kind hcycle with hkind | hkind <;> cases hkind
  | protocol _ => rcases refersPath_source_kind hcycle with hkind | hkind <;> cases hkind
  | invariant _ => rcases refersPath_source_kind hcycle with hkind | hkind <;> cases hkind

/-! ### Impact -/

/-- A direct or a transitive dependent -/
def ImpactResult.Lists (result : ImpactResult) (node : String) : Prop :=
  node ∈ result.directDependents ∨ node ∈ result.transitiveDependents

omit [ReprStrings] [SetOrder] in
/-- What is listed has a path to the target, and a use case or a component with a path to another
spec is listed. -/
theorem impact_lists {ref : String} (hs : s ∈ r.allSpecs) (href : r.resolveRef ref = some t)
    (hkind : s.kind = .usecase ∨ s.kind = .component) (hne : s ≠ t) :
    (impact r ref).Lists s.nodeId ↔ TransGen (Edge r) s.nodeId t.nodeId := by
  have ht := mem_of_resolveRef href
  have hnode : normalizeRef ref = t.nodeId := (normalizeRef_eq_nodeId ht).mpr href
  have hhas : (buildGraph r).hasNode t.nodeId = true :=
    Dict.contains_iff.mpr (mem_graphNodes.mpr ⟨t, ht, rfl⟩)
  have hget : (buildGraph r).nodes.get? s.nodeId = some s.kind := get?_graphNodes hs
  have hneq : s.nodeId ≠ t.nodeId := fun h => hne (nodeId_inj hs ht h)
  rw [ImpactResult.Lists, impact, hnode, if_pos hhas]
  simp only [List.mem_filter, mem_ancestors, hget, decide_eq_true_iff, Option.some.injEq]
  constructor
  · rintro (hdirect | ⟨⟨-, hpath⟩, -⟩)
    · obtain ⟨⟨a, type⟩, hpred, rfl⟩ := List.mem_map.mp hdirect
      exact .single (mem_predecessors.mp (List.mem_map_of_mem (List.mem_filter.mp hpred).1))
    · exact hpath
  · intro hpath
    exact or_iff_not_imp_left.mpr fun hnot => ⟨⟨hneq, hpath⟩, hnot, hneq, hkind⟩

omit [ReprStrings] [SetOrder] in
theorem direct_related {ref node : String} (href : r.resolveRef ref = some t)
    (h : node ∈ (impact r ref).directDependents) :
    ∃ s ∈ r.allSpecs, s.nodeId = node ∧ (Refers r s t ∨ Relates r s t) := by
  have ht := mem_of_resolveRef href
  have hnode : normalizeRef ref = t.nodeId := (normalizeRef_eq_nodeId ht).mpr href
  have hhas : (buildGraph r).hasNode t.nodeId = true :=
    Dict.contains_iff.mpr (mem_graphNodes.mpr ⟨t, ht, rfl⟩)
  rw [impact, hnode, if_pos hhas] at h
  obtain ⟨⟨a, type⟩, hpred, rfl⟩ := List.mem_map.mp h
  obtain ⟨hmem, htype⟩ := List.mem_filter.mp hpred
  obtain ⟨e, he, hsource, htarget, rfl, hedge⟩ := mem_predecessors_type hmem
  obtain ⟨s, hs, rfl⟩ := mem_graphNodes.mp (edge_iff.mp hedge).1
  refine ⟨s, hs, rfl, ?_⟩
  rcases candidate_cases he hs ht hsource htarget with hmentions | hrelates | ⟨hconstrains, -⟩
  · exact Or.inl (Or.inl hmentions)
  · exact Or.inr hrelates
  · simp [hconstrains] at htype

/-- Every use case and component with references that lead to a spec is among the dependents of the
spec, and each direct dependent has such a reference or another relation to it. -/
structure ImpactComplete (r : SpecRegistry) : Prop where
  lists : ∀ s ∈ r.allSpecs, ∀ t ref, r.resolveRef ref = some t → TransGen (Refers r) s t →
    (impact r ref).Lists s.nodeId
  direct : ∀ t ref, r.resolveRef ref = some t → ∀ node ∈ (impact r ref).directDependents,
    ∃ s ∈ r.allSpecs, s.nodeId = node ∧ (Refers r s t ∨ Relates r s t)

/-- The impact analysis of a validated registry is complete exactly when each use case that extends
another is also bound to it through invariants: `extends` itself gives no edge. -/
theorem impact_complete_iff (r : SpecRegistry) (h : Validated r) : ImpactComplete r ↔
    ∀ uc ∈ r.usecases, ∀ parent, Extends r uc parent → TransGen (Guards r) uc parent := by
  constructor
  · intro hcomplete uc huc parent hext
    have hs : .usecase uc ∈ r.allSpecs := SpecRegistry.mem_usecases.mp huc
    have hparent := SpecRegistry.mem_usecases.mp hext.mem_usecases
    have hrefers : TransGen (Refers r) (.usecase uc) (.usecase parent) :=
      .single (Or.inr ⟨uc, parent, rfl, rfl, hext⟩)
    have hne : AnySpec.usecase uc ≠ .usecase parent := fun heq =>
      h.not_refers_self hs (heq ▸ hrefers)
    have href : r.resolveRef (AnySpec.usecase parent).nodeId = some (.usecase parent) :=
      SpecRegistry.resolveRef_eq_some.mpr ⟨hparent, Or.inr rfl⟩
    have hlists := hcomplete.lists _ hs _ _ href hrefers
    have hpath := (impact_lists hs href (Or.inl rfl) hne).mp hlists
    exact (h.guards_of_path huc hpath).1 parent hext.mem_usecases rfl
  · intro hguards
    refine ⟨?_, fun t ref href node => direct_related href⟩
    intro s hs t ref href hpath
    have hne : s ≠ t := fun heq => h.not_refers_self hs (heq ▸ hpath)
    rw [impact_lists hs href (refersPath_source_kind hpath) hne]
    clear hne href
    have hstep : ∀ {s t : AnySpec}, s ∈ r.allSpecs → Refers r s t →
        TransGen (Edge r) s.nodeId t.nodeId := by
      rintro s t hs (hmentions | ⟨uc, parent, rfl, rfl, hext⟩)
      · exact .single (edge_of_mentions hs hmentions)
      · have huc := SpecRegistry.mem_usecases.mpr hs
        exact path_of_guards_path huc (hguards uc huc parent hext)
    induction hpath using TransGen.head_induction_on with
    | single hrefers => exact hstep hs hrefers
    | head hrefers _ ih => exact (hstep hs hrefers).trans (ih hrefers.mem_allSpecs)

end Validated

namespace Sample

def pay : ActionSpec := { metadata := { name := "pay" } }

def wrap : ActionSpec := { metadata := { name := "wrap" } }

/-- The two orders with their actions. -/
def shop : SpecRegistry :=
  match orders.register (.action pay) with
  | .ok r =>
    match r.register (.action wrap) with
    | .ok r => r
    | .error _ => .empty
  | .error _ => .empty

theorem extends_shop : Extends shop giftOrder order := ⟨"$ref:use-cases/order", rfl, rfl⟩

theorem usecases_shop : shop.usecases = [order, giftOrder] := rfl

theorem validateExtends_shop : validateExtends shop giftOrder = [] := by
  by_contra hne
  have huc : giftOrder ∈ shop.usecases := by simp [usecases_shop]
  rcases (validateExtends_ne_nil_of_parent rfl extends_shop huc).mp hne with hcircular | hclash
  · exact (ExtendsChain.extend extends_shop (.root rfl)).not_circular hcircular
  · obtain ⟨parent, hext, hid⟩ := hclash
    obtain rfl := hext.unique extends_shop
    revert hid
    decide +kernel

theorem validated_shop : Validated shop := by
  have hgift : ∀ issue ∈ validateUsecase shop giftOrder, issue.severity ≠ .error := by
    rw [validateUsecase, validateExtends_shop]
    decide +kernel
  have horder : ∀ issue ∈ validateUsecase shop order, issue.severity ≠ .error := by
    rw [validateUsecase, show validateExtends shop order = [] from rfl]
    decide +kernel
  simp only [Validated, validateAll, List.forall_mem_append]
  refine ⟨⟨⟨⟨⟨⟨⟨?_, ?_⟩, ?_⟩, ?_⟩, ?_⟩, ?_⟩, ?_⟩, ?_⟩
  · decide +kernel
  · decide +kernel
  · rw [usecases_shop]
    simp only [List.flatMap_cons, List.flatMap_nil, List.append_nil, List.forall_mem_append]
    exact ⟨horder, hgift⟩
  · decide +kernel
  · decide +kernel
  · decide +kernel
  · decide +kernel
  · decide +kernel

theorem impact_complete_iff_shop : ImpactComplete shop ↔
    ∀ uc ∈ shop.usecases, ∀ parent, Extends shop uc parent → TransGen (Guards shop) uc parent :=
  impact_complete_iff shop validated_shop

/-- The impact of the order leaves out the gift order, which extends it. -/
theorem shop_impact_incomplete : Validated shop ∧ Refers shop (.usecase giftOrder) (.usecase order) ∧
    ¬(impact shop "use-cases/order").Lists "usecase/gift-order" ∧ ¬ImpactComplete shop := by
  have hrefers : Refers shop (.usecase giftOrder) (.usecase order) :=
    Or.inr ⟨_, _, rfl, rfl, extends_shop⟩
  have hnot : ¬(impact shop "use-cases/order").Lists "usecase/gift-order" := by
    have hmem : .usecase giftOrder ∈ shop.allSpecs :=
      SpecRegistry.mem_usecases.mp (by simp [usecases_shop])
    have hne : AnySpec.usecase giftOrder ≠ .usecase order := fun heq =>
      validated_shop.not_refers_self hmem (.single (heq ▸ hrefers))
    have hnode : (AnySpec.usecase giftOrder).nodeId = "usecase/gift-order" := by decide +kernel
    rw [← hnode, impact_lists hmem rfl (Or.inl rfl) hne]
    intro hpath
    have hguards := (validated_shop.guards_of_path (by simp [usecases_shop]) hpath).1 order
      (by simp [usecases_shop]) rfl
    obtain ⟨_, ⟨binding, hbinding, -⟩, -⟩ := TransGen.head'_iff.mp hguards
    simp [giftOrder] at hbinding
  refine ⟨validated_shop, hrefers, hnot, fun hcomplete => hnot ?_⟩
  exact hcomplete.lists _ (SpecRegistry.mem_usecases.mp (by simp [usecases_shop])) _ _ rfl
    (.single hrefers)

end Sample

end Ucf.Spec
