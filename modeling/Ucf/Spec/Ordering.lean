import Ucf.Library.Peeling
import Ucf.Spec.Graph

/-! The order of a validated registry: the `depends_on` relation of the steps of a flow, which the
validator leaves open to cycles, and the `DEPENDS_ON` edges of the dependency graph, which have none. -/

namespace Ucf.Spec

open Relation

variable {r : SpecRegistry} {a b : String} {flow : List StepDef}

/-! ### Steps -/

/-- A declared flow: the steps of a use case or of a component, or those of a use case and of one of
its alternative flows. -/
inductive Flow (r : SpecRegistry) : List StepDef → Prop
  | usecase {uc : UseCaseSpec} (huc : uc ∈ r.usecases) : Flow r uc.steps
  | component {comp : ComponentSpec} (hcomp : comp ∈ r.components) : Flow r comp.steps
  | alternative {uc : UseCaseSpec} {alt : AlternativeFlow} (huc : uc ∈ r.usecases)
      (halt : alt ∈ uc.alternativeFlows) : Flow r (uc.steps ++ alt.steps)

/-- A step of a flow names another in its `depends_on`. -/
def DependsOn (flow : List StepDef) (step other : StepDef) : Prop :=
  step ∈ flow ∧ other ∈ flow ∧ other.id ∈ step.dependsOn

/-- The one step has to run before the other, which depends on it. -/
def runsBefore (other step : StepDef) : Bool := other.id ∈ step.dependsOn

/-- No step comes before one that it depends on. -/
def RespectsDependencies (order : List StepDef) : Prop :=
  order.Pairwise fun earlier later => later.id ∉ earlier.dependsOn

theorem dependsOn_iff {step other : StepDef} :
    DependsOn flow step other ↔ Peeling.Among runsBefore flow other step := by
  simp only [DependsOn, Peeling.Among, runsBefore, decide_eq_true_iff]
  tauto

theorem acyclic_iff_peel : (∀ step, ¬TransGen (DependsOn flow) step step) ↔
    Peeling.peel runsBefore flow = [] := by
  have hswap : DependsOn flow = Function.swap (Peeling.Among runsBefore flow) := by
    funext step other
    exact propext dependsOn_iff
  rw [Peeling.peel_eq_nil_iff, hswap]
  exact forall_congr' fun step => not_congr transGen_swap

theorem exists_order (h : Peeling.peel runsBefore flow = []) :
    ∃ order, order.Perm flow ∧ RespectsDependencies order := by
  obtain ⟨order, hperm, hrespects⟩ := Peeling.exists_respects h
  exact ⟨order, hperm, hrespects.imp fun h => by simpa [runsBefore] using h⟩

/-! ### The graph -/

/-- An edge of the graph of type `DEPENDS_ON`. -/
def DependsEdge (r : SpecRegistry) (a b : String) : Prop :=
  (buildGraph r).edges.get? (a, b) = some .dependsOn

/-- Where a kind of spec stands: a use case depends on the others, a component on what its steps use. -/
def Kind.level : Kind → Nat
  | usecase => 2
  | component => 1
  | _ => 0

theorem dependsEdge_candidate (h : DependsEdge r a b) :
    ∃ e ∈ edgeCandidates r, e.source = a ∧ e.target = b ∧ e.type = .dependsOn ∧ Edge r a b := by
  have hmem := Dict.get?_eq_some.mp h
  have hedge : Edge r a b := List.mem_map_of_mem hmem
  obtain ⟨e, he, heq⟩ := List.mem_map.mp (Dict.mem_of_mem_ofList hmem)
  simp only [Prod.mk.injEq] at heq
  exact ⟨e, (List.mem_filter.mp he).1, heq.1.1, heq.1.2, heq.2, hedge⟩

/-- The source of a candidate for a `DEPENDS_ON` edge is a use case or a component. -/
theorem source_of_dependsOn {e : EdgeCandidate} (he : e ∈ edgeCandidates r)
    (htype : e.type = .dependsOn) :
    (∃ uc ∈ r.usecases, e ∈ usecaseEdges uc) ∨ ∃ comp ∈ r.components, e ∈ componentEdges comp := by
  simp only [edgeCandidates, List.mem_append, List.mem_flatMap] at he
  rcases he with (((husecase | hcomponent) | ⟨proto, -, he⟩) | ⟨event, -, he⟩) | ⟨inv, -, he⟩
  · exact Or.inl husecase
  · exact Or.inr hcomponent
  · obtain ⟨binding, -, rfl⟩ := List.mem_map.mp he
    cases htype
  · rw [eventEdges] at he
    split at he
    · rw [List.mem_singleton] at he
      subst he
      cases htype
    · cases he
  · obtain ⟨binding, -, he⟩ := List.mem_flatMap.mp he
    obtain ⟨ref, -, rfl⟩ := List.mem_map.mp he
    cases htype

theorem mentions_of_dependsEdge (h : DependsEdge r a b) :
    ∃ s ∈ r.allSpecs, ∃ t ∈ r.allSpecs, s.nodeId = a ∧ t.nodeId = b ∧ Mentions r s t := by
  obtain ⟨e, he, rfl, rfl, htype, hedge⟩ := dependsEdge_candidate h
  obtain ⟨-, hb, -⟩ := edge_iff.mp hedge
  obtain ⟨t, ht, htarget⟩ := mem_graphNodes.mp hb
  rcases source_of_dependsOn he htype with ⟨uc, huc, he⟩ | ⟨comp, hcomp, he⟩
  · exact ⟨_, SpecRegistry.mem_usecases.mp huc, t, ht, (source_of_usecaseEdges he).symm, htarget,
      mentions_of_usecaseEdges he ht htarget.symm⟩
  · exact ⟨_, SpecRegistry.mem_components.mp hcomp, t, ht, (source_of_componentEdges he).symm, htarget,
      mentions_of_componentEdges he ht htarget.symm⟩

section Validated

variable [ReprStrings] [SetOrder]

/-- A validated spec mentions specs of a lower kind only. -/
theorem Validated.level_lt {s t : AnySpec} (h : Validated r) (hs : s ∈ r.allSpecs)
    (hmentions : Mentions r s t) : t.kind.level < s.kind.level := by
  have hsource : 0 < s.kind.level := by
    cases hmentions <;> simp [AnySpec.kind, Kind.level]
  rcases h.mentions hs hmentions with hkind | hkind | ⟨hkind, uc, rfl⟩ | ⟨hkind, uc, rfl, -⟩
  all_goals rw [hkind]
  · exact hsource
  · exact hsource
  · simp [AnySpec.kind, Kind.level]
  · simp [AnySpec.kind, Kind.level]

/-- The `DEPENDS_ON` edges of a validated registry have no cycle: the kinds fall along every path. -/
theorem Validated.depends_acyclic (h : Validated r) (node : String) :
    ¬TransGen (DependsEdge r) node node := by
  have hfalls : ∀ {a b : String}, TransGen (DependsEdge r) a b →
      ∃ s ∈ r.allSpecs, ∃ t ∈ r.allSpecs, s.nodeId = a ∧ t.nodeId = b ∧
        t.kind.level < s.kind.level := by
    intro a b hpath
    induction hpath with
    | single hedge =>
      obtain ⟨s, hs, t, ht, hsa, htb, hmentions⟩ := mentions_of_dependsEdge hedge
      exact ⟨s, hs, t, ht, hsa, htb, h.level_lt hs hmentions⟩
    | tail _ hedge ih =>
      obtain ⟨s, hs, t, ht, hsa, htb, hlt⟩ := ih
      obtain ⟨t', ht', u, hu, htb', huc, hmentions⟩ := mentions_of_dependsEdge hedge
      obtain rfl := nodeId_inj ht' ht (htb'.trans htb.symm)
      exact ⟨s, hs, u, hu, hsa, huc, (h.level_lt ht hmentions).trans hlt⟩
  intro hcycle
  obtain ⟨s, hs, t, ht, hsa, hta, hlt⟩ := hfalls hcycle
  obtain rfl := nodeId_inj hs ht (hsa.trans hta.symm)
  exact Nat.lt_irrefl _ hlt

/-- A registry can be ordered: no step of a flow depends on itself, directly or through others, the
graph has no cycle of `DEPENDS_ON` edges, and every flow has an order that respects its dependencies. -/
structure CanBeOrdered (r : SpecRegistry) : Prop where
  steps : ∀ flow, Flow r flow → ∀ step, ¬TransGen (DependsOn flow) step step
  graph : ∀ node, ¬TransGen (DependsEdge r) node node
  orders : ∀ flow, Flow r flow → ∃ order, order.Perm flow ∧ RespectsDependencies order

end Validated

namespace OrderingSample

def send : ActionSpec := { metadata := { name := "send" } }

/-- A use case with two steps that depend on each other. -/
def handshake : UseCaseSpec where
  metadata := { name := "handshake" }
  steps := [{ id := "ask", use := "actions/send", dependsOn := ["answer"] },
    { id := "answer", use := "actions/send", dependsOn := ["ask"] }]
  postconditions := ["both sides agree"]

def line : SpecRegistry :=
  match SpecRegistry.registerAll [.action send, .usecase handshake] with
  | .ok r => r
  | .error _ => .empty

open Ucf.Spec.Sample

theorem usecases_line : line.usecases = [handshake] := rfl

theorem validated_line : Validated line := by
  have husecase : ∀ issue ∈ validateUsecase line handshake, issue.severity ≠ .error := by
    rw [validateUsecase, show validateExtends line handshake = [] from rfl]
    decide +kernel
  simp only [Validated, validateAll, List.forall_mem_append]
  refine ⟨⟨⟨⟨⟨⟨⟨?_, ?_⟩, ?_⟩, ?_⟩, ?_⟩, ?_⟩, ?_⟩, ?_⟩
  · decide +kernel
  · decide +kernel
  · rw [usecases_line]
    simpa using husecase
  · decide +kernel
  · decide +kernel
  · decide +kernel
  · decide +kernel
  · decide +kernel

end OrderingSample

end Ucf.Spec
