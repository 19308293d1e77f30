import Ucf.Library.Lookup
import Ucf.Spec.Graph

/-! The write conflicts of a registry: the pairs of specs that write one resource and are not a use
case and what it uses. -/

namespace Ucf.Spec

/-- The steps of a use case, those of its alternative flows included. -/
def UseCaseSpec.allSteps (uc : UseCaseSpec) : List StepDef :=
  uc.steps ++ uc.alternativeFlows.flatMap AlternativeFlow.steps

/-- What a step of a use case adds to its writes. -/
def stepWrites (r : SpecRegistry) (step : StepDef) : List String :=
  match r.resolveRef step.use with
  | some (.action action) => action.writes
  | _ => []

/-- `_extract_writes` -/
def extractWrites (r : SpecRegistry) : AnySpec → List String
  | .action spec => spec.writes
  | .protocol spec => spec.writes
  | .usecase uc => uc.allSteps.flatMap (stepWrites r)
  | _ => []

/-- `resource_writers` -/
def resourceWriters (r : SpecRegistry) : Dict String (List String) :=
  .collect (r.allSpecs.flatMap fun spec =>
    (extractWrites r spec).map fun resource => (resource, spec.nodeId))

/-- `parent_children`. The order of a set is not determined; nothing here depends on it. -/
def parentChildren (r : SpecRegistry) : Dict String (List String) :=
  .ofList (r.usecases.map fun uc =>
    (nodeOf .usecase uc.name, uc.allSteps.map fun step => normalizeRef step.use))

/-- `_is_related` -/
def isRelated (r : SpecRegistry) (a b : String) : Bool :=
  a = b ∨ b ∈ ((parentChildren r).get? a).getD [] ∨ a ∈ ((parentChildren r).get? b).getD []

/-- The pairs of an element and a later one: `for i, w1 in enumerate(unique)` and then
`for w2 in unique[i + 1 :]`. -/
def pairsOf : List String → List (String × String)
  | [] => []
  | w₁ :: rest => rest.map (fun w₂ => (w₁, w₂)) ++ pairsOf rest

/-- The conflicts about one resource. -/
def conflictsOver (r : SpecRegistry) (resource : String) (writers : List String) :
    List (String × String × String) :=
  let unique := sortedSet writers
  if unique.length < 2 then []
  else
    ((pairsOf unique).filter fun pair => !isRelated r pair.1 pair.2).map fun pair =>
      (pair.1, pair.2, resource)

/-- `DependencyGraph.find_write_conflicts` -/
def findWriteConflicts (r : SpecRegistry) : List (String × String × String) :=
  (resourceWriters r).items.flatMap fun item => conflictsOver r item.1 item.2

/-! ### What is returned -/

variable {r : SpecRegistry} {s t : AnySpec} {a b resource : String}

theorem mem_pairsOf {writers : List String} (h : writers.Pairwise (· < ·)) :
    (a, b) ∈ pairsOf writers ↔ a ∈ writers ∧ b ∈ writers ∧ a < b := by
  induction writers with
  | nil => simp [pairsOf]
  | cons w writers ih =>
    obtain ⟨hfirst, hrest⟩ := List.pairwise_cons.mp h
    rw [pairsOf, List.mem_append, ih hrest]
    constructor
    · rintro (hmem | ⟨ha, hb, hlt⟩)
      · obtain ⟨w', hw', heq⟩ := List.mem_map.mp hmem
        obtain ⟨rfl, rfl⟩ := Prod.mk.inj heq
        exact ⟨List.mem_cons_self, List.mem_cons_of_mem _ hw', hfirst _ hw'⟩
      · exact ⟨List.mem_cons_of_mem _ ha, List.mem_cons_of_mem _ hb, hlt⟩
    · rintro ⟨ha, hb, hlt⟩
      rcases List.mem_cons.mp hb with rfl | hb'
      · rcases List.mem_cons.mp ha with rfl | ha'
        · exact absurd hlt (lt_irrefl _)
        · exact absurd (hfirst a ha') (lt_asymm hlt)
      · rcases List.mem_cons.mp ha with rfl | ha'
        · exact Or.inl (List.mem_map_of_mem hb')
        · exact Or.inr ⟨ha', hb', hlt⟩

theorem pairsOf_of_length_lt {writers : List String} (h : writers.length < 2) :
    pairsOf writers = [] := by
  match writers, h with
  | [], _ => rfl
  | [w], _ => rfl

theorem nodup_pairsOf {writers : List String} (h : writers.Nodup) : (pairsOf writers).Nodup := by
  induction writers with
  | nil => exact List.nodup_nil
  | cons w writers ih =>
    obtain ⟨hnot, hrest⟩ := List.nodup_cons.mp h
    rw [pairsOf, List.nodup_append]
    refine ⟨hrest.map fun _ _ heq => (Prod.mk.inj heq).2, ih hrest, ?_⟩
    rintro pair hpair other hother rfl
    obtain ⟨w', hw', rfl⟩ := List.mem_map.mp hpair
    have hmem : ∀ {writers : List String} {pair : String × String}, pair ∈ pairsOf writers →
        pair.1 ∈ writers := by
      intro writers
      induction writers with
      | nil => simp [pairsOf]
      | cons w writers ih =>
        intro pair hpair
        rw [pairsOf, List.mem_append] at hpair
        rcases hpair with hhead | htail
        · obtain ⟨_, -, rfl⟩ := List.mem_map.mp hhead
          exact List.mem_cons_self
        · exact List.mem_cons_of_mem _ (ih htail)
    exact hnot (hmem hother)

theorem mem_conflictsOver {writers : List String} {other : String} :
    (a, b, other) ∈ conflictsOver r resource writers ↔
      other = resource ∧ a ∈ writers ∧ b ∈ writers ∧ a < b ∧ isRelated r a b = false := by
  have hpairs := @mem_pairsOf a b _ (sortedSet_pairwise writers)
  simp only [mem_sortedSet] at hpairs
  rw [conflictsOver]
  constructor
  · intro h
    split at h
    · cases h
    · obtain ⟨pair, hpair, heq⟩ := List.mem_map.mp h
      obtain ⟨hmem, hrelated⟩ := List.mem_filter.mp hpair
      simp only [Prod.mk.injEq] at heq
      obtain ⟨rfl, rfl, rfl⟩ := heq
      obtain ⟨ha, hb, hlt⟩ := hpairs.mp hmem
      exact ⟨rfl, ha, hb, hlt, by simpa using hrelated⟩
  · rintro ⟨rfl, ha, hb, hlt, hrelated⟩
    have hpair : (a, b) ∈ pairsOf (sortedSet writers) := hpairs.mpr ⟨ha, hb, hlt⟩
    have hlength : ¬(sortedSet writers).length < 2 := by
      intro hshort
      rw [pairsOf_of_length_lt hshort] at hpair
      cases hpair
    rw [if_neg hlength]
    refine List.mem_map.mpr ⟨(a, b), List.mem_filter.mpr ⟨hpair, ?_⟩, rfl⟩
    simp [hrelated]

theorem nodup_conflictsOver {writers : List String} :
    (conflictsOver r resource writers).Nodup := by
  rw [conflictsOver]
  split
  · exact List.nodup_nil
  · have hunique : (sortedSet writers).Nodup := (sortedSet_pairwise writers).imp ne_of_lt
    refine ((nodup_pairsOf hunique).filter _).map ?_
    intro pair other heq
    simp only [Prod.mk.injEq] at heq
    exact Prod.ext heq.1 heq.2.1

theorem nodup_findWriteConflicts : (findWriteConflicts r).Nodup := by
  rw [findWriteConflicts, List.nodup_flatMap]
  refine ⟨fun item _ => nodup_conflictsOver, ?_⟩
  have hkeys : (resourceWriters r).items.Pairwise fun item other => item.1 ≠ other.1 :=
    List.pairwise_map.mp (resourceWriters r).nodup
  refine hkeys.imp ?_
  rintro item other hne ⟨a, b, resource⟩ hmem hmem'
  exact hne ((mem_conflictsOver.mp hmem).1.symm.trans (mem_conflictsOver.mp hmem').1)

/-- The writers of a resource that the graph collects. -/
theorem mem_writers :
    a ∈ ((resourceWriters r).get? resource).getD [] ↔
      ∃ spec ∈ r.allSpecs, resource ∈ extractWrites r spec ∧ spec.nodeId = a := by
  rw [resourceWriters, Dict.getD_collect]
  simp only [List.mem_map, List.mem_filter, List.mem_flatMap, decide_eq_true_iff, Prod.exists]
  constructor
  · rintro ⟨_, _, ⟨⟨spec, hspec, _, hwrites, heq⟩, rfl⟩, rfl⟩
    obtain ⟨rfl, rfl⟩ := Prod.mk.inj heq
    exact ⟨spec, hspec, hwrites, rfl⟩
  · rintro ⟨spec, hspec, hwrites, rfl⟩
    exact ⟨resource, _, ⟨⟨spec, hspec, resource, hwrites, rfl⟩, rfl⟩, rfl⟩

theorem mem_findWriteConflicts : (a, b, resource) ∈ findWriteConflicts r ↔
    a ∈ ((resourceWriters r).get? resource).getD [] ∧
      b ∈ ((resourceWriters r).get? resource).getD [] ∧ a < b ∧ isRelated r a b = false := by
  simp only [findWriteConflicts, List.mem_flatMap, mem_conflictsOver]
  constructor
  · rintro ⟨⟨key, writers⟩, hitem, rfl, ha, hb, hlt, hrelated⟩
    rw [Dict.get?_eq_some.mpr hitem]
    exact ⟨ha, hb, hlt, hrelated⟩
  · rintro ⟨ha, hb, hlt, hrelated⟩
    cases hget : (resourceWriters r).get? resource with
    | none =>
      rw [hget] at ha
      cases ha
    | some writers =>
      rw [hget] at ha hb
      exact ⟨(resource, writers), Dict.get?_eq_some.mp hget, rfl, ha, hb, hlt, hrelated⟩

/-! ### Co-writers -/

/-- A step of the use case uses an action that writes the resource. -/
def WritesByAction (r : SpecRegistry) (uc : UseCaseSpec) (resource : String) : Prop :=
  ∃ step ∈ uc.allSteps, ∃ action, r.resolveRef step.use = some (.action action) ∧
    resource ∈ action.writes

/-- A step of the use case uses a protocol that writes the resource. -/
def WritesByProtocol (r : SpecRegistry) (uc : UseCaseSpec) (resource : String) : Prop :=
  ∃ step ∈ uc.allSteps, ∃ proto, r.resolveRef step.use = some (.protocol proto) ∧
    resource ∈ proto.writes

/-- A spec writes a resource: an action or a protocol by its own writes, a use case by the writes of
what its steps use. -/
inductive Writes (r : SpecRegistry) : AnySpec → String → Prop
  | action {action : ActionSpec} {resource : String} (h : resource ∈ action.writes) :
      Writes r (.action action) resource
  | protocol {proto : ProtocolSpec} {resource : String} (h : resource ∈ proto.writes) :
      Writes r (.protocol proto) resource
  | byAction {uc : UseCaseSpec} {resource : String} (h : WritesByAction r uc resource) :
      Writes r (.usecase uc) resource
  | byProtocol {uc : UseCaseSpec} {resource : String} (h : WritesByProtocol r uc resource) :
      Writes r (.usecase uc) resource

/-- A use case uses a spec in a step. -/
def Uses (r : SpecRegistry) (s t : AnySpec) : Prop :=
  ∃ uc, s = .usecase uc ∧ ∃ step ∈ uc.allSteps, r.resolveRef step.use = some t

/-- Two specs write a resource, and neither is a use case that uses the other. -/
structure CoWriters (r : SpecRegistry) (s t : AnySpec) (resource : String) : Prop where
  left : s ∈ r.allSpecs
  right : t ∈ r.allSpecs
  different : s ≠ t
  writesLeft : Writes r s resource
  writesRight : Writes r t resource
  notUses : ¬Uses r s t
  notUsed : ¬Uses r t s

/-- The conflicts are the co-writers, each once, the smaller node first. -/
structure ExactConflicts (r : SpecRegistry) : Prop where
  once : (findWriteConflicts r).Nodup
  exact : ∀ a b resource, (a, b, resource) ∈ findWriteConflicts r ↔
    a < b ∧ ∃ s t, s.nodeId = a ∧ t.nodeId = b ∧ CoWriters r s t resource

/-- A use case that writes a resource by protocols alone uses every other writer of it, or is used
by it. -/
def ProtocolWritersRelated (r : SpecRegistry) : Prop :=
  ∀ uc ∈ r.usecases, ∀ resource, WritesByProtocol r uc resource → ¬WritesByAction r uc resource →
    ∀ t ∈ r.allSpecs, t ≠ .usecase uc → Writes r t resource →
      Uses r (.usecase uc) t ∨ Uses r t (.usecase uc)

theorem CoWriters.symm (h : CoWriters r s t resource) : CoWriters r t s resource :=
  ⟨h.right, h.left, h.different.symm, h.writesRight, h.writesLeft, h.notUsed, h.notUses⟩

theorem mem_stepWrites {step : StepDef} : resource ∈ stepWrites r step ↔
    ∃ action, r.resolveRef step.use = some (.action action) ∧ resource ∈ action.writes := by
  rw [stepWrites]
  constructor
  · intro h
    split at h
    · rename_i action hres
      exact ⟨action, hres, h⟩
    · cases h
  · rintro ⟨action, hres, h⟩
    rw [hres]
    exact h

/-- The writes of a use case are found by its actions only. -/
theorem mem_extractWrites : resource ∈ extractWrites r s ↔
    Writes r s resource ∧ ∀ uc, s = .usecase uc → WritesByAction r uc resource := by
  constructor
  · intro h
    cases s with
    | action spec => exact ⟨.action h, fun _ heq => by cases heq⟩
    | protocol spec => exact ⟨.protocol h, fun _ heq => by cases heq⟩
    | usecase uc =>
      obtain ⟨step, hstep, hwrites⟩ := List.mem_flatMap.mp h
      have hby : WritesByAction r uc resource := ⟨step, hstep, mem_stepWrites.mp hwrites⟩
      refine ⟨.byAction hby, fun uc' heq => ?_⟩
      cases heq
      exact hby
    | event spec => cases h
    | component spec => cases h
    | invariant spec => cases h
  · rintro ⟨hwrites, hby⟩
    have hfound : ∀ uc, WritesByAction r uc resource → resource ∈ extractWrites r (.usecase uc) := by
      rintro uc ⟨step, hstep, haction⟩
      exact List.mem_flatMap.mpr ⟨step, hstep, mem_stepWrites.mpr haction⟩
    cases hwrites with
    | action h => exact h
    | protocol h => exact h
    | byAction h => exact hfound _ h
    | byProtocol => exact hfound _ (hby _ rfl)

theorem mem_parentChildren (hs : s ∈ r.allSpecs) (ht : t ∈ r.allSpecs) :
    t.nodeId ∈ ((parentChildren r).get? s.nodeId).getD [] ↔ Uses r s t := by
  have hchildren : ∀ uc ∈ r.usecases, (parentChildren r).get? (nodeOf .usecase uc.name) =
      some (uc.allSteps.map fun step => normalizeRef step.use) := by
    intro uc huc
    refine Dict.get?_ofList_of_unique (List.mem_map.mpr ⟨uc, huc, rfl⟩) fun other hother => ?_
    obtain ⟨uc', huc', heq⟩ := List.mem_map.mp hother
    obtain ⟨hnode, rfl⟩ := Prod.mk.inj heq
    rw [SpecRegistry.usecase_eq_of_name huc' huc (nodeOf_inj hnode).2]
  constructor
  · intro h
    cases hget : (parentChildren r).get? s.nodeId with
    | none =>
      rw [hget] at h
      cases h
    | some children =>
      obtain ⟨uc, huc, heq⟩ := List.mem_map.mp (Dict.mem_of_mem_ofList (Dict.get?_eq_some.mp hget))
      obtain ⟨hnode, rfl⟩ := Prod.mk.inj heq
      have hs' : s = .usecase uc :=
        nodeId_inj hs (SpecRegistry.mem_usecases.mp huc) hnode.symm
      rw [hget, Option.getD_some] at h
      obtain ⟨step, hstep, href⟩ := List.mem_map.mp h
      exact ⟨uc, hs', step, hstep, (normalizeRef_eq_nodeId ht).mp href⟩
  · rintro ⟨uc, rfl, step, hstep, hres⟩
    have huc : (AnySpec.usecase uc).nodeId = nodeOf .usecase uc.name := rfl
    rw [huc, hchildren uc (SpecRegistry.mem_usecases.mpr hs), Option.getD_some]
    exact List.mem_map.mpr ⟨step, hstep, (normalizeRef_eq_nodeId ht).mpr hres⟩

theorem isRelated_iff (hs : s ∈ r.allSpecs) (ht : t ∈ r.allSpecs) :
    isRelated r s.nodeId t.nodeId = false ↔ s ≠ t ∧ ¬Uses r s t ∧ ¬Uses r t s := by
  have hsame : s.nodeId = t.nodeId ↔ s = t := ⟨nodeId_inj hs ht, congrArg _⟩
  rw [isRelated, decide_eq_false_iff_not, mem_parentChildren hs ht, mem_parentChildren ht hs, hsame]
  simp only [not_or, ne_eq]

/-- A returned conflict is between two writers that the graph finds. -/
theorem mem_findWriteConflicts_iff : (a, b, resource) ∈ findWriteConflicts r ↔
    a < b ∧ ∃ s t, s.nodeId = a ∧ t.nodeId = b ∧ CoWriters r s t resource ∧
      resource ∈ extractWrites r s ∧ resource ∈ extractWrites r t := by
  rw [mem_findWriteConflicts, mem_writers, mem_writers]
  constructor
  · rintro ⟨⟨s, hs, hws, rfl⟩, ⟨t, ht, hwt, rfl⟩, hlt, hrelated⟩
    obtain ⟨hne, hst, hts⟩ := (isRelated_iff hs ht).mp hrelated
    exact ⟨hlt, s, t, rfl, rfl, ⟨hs, ht, hne, (mem_extractWrites.mp hws).1,
      (mem_extractWrites.mp hwt).1, hst, hts⟩, hws, hwt⟩
  · rintro ⟨hlt, s, t, rfl, rfl, h, hws, hwt⟩
    exact ⟨⟨s, h.left, hws, rfl⟩, ⟨t, h.right, hwt, rfl⟩, hlt,
      (isRelated_iff h.left h.right).mpr ⟨h.different, h.notUses, h.notUsed⟩⟩

theorem ExactConflicts.finds (h : ExactConflicts r) (hco : CoWriters r s t resource) :
    resource ∈ extractWrites r s := by
  have hne : s.nodeId ≠ t.nodeId := fun heq => hco.different (nodeId_inj hco.left hco.right heq)
  rcases lt_or_gt_of_ne hne with hlt | hgt
  · obtain ⟨-, s', t', hs', -, hco', hws, -⟩ :=
      mem_findWriteConflicts_iff.mp ((h.exact _ _ _).mpr ⟨hlt, s, t, rfl, rfl, hco⟩)
    rw [← nodeId_inj hco'.left hco.left hs']
    exact hws
  · obtain ⟨-, t', s', -, hs', hco', -, hws⟩ :=
      mem_findWriteConflicts_iff.mp ((h.exact _ _ _).mpr ⟨hgt, t, s, rfl, rfl, hco.symm⟩)
    rw [← nodeId_inj hco'.right hco.left hs']
    exact hws

theorem ProtocolWritersRelated.finds (h : ProtocolWritersRelated r) (hco : CoWriters r s t resource) :
    resource ∈ extractWrites r s := by
  refine mem_extractWrites.mpr ⟨hco.writesLeft, ?_⟩
  rintro uc rfl
  have huc : uc ∈ r.usecases := SpecRegistry.mem_usecases.mpr hco.left
  cases hco.writesLeft with
  | byAction haction => exact haction
  | byProtocol hproto =>
    by_contra hnot
    rcases h uc huc resource hproto hnot t hco.right hco.different.symm hco.writesRight with
      huses | hused
    · exact hco.notUses huses
    · exact hco.notUsed hused

/-- The conflicts are exactly the unrelated co-writers when every use case that writes a resource by
protocols alone is related to the other writers of it, and only then. -/
theorem exactConflicts_iff (r : SpecRegistry) : ExactConflicts r ↔ ProtocolWritersRelated r := by
  constructor
  · intro h uc huc resource hproto hnot t ht hne hwrites
    by_contra hunrelated
    rw [not_or] at hunrelated
    have hco : CoWriters r (.usecase uc) t resource :=
      ⟨SpecRegistry.mem_usecases.mp huc, ht, hne.symm, .byProtocol hproto, hwrites,
        hunrelated.1, hunrelated.2⟩
    exact hnot ((mem_extractWrites.mp (h.finds hco)).2 uc rfl)
  · intro h
    refine ⟨nodup_findWriteConflicts, fun a b resource => ?_⟩
    rw [mem_findWriteConflicts_iff]
    constructor
    · rintro ⟨hlt, s, t, hs, ht, hco, -, -⟩
      exact ⟨hlt, s, t, hs, ht, hco⟩
    · rintro ⟨hlt, s, t, hs, ht, hco⟩
      exact ⟨hlt, s, t, hs, ht, hco, h.finds hco, h.finds hco.symm⟩

namespace ConflictSample

def chargeCard : ProtocolSpec := { metadata := { name := "charge-card" }, writes := ["payments"] }

/-- A use case that charges a card. -/
def charging (name : String) : UseCaseSpec where
  metadata := { name }
  steps := [{ id := "charge", use := "protocols/charge-card" }]
  postconditions := ["the card is charged"]

/-- Two use cases that charge a card. -/
def payments : SpecRegistry :=
  match SpecRegistry.registerAll
    [.protocol chargeCard, .usecase (charging "buy"), .usecase (charging "renew")] with
  | .ok r => r
  | .error _ => .empty

theorem usecases_payments : payments.usecases = [charging "buy", charging "renew"] := rfl

theorem findWriteConflicts_payments : findWriteConflicts payments = [] := by
  decide +kernel

theorem coWriters_payments :
    CoWriters payments (.usecase (charging "buy")) (.usecase (charging "renew")) "payments" := by
  have hwrites : ∀ name, Writes payments (.usecase (charging name)) "payments" := fun name =>
    .byProtocol ⟨_, List.mem_append_left _ List.mem_cons_self, chargeCard, rfl, List.mem_cons_self⟩
  have huses : ∀ name t, Uses payments (.usecase (charging name)) t → t = .protocol chargeCard := by
    rintro name t ⟨uc, heq, step, hstep, hres⟩
    cases heq
    obtain rfl : step = { id := "charge", use := "protocols/charge-card" } := by
      simpa [charging, UseCaseSpec.allSteps] using hstep
    have hproto : payments.resolveRef "protocols/charge-card" = some (.protocol chargeCard) := rfl
    rw [hproto, Option.some.injEq] at hres
    exact hres.symm
  refine ⟨?_, ?_, ?_, hwrites _, hwrites _, fun h => ?_, fun h => ?_⟩
  · exact SpecRegistry.mem_usecases.mp (by simp [usecases_payments])
  · exact SpecRegistry.mem_usecases.mp (by simp [usecases_payments])
  · intro heq
    exact absurd (congrArg AnySpec.name heq) (by decide)
  · cases huses _ _ h
  · cases huses _ _ h

/-- Two use cases that write a resource by the same protocol are no conflict of the graph. -/
theorem protocol_conflict_lost : findWriteConflicts payments = [] ∧
    CoWriters payments (.usecase (charging "buy")) (.usecase (charging "renew")) "payments" ∧
    ¬ExactConflicts payments := by
  refine ⟨findWriteConflicts_payments, coWriters_payments, fun h => ?_⟩
  have hmem := (h.exact "usecase/buy" "usecase/renew" "payments").mpr
    ⟨by decide, _, _, by decide, by decide, coWriters_payments⟩
  rw [findWriteConflicts_payments] at hmem
  cases hmem

end ConflictSample

end Ucf.Spec
