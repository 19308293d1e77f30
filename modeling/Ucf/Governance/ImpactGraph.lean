import Ucf.Governance.Findings
import Ucf.Library.LeastPaths

/-! The impact graph of a report: the references between the coordinates of two behavior documents,
and for each direct finding the paths on which its change reaches other coordinates. -/

namespace Ucf

/-! ### Coordinates and edges -/

inductive GraphSide where
  | base
  | final
deriving DecidableEq, Repr

def GraphSide.value : GraphSide → String
  | base => "base"
  | final => "final"

def GraphSide.opposite : GraphSide → GraphSide
  | base => final
  | final => base

inductive ImpactRelation where
  | rootReference
  | entityReference
  | portSelection
  | stepPortDefinition
  | requiredCapability
deriving DecidableEq, Repr

def ImpactRelation.value : ImpactRelation → String
  | rootReference => "root_reference"
  | entityReference => "entity_reference"
  | portSelection => "port_selection"
  | stepPortDefinition => "step_port_definition"
  | requiredCapability => "required_capability"

def ImpactPrecision.value : ImpactPrecision → String
  | definite => "definite"
  | mayAffect => "may_affect"
  | unresolved => "unresolved"

def ImpactOperation.value : ImpactOperation → String
  | added => "added"
  | modified => "modified"
  | removed => "removed"
  | unchanged => "unchanged"

/-- `PortCoordinate.validate_resolution` -/
def validateResolution (ownerKind : EntityKind) (resolvedActionId : Option Identifier) :
    Except String Unit := do
  require (¬(ownerKind = .step ∧ resolvedActionId = none))
    "step port coordinate requires its resolved action"
  require (¬(ownerKind ≠ .step ∧ resolvedActionId ≠ none))
    "only a step port coordinate may name a resolved action"

@[ext] structure PortCoordinate where
  ownerKind : EntityKind
  ownerId : Identifier
  direction : Direction
  name : Identifier
  resolvedActionId : Option Identifier
  owner : ownerKind ∈ [EntityKind.action, .useCase, .step]
  valid : validateResolution ownerKind resolvedActionId = .ok ()
deriving DecidableEq

inductive ImpactCoordinate where
  | entity (targetKind : EntityKind) (targetId : Identifier)
  | port (coordinate : PortCoordinate)
  | document (documentId : Identifier)
deriving DecidableEq

/-- `_coordinate_key` -/
def ImpactCoordinate.key : ImpactCoordinate → List String
  | entity targetKind targetId => ["entity_coordinate", targetKind.value, targetId.val]
  | port c => ["port_coordinate", c.ownerKind.value, c.ownerId.val, c.direction.value, c.name.val,
      (c.resolvedActionId.map Subtype.val).getD ""]
  | document documentId => ["document_coordinate", documentId.val]

structure ImpactEdge where
  side : GraphSide
  source : ImpactCoordinate
  target : ImpactCoordinate
  fieldPath : String
  relation : ImpactRelation
  precision : ImpactPrecision
deriving DecidableEq

/-- `_edge_key` -/
def ImpactEdge.key (edge : ImpactEdge) :
    String ×ₗ List String ×ₗ List String ×ₗ String ×ₗ String ×ₗ String :=
  toLex (edge.side.value, toLex (edge.source.key, toLex (edge.target.key,
    toLex (edge.fieldPath, toLex (edge.relation.value, edge.precision.value)))))

structure ImpactWitness where
  directSubject : ImpactSubject
  side : GraphSide
  affected : ImpactCoordinate
  precision : ImpactPrecision
  edgeIndexes : List Nat
  nonempty : edgeIndexes ≠ []
deriving DecidableEq

/-- `_witness_key`, without the indexes of the edges -/
def ImpactWitness.identity (witness : ImpactWitness) :
    String ×ₗ String ×ₗ String ×ₗ String ×ₗ List String :=
  toLex (witness.side.value, toLex (witness.directSubject.operation.value,
    toLex (witness.directSubject.targetKind.value, toLex (witness.directSubject.targetId.val,
      witness.affected.key))))

/-- `_witness_key` -/
def ImpactWitness.key (witness : ImpactWitness) :
    (String ×ₗ String ×ₗ String ×ₗ String ×ₗ List String) ×ₗ List Nat :=
  toLex (witness.identity, witness.edgeIndexes)

/-- What deriving the graph raises. -/
inductive ImpactGraphError where
  | keyError
  | stopIteration
  | validation (message : String)
  | assertion (message : String)
  | lengths
deriving DecidableEq, Repr

/-! ### Edges -/

/-- `_entity_coordinate` -/
def entityCoordinate (ref : EntityRef) : ImpactCoordinate := .entity ref.targetKind ref.targetId

/-- `PortCoordinate(...)` -/
def PortCoordinate.make (ownerKind : EntityKind) (ownerId : Identifier) (direction : Direction)
    (name : Identifier) (resolvedActionId : Option Identifier) :
    Except ImpactGraphError PortCoordinate :=
  if howner : ownerKind ∈ [EntityKind.action, .useCase, .step] then
    match h : validateResolution ownerKind resolvedActionId with
    | .ok () => .ok ⟨ownerKind, ownerId, direction, name, resolvedActionId, howner, h⟩
    | .error message => .error (.validation message)
  else .error (.validation "literal_error")

/-- `_port_coordinate` -/
def portCoordinate (entities : Dict Identifier Entity) (ref : PortRef) :
    Except ImpactGraphError PortCoordinate := do
  let owner ← orRaise (entities.get? ref.owner.targetId) .keyError
  let resolvedActionId := match owner with
    | .step step => some step.action.targetId
    | _ => none
  PortCoordinate.make ref.owner.targetKind ref.owner.targetId ref.direction ref.name
    resolvedActionId

section Edges

variable (side : GraphSide)

/-- `_append_single_ref_edge` -/
def singleRefEdge (source : ImpactCoordinate) (fieldPath : String) (ref : EntityRef) :
    ImpactEdge :=
  ⟨side, source, entityCoordinate ref, fieldPath, .entityReference, .mayAffect⟩

/-- `_append_ref_edges`, for the references in their order -/
def orderedRefEdges (source : ImpactCoordinate) (field : String) (refs : List EntityRef) :
    List ImpactEdge :=
  refs.zipIdx.map fun (ref, position) =>
    singleRefEdge side source ("/" ++ field ++ "/" ++ toString position) ref

/-- `_append_ref_edges` -/
def refEdges (source : ImpactCoordinate) (field : String) (refs : List EntityRef) :
    List ImpactEdge :=
  orderedRefEdges side source field (sortRefs refs)

/-- `_append_port_edge`: the edge to the port, and the one from a port of a step to the port of its
action. -/
def portEdge (entities : Dict Identifier Entity) (source : ImpactCoordinate) (fieldPath : String)
    (ref : PortRef) : Except ImpactGraphError (List ImpactEdge × List ImpactEdge) := do
  let coordinate ← portCoordinate entities ref
  let edge : ImpactEdge :=
    ⟨side, source, .port coordinate, fieldPath, .portSelection, .mayAffect⟩
  if coordinate.ownerKind ≠ .step then return ([edge], [])
  let actionId ← orRaise coordinate.resolvedActionId
    (.assertion "validated step port lacks a resolved action")
  let definition ← PortCoordinate.make .action actionId coordinate.direction coordinate.name none
  return ([edge], [⟨side, .port coordinate, .port definition, "/action", .stepPortDefinition,
    .mayAffect⟩])

/-- The edges of the fields of an entity, and the definitions of the ports of steps. -/
def fieldEdges (entities : Dict Identifier Entity) (entity : Entity) :
    Except ImpactGraphError (List ImpactEdge × List ImpactEdge) :=
  let source := entityCoordinate entity.ref
  match entity with
  | .action e => .ok (refEdges side source "effects" e.effects ++
      refEdges side source "requires" e.requires, [])
  | .useCase e => .ok (orderedRefEdges side source "steps" e.steps ++
      refEdges side source "invariants" e.invariants ++
      refEdges side source "requires" e.requires, [])
  | .step e => .ok (singleRefEdge side source "/action" e.action ::
      (refEdges side source "bindings" e.bindings ++ refEdges side source "effects" e.effects ++
        refEdges side source "observations" e.observations ++
        refEdges side source "requires" e.requires), [])
  | .binding e => do
    let (edges, definitions) ← portEdge side entities source "/target" e.target
    match e.source with
    | .port ref => do
      let (edges', definitions') ← portEdge side entities source "/source" ref
      pure (edges ++ edges', definitions ++ definitions')
    | .value _ => pure (edges, definitions)
  | .effect e => .ok (refEdges side source "requires" e.requires.val, [])
  | .observation e => .ok ([singleRefEdge side source "/subject" e.subject], [])
  | .invariant e => .ok (refEdges side source "applies_to" e.appliesTo ++
      refEdges side source "requires" e.requires.val, [])
  | .verificationEvidence e => .ok (refEdges side source "subjects" e.subjects, [])
  | .provenance _ | .capabilityRequirement _ => .ok ([], [])

/-- The edge to the provenance of an entity, and the one from the document to a capability that it
requires. -/
def commonEdges (document : BehaviorIR) (entity : Entity) : List ImpactEdge :=
  (entity.provenanceRef?.toList.map
    (singleRefEdge side (entityCoordinate entity.ref) "/provenance")) ++
  match entity with
  | .capabilityRequirement e =>
    if e.required then [⟨side, .document document.documentId, entityCoordinate entity.ref,
      "/@required_capabilities/" ++ e.id.val, .requiredCapability, .definite⟩]
    else []
  | _ => []

/-- The body of the loop of `_extract_edges` over the entities -/
def entityEdges (document : BehaviorIR) (entities : Dict Identifier Entity) (entity : Entity) :
    Except ImpactGraphError (List ImpactEdge × List ImpactEdge) := do
  let (edges, definitions) ← fieldEdges side entities entity
  pure (edges ++ commonEdges side document entity, definitions)

/-- `_extract_edges` -/
def extractEdges (document : BehaviorIR) : Except ImpactGraphError (List ImpactEdge) := do
  let roots := (sortRefs document.roots).zipIdx.map fun (ref, position) =>
    (⟨side, .document document.documentId, entityCoordinate ref, "/roots/" ++ toString position,
      .rootReference, .mayAffect⟩ : ImpactEdge)
  let parts ← collect (entityEdges side document (Dict.index Entity.id document.entities))
    (sortedBy Entity.key document.entities)
  let definitions := Dict.index (fun edge : ImpactEdge => (edge.source.key, edge.target.key))
    (parts.flatMap Prod.snd)
  pure (roots ++ parts.flatMap Prod.fst ++ definitions.items.map Prod.snd)

end Edges

/-- The edges of both sides in their canonical order. -/
def impactEdges (baseBehavior finalBehavior : BehaviorIR) :
    Except ImpactGraphError (List ImpactEdge) := do
  let base ← extractEdges .base baseBehavior
  let final ← extractEdges .final finalBehavior
  pure (sortedBy ImpactEdge.key (base ++ final))

/-! ### Seeds -/

/-- `_entry_sides` -/
def entrySides : BehaviorDeltaEntry → List GraphSide
  | .added _ => [.final]
  | .modified _ => [.base, .final]
  | .removed _ => [.base]

/-- `_selected_step_ports` -/
def selectedStepPorts (edges : List ImpactEdge) (side : GraphSide) (stepId : Identifier) :
    List ImpactCoordinate :=
  (edges.flatMap fun edge => if edge.side = side then [edge.source, edge.target] else []).filter
    fun coordinate => match coordinate with
      | .port port => port.ownerKind = .step ∧ port.ownerId = stepId
      | _ => false

/-- The ports that an action or a use case declares. -/
def declaredPorts (ownerKind : EntityKind) (ownerId : Identifier)
    (ports : List (Direction × List Port)) : Except ImpactGraphError (List ImpactCoordinate) :=
  collect (fun (direction, name) =>
      (PortCoordinate.make ownerKind ownerId direction name none).map ImpactCoordinate.port)
    (ports.flatMap fun (direction, ports) => ports.map fun port => (direction, port.name))

/-- `_all_port_seeds` -/
def allPortSeeds (edges : List ImpactEdge) (side : GraphSide) (entity : Entity) :
    Except ImpactGraphError (List ImpactCoordinate) :=
  match entity with
  | .action e => declaredPorts .action e.id [(.input, e.inputPorts), (.output, e.outputPorts)]
  | .useCase e => declaredPorts .useCase e.id [(.input, e.inputPorts), (.output, e.outputPorts)]
  | .step e => .ok (selectedStepPorts edges side e.id)
  | _ => .ok []

/-- The ports that differ from those of the opposite side, or that it does not have. -/
def changedPorts (current opposite : List Port) : List Port :=
  let oppositeByName := Dict.index Port.name opposite
  current.filter fun port => oppositeByName.get? port.name ≠ some port

/-- `_changed_declared_ports` -/
def changedDeclaredPorts (ownerKind : EntityKind) (ownerId : Identifier)
    (currentInputs currentOutputs oppositeInputs oppositeOutputs : List Port) :
    Except ImpactGraphError (List ImpactCoordinate) :=
  declaredPorts ownerKind ownerId [(.input, changedPorts currentInputs oppositeInputs),
    (.output, changedPorts currentOutputs oppositeOutputs)]

/-- `next(entity for entity in document.entities if ...)` -/
def findEntity (document : BehaviorIR) (kind : EntityKind) (id : Identifier) :
    Except ImpactGraphError Entity :=
  orRaise (document.entities.find? fun entity => entity.kind = kind ∧ entity.id = id) .stopIteration

section Seeds

variable (base final : BehaviorIR)

/-- `side_documents[side]` -/
def sideDocument : GraphSide → BehaviorIR
  | .base => base
  | .final => final

/-- `_modified_port_seeds` -/
def modifiedPortSeeds (edges : List ImpactEdge) (side : GraphSide) (entry : ModifiedBehavior) :
    Except ImpactGraphError (List ImpactCoordinate) := do
  let kind := entry.baseSubject.targetKind
  let id := entry.baseSubject.targetId
  let current ← findEntity (sideDocument base final side) kind id
  let previousOrNext ← findEntity (sideDocument base final side.opposite) kind id
  match current, previousOrNext with
  | .action e, .action e' =>
    changedDeclaredPorts .action e.id e.inputPorts e.outputPorts e'.inputPorts e'.outputPorts
  | .useCase e, .useCase e' =>
    changedDeclaredPorts .useCase e.id e.inputPorts e.outputPorts e'.inputPorts e'.outputPorts
  | .action _, _ | .useCase _, _ =>
    .error (.assertion "delta retained identity with a different type")
  | .step e, .step e' =>
    .ok (if e.action ≠ e'.action then selectedStepPorts edges side e.id else [])
  | _, _ => .ok []

/-- The subject whose entity is looked up. -/
def entrySubject : BehaviorDeltaEntry → BehaviorEntityRef
  | .added entry => entry.finalSubject
  | .modified entry => entry.baseSubject
  | .removed entry => entry.baseSubject

/-- The ports of the entity of an entry that are seeds -/
def portSeeds (edges : List ImpactEdge) (side : GraphSide) (entry : BehaviorDeltaEntry)
    (entity : Entity) : Except ImpactGraphError (List ImpactCoordinate) :=
  match entry with
  | .modified entry => modifiedPortSeeds base final edges side entry
  | .added _ | .removed _ => allPortSeeds edges side entity

/-- `_entry_seeds`, before they are made unique -/
def entrySeeds (edges : List ImpactEdge) (side : GraphSide) (entry : BehaviorDeltaEntry) :
    Except ImpactGraphError (List ImpactCoordinate) := do
  let subject := entrySubject entry
  let entity ← findEntity (sideDocument base final side) subject.targetKind subject.targetId
  let ports ← portSeeds base final edges side entry entity
  pure (entityCoordinate entity.ref :: ports)

end Seeds

/-! ### Witnesses -/

/-- The weakest of the precisions -/
def weakestPrecision (precisions : List ImpactPrecision) : ImpactPrecision :=
  if .unresolved ∈ precisions then .unresolved
  else if .mayAffect ∈ precisions then .mayAffect
  else .definite

/-- The edges with the indexes -/
def edgesAt (edges : List ImpactEdge) (path : List Nat) : List ImpactEdge :=
  path.filterMap fun index => edges[index]?

/-- `_path_precision` -/
def pathPrecision (edges : List ImpactEdge) (path : List Nat) : ImpactPrecision :=
  weakestPrecision ((edgesAt edges path).map ImpactEdge.precision)

/-- `reverse`, of one side -/
def reverseGraph (edges : List ImpactEdge) (side : GraphSide) : LabelledGraph (List String) where
  next node := (edges.zipIdx.filter fun (edge, _) => edge.side = side ∧ edge.target.key = node).map
    fun (edge, index) => (index, edge.source.key)
  support := edges.map fun edge => edge.target.key
  next_eq_nil := by
    intro node hnode
    rw [List.map_eq_nil_iff, List.filter_eq_nil_iff]
    rintro ⟨edge, index⟩ hedge hmatch
    have hmem : edge ∈ edges := by
      have hget := List.mem_zipIdx_iff_getElem?.mp hedge
      exact List.mem_of_getElem? hget
    exact hnode (List.mem_map.mpr ⟨edge, hmem, (of_decide_eq_true hmatch).2⟩)

/-- `coordinates` -/
def coordinatesByKey (edges : List ImpactEdge) : Dict (List String) ImpactCoordinate :=
  Dict.index ImpactCoordinate.key (edges.flatMap fun edge => [edge.source, edge.target])

/-- The witness for what is taken from the queue, unless it is a seed. -/
def witnessOf (edges : List ImpactEdge) (side : GraphSide) (subject : ImpactSubject)
    (item : List Nat × List String) : Except ImpactGraphError (Option ImpactWitness) :=
  if h : item.1 ≠ [] then do
    let affected ← orRaise ((coordinatesByKey edges).get? item.2) .keyError
    pure (some ⟨subject, side, affected, pathPrecision edges item.1, item.1, h⟩)
  else .ok none

/-- The body of the loop of `_derive_witnesses` over the sides of an entry -/
def sideWitnesses (base final : BehaviorIR) (edges : List ImpactEdge) (entry : BehaviorDeltaEntry)
    (finding : ImpactFinding) (side : GraphSide) :
    Except ImpactGraphError (List ImpactWitness) := do
  let seeds ← entrySeeds base final edges side entry
  let found := (reverseGraph edges side).leastPaths (sortedSet (seeds.map ImpactCoordinate.key))
  let witnesses ← collect (witnessOf edges side finding.subject) found
  pure (witnesses.filterMap id)

/-- The body of the loop of `_derive_witnesses` over the entries with their findings -/
def entryWitnesses (base final : BehaviorIR) (edges : List ImpactEdge)
    (item : BehaviorDeltaEntry × ImpactFinding) : Except ImpactGraphError (List ImpactWitness) := do
  let witnesses ← collect (sideWitnesses base final edges item.1 item.2) (entrySides item.1)
  pure witnesses.flatten

/-- `_derive_witnesses` -/
def deriveWitnesses (base final : BehaviorIR) (edges : List ImpactEdge)
    (entries : List BehaviorDeltaEntry) (findings : List ImpactFinding) :
    Except ImpactGraphError (List ImpactWitness) := do
  let witnesses ← collect (entryWitnesses base final edges) (entries.zip findings)
  require (entries.length = findings.length) .lengths
  pure (sortedBy ImpactWitness.key witnesses.flatten)

/-- `derive_impact_graph` -/
def deriveImpactGraph (delta : BehaviorDelta) (findings : List ImpactFinding)
    (baseBehavior finalBehavior : BehaviorIR) :
    Except ImpactGraphError (List ImpactEdge × List ImpactWitness) := do
  let edges ← impactEdges baseBehavior finalBehavior
  let witnesses ← deriveWitnesses baseBehavior finalBehavior edges delta.entries.val findings
  pure (edges, witnesses)

/-! ### The validator of a report -/

/-- `_coordinate_binds_subject` -/
def coordinateBindsSubject (coordinate : ImpactCoordinate) (subject : ImpactSubject) : Bool :=
  match coordinate with
  | .entity targetKind targetId =>
    targetKind = subject.targetKind ∧ targetId = subject.targetId
  | .port port => port.ownerKind = subject.targetKind ∧ port.ownerId = subject.targetId
  | .document _ => false

def witnessMessage (position : Nat) (problem : String) : String :=
  "impact witness " ++ toString position ++ problem

/-- The loop of `_validate_witness` over the edges of the path -/
def followPath (position : Nat) (current : ImpactCoordinate) (seen : List (List String)) :
    List ImpactEdge → Except String (ImpactCoordinate × List (List String))
  | [] => .ok (current, seen)
  | edge :: path => do
    require (edge.target = current) (witnessMessage position " is discontinuous")
    require (edge.source.key ∉ seen) (witnessMessage position " contains a coordinate cycle")
    followPath position edge.source (edge.source.key :: seen) path

/-- `_validate_witness` -/
def validateWitness (edges : List ImpactEdge) (position : Nat) (witness : ImpactWitness) :
    Except String Unit := do
  require witness.edgeIndexes.Nodup (witnessMessage position " repeats an edge")
  require (∀ index ∈ witness.edgeIndexes, index < edges.length)
    (witnessMessage position " names an out-of-range edge")
  let path := edgesAt edges witness.edgeIndexes
  require (∀ edge ∈ path, edge.side = witness.side)
    (witnessMessage position " crosses graph sides")
  match path with
  | [] => .error "IndexError"
  | first :: _ => do
    require (coordinateBindsSubject first.target witness.directSubject = true)
      (witnessMessage position " does not start at its direct subject")
    let (current, _) ← followPath position first.target [first.target.key] path
    require (current = witness.affected)
      (witnessMessage position " ends at the wrong coordinate")
    require (witness.precision = weakestPrecision (path.map ImpactEdge.precision))
      (witnessMessage position " precision disagrees with its path")

end Ucf
