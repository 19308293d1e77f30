import Ucf.Onboarding.Models

/-! The validation of candidate proposals: references resolve, every entity is reachable from the
root, and the bindings of each step connect ports of the same kind. -/

namespace Ucf

/-- `_invalid_proposal` -/
def invalidProposal {α : Type} (message location : String) : Except PyError α :=
  .error (.onboarding .invalidProposal message location)

/-- `_resolve_proposal_ref` -/
def resolveProposalRef (reference : ProposalEntityRef) (byId : Dict Identifier ProposalEntity)
    (location : String) : Except PyError ProposalEntity := do
  let target ← orRaise (byId.get? reference.targetId)
    (.onboarding .brokenReference "proposal reference target does not exist" location)
  require (target.kind = reference.targetKind)
    (.onboarding .wrongTargetKind "proposal reference target has a different kind" location)
  pure target

/-- `_validate_proposal_ports` -/
def validateProposalPorts (ports : List Port) (location : String) : Except PyError Unit :=
  let names : List String := ports.map fun port => port.name.val
  require (names.Nodup ∧ names = sortedBy id names)
    (.onboarding .nonCanonicalOrder "proposal ports must be unique and sorted by name" location)

/-- `_find_port` -/
def findPort (ports : List Port) (reference : ProposalPortRef) (location : String) :
    Except PyError Port :=
  orRaise (ports.find? fun port => port.name = reference.name)
    (.onboarding .invalidProposal "proposal port reference does not resolve" location)

/-- What the walk over the steps of the root has met. -/
structure ProposalWalk where
  reachable : List Identifier
  stepPositions : Dict Identifier Nat

/-- `_resolve_binding_source` -/
def resolveBindingSource (source : ProposalPortRef) (root : ProposedUseCase)
    (byId : Dict Identifier ProposalEntity) (targetStep : ProposedStep)
    (stepPositions : Dict Identifier Nat) (location : String) : Except PyError Port := do
  let owner ← resolveProposalRef source.owner byId location
  match owner with
  | .useCase useCase =>
    if useCase.id ≠ root.id ∨ source.direction ≠ .input then
      invalidProposal "binding source use case must be the root input" location
    else findPort useCase.inputPorts source location
  | .step step =>
    let isPrior : Bool := match stepPositions.get? step.id, stepPositions.get? targetStep.id with
      | some position, some target => position < target
      | _, _ => false
    if source.direction ≠ .output ∨ isPrior = false then
      invalidProposal "binding source step must be a prior step output" location
    else do
      match ← resolveProposalRef step.action byId location with
      | .action action => findPort action.outputPorts source location
      | _ => .error .assertionError
  | _ => invalidProposal "binding source owner must be a use case or prior step" location

/-- The body of the loop of `_validate_step_bindings`; the state is `reachable` and
`bound_inputs`. -/
def validateStepBinding (root : ProposedUseCase) (step : ProposedStep) (action : ProposedAction)
    (byId : Dict Identifier ProposalEntity) (stepPositions : Dict Identifier Nat)
    (location : String) (state : List Identifier × List Identifier)
    (item : ProposalEntityRef × Nat) : Except PyError (List Identifier × List Identifier) := do
  let location := location ++ ".bindings[" ++ toString item.2 ++ "]"
  match ← resolveProposalRef item.1 byId location with
  | .binding binding =>
    if binding.target.owner.targetKind ≠ .step ∨ binding.target.owner.targetId ≠ step.id ∨
        binding.target.direction ≠ .input then
      invalidProposal "binding target must be an input on its owning step" location
    else do
      let targetPort ← findPort action.inputPorts binding.target (location ++ ".target")
      let sourcePort ← resolveBindingSource binding.source root byId step stepPositions
        (location ++ ".source")
      require (sourcePort.valueKind = targetPort.valueKind)
        (.onboarding .invalidProposal "binding source and target value kinds differ" location)
      pure (binding.id :: state.1, targetPort.name :: state.2)
  | _ => throw (.onboarding .wrongTargetKind
      "step bindings must resolve to proposed bindings" location)

/-- `_validate_step_bindings` -/
def validateStepBindings (root : ProposedUseCase) (step : ProposedStep) (action : ProposedAction)
    (byId : Dict Identifier ProposalEntity) (walk : ProposalWalk) (location : String) :
    Except PyError ProposalWalk := do
  require (step.bindings.map fun reference => reference.targetId).Nodup
    (.onboarding .duplicateIdentity "step binding references must be unique"
      (location ++ ".bindings"))
  let (reachable, boundInputs) ← step.bindings.zipIdx.foldlM
    (validateStepBinding root step action byId walk.stepPositions location) (walk.reachable, [])
  require (boundInputs.Nodup ∧
      ∀ port ∈ action.inputPorts, port.required = true → port.name ∈ boundInputs)
    (.onboarding .invalidProposal "each required action input needs exactly one binding"
      (location ++ ".bindings"))
  pure { walk with reachable := reachable }

/-- `step_positions.setdefault(id, position)` -/
def setDefault (positions : Dict Identifier Nat) (id : Identifier) (position : Nat) :
    Dict Identifier Nat :=
  if positions.contains id then positions else positions.insert id position

/-- The body of the loop of `validate_candidate_proposal` over the steps of the root -/
def validateProposalStep (root : ProposedUseCase) (byId : Dict Identifier ProposalEntity)
    (entityIds : List Identifier) (location : String) (walk : ProposalWalk)
    (item : ProposalEntityRef × Nat) : Except PyError ProposalWalk := do
  let stepLocation := location ++ ".root.steps[" ++ toString item.2 ++ "]"
  match ← resolveProposalRef item.1 byId stepLocation with
  | .step step =>
    let walk : ProposalWalk :=
      ⟨step.id :: walk.reachable, setDefault walk.stepPositions step.id item.2⟩
    let entityLocation := at_ (location ++ ".entities") (entityIds.idxOf step.id)
    match ← resolveProposalRef step.action byId (entityLocation ++ ".action") with
    | .action action =>
      validateStepBindings root step action byId
        { walk with reachable := action.id :: walk.reachable } entityLocation
    | _ => throw (.onboarding .wrongTargetKind "step action must resolve to a proposed action"
        (entityLocation ++ ".action"))
  | _ => throw (.onboarding .wrongTargetKind "use-case steps must resolve to proposed steps"
      stepLocation)

/-- `validate_candidate_proposal` -/
def validateCandidateProposal (proposal : CandidateProposal) (location : String) :
    Except PyError Unit := do
  let entities := proposal.entities.items
  let entityIds : List Identifier := entities.map ProposalEntity.id
  require entityIds.Nodup (.onboarding .duplicateIdentity
    "proposal entity IDs must be globally unique" (location ++ ".entities"))
  let entityKeys : List (String ×ₗ String) :=
    entities.map fun entity => toLex (entity.kind.value, entity.id.val)
  require (entityKeys = sortedBy id entityKeys) (.onboarding .nonCanonicalOrder
    "proposal entities must be in canonical kind and ID order" (location ++ ".entities"))
  let byId := Dict.index ProposalEntity.id entities
  match ← resolveProposalRef proposal.root byId (location ++ ".root") with
  | .useCase root =>
    checkEach (fun position entity => do
      let entityLocation := at_ (location ++ ".entities") position
      match entity with
      | .action entity =>
        validateProposalPorts entity.inputPorts (entityLocation ++ ".input_ports")
        validateProposalPorts entity.outputPorts (entityLocation ++ ".output_ports")
      | .useCase entity =>
        validateProposalPorts entity.inputPorts (entityLocation ++ ".input_ports")
        validateProposalPorts entity.outputPorts (entityLocation ++ ".output_ports")
      | _ => pure ()) entities
    let walk ← root.steps.items.zipIdx.foldlM
      (validateProposalStep root byId entityIds location) ⟨[root.id], .empty⟩
    require (walk.reachable ⊆ entityIds ∧ entityIds ⊆ walk.reachable)
      (.onboarding .unreachableEntity "proposal contains an entity unreachable from its root"
        (location ++ ".entities"))
  | _ => throw (.onboarding .wrongTargetKind "proposal root must resolve to a proposed use case"
      (location ++ ".root"))

end Ucf
