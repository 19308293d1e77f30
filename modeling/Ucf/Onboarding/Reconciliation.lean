import Ucf.Onboarding.Validation

/-! From decisions to documents: the Behavior IR that accepted and edited proposals materialize. -/

namespace Ucf

/-- `_BEHAVIOR_KIND` -/
def behaviorKind : ProposalEntityKind → EntityKind
  | .action => .action
  | .binding => .binding
  | .step => .step
  | .useCase => .useCase

/-- `_entity_ref` -/
def entityRef (reference : ProposalEntityRef) : EntityRef :=
  ⟨behaviorKind reference.targetKind, reference.targetId⟩

/-- `_port_ref` -/
def portRef (reference : ProposalPortRef) : PortRef :=
  ⟨entityRef reference.owner, reference.direction, reference.name⟩

/-- `_materialize_proposal` -/
def materializeProposal (proposal : CandidateProposal) (provenance : EntityRef) : List Entity :=
  proposal.entities.items.map fun entity =>
    match entity with
    | .action e => .action ⟨e.id, e.inputPorts, e.outputPorts, [], [], provenance⟩
    | .binding e => .binding ⟨e.id, portRef e.target, .port (portRef e.source), provenance⟩
    | .step e =>
      .step ⟨e.id, entityRef e.action, e.bindings.map entityRef, [], [], [], provenance⟩
    | .useCase e =>
      .useCase ⟨e.id, e.inputPorts, e.outputPorts, e.steps.items.map entityRef, [], [], provenance⟩

variable [Hashlib]

/-- `"provenance." + hashlib.sha256(decision.id.encode("ascii")).hexdigest()` -/
def provenanceId (decision : Decision) : Identifier :=
  digestIdentifier "provenance" (Hashlib.sha256 (.text decision.id.text)) (by decide)

/-- A decision that materializes behavior, with the proposal it stands for. -/
structure Selected where
  decision : Decision
  proposal : CandidateProposal
deriving DecidableEq

/-- The loop of `materialize_behavior` that fills `selected` -/
def selectProposals (candidatesById : Dict DiscoveryCandidateId DiscoveryCandidate) :
    List Decision → Except PyError (List Selected)
  | [] => .ok []
  | .accepted accepted :: decisions => do
    let candidate ← orRaise (candidatesById.get? accepted.candidate.candidateId) .keyError
    validateCandidateProposal candidate.proposal "$"
    let rest ← selectProposals candidatesById decisions
    pure (⟨.accepted accepted, candidate.proposal⟩ :: rest)
  | .edited edited :: decisions => do
    validateCandidateProposal edited.replacement "$"
    let rest ← selectProposals candidatesById decisions
    pure (⟨.edited edited, edited.replacement⟩ :: rest)
  | _ :: decisions => selectProposals candidatesById decisions

/-- The entities of one selected proposal: its provenance and what it proposes. -/
def materializeSelected (decisionSet : DecisionSet) (decisionDigest : Digest)
    (selected : Selected) : List Entity :=
  let provenance := provenanceId selected.decision
  .provenance ⟨provenance,
      ⟨digestUri "urn:ucf:onboarding:decision-set:" decisionDigest.value isUriTag_decisionSet,
        decisionDigest⟩,
      decisionSet.reviewer, decisionSet.captureContext.capturedAt⟩ ::
    materializeProposal selected.proposal ⟨.provenance, provenance⟩

/-- `_behavior_ref` -/
def behaviorRef (behavior : BehaviorIR) (canonicalDigest : DigestValue) (entity : Entity) :
    BehaviorEntityRef :=
  ⟨behavior.documentId, ⟨canonicalDigest⟩, entity.kind, entity.id⟩

/-- The materialization that links one selected decision to its entities. -/
def materializationOf (behavior : BehaviorIR) (behaviorDigest : DigestValue)
    (behaviorIndex : Dict Identifier Entity) (selected : Selected) :
    Except PyError BehaviorMaterialization := do
  let linkEntityIds :=
    selected.proposal.entities.items.map ProposalEntity.id ++ [provenanceId selected.decision]
  let references ← collect (fun identifier => do
    let entity ← orRaise (behaviorIndex.get? identifier) .keyError
    pure (behaviorRef behavior behaviorDigest entity)) linkEntityIds
  let rootEntity ← orRaise (behaviorIndex.get? selected.proposal.root.targetId) .keyError
  let entities ← validated (Tuple.ofList (sortedBy
    (fun reference : BehaviorEntityRef => toLex (reference.targetKind.value, reference.targetId.val))
    references))
  pure ⟨selected.decision.candidate, selected.decision.id,
    behaviorRef behavior behaviorDigest rootEntity, entities⟩

/-- `materialize_behavior` -/
def materializeBehavior (discovery : DiscoveryResult) (decisionSet : DecisionSet) :
    Except PyError (BehaviorIR × List BehaviorMaterialization) := do
  validateDecisionSet discovery decisionSet
  let candidatesById := Dict.index DiscoveryCandidate.id discovery.candidates.items
  let selected ← selectProposals candidatesById decisionSet.decisions.items
  let proposalIds : List Identifier :=
    selected.flatMap fun s => s.proposal.entities.items.map ProposalEntity.id
  require proposalIds.Nodup (.onboarding .duplicateIdentity
    "accepted and edited proposals collide on behavior entity IDs" "$.behavior.entities")
  let provenanceIds : List Identifier := selected.map fun s => provenanceId s.decision
  require (provenanceIds.Nodup ∧ ∀ id ∈ provenanceIds, id ∉ proposalIds)
    (.onboarding .duplicateIdentity "decision provenance collides on a behavior entity ID"
      "$.behavior.entities")
  let decisionDigest := canonicalOnboardingDigest decisionSet
  let behavior ← parseIrJson (canonicalIrJson
    ⟨digestIdentifier "behavior" decisionDigest.value isDigestTag_behavior,
      selected.map fun s => entityRef s.proposal.root,
      selected.flatMap (materializeSelected decisionSet decisionDigest)⟩)
  let behaviorDigest := canonicalIrDigest behavior
  let behaviorIndex := Dict.index Entity.id behavior.entities
  let materializations ← collect (materializationOf behavior behaviorDigest behaviorIndex) selected
  pure (behavior, materializations)

end Ucf
