import Ucf.Inventory.Validation
import Ucf.Ir.TrustCodec

/-! Onboarding documents: what discovery proposes for an inventory, what a reviewer decides, and the
bundle of both with the behavior and trust documents they give rise to. -/

namespace Ucf

def onboardingVersion : String := "1.0.0"

theorem onboardingVersion_valid :
    stringConstraints 0 none matchVersion onboardingVersion = none := by decide

def discoveryCapability : String := "org.ucf.adapter.discovery"

theorem discoveryCapability_valid : (stringConstraints 3 (some 255) fun cs =>
    let parts := splitOn '.' cs
    2 ≤ parts.length && parts.all (matchName fun c => c = '-')) discoveryCapability = none := by
  decide

def discoveryResultSchemaUri : String := "urn:ucf:adapter:discovery-result:1.0.0"

theorem discoveryResultSchemaUri_valid : uriConstraints discoveryResultSchemaUri = none := by decide

def decisionSetSchemaUri : String := "urn:ucf:onboarding:decision-set:1.0.0"

theorem decisionSetSchemaUri_valid : uriConstraints decisionSetSchemaUri = none := by decide

def onboardingBundleSchemaUri : String := "urn:ucf:onboarding:bundle:1.0.0"

def maxDiscoveryCandidates : Nat := 10000

def maxDiscoveryDiagnostics : Nat := 10000

abbrev DiscoveryDiagnosticId : Type := ContentId "diagnostic"

abbrev DiscoveryCandidateId : Type := ContentId "candidate"

abbrev DecisionId : Type := ContentId "decision"

structure InventoryBinding where
  subjectUri : URI
  sourceRevision : Digest
  canonicalDigest : Digest
deriving DecidableEq

instance : Model InventoryBinding :=
  .record (.lit "kind" "inventory_binding" <| .lit "schema_uri" inventorySchemaUri <|
      .lit "inventory_version" inventoryVersion <| .required "subject_uri" <|
      .required "source_revision" <| .required "canonical_digest" .nil)
    (fun b => (b.subjectUri, b.sourceRevision, b.canonicalDigest, ()))
    (fun (uri, revision, digest, ()) => ⟨uri, revision, digest⟩)

/-! ### Proposals -/

inductive ProposalEntityKind where
  | action
  | binding
  | step
  | useCase
deriving DecidableEq, Repr

def ProposalEntityKind.value : ProposalEntityKind → String
  | action => "proposed_action"
  | binding => "proposed_binding"
  | step => "proposed_step"
  | useCase => "proposed_use_case"

instance : Model ProposalEntityKind :=
  .enum [.action, .binding, .step, .useCase] ProposalEntityKind.value

structure ProposalEntityRef where
  targetKind : ProposalEntityKind
  targetId : Identifier
deriving DecidableEq

instance : Model ProposalEntityRef :=
  .record (.lit "kind" "proposal_entity_ref" <| .required "target_kind" <|
      .required "target_id" .nil)
    (fun r => (r.targetKind, r.targetId, ())) (fun (kind, id, ()) => ⟨kind, id⟩)

structure ProposalPortRef where
  owner : ProposalEntityRef
  direction : Direction
  name : Identifier
deriving DecidableEq

instance : Model ProposalPortRef :=
  .record (.lit "kind" "proposal_port_ref" <| .required "owner" <| .required "direction" <|
      .required "name" .nil)
    (fun p => (p.owner, p.direction, p.name, ()))
    (fun (owner, direction, name, ()) => ⟨owner, direction, name⟩)

structure ProposedAction where
  id : Identifier
  inputPorts : List Port
  outputPorts : List Port
deriving DecidableEq

instance : Model ProposedAction :=
  .record (.lit "kind" "proposed_action" <| .required "id" <| .required "input_ports" <|
      .required "output_ports" .nil)
    (fun a => (a.id, a.inputPorts, a.outputPorts, ())) (fun (id, ins, outs, ()) => ⟨id, ins, outs⟩)

structure ProposedUseCase where
  id : Identifier
  inputPorts : List Port
  outputPorts : List Port
  steps : Tuple 1 256 ProposalEntityRef
deriving DecidableEq

instance : Model ProposedUseCase :=
  .record (.lit "kind" "proposed_use_case" <| .required "id" <| .required "input_ports" <|
      .required "output_ports" <| .required "steps" .nil)
    (fun u => (u.id, u.inputPorts, u.outputPorts, u.steps, ()))
    (fun (id, ins, outs, steps, ()) => ⟨id, ins, outs, steps⟩)

structure ProposedStep where
  id : Identifier
  action : ProposalEntityRef
  bindings : List ProposalEntityRef
deriving DecidableEq

instance : Model ProposedStep :=
  .record (.lit "kind" "proposed_step" <| .required "id" <| .required "action" <|
      .required "bindings" .nil)
    (fun s => (s.id, s.action, s.bindings, ()))
    (fun (id, action, bindings, ()) => ⟨id, action, bindings⟩)

structure ProposedBinding where
  id : Identifier
  target : ProposalPortRef
  source : ProposalPortRef
deriving DecidableEq

instance : Model ProposedBinding :=
  .record (.lit "kind" "proposed_binding" <| .required "id" <| .required "target" <|
      .required "source" .nil)
    (fun b => (b.id, b.target, b.source, ())) (fun (id, target, source, ()) => ⟨id, target, source⟩)

inductive ProposalEntity where
  | action (entity : ProposedAction)
  | binding (entity : ProposedBinding)
  | step (entity : ProposedStep)
  | useCase (entity : ProposedUseCase)
deriving DecidableEq

namespace ProposalEntity

def id : ProposalEntity → Identifier
  | action e => e.id
  | binding e => e.id
  | step e => e.id
  | useCase e => e.id

def kind : ProposalEntity → ProposalEntityKind
  | action _ => .action
  | binding _ => .binding
  | step _ => .step
  | useCase _ => .useCase

end ProposalEntity

instance : Model ProposalEntity :=
  .oneOf (.variant "proposed_action" <| .variant "proposed_binding" <|
      .variant "proposed_step" <| .variant "proposed_use_case" .nil)
    (fun
      | .action e => .inl e
      | .binding e => .inr (.inl e)
      | .step e => .inr (.inr (.inl e))
      | .useCase e => .inr (.inr (.inr (.inl e))))
    (fun
      | .inl e => .action e
      | .inr (.inl e) => .binding e
      | .inr (.inr (.inl e)) => .step e
      | .inr (.inr (.inr (.inl e))) => .useCase e)

structure CandidateProposal where
  root : ProposalEntityRef
  entities : Tuple 1 1024 ProposalEntity
deriving DecidableEq

instance : Model CandidateProposal :=
  .record (.lit "kind" "candidate_proposal" <| .required "root" <| .required "entities" .nil)
    (fun p => (p.root, p.entities, ())) (fun (root, entities, ()) => ⟨root, entities⟩)

/-! ### Discovery -/

structure DiscoveryCandidate where
  id : DiscoveryCandidateId
  semanticDigest : Digest
  subject : InventoryRecordRef
  evidence : Tuple 1 256 InventoryRecordRef
  confidence : InventoryConfidence
  proposal : CandidateProposal
deriving DecidableEq

instance : Model DiscoveryCandidate :=
  .record (.lit "kind" "discovery_candidate" <| .required "id" <|
      .required "semantic_digest" <| .required "subject" <| .required "evidence" <|
      .required "confidence" <| .required "proposal" .nil)
    (fun c => (c.id, c.semanticDigest, c.subject, c.evidence, c.confidence, c.proposal, ()))
    (fun (id, digest, subject, evidence, confidence, proposal, ()) =>
      ⟨id, digest, subject, evidence, confidence, proposal⟩)

structure DiscoveryDiagnostic where
  id : DiscoveryDiagnosticId
  severity : Severity
  code : QualifiedName
  message : ShortText
  evidence : Option InventoryRecordRef
deriving DecidableEq

instance : Model DiscoveryDiagnostic :=
  .record (.lit "kind" "discovery_diagnostic" <| .required "id" <| .required "severity" <|
      .required "code" <| .required "message" <| .nullable "evidence" .nil)
    (fun d => (d.id, d.severity, d.code, d.message, d.evidence, ()))
    (fun (id, severity, code, message, evidence, ()) => ⟨id, severity, code, message, evidence⟩)

structure DiscoveryCoverage where
  status : CoverageStatus
  eligibleSubjects : Tuple 0 maxDiscoveryCandidates InventoryRecordRef
  uncoveredSubjects : Tuple 0 maxDiscoveryCandidates InventoryRecordRef
  validStatus : status = .complete ↔ uncoveredSubjects.items = []
deriving DecidableEq

instance : Model DiscoveryCoverage :=
  .recordWhere (.lit "kind" "discovery_coverage" <| .required "status" <|
      .required "eligible_subjects" <| .required "uncovered_subjects" .nil)
    (fun (status, _, uncovered, ()) => status = .complete ↔ uncovered.items = [])
    (fun c => ⟨(c.status, c.eligibleSubjects, c.uncoveredSubjects, ()), c.validStatus⟩)
    (fun ⟨(status, eligible, uncovered, ()), h⟩ => ⟨status, eligible, uncovered, h⟩)

/-- `_validate_discovery_capability` -/
def isDiscoveryCapability (capability : CapabilitySelection) : Prop :=
  capability.name.val = discoveryCapability ∧ capability.version.val = onboardingVersion

instance (capability : CapabilitySelection) : Decidable (isDiscoveryCapability capability) :=
  inferInstanceAs (Decidable (_ ∧ _))

structure DiscoveryResult where
  inventoryBinding : InventoryBinding
  producer : Producer
  capability : CapabilitySelection
  procedureUri : VersionedURI
  coverage : DiscoveryCoverage
  diagnostics : Tuple 0 maxDiscoveryDiagnostics DiscoveryDiagnostic
  candidates : Tuple 0 maxDiscoveryCandidates DiscoveryCandidate
  validCapability : isDiscoveryCapability capability
deriving DecidableEq

instance : Model DiscoveryResult :=
  .recordWhere (.lit "kind" "discovery_result_profile" <|
      .lit "onboarding_version" onboardingVersion <| .lit "schema_uri" discoveryResultSchemaUri <|
      .required "inventory_binding" <| .required "producer" <| .required "capability" <|
      .required "procedure_uri" <| .required "coverage" <| .required "diagnostics" <|
      .required "candidates" .nil)
    (fun (_, _, capability, _, _, _, _, ()) => isDiscoveryCapability capability)
    (fun r => ⟨(r.inventoryBinding, r.producer, r.capability, r.procedureUri, r.coverage,
      r.diagnostics, r.candidates, ()), r.validCapability⟩)
    (fun ⟨(binding, producer, capability, uri, coverage, diagnostics, candidates, ()), h⟩ =>
      ⟨binding, producer, capability, uri, coverage, diagnostics, candidates, h⟩)

structure DiscoveryDocumentRef where
  canonicalDigest : Digest
deriving DecidableEq

instance : Model DiscoveryDocumentRef :=
  .record (.lit "kind" "discovery_document_ref" <| .lit "schema_uri" discoveryResultSchemaUri <|
      .lit "schema_version" onboardingVersion <| .required "canonical_digest" .nil)
    (fun r => (r.canonicalDigest, ())) (fun (digest, ()) => ⟨digest⟩)

/-! ### Decisions -/

structure CandidateRef where
  discoveryDigest : Digest
  candidateId : DiscoveryCandidateId
  semanticDigest : Digest
deriving DecidableEq

instance : Model CandidateRef :=
  .record (.lit "kind" "candidate_ref" <| .required "discovery_digest" <|
      .required "candidate_id" <| .required "semantic_digest" .nil)
    (fun r => (r.discoveryDigest, r.candidateId, r.semanticDigest, ()))
    (fun (digest, id, semantic, ()) => ⟨digest, id, semantic⟩)

structure CaptureContext where
  capturedAt : Timestamp
  environment : Digest
deriving DecidableEq

instance : Model CaptureContext :=
  .record (.lit "kind" "capture_context" <| .required "captured_at" <|
      .required "environment" .nil)
    (fun c => (c.capturedAt, c.environment, ()))
    (fun (capturedAt, environment, ()) => ⟨capturedAt, environment⟩)

/-- `AcceptedDecision`, `RejectedDecision` and `UncertainDecision` -/
structure PlainDecision where
  id : DecisionId
  candidate : CandidateRef
  reason : DecisionReason
deriving DecidableEq

/-- The document form of a decision without a replacement. -/
def plainDecision (kind : String) : Schema PlainDecision :=
  .iso (.record (.lit "kind" kind <| .required "id" <| .required "candidate" <|
      .required "reason" .nil) (by simp))
    (fun d => (d.id, d.candidate, d.reason, ()))
    (fun (id, candidate, reason, ()) => ⟨id, candidate, reason⟩) (fun _ => rfl) (fun _ => rfl)

structure EditedDecision where
  id : DecisionId
  candidate : CandidateRef
  reason : DecisionReason
  replacementDigest : Digest
  replacement : CandidateProposal
deriving DecidableEq

instance : Model EditedDecision :=
  .record (.lit "kind" "edited_decision" <| .required "id" <| .required "candidate" <|
      .required "reason" <| .required "replacement_digest" <| .required "replacement" .nil)
    (fun d => (d.id, d.candidate, d.reason, d.replacementDigest, d.replacement, ()))
    (fun (id, candidate, reason, digest, replacement, ()) =>
      ⟨id, candidate, reason, digest, replacement⟩)

inductive Decision where
  | accepted (decision : PlainDecision)
  | edited (decision : EditedDecision)
  | rejected (decision : PlainDecision)
  | uncertain (decision : PlainDecision)
deriving DecidableEq

inductive DispositionKind where
  | accepted
  | edited
  | rejected
  | uncertain
deriving DecidableEq, Repr

def DispositionKind.value : DispositionKind → String
  | accepted => "accepted"
  | edited => "edited"
  | rejected => "rejected"
  | uncertain => "uncertain"

def DispositionKind.all : List DispositionKind := [.accepted, .edited, .rejected, .uncertain]

instance : Model DispositionKind := .enum DispositionKind.all DispositionKind.value

namespace Decision

def id : Decision → DecisionId
  | accepted d => d.id
  | edited d => d.id
  | rejected d => d.id
  | uncertain d => d.id

def candidate : Decision → CandidateRef
  | accepted d => d.candidate
  | edited d => d.candidate
  | rejected d => d.candidate
  | uncertain d => d.candidate

/-- The class of the decision. -/
def disposition : Decision → DispositionKind
  | accepted _ => .accepted
  | edited _ => .edited
  | rejected _ => .rejected
  | uncertain _ => .uncertain

end Decision

instance : Model Decision where
  schema := .iso (.oneOf
      (.case "accepted_decision" (plainDecision "accepted_decision") (fun _ => rfl)
        (.case "edited_decision" (Model.schema (α := EditedDecision)) (fun _ => rfl)
          (.case "rejected_decision" (plainDecision "rejected_decision") (fun _ => rfl)
            (.case "uncertain_decision" (plainDecision "uncertain_decision") (fun _ => rfl)
              .nil (of_decide_eq_false rfl)) (of_decide_eq_false rfl))
          (of_decide_eq_false rfl)) (of_decide_eq_false rfl)))
    (fun
      | .accepted d => .inl d
      | .edited d => .inr (.inl d)
      | .rejected d => .inr (.inr (.inl d))
      | .uncertain d => .inr (.inr (.inr (.inl d))))
    (fun
      | .inl d => .accepted d
      | .inr (.inl d) => .edited d
      | .inr (.inr (.inl d)) => .rejected d
      | .inr (.inr (.inr (.inl d))) => .uncertain d)
    (by rintro (_ | _ | _ | _) <;> rfl)
    (by rintro (_ | _ | _ | _ | _) <;> first | rfl | contradiction)
  notNull := by rintro (_ | _ | _ | _) <;> nofun

structure DecisionSet where
  discovery : DiscoveryDocumentRef
  inventoryBinding : InventoryBinding
  reviewer : Producer
  captureContext : CaptureContext
  decisions : Tuple 0 maxDiscoveryCandidates Decision
deriving DecidableEq

instance : Model DecisionSet :=
  .record (.lit "kind" "decision_set_profile" <| .lit "onboarding_version" onboardingVersion <|
      .lit "schema_uri" decisionSetSchemaUri <| .required "discovery" <|
      .required "inventory_binding" <| .required "reviewer" <| .required "capture_context" <|
      .required "decisions" .nil)
    (fun s => (s.discovery, s.inventoryBinding, s.reviewer, s.captureContext, s.decisions, ()))
    (fun (discovery, binding, reviewer, context, decisions, ()) =>
      ⟨discovery, binding, reviewer, context, decisions⟩)

/-! ### Bundles -/

structure BehaviorMaterialization where
  candidate : CandidateRef
  decisionId : DecisionId
  root : BehaviorEntityRef
  entities : Tuple 1 1025 BehaviorEntityRef
deriving DecidableEq

instance : Model BehaviorMaterialization :=
  .record (.lit "kind" "behavior_materialization" <| .required "candidate" <|
      .required "decision_id" <| .required "root" <| .required "entities" .nil)
    (fun m => (m.candidate, m.decisionId, m.root, m.entities, ()))
    (fun (candidate, id, root, entities, ()) => ⟨candidate, id, root, entities⟩)

inductive BundleDocumentKind where
  | inventory
  | discovery
  | decisions
  | behavior
  | trust
deriving DecidableEq, Repr

def BundleDocumentKind.value : BundleDocumentKind → String
  | inventory => "inventory"
  | discovery => "discovery"
  | decisions => "decisions"
  | behavior => "behavior"
  | trust => "trust"

instance : Model BundleDocumentKind :=
  .enum [.inventory, .discovery, .decisions, .behavior, .trust] BundleDocumentKind.value

structure BundleDocumentRef where
  documentKind : BundleDocumentKind
  schemaUri : URI
  schemaVersion : NormalizedVersion
  canonicalDigest : Digest
deriving DecidableEq

instance : Model BundleDocumentRef :=
  .record (.lit "kind" "bundle_document_ref" <| .required "document_kind" <|
      .required "schema_uri" <| .required "schema_version" <| .required "canonical_digest" .nil)
    (fun r => (r.documentKind, r.schemaUri, r.schemaVersion, r.canonicalDigest, ()))
    (fun (kind, uri, version, digest, ()) => ⟨kind, uri, version, digest⟩)

structure DispositionSummary where
  disposition : DispositionKind
  candidateIds : Tuple 0 maxDiscoveryCandidates DiscoveryCandidateId
deriving DecidableEq

instance : Model DispositionSummary :=
  .record (.lit "kind" "disposition_summary" <| .required "disposition" <|
      .required "candidate_ids" .nil)
    (fun s => (s.disposition, s.candidateIds, ())) (fun (disposition, ids, ()) => ⟨disposition, ids⟩)

structure ClaimLevelSummary where
  level : ClaimLevel
  claimIds : Tuple 0 (maxDiscoveryCandidates * 2) Identifier
deriving DecidableEq

instance : Model ClaimLevelSummary :=
  .record (.lit "kind" "claim_level_summary" <| .required "level" <| .required "claim_ids" .nil)
    (fun s => (s.level, s.claimIds, ())) (fun (level, ids, ()) => ⟨level, ids⟩)

structure OnboardingBaseline where
  documents : Tuple 5 5 BundleDocumentRef
  dispositions : Tuple 4 4 DispositionSummary
  materializations : Tuple 0 maxDiscoveryCandidates BehaviorMaterialization
  discoveryStatus : CoverageStatus
  uncoveredSubjects : Tuple 0 maxDiscoveryCandidates InventoryRecordRef
  claimLevels : Tuple 5 5 ClaimLevelSummary
deriving DecidableEq

instance : Model OnboardingBaseline :=
  .record (.lit "kind" "onboarding_baseline" <| .required "documents" <|
      .required "dispositions" <| .required "materializations" <|
      .required "discovery_status" <| .required "uncovered_subjects" <|
      .required "claim_levels" .nil)
    (fun b => (b.documents, b.dispositions, b.materializations, b.discoveryStatus,
      b.uncoveredSubjects, b.claimLevels, ()))
    (fun (documents, dispositions, materializations, status, uncovered, levels, ()) =>
      ⟨documents, dispositions, materializations, status, uncovered, levels⟩)

section Bundle

variable [Unicodedata] [Hashlib]

/-- `_validate_inventory_binding` -/
def matchesInventory (binding : InventoryBinding) (inventory : InventorySnapshot) : Prop :=
  binding.subjectUri.val = inventory.subjectUri.val ∧
    binding.sourceRevision = inventory.sourceRevision ∧
    binding.canonicalDigest = canonicalInventoryDigest inventory

instance (binding : InventoryBinding) (inventory : InventorySnapshot) :
    Decidable (matchesInventory binding inventory) :=
  inferInstanceAs (Decidable (_ ∧ _ ∧ _))

structure DiscoveryRequest where
  capability : CapabilitySelection
  inventoryBinding : InventoryBinding
  inventory : InventorySnapshot
  valid : isDiscoveryCapability capability ∧ matchesInventory inventoryBinding inventory

structure OnboardingBundle where
  captureContext : CaptureContext
  inventory : InventorySnapshot
  discovery : DiscoveryResult
  decisions : DecisionSet
  behavior : BehaviorIR
  trust : TrustIR
  baseline : OnboardingBaseline

instance : Model OnboardingBundle :=
  .record (.lit "kind" "onboarding_bundle" <| .lit "onboarding_version" onboardingVersion <|
      .lit "schema_uri" onboardingBundleSchemaUri <| .required "capture_context" <|
      .required "inventory" <| .required "discovery" <| .required "decisions" <|
      .required "behavior" <| .required "trust" <| .required "baseline" .nil)
    (fun b => (b.captureContext, b.inventory, b.discovery, b.decisions, b.behavior, b.trust,
      b.baseline, ()))
    (fun (context, inventory, discovery, decisions, behavior, trust, baseline, ()) =>
      ⟨context, inventory, discovery, decisions, behavior, trust, baseline⟩)

end Bundle

end Ucf
