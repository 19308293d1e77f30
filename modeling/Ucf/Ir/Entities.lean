import Ucf.Ir.Values

/-! The entities of Behavior IR and the document that holds them. -/

namespace Ucf

structure Action where
  id : Identifier
  inputPorts : List Port
  outputPorts : List Port
  effects : List EntityRef
  requires : List EntityRef
  provenance : EntityRef
deriving DecidableEq

instance : Model Action :=
  .record (.lit "kind" "action" <| .required "id" <| .required "input_ports" <|
      .required "output_ports" <| .required "effects" <| .required "requires" <|
      .required "provenance" .nil)
    (fun a => (a.id, a.inputPorts, a.outputPorts, a.effects, a.requires, a.provenance, ()))
    (fun (id, ins, outs, effects, requires, provenance, ()) =>
      ⟨id, ins, outs, effects, requires, provenance⟩)

structure UseCase where
  id : Identifier
  inputPorts : List Port
  outputPorts : List Port
  steps : List EntityRef
  invariants : List EntityRef
  requires : List EntityRef
  provenance : EntityRef
deriving DecidableEq

instance : Model UseCase :=
  .record (.lit "kind" "use_case" <| .required "id" <| .required "input_ports" <|
      .required "output_ports" <| .required "steps" <| .required "invariants" <|
      .required "requires" <| .required "provenance" .nil)
    (fun u => (u.id, u.inputPorts, u.outputPorts, u.steps, u.invariants, u.requires,
      u.provenance, ()))
    (fun (id, ins, outs, steps, invariants, requires, provenance, ()) =>
      ⟨id, ins, outs, steps, invariants, requires, provenance⟩)

structure Step where
  id : Identifier
  action : EntityRef
  bindings : List EntityRef
  effects : List EntityRef
  observations : List EntityRef
  requires : List EntityRef
  provenance : EntityRef
deriving DecidableEq

instance : Model Step :=
  .record (.lit "kind" "step" <| .required "id" <| .required "action" <|
      .required "bindings" <| .required "effects" <| .required "observations" <|
      .required "requires" <| .required "provenance" .nil)
    (fun s => (s.id, s.action, s.bindings, s.effects, s.observations, s.requires,
      s.provenance, ()))
    (fun (id, action, bindings, effects, observations, requires, provenance, ()) =>
      ⟨id, action, bindings, effects, observations, requires, provenance⟩)

/-- What a binding reads: a port or a constant. -/
inductive BindingSource where
  | port (reference : PortRef)
  | value (value : IRValue)
deriving DecidableEq

theorem portRef_not_same_value (r : PortRef) (v : IRValue) : ¬(modelDump r).Same v.dump := by
  intro h
  have hkind := kindOf_eq_of_same h (IRValue.exact_dump v) (IRValue.kindOf_dump v)
  have hport : kindOf (modelDump r) = some (.str "port_ref") := rfl
  rw [hport, Option.some.injEq, Json.str.injEq] at hkind
  cases v with
  | scalar s => cases s <;> simp [IRValue.tag] at hkind
  | list items => simp [IRValue.tag] at hkind
  | record entries => simp [IRValue.tag] at hkind

instance : Model BindingSource where
  schema := .iso (.union (Model.schema (α := PortRef)) (Model.schema (α := IRValue))
      portRef_not_same_value)
    (fun
      | .port r => .inl r
      | .value v => .inr v)
    (fun
      | .inl r => .port r
      | .inr v => .value v)
    (by rintro (_ | _) <;> rfl) (by rintro (_ | _) <;> rfl)
  notNull
    | .port r => Model.notNull r
    | .value v => Model.notNull v

structure Binding where
  id : Identifier
  target : PortRef
  source : BindingSource
  provenance : EntityRef
deriving DecidableEq

instance : Model Binding :=
  .record (.lit "kind" "binding" <| .required "id" <| .required "target" <|
      .required "source" <| .required "provenance" .nil)
    (fun b => (b.id, b.target, b.source, b.provenance, ()))
    (fun (id, target, source, provenance, ()) => ⟨id, target, source, provenance⟩)

/-- `tuple[EntityRef, ...]` with at least one element. -/
abbrev NonEmptyEntityRefs : Type := { refs : List EntityRef // 1 ≤ refs.length }

instance : Model NonEmptyEntityRefs :=
  .refine "too_short" fun refs : List EntityRef => 1 ≤ refs.length

structure Effect where
  id : Identifier
  operation : SemanticToken
  target : DomainTarget
  value : IRValue
  requires : NonEmptyEntityRefs
  provenance : EntityRef
deriving DecidableEq

instance : Model Effect :=
  .record (.lit "kind" "effect" <| .required "id" <| .required "operation" <|
      .required "target" <| .required "value" <| .required "requires" <|
      .required "provenance" .nil)
    (fun e => (e.id, e.operation, e.target, e.value, e.requires, e.provenance, ()))
    (fun (id, operation, target, value, requires, provenance, ()) =>
      ⟨id, operation, target, value, requires, provenance⟩)

structure Observation where
  id : Identifier
  subject : EntityRef
  target : DomainTarget
  value : IRValue
  provenance : EntityRef
deriving DecidableEq

instance : Model Observation :=
  .record (.lit "kind" "observation" <| .required "id" <| .required "subject" <|
      .required "target" <| .required "value" <| .required "provenance" .nil)
    (fun o => (o.id, o.subject, o.target, o.value, o.provenance, ()))
    (fun (id, subject, target, value, provenance, ()) => ⟨id, subject, target, value, provenance⟩)

structure Invariant where
  id : Identifier
  appliesTo : List EntityRef
  condition : DeclaredRule
  requires : NonEmptyEntityRefs
  provenance : EntityRef
deriving DecidableEq

instance : Model Invariant :=
  .record (.lit "kind" "invariant" <| .required "id" <| .required "applies_to" <|
      .required "condition" <| .required "requires" <| .required "provenance" .nil)
    (fun i => (i.id, i.appliesTo, i.condition, i.requires, i.provenance, ()))
    (fun (id, appliesTo, condition, requires, provenance, ()) =>
      ⟨id, appliesTo, condition, requires, provenance⟩)

structure Provenance where
  id : Identifier
  source : ArtifactSource
  producer : Producer
  capturedAt : Timestamp
deriving DecidableEq

instance : Model Provenance :=
  .record (.lit "kind" "provenance" <| .required "id" <| .required "source" <|
      .required "producer" <| .required "captured_at" .nil)
    (fun p => (p.id, p.source, p.producer, p.capturedAt, ()))
    (fun (id, source, producer, capturedAt, ()) => ⟨id, source, producer, capturedAt⟩)

/-- The outcome of a verification. -/
inductive EvidenceOutcome where
  | passed
  | failed
  | error
deriving DecidableEq, Repr

def EvidenceOutcome.value : EvidenceOutcome → String
  | passed => "passed"
  | failed => "failed"
  | error => "error"

instance : Model EvidenceOutcome := .enum [.passed, .failed, .error] EvidenceOutcome.value

structure VerificationEvidence where
  id : Identifier
  subjects : List EntityRef
  check : Check
  outcome : EvidenceOutcome
  executedAt : Timestamp
  sourceRevision : Digest
  environment : Digest
  provenance : EntityRef
deriving DecidableEq

instance : Model VerificationEvidence :=
  .record (.lit "kind" "verification_evidence" <| .required "id" <| .required "subjects" <|
      .required "check" <| .required "outcome" <| .required "executed_at" <|
      .required "source_revision" <| .required "environment" <| .required "provenance" .nil)
    (fun e => (e.id, e.subjects, e.check, e.outcome, e.executedAt, e.sourceRevision,
      e.environment, e.provenance, ()))
    (fun (id, subjects, check, outcome, executedAt, revision, environment, provenance, ()) =>
      ⟨id, subjects, check, outcome, executedAt, revision, environment, provenance⟩)

structure CapabilityRequirement where
  id : Identifier
  name : QualifiedName
  minimumVersion : NormalizedVersion
  required : Bool
  provenance : EntityRef
deriving DecidableEq

instance : Model CapabilityRequirement :=
  .record (.lit "kind" "capability_requirement" <| .required "id" <| .required "name" <|
      .required "minimum_version" <| .required "required" <| .required "provenance" .nil)
    (fun c => (c.id, c.name, c.minimumVersion, c.required, c.provenance, ()))
    (fun (id, name, version, required, provenance, ()) =>
      ⟨id, name, version, required, provenance⟩)

/-- An entity of a Behavior IR document. -/
inductive Entity where
  | action (entity : Action)
  | useCase (entity : UseCase)
  | step (entity : Step)
  | binding (entity : Binding)
  | effect (entity : Effect)
  | observation (entity : Observation)
  | invariant (entity : Invariant)
  | provenance (entity : Provenance)
  | verificationEvidence (entity : VerificationEvidence)
  | capabilityRequirement (entity : CapabilityRequirement)
deriving DecidableEq

namespace Entity

def id : Entity → Identifier
  | action e => e.id
  | useCase e => e.id
  | step e => e.id
  | binding e => e.id
  | effect e => e.id
  | observation e => e.id
  | invariant e => e.id
  | provenance e => e.id
  | verificationEvidence e => e.id
  | capabilityRequirement e => e.id

def kind : Entity → EntityKind
  | action _ => .action
  | useCase _ => .useCase
  | step _ => .step
  | binding _ => .binding
  | effect _ => .effect
  | observation _ => .observation
  | invariant _ => .invariant
  | provenance _ => .provenance
  | verificationEvidence _ => .verificationEvidence
  | capabilityRequirement _ => .capabilityRequirement

end Entity

instance : Model Entity :=
  .oneOf (.variant "action" <| .variant "use_case" <| .variant "step" <| .variant "binding" <|
      .variant "effect" <| .variant "observation" <| .variant "invariant" <|
      .variant "provenance" <| .variant "verification_evidence" <|
      .variant "capability_requirement" .nil)
    (fun
      | .action e => .inl e
      | .useCase e => .inr (.inl e)
      | .step e => .inr (.inr (.inl e))
      | .binding e => .inr (.inr (.inr (.inl e)))
      | .effect e => .inr (.inr (.inr (.inr (.inl e))))
      | .observation e => .inr (.inr (.inr (.inr (.inr (.inl e)))))
      | .invariant e => .inr (.inr (.inr (.inr (.inr (.inr (.inl e))))))
      | .provenance e => .inr (.inr (.inr (.inr (.inr (.inr (.inr (.inl e)))))))
      | .verificationEvidence e =>
        .inr (.inr (.inr (.inr (.inr (.inr (.inr (.inr (.inl e))))))))
      | .capabilityRequirement e =>
        .inr (.inr (.inr (.inr (.inr (.inr (.inr (.inr (.inr (.inl e))))))))))
    (fun
      | .inl e => .action e
      | .inr (.inl e) => .useCase e
      | .inr (.inr (.inl e)) => .step e
      | .inr (.inr (.inr (.inl e))) => .binding e
      | .inr (.inr (.inr (.inr (.inl e)))) => .effect e
      | .inr (.inr (.inr (.inr (.inr (.inl e))))) => .observation e
      | .inr (.inr (.inr (.inr (.inr (.inr (.inl e)))))) => .invariant e
      | .inr (.inr (.inr (.inr (.inr (.inr (.inr (.inl e))))))) => .provenance e
      | .inr (.inr (.inr (.inr (.inr (.inr (.inr (.inr (.inl e)))))))) =>
        .verificationEvidence e
      | .inr (.inr (.inr (.inr (.inr (.inr (.inr (.inr (.inr (.inl e))))))))) =>
        .capabilityRequirement e)

structure BehaviorIR where
  documentId : Identifier
  roots : List EntityRef
  entities : List Entity
deriving DecidableEq

instance : Model BehaviorIR :=
  .record (.lit "kind" "behavior_ir" <| .lit "ir_version" currentIrVersion <|
      .required "document_id" <| .required "roots" <| .required "entities" .nil)
    (fun b => (b.documentId, b.roots, b.entities, ()))
    (fun (id, roots, entities, ()) => ⟨id, roots, entities⟩)

end Ucf
