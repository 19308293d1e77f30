import Ucf.Digests

/-! Behavior IR documents. -/

namespace Ucf

/-- `CURRENT_IR_VERSION` -/
def currentIrVersion : String := "1.0.0"

inductive EntityKind where
  | action
  | useCase
  | step
  | binding
  | effect
  | observation
  | invariant
  | provenance
  | verificationEvidence
  | capabilityRequirement
deriving DecidableEq, Repr

def EntityKind.value : EntityKind → String
  | action => "action"
  | useCase => "use_case"
  | step => "step"
  | binding => "binding"
  | effect => "effect"
  | observation => "observation"
  | invariant => "invariant"
  | provenance => "provenance"
  | verificationEvidence => "verification_evidence"
  | capabilityRequirement => "capability_requirement"

instance : Model EntityKind :=
  .enum [.action, .useCase, .step, .binding, .effect, .observation, .invariant, .provenance,
    .verificationEvidence, .capabilityRequirement] EntityKind.value

inductive ValueKind where
  | null
  | boolean
  | string
  | integer
  | decimal
  | timestamp
  | list
  | record
deriving DecidableEq, Repr

def ValueKind.value : ValueKind → String
  | null => "null"
  | boolean => "boolean"
  | string => "string"
  | integer => "integer"
  | decimal => "decimal"
  | timestamp => "timestamp"
  | list => "list"
  | record => "record"

instance : Model ValueKind :=
  .enum [.null, .boolean, .string, .integer, .decimal, .timestamp, .list, .record] ValueKind.value

/-- The direction of a port reference. -/
inductive Direction where
  | input
  | output
deriving DecidableEq, Repr

def Direction.value : Direction → String
  | input => "input"
  | output => "output"

instance : Model Direction := .enum [.input, .output] Direction.value

structure EntityRef where
  targetKind : EntityKind
  targetId : Identifier
deriving DecidableEq

instance : Model EntityRef :=
  .record (.lit "kind" "entity_ref" <| .required "target_kind" <| .required "target_id" .nil)
    (fun r => (r.targetKind, r.targetId, ())) (fun (kind, id, ()) => ⟨kind, id⟩)

structure Port where
  name : Identifier
  valueKind : ValueKind
  required : Bool
deriving DecidableEq

instance : Model Port :=
  .record (.lit "kind" "port" <| .required "name" <| .required "value_kind" <|
      .required "required" .nil)
    (fun p => (p.name, p.valueKind, p.required, ()))
    (fun (name, kind, required, ()) => ⟨name, kind, required⟩)

structure PortRef where
  owner : EntityRef
  direction : Direction
  name : Identifier
deriving DecidableEq

instance : Model PortRef :=
  .record (.lit "kind" "port_ref" <| .required "owner" <| .required "direction" <|
      .required "name" .nil)
    (fun p => (p.owner, p.direction, p.name, ()))
    (fun (owner, direction, name, ()) => ⟨owner, direction, name⟩)

structure DomainTarget where
  subject : SemanticToken
  path : List SemanticToken
deriving DecidableEq

instance : Model DomainTarget :=
  .record (.lit "kind" "domain_target" <| .required "subject" <| .required "path" .nil)
    (fun t => (t.subject, t.path, ())) (fun (subject, path, ()) => ⟨subject, path⟩)

structure DeclaredRule where
  dialect : URI
  statement : NonEmptyText
deriving DecidableEq

instance : Model DeclaredRule :=
  .record (.lit "kind" "declared_rule" <| .required "dialect" <| .required "statement" .nil)
    (fun r => (r.dialect, r.statement, ())) (fun (dialect, statement, ()) => ⟨dialect, statement⟩)

structure ArtifactSource where
  uri : URI
  revision : Digest
deriving DecidableEq

instance : Model ArtifactSource :=
  .record (.lit "kind" "artifact_source" <| .required "uri" <| .required "revision" .nil)
    (fun s => (s.uri, s.revision, ())) (fun (uri, revision, ()) => ⟨uri, revision⟩)

structure Producer where
  name : QualifiedName
  version : NormalizedVersion
deriving DecidableEq

instance : Model Producer :=
  .record (.lit "kind" "producer" <| .required "name" <| .required "version" .nil)
    (fun p => (p.name, p.version, ())) (fun (name, version, ()) => ⟨name, version⟩)

structure Check where
  id : Identifier
  version : NormalizedVersion
  procedureUri : URI
deriving DecidableEq

instance : Model Check :=
  .record (.lit "kind" "check" <| .required "id" <| .required "version" <|
      .required "procedure_uri" .nil)
    (fun c => (c.id, c.version, c.procedureUri, ()))
    (fun (id, version, uri, ()) => ⟨id, version, uri⟩)

end Ucf
