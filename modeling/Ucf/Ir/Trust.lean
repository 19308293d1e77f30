import Ucf.Ir.Codec

/-! Trust IR: records of what is declared, observed and claimed about a Behavior IR document. -/

namespace Ucf

/-- `CURRENT_TRUST_IR_VERSION` -/
def currentTrustIrVersion : String := "1.0.0"

inductive TrustRecordKind where
  | sourceRecord
  | declaration
  | observedFact
  | behaviorCandidate
  | mapping
  | claim
deriving DecidableEq, Repr

def TrustRecordKind.value : TrustRecordKind → String
  | sourceRecord => "source_record"
  | declaration => "declaration"
  | observedFact => "observed_fact"
  | behaviorCandidate => "behavior_candidate"
  | mapping => "mapping"
  | claim => "claim"

instance : Model TrustRecordKind :=
  .enum [.sourceRecord, .declaration, .observedFact, .behaviorCandidate, .mapping, .claim]
    TrustRecordKind.value

inductive ClaimLevel where
  | observed
  | declared
  | mapped
  | tested
  | verified
deriving DecidableEq, Repr

def ClaimLevel.value : ClaimLevel → String
  | observed => "observed"
  | declared => "declared"
  | mapped => "mapped"
  | tested => "tested"
  | verified => "verified"

/-- The levels in their order of definition. -/
def ClaimLevel.all : List ClaimLevel := [.observed, .declared, .mapped, .tested, .verified]

instance : Model ClaimLevel := .enum ClaimLevel.all ClaimLevel.value

structure BehaviorDocumentRef where
  documentId : Identifier
  canonicalDigest : Digest
deriving DecidableEq

instance : Model BehaviorDocumentRef :=
  .record (.lit "kind" "behavior_document_ref" <| .required "document_id" <|
      .lit "ir_version" currentIrVersion <| .required "canonical_digest" .nil)
    (fun r => (r.documentId, r.canonicalDigest, ())) (fun (id, digest, ()) => ⟨id, digest⟩)

structure BehaviorEntityRef where
  documentId : Identifier
  canonicalDigest : Digest
  targetKind : EntityKind
  targetId : Identifier
deriving DecidableEq

instance : Model BehaviorEntityRef :=
  .record (.lit "kind" "behavior_entity_ref" <| .required "document_id" <|
      .lit "ir_version" currentIrVersion <| .required "canonical_digest" <|
      .required "target_kind" <| .required "target_id" .nil)
    (fun r => (r.documentId, r.canonicalDigest, r.targetKind, r.targetId, ()))
    (fun (id, digest, kind, target, ()) => ⟨id, digest, kind, target⟩)

structure RecordRef where
  targetKind : TrustRecordKind
  targetId : Identifier
deriving DecidableEq

instance : Model RecordRef :=
  .record (.lit "kind" "record_ref" <| .required "target_kind" <| .required "target_id" .nil)
    (fun r => (r.targetKind, r.targetId, ())) (fun (kind, id, ()) => ⟨kind, id⟩)

structure FactAssertion where
  target : DomainTarget
  value : IRValue
deriving DecidableEq

instance : Model FactAssertion :=
  .record (.lit "kind" "fact_assertion" <| .required "target" <| .required "value" .nil)
    (fun a => (a.target, a.value, ())) (fun (target, value, ()) => ⟨target, value⟩)

structure Confidence where
  value : ConfidenceValue
deriving DecidableEq

instance : Model Confidence :=
  .record (.lit "kind" "confidence" <| .lit "scale" "decimal-0-to-1" <| .required "value" .nil)
    (fun c => (c.value, ())) (fun (value, ()) => ⟨value⟩)

structure SourceRecord where
  id : Identifier
  sourceUri : URI
  sourceRevision : Digest
  producer : Producer
  capturedAt : Timestamp
deriving DecidableEq

instance : Model SourceRecord :=
  .record (.lit "kind" "source_record" <| .required "id" <| .required "source_uri" <|
      .required "source_revision" <| .required "producer" <| .required "captured_at" .nil)
    (fun s => (s.id, s.sourceUri, s.sourceRevision, s.producer, s.capturedAt, ()))
    (fun (id, uri, revision, producer, capturedAt, ()) => ⟨id, uri, revision, producer, capturedAt⟩)

structure Declaration where
  id : Identifier
  subject : BehaviorEntityRef
  trace : RecordRef
deriving DecidableEq

instance : Model Declaration :=
  .record (.lit "kind" "declaration" <| .required "id" <| .required "subject" <|
      .required "trace" .nil)
    (fun d => (d.id, d.subject, d.trace, ())) (fun (id, subject, trace, ()) => ⟨id, subject, trace⟩)

structure ObservedFact where
  id : Identifier
  subject : BehaviorEntityRef
  assertion : FactAssertion
  trace : RecordRef
deriving DecidableEq

instance : Model ObservedFact :=
  .record (.lit "kind" "observed_fact" <| .required "id" <| .required "subject" <|
      .required "assertion" <| .required "trace" .nil)
    (fun o => (o.id, o.subject, o.assertion, o.trace, ()))
    (fun (id, subject, assertion, trace, ()) => ⟨id, subject, assertion, trace⟩)

/-- The subjects of a candidate mapping, at least two. -/
abbrev CandidateSubjects : Type := { refs : List RecordRef // 2 ≤ refs.length }

instance : Model CandidateSubjects :=
  .refine "too_short" fun refs : List RecordRef => 2 ≤ refs.length

structure BehaviorCandidate where
  id : Identifier
  subjects : CandidateSubjects
  confidence : Confidence
  trace : RecordRef
deriving DecidableEq

instance : Model BehaviorCandidate :=
  .record (.lit "kind" "behavior_candidate" <| .required "id" <|
      .lit "candidate_type" "mapping" <| .required "subjects" <| .required "confidence" <|
      .required "trace" .nil)
    (fun c => (c.id, c.subjects, c.confidence, c.trace, ()))
    (fun (id, subjects, confidence, trace, ()) => ⟨id, subjects, confidence, trace⟩)

/-- How a mapping was decided. -/
inductive MappingDisposition where
  | match_
  | conflict
deriving DecidableEq, Repr

def MappingDisposition.value : MappingDisposition → String
  | match_ => "match"
  | conflict => "conflict"

instance : Model MappingDisposition := .enum [.match_, .conflict] MappingDisposition.value

structure TrustMapping where
  id : Identifier
  declaration : RecordRef
  observation : RecordRef
  disposition : MappingDisposition
  trace : RecordRef
deriving DecidableEq

instance : Model TrustMapping :=
  .record (.lit "kind" "mapping" <| .required "id" <| .required "declaration" <|
      .required "observation" <| .lit "relationship" "same-behavior-slot" <|
      .required "disposition" <| .required "trace" .nil)
    (fun m => (m.id, m.declaration, m.observation, m.disposition, m.trace, ()))
    (fun (id, declaration, observation, disposition, trace, ()) =>
      ⟨id, declaration, observation, disposition, trace⟩)

structure ObservedClaimBasis where
  fact : RecordRef
deriving DecidableEq

instance : Model ObservedClaimBasis :=
  .record (.lit "kind" "observed_claim_basis" <| .required "fact" .nil)
    (fun b => (b.fact, ())) (fun (fact, ()) => ⟨fact⟩)

structure DeclaredClaimBasis where
  declaration : RecordRef
deriving DecidableEq

instance : Model DeclaredClaimBasis :=
  .record (.lit "kind" "declared_claim_basis" <| .required "declaration" .nil)
    (fun b => (b.declaration, ())) (fun (declaration, ()) => ⟨declaration⟩)

structure MappedClaimBasis where
  mapping : RecordRef
deriving DecidableEq

instance : Model MappedClaimBasis :=
  .record (.lit "kind" "mapped_claim_basis" <| .required "mapping" .nil)
    (fun b => (b.mapping, ())) (fun (mapping, ()) => ⟨mapping⟩)

inductive EvidenceRef where
  | behavior (reference : BehaviorEntityRef)
  | record (reference : RecordRef)
deriving DecidableEq

instance : Model EvidenceRef :=
  .oneOf (.variant "behavior_entity_ref" <| .variant "record_ref" .nil)
    (fun
      | .behavior r => .inl r
      | .record r => .inr (.inl r))
    (fun
      | .inl r => .behavior r
      | .inr (.inl r) => .record r)

structure TestedClaimBasis where
  evidence : EvidenceRef
  artifact : RecordRef
  check : Check
  environment : Digest
  producer : Producer
deriving DecidableEq

instance : Model TestedClaimBasis :=
  .record (.lit "kind" "tested_claim_basis" <| .required "evidence" <| .required "artifact" <|
      .required "check" <| .required "environment" <| .required "producer" .nil)
    (fun b => (b.evidence, b.artifact, b.check, b.environment, b.producer, ()))
    (fun (evidence, artifact, check, environment, producer, ()) =>
      ⟨evidence, artifact, check, environment, producer⟩)

structure VerifiedClaimBasis where
deriving DecidableEq

instance : Model VerifiedClaimBasis :=
  .record (.lit "kind" "verified_claim_basis" .nil) (fun _ => ()) (fun () => ⟨⟩)

inductive ClaimBasis where
  | observed (basis : ObservedClaimBasis)
  | declared (basis : DeclaredClaimBasis)
  | mapped (basis : MappedClaimBasis)
  | tested (basis : TestedClaimBasis)
  | verified (basis : VerifiedClaimBasis)
deriving DecidableEq

instance : Model ClaimBasis :=
  .oneOf (.variant "observed_claim_basis" <| .variant "declared_claim_basis" <|
      .variant "mapped_claim_basis" <| .variant "tested_claim_basis" <|
      .variant "verified_claim_basis" .nil)
    (fun
      | .observed b => .inl b
      | .declared b => .inr (.inl b)
      | .mapped b => .inr (.inr (.inl b))
      | .tested b => .inr (.inr (.inr (.inl b)))
      | .verified b => .inr (.inr (.inr (.inr (.inl b)))))
    (fun
      | .inl b => .observed b
      | .inr (.inl b) => .declared b
      | .inr (.inr (.inl b)) => .mapped b
      | .inr (.inr (.inr (.inl b))) => .tested b
      | .inr (.inr (.inr (.inr (.inl b)))) => .verified b)

structure Claim where
  id : Identifier
  level : ClaimLevel
  subject : BehaviorEntityRef
  basis : ClaimBasis
  trace : RecordRef
deriving DecidableEq

instance : Model Claim :=
  .record (.lit "kind" "claim" <| .required "id" <| .required "level" <| .required "subject" <|
      .required "basis" <| .required "trace" .nil)
    (fun c => (c.id, c.level, c.subject, c.basis, c.trace, ()))
    (fun (id, level, subject, basis, trace, ()) => ⟨id, level, subject, basis, trace⟩)

inductive TrustRecord where
  | sourceRecord (record : SourceRecord)
  | declaration (record : Declaration)
  | observedFact (record : ObservedFact)
  | behaviorCandidate (record : BehaviorCandidate)
  | mapping (record : TrustMapping)
  | claim (record : Claim)
deriving DecidableEq

instance : Model TrustRecord :=
  .oneOf (.variant "source_record" <| .variant "declaration" <| .variant "observed_fact" <|
      .variant "behavior_candidate" <| .variant "mapping" <| .variant "claim" .nil)
    (fun
      | .sourceRecord r => .inl r
      | .declaration r => .inr (.inl r)
      | .observedFact r => .inr (.inr (.inl r))
      | .behaviorCandidate r => .inr (.inr (.inr (.inl r)))
      | .mapping r => .inr (.inr (.inr (.inr (.inl r))))
      | .claim r => .inr (.inr (.inr (.inr (.inr (.inl r))))))
    (fun
      | .inl r => .sourceRecord r
      | .inr (.inl r) => .declaration r
      | .inr (.inr (.inl r)) => .observedFact r
      | .inr (.inr (.inr (.inl r))) => .behaviorCandidate r
      | .inr (.inr (.inr (.inr (.inl r)))) => .mapping r
      | .inr (.inr (.inr (.inr (.inr (.inl r))))) => .claim r)

structure TrustIR where
  documentId : Identifier
  subjectDocument : BehaviorDocumentRef
  records : List TrustRecord
deriving DecidableEq

instance : Model TrustIR :=
  .record (.lit "kind" "trust_ir" <| .lit "trust_ir_version" currentTrustIrVersion <|
      .required "document_id" <| .required "subject_document" <| .required "records" .nil)
    (fun t => (t.documentId, t.subjectDocument, t.records, ()))
    (fun (id, subject, records, ()) => ⟨id, subject, records⟩)

end Ucf
