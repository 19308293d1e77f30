import Ucf.Onboarding.Bundle

/-! The coordinates that both ratchet profiles share: references to documents, behavior subjects,
rules, violations and their identities. -/

namespace Ucf

def ratchetEvaluatorCapability : String := "org.ucf.ratchet.baseline"

def maxRatchetRules : Nat := 256

abbrev PolicyId : Type := ContentId "policy"

abbrev AssessmentId : Type := ContentId "assessment"

abbrev BaselineId : Type := ContentId "baseline"

abbrev EvaluationId : Type := ContentId "evaluation"

abbrev BehaviorSubjectId : Type := ContentId "subject"

abbrev ViolationId : Type := ContentId "violation"

/-- The digest `"0" * 64` that a document carries until its identifier is derived. -/
def zeroDigest : DigestValue := ⟨0, digestBound_pos⟩

/-- `_require_unique_and_sorted`, with the exceptions of the profile that calls it. -/
def requireUniqueAndSorted {κ : Type} [LinearOrder κ]
    (error : RatchetErrorCode → String → String → PyError) (values : List κ)
    (location label : String) : Except PyError Unit := do
  require values.Nodup (error .duplicateIdentity (label ++ " must be unique") location)
  require (values = sortedBy id values)
    (error .nonCanonicalOrder (label ++ " must be in canonical order") location)

@[simp] theorem requireUniqueAndSorted_eq_ok {κ : Type} [LinearOrder κ]
    {error : RatchetErrorCode → String → String → PyError} {values : List κ}
    {location label : String} {u : Unit} :
    requireUniqueAndSorted error values location label = .ok u ↔ values.Pairwise (· < ·) := by
  simp [requireUniqueAndSorted, ← nodup_and_eq_sortedBy_iff]

/-! ### References to documents -/

/-- `{"kind": ..., "schema_uri": ..., "schema_version": ..., "target_id": ..., ...}` -/
structure DocumentRef (kind schemaUri version tag : String) where
  targetId : ContentId tag
  canonicalDigest : Digest
deriving DecidableEq

instance (kind schemaUri version tag : String) : Model (DocumentRef kind schemaUri version tag) :=
  .record (.lit "kind" kind <| .lit "schema_uri" schemaUri <| .lit "schema_version" version <|
      .required "target_id" <| .required "canonical_digest" .nil)
    (fun r => (r.targetId, r.canonicalDigest, ())) (fun (id, digest, ()) => ⟨id, digest⟩)

/-- `RatchetBaselineRef`, a reference to a baseline with its generation. -/
structure BaselineRef (schemaUri version : String) where
  targetId : BaselineId
  canonicalDigest : Digest
  generation : SafeNat 0
deriving DecidableEq

instance (schemaUri version : String) : Model (BaselineRef schemaUri version) :=
  .record (.lit "kind" "ratchet_baseline_ref" <| .lit "schema_uri" schemaUri <|
      .lit "schema_version" version <| .required "target_id" <|
      .required "canonical_digest" <| .required "generation" .nil)
    (fun r => (r.targetId, r.canonicalDigest, r.generation, ()))
    (fun (id, digest, generation, ()) => ⟨id, digest, generation⟩)

structure OnboardingBundleRef where
  canonicalDigest : Digest
deriving DecidableEq

instance : Model OnboardingBundleRef :=
  .record (.lit "kind" "onboarding_bundle_ref" <| .lit "schema_uri" onboardingBundleSchemaUri <|
      .lit "schema_version" onboardingVersion <| .required "canonical_digest" .nil)
    (fun r => (r.canonicalDigest, ())) (fun (digest, ()) => ⟨digest⟩)

/-! ### Rules and subjects -/

structure RatchetRule where
  id : Identifier
  version : NormalizedVersion
  procedureUri : ProcedureURI
  producer : Producer
  summary : ShortText
deriving DecidableEq

instance : Model RatchetRule :=
  .record (.lit "kind" "ratchet_rule" <| .required "id" <| .required "version" <|
      .required "procedure_uri" <| .required "producer" <| .required "summary" .nil)
    (fun r => (r.id, r.version, r.procedureUri, r.producer, r.summary, ()))
    (fun (id, version, uri, producer, summary, ()) => ⟨id, version, uri, producer, summary⟩)

structure RatchetRuleRef where
  targetId : Identifier
  version : NormalizedVersion
deriving DecidableEq

instance : Model RatchetRuleRef :=
  .record (.lit "kind" "ratchet_rule_ref" <| .required "target_id" <| .required "version" .nil)
    (fun r => (r.targetId, r.version, ())) (fun (id, version, ()) => ⟨id, version⟩)

/-- `_rule_ref` -/
def ruleRef (rule : RatchetRule) : RatchetRuleRef := ⟨rule.id, rule.version⟩

structure BehaviorSubjectKey where
  subjectUri : URI
  targetKind : EntityKind
  targetId : Identifier
deriving DecidableEq

instance : Model BehaviorSubjectKey :=
  .record (.lit "kind" "behavior_subject_key" <| .required "subject_uri" <|
      .required "target_kind" <| .required "target_id" .nil)
    (fun k => (k.subjectUri, k.targetKind, k.targetId, ()))
    (fun (uri, kind, id, ()) => ⟨uri, kind, id⟩)

structure BehaviorSubjectRef where
  targetId : BehaviorSubjectId
deriving DecidableEq

instance : Model BehaviorSubjectRef :=
  .record (.lit "kind" "behavior_subject_ref" <| .required "target_id" .nil)
    (fun r => (r.targetId, ())) (fun (id, ()) => ⟨id⟩)

/-- A digest with the name of the algorithm that derives it. -/
structure Fingerprint (kind algorithmUri : String) where
  digest : Digest
deriving DecidableEq

instance (kind algorithmUri : String) : Model (Fingerprint kind algorithmUri) :=
  .record (.lit "kind" kind <| .lit "algorithm_uri" algorithmUri <| .required "digest" .nil)
    (fun f => (f.digest, ())) (fun (digest, ()) => ⟨digest⟩)

/-- Where a behavior subject comes from. -/
structure SubjectTrace (kind : String) where
  onboardingBundle : OnboardingBundleRef
  behavior : BehaviorEntityRef
  inventorySourceRevision : Digest
  candidate : CandidateRef
  decisionId : DecisionId
deriving DecidableEq

instance (kind : String) : Model (SubjectTrace kind) :=
  .record (.lit "kind" kind <| .required "onboarding_bundle" <| .required "behavior" <|
      .required "inventory_source_revision" <| .required "candidate" <|
      .required "decision_id" .nil)
    (fun t => (t.onboardingBundle, t.behavior, t.inventorySourceRevision, t.candidate,
      t.decisionId, ()))
    (fun (bundle, behavior, revision, candidate, id, ()) =>
      ⟨bundle, behavior, revision, candidate, id⟩)

/-- A behavior subject with its fingerprints, of types `σ` and `ο`, and a trace of type `τ`. -/
structure SubjectSnapshot (σ ο τ : Type) where
  id : BehaviorSubjectId
  key : BehaviorSubjectKey
  semantic : σ
  observed : ο
  trace : τ
deriving DecidableEq

instance {σ ο τ : Type} [Model σ] [Model ο] [Model τ] : Model (SubjectSnapshot σ ο τ) :=
  .record (.lit "kind" "behavior_subject_snapshot" <| .required "id" <| .required "key" <|
      .required "semantic" <| .required "observed" <| .required "trace" .nil)
    (fun s => (s.id, s.key, s.semantic, s.observed, s.trace, ()))
    (fun (id, key, semantic, observed, trace, ()) => ⟨id, key, semantic, observed, trace⟩)

/-- The key by which subjects are sorted. -/
def behaviorSubjectOrder (key : BehaviorSubjectKey) : String ×ₗ String ×ₗ String :=
  toLex (key.subjectUri.val, toLex (key.targetKind.value, key.targetId.val))

/-! ### Violations -/

structure ViolationKey where
  rule : RatchetRuleRef
  subject : BehaviorSubjectRef
  slot : Identifier
deriving DecidableEq

instance : Model ViolationKey :=
  .record (.lit "kind" "violation_key" <| .required "rule" <| .required "subject" <|
      .required "slot" .nil)
    (fun k => (k.rule, k.subject, k.slot, ())) (fun (rule, subject, slot, ()) =>
      ⟨rule, subject, slot⟩)

structure RatchetViolation where
  id : ViolationId
  key : ViolationKey
  message : ShortText
deriving DecidableEq

instance : Model RatchetViolation :=
  .record (.lit "kind" "ratchet_violation" <| .required "id" <| .required "key" <|
      .required "message" .nil)
    (fun v => (v.id, v.key, v.message, ())) (fun (id, key, message, ()) => ⟨id, key, message⟩)

structure ViolationInput where
  ruleId : Identifier
  subject : BehaviorSubjectKey
  slot : Identifier
  message : ShortText
deriving DecidableEq

/-- What a rule examined: all subjects or some of them. -/
structure RuleCoverage (limit : Nat) where
  rule : RatchetRuleRef
  status : CoverageStatus
  subjects : Tuple 0 limit BehaviorSubjectRef
deriving DecidableEq

instance (limit : Nat) : Model (RuleCoverage limit) :=
  .record (.lit "kind" "ratchet_rule_coverage" <| .required "rule" <| .required "status" <|
      .required "subjects" .nil)
    (fun c => (c.rule, c.status, c.subjects, ())) (fun (rule, status, subjects, ()) =>
      ⟨rule, status, subjects⟩)

/-! ### Classifications -/

inductive ViolationClassificationKind where
  | unchangedLegacy
  | newRegression
  | touchedLegacy
  | reintroduced
  | resolved
  | unknown
deriving DecidableEq, Repr

namespace ViolationClassificationKind

def value : ViolationClassificationKind → String
  | unchangedLegacy => "unchanged_legacy"
  | newRegression => "new_regression"
  | touchedLegacy => "touched_legacy"
  | reintroduced => "reintroduced"
  | resolved => "resolved"
  | unknown => "unknown"

/-- `_REGRESSIONS` and `_BEHAVIOR_REGRESSIONS` -/
def isRegression : ViolationClassificationKind → Bool
  | newRegression | reintroduced | touchedLegacy => true
  | _ => false

end ViolationClassificationKind

instance : Model ViolationClassificationKind :=
  .enum [.unchangedLegacy, .newRegression, .touchedLegacy, .reintroduced, .resolved, .unknown]
    ViolationClassificationKind.value

structure ViolationClassification where
  classification : ViolationClassificationKind
  key : ViolationKey
deriving DecidableEq

instance : Model ViolationClassification :=
  .record (.lit "kind" "ratchet_violation_classification" <| .required "classification" <|
      .required "key" .nil)
    (fun c => (c.classification, c.key, ())) (fun (kind, key, ()) => ⟨kind, key⟩)

/-- The keys that a list of classifications gives a kind among `kinds`, in order. -/
def keysClassified (classifications : List ViolationClassification)
    (kinds : ViolationClassificationKind → Bool) : List ViolationKey :=
  (classifications.filter fun item => kinds item.classification).map fun item => item.key

inductive WeakeningDeltaStatus where
  | none
  | tightening
  | reviewRequired
deriving DecidableEq, Repr

def WeakeningDeltaStatus.value : WeakeningDeltaStatus → String
  | none => "none"
  | tightening => "tightening"
  | reviewRequired => "review_required"

instance : Model WeakeningDeltaStatus :=
  .enum [.none, .tightening, .reviewRequired] WeakeningDeltaStatus.value

/-- The outcome of an evaluation: `EvaluationOutcome` and `BehaviorOutcome`. -/
inductive BehaviorOutcome where
  | pass
  | fail
  | inconclusive
deriving DecidableEq, Repr

def BehaviorOutcome.value : BehaviorOutcome → String
  | pass => "pass"
  | fail => "fail"
  | inconclusive => "inconclusive"

instance : Model BehaviorOutcome := .enum [.pass, .fail, .inconclusive] BehaviorOutcome.value

/-- How a behavior subject differs from the baseline: `SubjectChangeKind` and
`BehaviorSubjectChangeKind`. -/
inductive BehaviorSubjectChangeKind where
  | unchanged
  | semanticChanged
  | observedChanged
  | semanticAndObservedChanged
  | newSubject
  | removedSubject
  | unknownSubject
deriving DecidableEq, Repr

def BehaviorSubjectChangeKind.value : BehaviorSubjectChangeKind → String
  | unchanged => "unchanged"
  | semanticChanged => "semantic_changed"
  | observedChanged => "observed_changed"
  | semanticAndObservedChanged => "semantic_and_observed_changed"
  | newSubject => "new_subject"
  | removedSubject => "removed_subject"
  | unknownSubject => "unknown_subject"

instance : Model BehaviorSubjectChangeKind :=
  .enum [.unchanged, .semanticChanged, .observedChanged, .semanticAndObservedChanged,
    .newSubject, .removedSubject, .unknownSubject] BehaviorSubjectChangeKind.value

/-- The change of one behavior subject. -/
structure SubjectChange (kind : String) where
  subject : BehaviorSubjectRef
  change : BehaviorSubjectChangeKind
deriving DecidableEq

instance (kind : String) : Model (SubjectChange kind) :=
  .record (.lit "kind" kind <| .required "subject" <| .required "change" .nil)
    (fun c => (c.subject, c.change, ())) (fun (subject, change, ()) => ⟨subject, change⟩)

end Ucf
