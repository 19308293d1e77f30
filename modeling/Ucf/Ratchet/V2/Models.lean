import Ucf.Ratchet.V1.Models

/-! Ratchet profile 2.0.0: assessments with a behavior and a coverage ledger, baselines with what
each ledger allows and protects, and evaluation reports. -/

namespace Ucf.V2

def ratchetVersion : String := "2.0.0"

def ratchetPolicySchemaUri : String := "urn:ucf:ratchet:policy:2.0.0"

def ratchetAssessmentSchemaUri : String := "urn:ucf:ratchet:assessment:2.0.0"

def ratchetBaselineSchemaUri : String := "urn:ucf:ratchet:baseline:2.0.0"

def ratchetEvaluationReportSchemaUri : String := "urn:ucf:ratchet:evaluation-report:2.0.0"

def ratchetEvaluationProcedureUri : String := "urn:ucf:ratchet:evaluate:2.0.0"

def maxRatchetSubjects : Nat := 10000

def maxRatchetViolations : Nat := 100000

abbrev CoverageQualificationId : Type := ContentId "domain"

abbrev CoverageSubjectId : Type := ContentId "coverage"

abbrev CoverageDebtId : Type := ContentId "debt"

abbrev RatchetPolicyRef : Type :=
  DocumentRef "ratchet_policy_ref" ratchetPolicySchemaUri ratchetVersion "policy"

abbrev RatchetAssessmentRef : Type :=
  DocumentRef "ratchet_assessment_ref" ratchetAssessmentSchemaUri ratchetVersion "assessment"

abbrev RatchetBaselineRef : Type := BaselineRef ratchetBaselineSchemaUri ratchetVersion

abbrev RatchetEvaluationReportRef : Type :=
  DocumentRef "ratchet_evaluation_report_ref" ratchetEvaluationReportSchemaUri ratchetVersion
    "evaluation"

abbrev BehaviorSemanticFingerprint : Type :=
  Fingerprint "behavior_semantic_fingerprint" "urn:ucf:ratchet:fingerprint:behavior-subject:2.0.0"

abbrev BehaviorObservedFingerprint : Type :=
  Fingerprint "behavior_observed_fingerprint" "urn:ucf:ratchet:fingerprint:observed-subject:2.0.0"

abbrev BehaviorSubjectTrace : Type := SubjectTrace "ratchet_behavior_subject_trace"

abbrev BehaviorSubjectSnapshot : Type :=
  SubjectSnapshot BehaviorSemanticFingerprint BehaviorObservedFingerprint BehaviorSubjectTrace

abbrev CoverageSemanticFingerprint : Type :=
  Fingerprint "coverage_semantic_fingerprint" "urn:ucf:ratchet:fingerprint:coverage-semantic:2.0.0"

abbrev CoverageObservedFingerprint : Type :=
  Fingerprint "coverage_observed_fingerprint" "urn:ucf:ratchet:fingerprint:coverage-observed:2.0.0"

/-! ### Policies -/

/-- The evaluator that every policy of this profile selects. -/
structure RatchetEvaluatorSelection where
deriving DecidableEq

instance : Model RatchetEvaluatorSelection :=
  .record (.lit "kind" "capability" <| .lit "name" ratchetEvaluatorCapability <|
      .lit "version" ratchetVersion .nil) (fun _ => ()) (fun () => ⟨⟩)

structure RatchetPolicy where
  id : PolicyId
  evaluator : RatchetEvaluatorSelection
  rules : Tuple 1 maxRatchetRules RatchetRule
deriving DecidableEq

instance : Model RatchetPolicy :=
  .record (.lit "kind" "ratchet_policy" <| .lit "ratchet_version" ratchetVersion <|
      .lit "schema_uri" ratchetPolicySchemaUri <| .required "id" <| .required "evaluator" <|
      .required "rules" .nil)
    (fun p => (p.id, p.evaluator, p.rules, ())) (fun (id, evaluator, rules, ()) =>
      ⟨id, evaluator, rules⟩)

/-! ### Behavior ledgers -/

structure BehaviorAssessmentLedger where
  subjects : Tuple 0 maxRatchetSubjects BehaviorSubjectSnapshot
  coverage : Tuple 0 maxRatchetRules (RuleCoverage maxRatchetSubjects)
  violations : Tuple 0 maxRatchetViolations RatchetViolation
deriving DecidableEq

instance : Model BehaviorAssessmentLedger :=
  .record (.lit "kind" "ratchet_behavior_assessment" <| .required "subjects" <|
      .required "coverage" <| .required "violations" .nil)
    (fun l => (l.subjects, l.coverage, l.violations, ()))
    (fun (subjects, coverage, violations, ()) => ⟨subjects, coverage, violations⟩)

structure BehaviorBaselineLedger where
  subjects : Tuple 0 maxRatchetSubjects BehaviorSubjectSnapshot
  allowances : Tuple 0 maxRatchetViolations ViolationKey
  protectedKeys : Tuple 0 maxRatchetViolations ViolationKey
deriving DecidableEq

instance : Model BehaviorBaselineLedger :=
  .record (.lit "kind" "ratchet_behavior_baseline" <| .required "subjects" <|
      .required "allowances" <| .required "protected" .nil)
    (fun l => (l.subjects, l.allowances, l.protectedKeys, ()))
    (fun (subjects, allowances, protectedKeys, ()) => ⟨subjects, allowances, protectedKeys⟩)

/-! ### Coverage ledgers -/

structure CoverageQualification where
  id : CoverageQualificationId
  subjectUri : URI
  inventoryProducer : Producer
  inventoryCapability : CapabilitySelection
  inventoryIgnorePolicyDigest : Digest
  inventoryProcedureUris : List URI
  discoveryProducer : Producer
  discoveryCapability : CapabilitySelection
  discoveryProcedureUri : URI
deriving DecidableEq

instance : Model CoverageQualification :=
  .record (.lit "kind" "coverage_qualification" <| .required "id" <|
      .lit "algorithm_uri" "urn:ucf:ratchet:coverage-qualification:2.0.0" <|
      .required "subject_uri" <| .lit "inventory_schema_uri" inventorySchemaUri <|
      .lit "inventory_version" inventoryVersion <| .required "inventory_producer" <|
      .required "inventory_capability" <| .lit "inventory_path_identity" pathIdentity <|
      .required "inventory_ignore_policy_digest" <| .required "inventory_procedure_uris" <|
      .lit "discovery_schema_uri" discoveryResultSchemaUri <|
      .lit "discovery_version" onboardingVersion <| .required "discovery_producer" <|
      .required "discovery_capability" <| .required "discovery_procedure_uri" <|
      .lit "subject_key_algorithm_uri" "urn:ucf:ratchet:coverage-subject-key:2.0.0" <|
      .lit "reconciliation_algorithm_uri" "urn:ucf:ratchet:coverage-reconciliation:2.0.0" <|
      .lit "semantic_fingerprint_algorithm_uri"
        "urn:ucf:ratchet:fingerprint:coverage-semantic:2.0.0" <|
      .lit "observed_fingerprint_algorithm_uri"
        "urn:ucf:ratchet:fingerprint:coverage-observed:2.0.0" .nil)
    (fun q => (q.id, q.subjectUri, q.inventoryProducer, q.inventoryCapability,
      q.inventoryIgnorePolicyDigest, q.inventoryProcedureUris, q.discoveryProducer,
      q.discoveryCapability, q.discoveryProcedureUri, ()))
    (fun (id, subject, iProducer, iCapability, digest, uris, producer, capability, uri, ()) =>
      ⟨id, subject, iProducer, iCapability, digest, uris, producer, capability, uri⟩)

structure CoverageSubjectKey where
  subjectUri : URI
  interfaceKindUri : URI
  container : Option ShortText
  name : ShortText
deriving DecidableEq

instance : Model CoverageSubjectKey :=
  .record (.lit "kind" "coverage_subject_key" <| .required "subject_uri" <|
      .lit "target_kind" "public_interface" <| .required "interface_kind_uri" <|
      .nullable "container" <| .required "name" .nil)
    (fun k => (k.subjectUri, k.interfaceKindUri, k.container, k.name, ()))
    (fun (uri, kind, container, name, ()) => ⟨uri, kind, container, name⟩)

structure CoverageSubjectRef where
  targetId : CoverageSubjectId
deriving DecidableEq

instance : Model CoverageSubjectRef :=
  .record (.lit "kind" "coverage_subject_ref" <| .required "target_id" .nil)
    (fun r => (r.targetId, ())) (fun (id, ()) => ⟨id⟩)

structure CoverageReconciliationTrace where
  candidate : CandidateRef
  decisionId : DecisionId
deriving DecidableEq

instance : Model CoverageReconciliationTrace :=
  .record (.lit "kind" "coverage_reconciliation_trace" <| .required "candidate" <|
      .required "decision_id" .nil)
    (fun t => (t.candidate, t.decisionId, ())) (fun (candidate, id, ()) => ⟨candidate, id⟩)

structure CoverageReconciliationSnapshot where
  disposition : DispositionKind
  candidateSemanticDigest : Digest
  replacementSemanticDigest : Option Digest
  semantic : CoverageSemanticFingerprint
  observed : CoverageObservedFingerprint
  trace : CoverageReconciliationTrace
  validReplacement : disposition = .edited ↔ replacementSemanticDigest ≠ none
deriving DecidableEq

instance : Model CoverageReconciliationSnapshot :=
  .recordWhere (.lit "kind" "coverage_reconciliation_snapshot" <| .required "disposition" <|
      .required "candidate_semantic_digest" <| .nullable "replacement_semantic_digest" <|
      .required "semantic" <| .required "observed" <| .required "trace" .nil)
    (fun (disposition, _, replacement, _, _, _, ()) => disposition = .edited ↔ replacement ≠ none)
    (fun r => ⟨(r.disposition, r.candidateSemanticDigest, r.replacementSemanticDigest, r.semantic,
      r.observed, r.trace, ()), r.validReplacement⟩)
    (fun ⟨(disposition, digest, replacement, semantic, observed, trace, ()), h⟩ =>
      ⟨disposition, digest, replacement, semantic, observed, trace, h⟩)

inductive CoverageSubjectState where
  | uncovered
  | reconciled
deriving DecidableEq, Repr

def CoverageSubjectState.value : CoverageSubjectState → String
  | uncovered => "uncovered"
  | reconciled => "reconciled"

instance : Model CoverageSubjectState := .enum [.uncovered, .reconciled] CoverageSubjectState.value

structure CoverageSubjectTrace where
  onboardingBundle : OnboardingBundleRef
  inventorySourceRevision : Digest
  interface : InventoryRecordRef
deriving DecidableEq

instance : Model CoverageSubjectTrace :=
  .record (.lit "kind" "coverage_subject_trace" <| .required "onboarding_bundle" <|
      .required "inventory_source_revision" <| .required "interface" .nil)
    (fun t => (t.onboardingBundle, t.inventorySourceRevision, t.interface, ()))
    (fun (bundle, revision, interface, ()) => ⟨bundle, revision, interface⟩)

structure CoverageSubjectGroup where
  id : CoverageSubjectId
  key : CoverageSubjectKey
  state : CoverageSubjectState
  semantic : CoverageSemanticFingerprint
  observed : CoverageObservedFingerprint
  reconciliations : Tuple 0 maxRatchetSubjects CoverageReconciliationSnapshot
  trace : CoverageSubjectTrace
  validState : state = .uncovered ↔ reconciliations.items = []
deriving DecidableEq

instance : Model CoverageSubjectGroup :=
  .recordWhere (.lit "kind" "coverage_subject_group" <| .required "id" <| .required "key" <|
      .required "state" <| .required "semantic" <| .required "observed" <|
      .required "reconciliations" <| .required "trace" .nil)
    (fun (_, _, state, _, _, reconciliations, _, ()) =>
      state = .uncovered ↔ reconciliations.items = [])
    (fun g => ⟨(g.id, g.key, g.state, g.semantic, g.observed, g.reconciliations, g.trace, ()),
      g.validState⟩)
    (fun ⟨(id, key, state, semantic, observed, reconciliations, trace, ()), h⟩ =>
      ⟨id, key, state, semantic, observed, reconciliations, trace, h⟩)

inductive CoverageDebtKind where
  | uncovered
  | uncertain
deriving DecidableEq, Repr

def CoverageDebtKind.value : CoverageDebtKind → String
  | uncovered => "uncovered"
  | uncertain => "uncertain"

instance : Model CoverageDebtKind := .enum [.uncovered, .uncertain] CoverageDebtKind.value

structure CoverageDebtKey where
  debtKind : CoverageDebtKind
  subject : CoverageSubjectRef
  candidateSemanticDigest : Option Digest
  validCandidate : debtKind = .uncertain ↔ candidateSemanticDigest ≠ none
deriving DecidableEq

instance : Model CoverageDebtKey :=
  .recordWhere (.lit "kind" "coverage_debt_key" <| .required "debt_kind" <|
      .required "subject" <| .nullable "candidate_semantic_digest" .nil)
    (fun (kind, _, digest, ()) => kind = .uncertain ↔ digest ≠ none)
    (fun k => ⟨(k.debtKind, k.subject, k.candidateSemanticDigest, ()), k.validCandidate⟩)
    (fun ⟨(kind, subject, digest, ()), h⟩ => ⟨kind, subject, digest, h⟩)

structure CoverageDebtSnapshot where
  id : CoverageDebtId
  key : CoverageDebtKey
  semantic : CoverageSemanticFingerprint
  observed : CoverageObservedFingerprint
  subjectTrace : CoverageSubjectTrace
  reconciliationTrace : Option CoverageReconciliationTrace
  validTrace : key.debtKind = .uncertain ↔ reconciliationTrace ≠ none
deriving DecidableEq

instance : Model CoverageDebtSnapshot :=
  .recordWhere (.lit "kind" "coverage_debt_snapshot" <| .required "id" <| .required "key" <|
      .required "semantic" <| .required "observed" <| .required "subject_trace" <|
      .nullable "reconciliation_trace" .nil)
    (fun (_, key, _, _, _, trace, ()) => (key : CoverageDebtKey).debtKind = .uncertain ↔ trace ≠ none)
    (fun d => ⟨(d.id, d.key, d.semantic, d.observed, d.subjectTrace, d.reconciliationTrace, ()),
      d.validTrace⟩)
    (fun ⟨(id, key, semantic, observed, subject, reconciliation, ()), h⟩ =>
      ⟨id, key, semantic, observed, subject, reconciliation, h⟩)

structure CoverageAssessmentLedger where
  qualification : CoverageQualification
  inventoryCoverage : CoverageStatus
  discoveryCoverage : CoverageStatus
  groups : Tuple 0 maxRatchetSubjects CoverageSubjectGroup
  debts : Tuple 0 maxRatchetSubjects CoverageDebtSnapshot
deriving DecidableEq

instance : Model CoverageAssessmentLedger :=
  .record (.lit "kind" "ratchet_coverage_assessment" <| .required "qualification" <|
      .required "inventory_coverage" <| .required "discovery_coverage" <|
      .required "groups" <| .required "debts" .nil)
    (fun l => (l.qualification, l.inventoryCoverage, l.discoveryCoverage, l.groups, l.debts, ()))
    (fun (qualification, inventory, discovery, groups, debts, ()) =>
      ⟨qualification, inventory, discovery, groups, debts⟩)

structure CoverageBaselineLedger where
  qualification : CoverageQualification
  groups : Tuple 0 maxRatchetSubjects CoverageSubjectGroup
  allowances : Tuple 0 maxRatchetSubjects CoverageDebtSnapshot
  protectedKeys : Tuple 0 maxRatchetSubjects CoverageDebtKey
deriving DecidableEq

instance : Model CoverageBaselineLedger :=
  .record (.lit "kind" "ratchet_coverage_baseline" <| .required "qualification" <|
      .required "groups" <| .required "allowances" <| .required "protected" .nil)
    (fun l => (l.qualification, l.groups, l.allowances, l.protectedKeys, ()))
    (fun (qualification, groups, allowances, protectedKeys, ()) =>
      ⟨qualification, groups, allowances, protectedKeys⟩)

/-! ### Assessments -/

structure RatchetAssessment where
  id : AssessmentId
  policy : RatchetPolicyRef
  source : OnboardingBundleRef
  producer : Producer
  procedureUri : ProcedureURI
  captureContext : CaptureContext
  behavior : BehaviorAssessmentLedger
  coverage : CoverageAssessmentLedger
deriving DecidableEq

instance : Model RatchetAssessment :=
  .record (.lit "kind" "ratchet_assessment" <| .lit "ratchet_version" ratchetVersion <|
      .lit "schema_uri" ratchetAssessmentSchemaUri <| .required "id" <| .required "policy" <|
      .required "source" <| .required "producer" <| .required "procedure_uri" <|
      .required "capture_context" <| .required "behavior" <| .required "coverage" .nil)
    (fun a => (a.id, a.policy, a.source, a.producer, a.procedureUri, a.captureContext, a.behavior,
      a.coverage, ()))
    (fun (id, policy, source, producer, uri, context, behavior, coverage, ()) =>
      ⟨id, policy, source, producer, uri, context, behavior, coverage⟩)

/-! ### Baselines -/

structure RatchetV1MigrationSource where
  policy : V1.RatchetPolicyRef
  baseline : V1.RatchetBaselineRef
  assessment : V1.RatchetAssessmentRef
  onboardingBundle : OnboardingBundleRef
deriving DecidableEq

instance : Model RatchetV1MigrationSource :=
  .record (.lit "kind" "ratchet_v1_migration_source" <| .required "policy" <|
      .required "baseline" <| .required "assessment" <| .required "onboarding_bundle" .nil)
    (fun s => (s.policy, s.baseline, s.assessment, s.onboardingBundle, ()))
    (fun (policy, baseline, assessment, bundle, ()) => ⟨policy, baseline, assessment, bundle⟩)

/-- `RatchetAssessmentRef | RatchetV1AssessmentRef` -/
inductive SourceAssessmentRef where
  | v2 (reference : RatchetAssessmentRef)
  | v1 (reference : V1.RatchetAssessmentRef)
deriving DecidableEq

theorem assessmentRef_not_same (r : RatchetAssessmentRef) (s : V1.RatchetAssessmentRef) :
    ¬(modelDump r).Same (modelDump s) := by
  intro h
  obtain ⟨value, hvalue, hsame⟩ := Json.Same.get? h rfl (by rw [Fields.names_dump]; simp) (show
    (modelDump s).get? "schema_uri" = some (.str V1.ratchetAssessmentSchemaUri) from rfl)
  have hr : (modelDump r).get? "schema_uri" = some (.str ratchetAssessmentSchemaUri) := rfl
  rw [hr, Option.some.injEq] at hvalue
  rw [← hvalue, Json.same_str] at hsame
  simp [ratchetAssessmentSchemaUri, V1.ratchetAssessmentSchemaUri] at hsame

instance : Model SourceAssessmentRef where
  schema := .iso (.union (Model.schema (α := RatchetAssessmentRef))
      (Model.schema (α := V1.RatchetAssessmentRef)) assessmentRef_not_same)
    (fun
      | .v2 r => .inl r
      | .v1 r => .inr r)
    (fun
      | .inl r => .v2 r
      | .inr r => .v1 r)
    (by rintro (_ | _) <;> rfl) (by rintro (_ | _) <;> rfl)
  notNull
    | .v2 r => Model.notNull r
    | .v1 r => Model.notNull r

inductive RatchetBaselineOrigin where
  | initial
  | successor
  | migratedV1
deriving DecidableEq, Repr

def RatchetBaselineOrigin.value : RatchetBaselineOrigin → String
  | initial => "initial"
  | successor => "successor"
  | migratedV1 => "migrated_v1"

instance : Model RatchetBaselineOrigin :=
  .enum [.initial, .successor, .migratedV1] RatchetBaselineOrigin.value

/-- The lineage of a baseline: where it comes from. -/
structure Lineage where
  origin : RatchetBaselineOrigin
  generation : SafeNat 0
  sourceAssessment : SourceAssessmentRef
  sourceEvaluation : Option RatchetEvaluationReportRef
  predecessor : Option RatchetBaselineRef
  migratedFrom : Option RatchetV1MigrationSource
deriving DecidableEq

/-- `RatchetBaseline.validate_origin` -/
def validOrigin (l : Lineage) : Prop :=
  match l.origin with
  | .initial => l.generation.val = 0 ∧ l.predecessor = none ∧ l.sourceEvaluation = none ∧
      l.migratedFrom = none ∧ (l.sourceAssessment matches .v2 _)
  | .migratedV1 => l.predecessor = none ∧ l.sourceEvaluation = none ∧
      (l.sourceAssessment matches .v1 _) ∧
      l.migratedFrom.map (fun source => source.baseline.generation) = some l.generation
  | .successor => l.sourceEvaluation ≠ none ∧ l.migratedFrom = none ∧
      (l.sourceAssessment matches .v2 _) ∧
      l.predecessor.map (fun p => p.generation.val + 1) = some l.generation.val

instance (l : Lineage) : Decidable (validOrigin l) := by
  unfold validOrigin
  split <;> infer_instance

structure RatchetBaseline where
  id : BaselineId
  origin : RatchetBaselineOrigin
  generation : SafeNat 0
  policy : RatchetPolicyRef
  sourceAssessment : SourceAssessmentRef
  sourceEvaluation : Option RatchetEvaluationReportRef
  predecessor : Option RatchetBaselineRef
  migratedFrom : Option RatchetV1MigrationSource
  behavior : BehaviorBaselineLedger
  coverage : CoverageBaselineLedger
  valid : validOrigin
    ⟨origin, generation, sourceAssessment, sourceEvaluation, predecessor, migratedFrom⟩
deriving DecidableEq

instance : Model RatchetBaseline :=
  .recordWhere (.lit "kind" "ratchet_baseline" <| .lit "ratchet_version" ratchetVersion <|
      .lit "schema_uri" ratchetBaselineSchemaUri <| .required "id" <| .required "origin" <|
      .required "generation" <| .required "policy" <| .required "source_assessment" <|
      .nullable "source_evaluation" <| .nullable "predecessor" <| .nullable "migrated_from" <|
      .required "behavior" <| .required "coverage" .nil)
    (fun (_, origin, generation, _, assessment, evaluation, predecessor, migrated, _, _, ()) =>
      validOrigin ⟨origin, generation, assessment, evaluation, predecessor, migrated⟩)
    (fun b => ⟨(b.id, b.origin, b.generation, b.policy, b.sourceAssessment, b.sourceEvaluation,
      b.predecessor, b.migratedFrom, b.behavior, b.coverage, ()), b.valid⟩)
    (fun ⟨(id, origin, generation, policy, assessment, evaluation, predecessor, migrated,
        behavior, coverage, ()), h⟩ =>
      ⟨id, origin, generation, policy, assessment, evaluation, predecessor, migrated, behavior,
        coverage, h⟩)

/-! ### Evaluation reports -/

abbrev BehaviorSubjectChange : Type := SubjectChange "ratchet_behavior_subject_change"

inductive CoverageSubjectChangeKind where
  | unchanged
  | semanticChanged
  | observedChanged
  | semanticAndObservedChanged
  | newSubject
  | unknownSubject
deriving DecidableEq, Repr

def CoverageSubjectChangeKind.value : CoverageSubjectChangeKind → String
  | unchanged => "unchanged"
  | semanticChanged => "semantic_changed"
  | observedChanged => "observed_changed"
  | semanticAndObservedChanged => "semantic_and_observed_changed"
  | newSubject => "new_subject"
  | unknownSubject => "unknown_subject"

instance : Model CoverageSubjectChangeKind :=
  .enum [.unchanged, .semanticChanged, .observedChanged, .semanticAndObservedChanged,
    .newSubject, .unknownSubject] CoverageSubjectChangeKind.value

structure CoverageSubjectChange where
  subject : CoverageSubjectRef
  change : CoverageSubjectChangeKind
deriving DecidableEq

instance : Model CoverageSubjectChange :=
  .record (.lit "kind" "ratchet_coverage_subject_change" <| .required "subject" <|
      .required "change" .nil)
    (fun c => (c.subject, c.change, ())) (fun (subject, change, ()) => ⟨subject, change⟩)

inductive CoverageDebtClassificationKind where
  | unchangedLegacy
  | newRegression
  | changedRegression
  | reintroduced
  | resolved
  | unknown
deriving DecidableEq, Repr

namespace CoverageDebtClassificationKind

def value : CoverageDebtClassificationKind → String
  | unchangedLegacy => "unchanged_legacy"
  | newRegression => "new_regression"
  | changedRegression => "changed_regression"
  | reintroduced => "reintroduced"
  | resolved => "resolved"
  | unknown => "unknown"

/-- `_COVERAGE_REGRESSIONS` -/
def isRegression : CoverageDebtClassificationKind → Bool
  | newRegression | changedRegression | reintroduced => true
  | _ => false

end CoverageDebtClassificationKind

instance : Model CoverageDebtClassificationKind :=
  .enum [.unchangedLegacy, .newRegression, .changedRegression, .reintroduced, .resolved, .unknown]
    CoverageDebtClassificationKind.value

structure CoverageDebtClassification where
  classification : CoverageDebtClassificationKind
  key : CoverageDebtKey
deriving DecidableEq

instance : Model CoverageDebtClassification :=
  .record (.lit "kind" "ratchet_coverage_debt_classification" <| .required "classification" <|
      .required "key" .nil)
    (fun c => (c.classification, c.key, ())) (fun (kind, key, ()) => ⟨kind, key⟩)

/-- `BehaviorWeakeningDelta` and `CoverageWeakeningDelta`, with keys of type `κ`. -/
structure WeakeningDelta (kind : String) (limit : Nat) (κ : Type) where
  status : WeakeningDeltaStatus
  addedAllowances : Tuple 0 limit κ
  removedAllowances : Tuple 0 limit κ
  removedProtections : Tuple 0 limit κ
deriving DecidableEq

instance {kind : String} {limit : Nat} {κ : Type} [Model κ] :
    Model (WeakeningDelta kind limit κ) :=
  .record (.lit "kind" kind <| .required "status" <| .required "added_allowances" <|
      .required "removed_allowances" <| .required "removed_protections" .nil)
    (fun d => (d.status, d.addedAllowances, d.removedAllowances, d.removedProtections, ()))
    (fun (status, added, removed, unprotected, ()) => ⟨status, added, removed, unprotected⟩)

abbrev BehaviorWeakeningDelta : Type :=
  WeakeningDelta "ratchet_behavior_delta" maxRatchetViolations ViolationKey

abbrev CoverageWeakeningDelta : Type :=
  WeakeningDelta "ratchet_coverage_delta" maxRatchetSubjects CoverageDebtKey

inductive CoverageComparisonStatus where
  | comparable
  | incompleteInventory
  | nonComparableQualification
deriving DecidableEq, Repr

def CoverageComparisonStatus.value : CoverageComparisonStatus → String
  | comparable => "comparable"
  | incompleteInventory => "incomplete_inventory"
  | nonComparableQualification => "non_comparable_qualification"

instance : Model CoverageComparisonStatus :=
  .enum [.comparable, .incompleteInventory, .nonComparableQualification]
    CoverageComparisonStatus.value

/-- `CoverageOutcome` and `CombinedOutcome`, which have the same members. -/
inductive QualifiedOutcome where
  | pass
  | passWithLegacyCoverageDebt
  | fail
  | inconclusive
deriving DecidableEq, Repr

def QualifiedOutcome.value : QualifiedOutcome → String
  | pass => "pass"
  | passWithLegacyCoverageDebt => "pass_with_legacy_coverage_debt"
  | fail => "fail"
  | inconclusive => "inconclusive"

instance : Model QualifiedOutcome :=
  .enum [.pass, .passWithLegacyCoverageDebt, .fail, .inconclusive] QualifiedOutcome.value

abbrev CoverageOutcome : Type := QualifiedOutcome

abbrev CombinedOutcome : Type := QualifiedOutcome

structure RatchetEvaluationReport where
  id : EvaluationId
  policy : RatchetPolicyRef
  baseline : RatchetBaselineRef
  assessment : RatchetAssessmentRef
  behaviorSubjectChanges : Tuple 0 (maxRatchetSubjects * 2) BehaviorSubjectChange
  behaviorClassifications : Tuple 0 (maxRatchetViolations * 2) ViolationClassification
  coverageComparison : CoverageComparisonStatus
  coverageSubjectChanges : Tuple 0 (maxRatchetSubjects * 2) CoverageSubjectChange
  coverageClassifications : Tuple 0 (maxRatchetSubjects * 2) CoverageDebtClassification
  behaviorOutcome : BehaviorOutcome
  coverageOutcome : CoverageOutcome
  combinedOutcome : CombinedOutcome
  behaviorDelta : BehaviorWeakeningDelta
  coverageDelta : CoverageWeakeningDelta
deriving DecidableEq

instance : Model RatchetEvaluationReport :=
  .record (.lit "kind" "ratchet_evaluation_report" <| .lit "ratchet_version" ratchetVersion <|
      .lit "schema_uri" ratchetEvaluationReportSchemaUri <| .required "id" <|
      .required "policy" <| .required "baseline" <| .required "assessment" <|
      .lit "procedure_uri" ratchetEvaluationProcedureUri <|
      .required "behavior_subject_changes" <| .required "behavior_classifications" <|
      .required "coverage_comparison" <| .required "coverage_subject_changes" <|
      .required "coverage_classifications" <| .required "behavior_outcome" <|
      .required "coverage_outcome" <| .required "combined_outcome" <|
      .required "behavior_delta" <| .required "coverage_delta" .nil)
    (fun r => (r.id, r.policy, r.baseline, r.assessment, r.behaviorSubjectChanges,
      r.behaviorClassifications, r.coverageComparison, r.coverageSubjectChanges,
      r.coverageClassifications, r.behaviorOutcome, r.coverageOutcome, r.combinedOutcome,
      r.behaviorDelta, r.coverageDelta, ()))
    (fun (id, policy, baseline, assessment, changes, classifications, comparison, groupChanges,
        debts, behavior, coverage, combined, delta, coverageDelta, ()) =>
      ⟨id, policy, baseline, assessment, changes, classifications, comparison, groupChanges,
        debts, behavior, coverage, combined, delta, coverageDelta⟩)

end Ucf.V2
