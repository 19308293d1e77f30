import Ucf.Ratchet.V1.Validation

/-! The evaluation of an assessment against a baseline in profile 1.0.0, and the validation of
evaluation reports. -/

namespace Ucf.V1

/-! ### Subjects -/

/-- The change of the subject with one identifier. -/
def subjectChange (subjectCoverage : CoverageStatus)
    (previous current : Dict BehaviorSubjectId BehaviorSubjectSnapshot)
    (identifier : BehaviorSubjectId) :
    Except PyError (SubjectChange "ratchet_subject_change") :=
  match previous.get? identifier, current.get? identifier with
  | none, none => .error .attributeError
  | none, some new => .ok ⟨⟨new.id⟩, .newSubject⟩
  | some old, none =>
    .ok ⟨⟨old.id⟩, if subjectCoverage = .complete then .removedSubject else .unknownSubject⟩
  | some old, some new =>
    .ok ⟨⟨new.id⟩,
      if old.semantic ≠ new.semantic ∧ old.observed ≠ new.observed then .semanticAndObservedChanged
      else if old.semantic ≠ new.semantic then .semanticChanged
      else if old.observed ≠ new.observed then .observedChanged
      else .unchanged⟩

/-- `_subject_changes` -/
def subjectChanges (baseline : RatchetBaseline) (assessment : RatchetAssessment) :
    Except PyError (List (SubjectChange "ratchet_subject_change")) :=
  let previous := Dict.index (fun subject : BehaviorSubjectSnapshot => subject.id)
    baseline.subjects.items
  let current := Dict.index (fun subject : BehaviorSubjectSnapshot => subject.id)
    assessment.subjects.items
  collect (subjectChange assessment.subjectCoverage previous current)
    (sortedSet (previous.keys ++ current.keys))

/-! ### Violations -/

/-- The keys of a ledger by the identifiers derived from them. -/
def keysByViolationId [Hashlib] (keys : List ViolationKey) : Dict ViolationId ViolationKey :=
  Dict.ofList (keys.map fun key => (deriveViolationId key, key))

/-- `current`, the keys of the current violations by identifier -/
def currentViolations (assessment : RatchetAssessment) : Dict ViolationId ViolationKey :=
  Dict.ofList (assessment.violations.items.map fun violation => (violation.id, violation.key))

/-- The classification of a current violation. -/
def classifyCurrent (changeBySubject : Dict BehaviorSubjectId BehaviorSubjectChangeKind)
    (allowances protectedKeys : Dict ViolationId ViolationKey) (item : ViolationId × ViolationKey) :
    Except PyError ViolationClassification := do
  if protectedKeys.contains item.1 then pure ⟨.reintroduced, item.2⟩
  else if !allowances.contains item.1 then pure ⟨.newRegression, item.2⟩
  else do
    let change ← orRaise (changeBySubject.get? item.2.subject.targetId) .keyError
    pure ⟨if change ≠ .unchanged then .touchedLegacy else .unchangedLegacy, item.2⟩

/-- The classification of an allowed violation that is absent now. -/
def classifyAbsent (subjectCoverage : CoverageStatus)
    (coverageByRule : Dict RatchetRuleRef CoverageStatus) (key : ViolationKey) :
    ViolationClassification :=
  if subjectCoverage = .complete ∧ coverageByRule.get? key.rule = some .complete then
    ⟨.resolved, key⟩
  else ⟨.unknown, key⟩

/-- `classifications` of `_derive_evaluation` -/
def violationClassifications [Hashlib] (baseline : RatchetBaseline) (assessment : RatchetAssessment)
    (changes : List (SubjectChange "ratchet_subject_change")) :
    Except PyError (List ViolationClassification) := do
  let changeBySubject := Dict.ofList (changes.map fun change =>
    (change.subject.targetId, change.change))
  let allowances := keysByViolationId baseline.allowances.items
  let protectedKeys := keysByViolationId baseline.protectedKeys.items
  let current := currentViolations assessment
  let coverageByRule := Dict.ofList (assessment.coverage.items.map fun coverage =>
    (coverage.rule, coverage.status))
  let present ← collect (classifyCurrent changeBySubject allowances protectedKeys) current.items
  let absent := (allowances.items.filter fun item => !current.contains item.1).map
    fun item => classifyAbsent assessment.subjectCoverage coverageByRule item.2
  pure (sortedBy (fun item => deriveViolationId item.key) (present ++ absent))

/-! ### Outcomes and deltas -/

/-- `has_regression` -/
def hasRegression (classifications : List ViolationClassification) : Bool :=
  classifications.any fun item => item.classification.isRegression

/-- A violation or a subject is unknown. -/
def hasUnknown (changes : List (SubjectChange "ratchet_subject_change"))
    (classifications : List ViolationClassification) : Bool :=
  (classifications.any fun item => item.classification = .unknown) ||
    changes.any fun change => change.change = .unknownSubject

/-- `outcome` of `_derive_evaluation` -/
def evaluationOutcome (assessment : RatchetAssessment)
    (changes : List (SubjectChange "ratchet_subject_change"))
    (classifications : List ViolationClassification) : BehaviorOutcome :=
  if hasRegression classifications then .fail
  else if hasUnknown changes classifications || assessment.subjectCoverage ≠ .complete ||
      assessment.coverage.items.any (fun coverage => coverage.status ≠ .complete) then
    .inconclusive
  else .pass

/-- What a report adds to the allowances. A touched violation is a regression but is not added. -/
def isAdded : ViolationClassificationKind → Bool
  | .newRegression | .reintroduced => true
  | _ => false

/-- `delta_status` -/
def deltaStatus (classifications : List ViolationClassification) : WeakeningDeltaStatus :=
  if hasRegression classifications then .reviewRequired
  else if keysClassified classifications (fun kind => kind = .resolved) ≠ [] then .tightening
  else .none

/-- `weakening_delta` of `_derive_evaluation` -/
def weakeningDelta (classifications : List ViolationClassification) :
    Except PyError WeakeningDelta := do
  let added ← validated (Tuple.ofList (keysClassified classifications isAdded))
  let removed ← validated (Tuple.ofList (keysClassified classifications fun kind =>
    kind = .resolved))
  let unprotected ← validated (Tuple.ofList (keysClassified classifications fun kind =>
    kind = .reintroduced))
  pure ⟨deltaStatus classifications, added, removed, unprotected⟩

/-! ### Evaluation -/

variable [Hashlib]

/-- `_derive_evaluation` -/
def deriveEvaluation (policy : RatchetPolicy) (baseline : RatchetBaseline)
    (assessment : RatchetAssessment) : Except PyError RatchetEvaluationReport := do
  let changes ← subjectChanges baseline assessment
  let classifications ← violationClassifications baseline assessment changes
  let delta ← weakeningDelta classifications
  let limitedChanges ← validated (Tuple.ofList changes)
  let limitedClassifications ← validated (Tuple.ofList classifications)
  let provisional : RatchetEvaluationReport := {
    id := ⟨zeroDigest⟩
    policy := policyRef policy
    baseline := baselineRef baseline
    assessment := assessmentRef assessment
    subjectChanges := limitedChanges
    classifications := limitedClassifications
    outcome := evaluationOutcome assessment changes classifications
    weakeningDelta := delta }
  pure { provisional with id := deriveEvaluationId provisional }

/-- `evaluate_ratchet` -/
def evaluateRatchet [Unicodedata] (policy : RatchetPolicy)
    (baseline : RatchetBaseline) (bundle : OnboardingBundle) (assessment : RatchetAssessment) :
    Except PyError RatchetEvaluationReport := do
  validateRatchetAssessment policy bundle assessment
  validateRatchetBaselineStructure baseline
  require (baseline.policy = policyRef policy) (.ratchetV1 .documentIdentityMismatch
    "baseline policy differs from the exact evaluation policy" "$.baseline.policy")
  let rules : List RatchetRuleRef := policy.rules.items.map ruleRef
  let unknownRule (collection : String) : PyError := .ratchetV1 .brokenReference
    "baseline violation key names an unknown policy rule" ("$.baseline." ++ collection)
  require (∀ key ∈ baseline.allowances.items, key.rule ∈ rules) (unknownRule "allowances")
  require (∀ key ∈ baseline.protectedKeys.items, key.rule ∈ rules) (unknownRule "protected")
  deriveEvaluation policy baseline assessment

/-! ### Reports -/

/-- The outcomes that a report may have beside its classifications and changes. -/
def expectedOutcomes (report : RatchetEvaluationReport) : List BehaviorOutcome :=
  if hasRegression report.classifications.items then [.fail]
  else if hasUnknown report.subjectChanges.items report.classifications.items then [.inconclusive]
  else [.pass, .inconclusive]

/-- The comparison of a report's delta with its classifications. -/
def validateReportDelta (report : RatchetEvaluationReport) : Except PyError Unit := do
  let differs (field : String) : PyError := .ratchetV1 .summaryMismatch
    "weakening delta differs from its classifications" ("$.weakening_delta." ++ field)
  let classifications := report.classifications.items
  let delta := report.weakeningDelta
  require (delta.addedAllowances.items = keysClassified classifications isAdded)
    (differs "added_allowances")
  require (delta.removedAllowances.items = keysClassified classifications fun kind =>
    kind = .resolved) (differs "removed_allowances")
  require (delta.removedProtections.items = keysClassified classifications fun kind =>
    kind = .reintroduced) (differs "removed_protections")
  require (delta.status = deltaStatus classifications) (.ratchetV1 .summaryMismatch
    "weakening delta status differs from its exact members" "$.weakening_delta.status")

/-- `validate_ratchet_evaluation_report_structure` -/
def validateRatchetEvaluationReportStructure (report : RatchetEvaluationReport) :
    Except PyError Unit := do
  let subjectIds : List BehaviorSubjectId :=
    report.subjectChanges.items.map fun change => change.subject.targetId
  requireUniqueAndSorted .ratchetV1 subjectIds "$.subject_changes" "subject changes"
  let classifications := report.classifications.items
  requireUniqueAndSorted .ratchetV1 (classifications.map fun item => deriveViolationId item.key)
    "$.classifications" "violation classifications"
  checkEach (fun index (item : ViolationClassification) =>
    require (item.key.subject.targetId ∈ subjectIds) (.ratchetV1 .brokenReference
      "classification names an unknown report subject"
      (at_ "$.classifications" index ++ ".key.subject"))) classifications
  let delta := report.weakeningDelta
  requireUniqueAndSorted .ratchetV1 (delta.addedAllowances.items.map deriveViolationId)
    "$.weakening_delta.added_allowances" "added allowances"
  requireUniqueAndSorted .ratchetV1 (delta.removedAllowances.items.map deriveViolationId)
    "$.weakening_delta.removed_allowances" "removed allowances"
  requireUniqueAndSorted .ratchetV1 (delta.removedProtections.items.map deriveViolationId)
    "$.weakening_delta.removed_protections" "removed protections"
  require (report.outcome ∈ expectedOutcomes report) (.ratchetV1 .summaryMismatch
    "evaluation outcome differs from its internal evidence" "$.outcome")
  validateReportDelta report
  require (report.id = deriveEvaluationId report) (.ratchetV1 .contentIdentityMismatch
    "evaluation ID is not derived from its exact content" "$.id")

/-- The comparison of a report with the recomputed one, field by field. -/
def requireSameReport (report expected : RatchetEvaluationReport) : Except PyError Unit := do
  let differs (field : String) : PyError := .ratchetV1 .summaryMismatch
    "evaluation report differs from the exact recomputed result" ("$." ++ field)
  require (report.policy = expected.policy) (differs "policy")
  require (report.baseline = expected.baseline) (differs "baseline")
  require (report.assessment = expected.assessment) (differs "assessment")
  require (report.subjectChanges = expected.subjectChanges) (differs "subject_changes")
  require (report.classifications = expected.classifications) (differs "classifications")
  require (report.outcome = expected.outcome) (differs "outcome")
  require (report.weakeningDelta = expected.weakeningDelta) (differs "weakening_delta")
  require (report.id = expected.id) (differs "id")

omit [Hashlib] in
@[simp] theorem requireSameReport_eq_ok {report expected : RatchetEvaluationReport} {u : Unit} :
    requireSameReport report expected = .ok u ↔ report = expected := by
  cases report
  cases expected
  simp only [requireSameReport, bind_eq_ok, require_eq_ok, exists_const,
    RatchetEvaluationReport.mk.injEq]
  tauto

/-- `validate_ratchet_evaluation_report` -/
def validateRatchetEvaluationReport [Unicodedata]
    (policy : RatchetPolicy) (baseline : RatchetBaseline) (bundle : OnboardingBundle)
    (assessment : RatchetAssessment) (report : RatchetEvaluationReport) : Except PyError Unit := do
  validateRatchetEvaluationReportStructure report
  let expected ← evaluateRatchet policy baseline bundle assessment
  requireSameReport report expected

end Ucf.V1
