import Ucf.Ratchet.V2.Validation

/-! The evaluation of an assessment against a baseline in profile 2.0.0. -/

namespace Ucf.V2

/-! ### Fingerprints -/

/-- `_fingerprint_change` for behavior subjects -/
def fingerprintChange (semanticChanged observedChanged : Bool) : BehaviorSubjectChangeKind :=
  if semanticChanged && observedChanged then .semanticAndObservedChanged
  else if semanticChanged then .semanticChanged
  else if observedChanged then .observedChanged
  else .unchanged

/-- `_fingerprint_change` for coverage groups -/
def coverageFingerprintChange (semanticChanged observedChanged : Bool) :
    CoverageSubjectChangeKind :=
  if semanticChanged && observedChanged then .semanticAndObservedChanged
  else if semanticChanged then .semanticChanged
  else if observedChanged then .observedChanged
  else .unchanged

/-! ### Behavior -/

/-- The change of the subject with one identifier. -/
def behaviorSubjectChange (discoveryCoverage : CoverageStatus)
    (previous current : Dict BehaviorSubjectId BehaviorSubjectSnapshot)
    (identifier : BehaviorSubjectId) : Except PyError BehaviorSubjectChange :=
  match previous.get? identifier, current.get? identifier with
  | none, none => .error .assertionError
  | none, some new => .ok ⟨⟨new.id⟩, .newSubject⟩
  | some old, none =>
    .ok ⟨⟨old.id⟩, if discoveryCoverage = .complete then .removedSubject else .unknownSubject⟩
  | some old, some new =>
    .ok ⟨⟨new.id⟩, fingerprintChange (old.semantic ≠ new.semantic) (old.observed ≠ new.observed)⟩

/-- `_behavior_subject_changes` -/
def behaviorSubjectChanges (baseline : RatchetBaseline) (assessment : RatchetAssessment) :
    Except PyError (List BehaviorSubjectChange) :=
  let previous := Dict.index (fun subject : BehaviorSubjectSnapshot => subject.id)
    baseline.behavior.subjects.items
  let current := Dict.index (fun subject : BehaviorSubjectSnapshot => subject.id)
    assessment.behavior.subjects.items
  collect (behaviorSubjectChange assessment.coverage.discoveryCoverage previous current)
    (sortedSet (previous.keys ++ current.keys))

/-- The keys of a ledger by the identifiers derived from them. -/
def keysByViolationId [Hashlib] (keys : List ViolationKey) : Dict ViolationId ViolationKey :=
  Dict.ofList (keys.map fun key => (deriveViolationId key, key))

/-- `current`, the keys of the current violations by identifier -/
def currentViolations (assessment : RatchetAssessment) : Dict ViolationId ViolationKey :=
  Dict.ofList (assessment.behavior.violations.items.map fun violation => (violation.id, violation.key))

/-- The classification of a current violation. -/
def classifyCurrent (changeBySubject : Dict BehaviorSubjectId BehaviorSubjectChangeKind)
    (allowances protectedKeys : Dict ViolationId ViolationKey) (item : ViolationId × ViolationKey) :
    Except PyError ViolationClassification := do
  if protectedKeys.contains item.1 then pure ⟨.reintroduced, item.2⟩
  else if !allowances.contains item.1 then pure ⟨.newRegression, item.2⟩
  else do
    let change ← orRaise (changeBySubject.get? item.2.subject.targetId) .keyError
    pure ⟨if change ≠ .unchanged then .touchedLegacy else .unchangedLegacy, item.2⟩

/-- The classification of an allowed violation that is absent now. -/
def classifyAbsent (changeBySubject : Dict BehaviorSubjectId BehaviorSubjectChangeKind)
    (coverageByRule : Dict RatchetRuleRef CoverageStatus) (key : ViolationKey) :
    ViolationClassification :=
  if coverageByRule.get? key.rule = some .complete ∧
      changeBySubject.get? key.subject.targetId ≠ some .unknownSubject then ⟨.resolved, key⟩
  else ⟨.unknown, key⟩

/-- `_behavior_classifications` -/
def behaviorClassifications [Hashlib] (baseline : RatchetBaseline) (assessment : RatchetAssessment)
    (changes : List BehaviorSubjectChange) : Except PyError (List ViolationClassification) := do
  let changeBySubject := Dict.ofList (changes.map fun change =>
    (change.subject.targetId, change.change))
  let allowances := keysByViolationId baseline.behavior.allowances.items
  let protectedKeys := keysByViolationId baseline.behavior.protectedKeys.items
  let current := currentViolations assessment
  let coverageByRule := Dict.ofList (assessment.behavior.coverage.items.map fun coverage =>
    (coverage.rule, coverage.status))
  let present ← collect (classifyCurrent changeBySubject allowances protectedKeys) current.items
  let absent := (allowances.items.filter fun item => !current.contains item.1).map
    fun item => classifyAbsent changeBySubject coverageByRule item.2
  pure (sortedBy (fun item => deriveViolationId item.key) (present ++ absent))

/-! ### Coverage -/

/-- `_coverage_comparison` -/
def coverageComparison (baseline : RatchetBaseline) (assessment : RatchetAssessment) :
    CoverageComparisonStatus :=
  if baseline.coverage.qualification ≠ assessment.coverage.qualification then
    .nonComparableQualification
  else if assessment.coverage.inventoryCoverage ≠ .complete then .incompleteInventory
  else .comparable

/-- The change of the group with one identifier. -/
def coverageSubjectChange (comparable : Bool)
    (previous current : Dict CoverageSubjectId CoverageSubjectGroup)
    (identifier : CoverageSubjectId) : Except PyError CoverageSubjectChange :=
  let old := previous.get? identifier
  let new := current.get? identifier
  let change : CoverageSubjectChangeKind :=
    match comparable, old, new with
    | false, _, _ => .unknownSubject
    | true, none, _ => .newSubject
    | true, some _, none => .unknownSubject
    | true, some old, some new =>
      coverageFingerprintChange (old.semantic ≠ new.semantic) (old.observed ≠ new.observed)
  match new <|> old with
  | some subject => .ok ⟨⟨subject.id⟩, change⟩
  | none => .error .assertionError

/-- `_coverage_subject_changes` -/
def coverageSubjectChanges (baseline : RatchetBaseline) (assessment : RatchetAssessment)
    (comparable : Bool) : Except PyError (List CoverageSubjectChange) :=
  let previous := Dict.index (fun group : CoverageSubjectGroup => group.id)
    baseline.coverage.groups.items
  let current := Dict.index (fun group : CoverageSubjectGroup => group.id)
    assessment.coverage.groups.items
  collect (coverageSubjectChange comparable previous current)
    (sortedSet (previous.keys ++ current.keys))

/-- A candidate of the group has been decided, and not as uncertain. -/
def isReviewed (group : CoverageSubjectGroup) (candidateSemanticDigest : Option Digest) : Bool :=
  group.reconciliations.items.any fun item =>
    some item.candidateSemanticDigest = candidateSemanticDigest ∧ item.disposition ≠ .uncertain

/-- `_was_explicitly_reviewed` -/
def wasExplicitlyReviewed (debt : CoverageDebtSnapshot)
    (previousGroups : List CoverageSubjectGroup) : Bool :=
  if debt.key.debtKind ≠ .uncertain then false
  else match previousGroups.find? fun item => item.id = debt.key.subject.targetId with
  | none => false
  | some group => isReviewed group debt.key.candidateSemanticDigest

/-- `_is_explicitly_resolved` -/
def isExplicitlyResolved (debt : CoverageDebtSnapshot)
    (currentGroups : Dict CoverageSubjectId CoverageSubjectGroup) : Bool :=
  match currentGroups.get? debt.key.subject.targetId with
  | none => false
  | some group =>
    if debt.key.debtKind = .uncovered then
      group.reconciliations.items ≠ [] ∧
        ∀ item ∈ group.reconciliations.items, item.disposition ≠ .uncertain
    else isReviewed group debt.key.candidateSemanticDigest

/-- The classification of the debt with one identifier. -/
def coverageClassification (previousGroups : List CoverageSubjectGroup)
    (comparison : CoverageComparisonStatus) (previous : Dict CoverageDebtId CoverageDebtSnapshot)
    (protectedKeys : Dict CoverageDebtId CoverageDebtKey)
    (current : Dict CoverageDebtId CoverageDebtSnapshot)
    (currentGroups : Dict CoverageSubjectId CoverageSubjectGroup) (identifier : CoverageDebtId) :
    Except PyError CoverageDebtClassification :=
  match current.get? identifier, previous.get? identifier with
  | some new, old =>
    .ok ⟨
      if protectedKeys.contains identifier then .reintroduced
      else if wasExplicitlyReviewed new previousGroups then .reintroduced
      else if comparison = .nonComparableQualification then .unknown
      else match old with
      | none => .newRegression
      | some old =>
        if old.semantic = new.semantic ∧ old.observed = new.observed then .unchangedLegacy
        else .changedRegression, new.key⟩
  | none, some old =>
    .ok ⟨
      if comparison = .nonComparableQualification then .unknown
      else if isExplicitlyResolved old currentGroups then .resolved
      else .unknown, old.key⟩
  | none, none => .error .attributeError

/-- `_coverage_classifications` -/
def coverageClassifications [Hashlib] (baseline : RatchetBaseline) (assessment : RatchetAssessment)
    (comparison : CoverageComparisonStatus) : Except PyError (List CoverageDebtClassification) :=
  let previous := Dict.index (fun debt : CoverageDebtSnapshot => debt.id)
    baseline.coverage.allowances.items
  let protectedKeys := Dict.ofList (baseline.coverage.protectedKeys.items.map fun key =>
    (deriveCoverageDebtId key, key))
  let current := Dict.index (fun debt : CoverageDebtSnapshot => debt.id)
    assessment.coverage.debts.items
  let currentGroups := Dict.index (fun group : CoverageSubjectGroup => group.id)
    assessment.coverage.groups.items
  collect (coverageClassification baseline.coverage.groups.items comparison previous protectedKeys
    current currentGroups) (sortedSet (previous.keys ++ current.keys))

/-! ### Outcomes and deltas -/

/-- `_behavior_outcome` -/
def behaviorOutcome (assessment : RatchetAssessment) (changes : List BehaviorSubjectChange)
    (classifications : List ViolationClassification) : BehaviorOutcome :=
  if classifications.any fun item => item.classification.isRegression then .fail
  else if (classifications.any fun item => item.classification = .unknown) ||
      (changes.any fun change => change.change = .unknownSubject) ||
      assessment.behavior.coverage.items.any (fun coverage => coverage.status ≠ .complete) then
    .inconclusive
  else .pass

/-- `_coverage_outcome` -/
def coverageOutcome (assessment : RatchetAssessment) (comparison : CoverageComparisonStatus)
    (changes : List CoverageSubjectChange) (classifications : List CoverageDebtClassification) :
    CoverageOutcome :=
  if classifications.any fun item => item.classification.isRegression then .fail
  else if comparison ≠ .comparable || (classifications.any fun item =>
      item.classification = .unknown) || (changes.any fun change =>
      change.change = .unknownSubject) || assessment.coverage.inventoryCoverage ≠ .complete then
    .inconclusive
  else if classifications.any fun item => item.classification = .unchangedLegacy then
    .passWithLegacyCoverageDebt
  else .pass

/-- `_combined_outcome` -/
def combinedOutcome (behavior : BehaviorOutcome) (coverage : CoverageOutcome) : CombinedOutcome :=
  if behavior = .fail || coverage = .fail then .fail
  else if behavior = .inconclusive || coverage = .inconclusive then .inconclusive
  else if coverage = .passWithLegacyCoverageDebt then .passWithLegacyCoverageDebt
  else .pass

/-- `_delta_status` -/
def deltaStatus {κ : Type} (regressions resolutions : List κ) : WeakeningDeltaStatus :=
  if regressions ≠ [] then .reviewRequired
  else if resolutions ≠ [] then .tightening
  else .none

/-- `_behavior_delta` -/
def behaviorDelta (classifications : List ViolationClassification) :
    Except PyError BehaviorWeakeningDelta := do
  let regressions := keysClassified classifications fun kind => kind.isRegression
  let resolutions := keysClassified classifications fun kind => kind = .resolved
  let reintroduced := keysClassified classifications fun kind => kind = .reintroduced
  let added ← validated (Tuple.ofList regressions)
  let removed ← validated (Tuple.ofList resolutions)
  let unprotected ← validated (Tuple.ofList reintroduced)
  pure ⟨deltaStatus regressions resolutions, added, removed, unprotected⟩

/-- The keys that a list of debt classifications gives a kind among `kinds`, in order. -/
def debtKeysClassified (classifications : List CoverageDebtClassification)
    (kinds : CoverageDebtClassificationKind → Bool) : List CoverageDebtKey :=
  (classifications.filter fun item => kinds item.classification).map fun item => item.key

/-- `_coverage_delta` -/
def coverageDelta (classifications : List CoverageDebtClassification) :
    Except PyError CoverageWeakeningDelta := do
  let regressions := debtKeysClassified classifications fun kind => kind.isRegression
  let resolutions := debtKeysClassified classifications fun kind => kind = .resolved
  let reintroduced := debtKeysClassified classifications fun kind => kind = .reintroduced
  let added ← validated (Tuple.ofList regressions)
  let removed ← validated (Tuple.ofList resolutions)
  let unprotected ← validated (Tuple.ofList reintroduced)
  pure ⟨deltaStatus regressions resolutions, added, removed, unprotected⟩

/-! ### Evaluation -/

variable [Hashlib]

/-- `_derive_evaluation` -/
def deriveEvaluation (policy : RatchetPolicy) (baseline : RatchetBaseline)
    (assessment : RatchetAssessment) : Except PyError RatchetEvaluationReport := do
  let behaviorChanges ← behaviorSubjectChanges baseline assessment
  let violations ← behaviorClassifications baseline assessment behaviorChanges
  let comparison := coverageComparison baseline assessment
  let coverageChanges ← coverageSubjectChanges baseline assessment (comparison = .comparable)
  let debts ← coverageClassifications baseline assessment comparison
  let behavior := behaviorOutcome assessment behaviorChanges violations
  let coverage := coverageOutcome assessment comparison coverageChanges debts
  let violationDelta ← behaviorDelta violations
  let debtDelta ← coverageDelta debts
  let limitedBehaviorChanges ← validated (Tuple.ofList behaviorChanges)
  let limitedViolations ← validated (Tuple.ofList violations)
  let limitedCoverageChanges ← validated (Tuple.ofList coverageChanges)
  let limitedDebts ← validated (Tuple.ofList debts)
  let provisional : RatchetEvaluationReport := {
    id := ⟨zeroDigest⟩
    policy := policyRef policy
    baseline := baselineRef baseline
    assessment := assessmentRef assessment
    behaviorSubjectChanges := limitedBehaviorChanges
    behaviorClassifications := limitedViolations
    coverageComparison := comparison
    coverageSubjectChanges := limitedCoverageChanges
    coverageClassifications := limitedDebts
    behaviorOutcome := behavior
    coverageOutcome := coverage
    combinedOutcome := combinedOutcome behavior coverage
    behaviorDelta := violationDelta
    coverageDelta := debtDelta }
  pure { provisional with id := deriveEvaluationId provisional }

variable [Unicodedata]

/-- `evaluate_ratchet` -/
def evaluateRatchet (policy : RatchetPolicy) (baseline : RatchetBaseline)
    (bundle : OnboardingBundle) (assessment : RatchetAssessment)
    (acceptedBaselineId : BaselineId) : Except PyError RatchetEvaluationReport := do
  validateRatchetAssessment policy bundle assessment
  validateRatchetBaselineStructure baseline
  require (baseline.id = acceptedBaselineId) (.ratchet .documentIdentityMismatch
    "baseline differs from the independently accepted identity" "$.accepted_baseline_id")
  require (baseline.policy = policyRef policy) (.ratchet .documentIdentityMismatch
    "baseline policy differs from the exact evaluation policy" "$.baseline.policy")
  let rules : List RatchetRuleRef := policy.rules.items.map ruleRef
  let unknownRule (collection : String) : PyError := .ratchet .brokenReference
    "baseline behavior key names an unknown policy rule" ("$.baseline.behavior." ++ collection)
  require (∀ key ∈ baseline.behavior.allowances.items, key.rule ∈ rules) (unknownRule "allowances")
  require (∀ key ∈ baseline.behavior.protectedKeys.items, key.rule ∈ rules) (unknownRule "protected")
  deriveEvaluation policy baseline assessment

end Ucf.V2
