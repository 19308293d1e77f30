import Ucf.Onboarding.Accepted
import Ucf.Ratchet.V1.Baseline
import Ucf.Ratchet.V2.Baseline

/-! The migration of a baseline of profile 1.0.0 to profile 2.0.0. -/

namespace Ucf.V2

/-- `_mismatch` -/
def mismatch (message location : String) : PyError :=
  .ratchet .migrationSourceMismatch message location

/-- The exception handler of `_validate_migration_sources`. -/
def sourceError : PyError → PyError
  | .ratchetV1 .. | .onboarding .. =>
    mismatch "v1 source resources do not form a valid exact source" "$.source"
  | error => error

variable [Unicodedata] [Hashlib]

/-- The `try` block of `_validate_migration_sources` -/
def validateV1Source (sourcePolicy : V1.RatchetPolicy) (sourceBaseline : V1.RatchetBaseline)
    (sourceAssessment : V1.RatchetAssessment) (bundle : OnboardingBundle) :
    Except PyError Unit := do
  V1.validateRatchetPolicy sourcePolicy
  V1.validateRatchetAssessment sourcePolicy bundle sourceAssessment
  V1.validateRatchetBaselineStructure sourceBaseline
  if sourceBaseline.generation.val = 0 then
    V1.validateInitialRatchetBaseline sourcePolicy bundle sourceAssessment sourceBaseline

/-- What both profiles say of a behavior subject alike. -/
def subjectProjection {σ ο τ : Type} (digest : σ → Digest) (subject : SubjectSnapshot σ ο τ) :
    BehaviorSubjectId × Json × Digest :=
  (subject.id, modelDump subject.key, digest subject.semantic)

/-- `_validate_migration_sources` -/
def validateMigrationSources (targetPolicy : RatchetPolicy) (sourcePolicy : V1.RatchetPolicy)
    (sourceBaseline : V1.RatchetBaseline) (sourceAssessment : V1.RatchetAssessment)
    (bundle : OnboardingBundle) (acceptedSourceBaselineId : BaselineId) : Except PyError Unit := do
  validateRatchetPolicy targetPolicy
  require (sourceBaseline.id = acceptedSourceBaselineId) (mismatch
    "v1 source baseline differs from the independently accepted tip"
    "$.accepted_source_baseline_id")
  (validateV1Source sourcePolicy sourceBaseline sourceAssessment bundle).mapError sourceError
  require (modelDump sourceBaseline.policy = modelDump (v1PolicyRef sourcePolicy))
    (mismatch "baseline names a different v1 policy" "$.source.baseline.policy")
  require (modelDump sourceBaseline.sourceAssessment =
      modelDump (v1AssessmentRef sourceAssessment))
    (mismatch "baseline names a different v1 assessment" "$.source.baseline.source_assessment")
  require (sourceBaseline.subjects = sourceAssessment.subjects)
    (mismatch "v1 baseline subjects differ from its source assessment"
      "$.source.baseline.subjects")
  let rules : List RatchetRuleRef := sourcePolicy.rules.items.map ruleRef
  let unknownRule (collection : String) : PyError := mismatch
    "v1 baseline names a rule outside its policy" ("$.source.baseline." ++ collection)
  require (∀ key ∈ sourceBaseline.allowances.items, key.rule ∈ rules) (unknownRule "allowances")
  require (∀ key ∈ sourceBaseline.protectedKeys.items, key.rule ∈ rules) (unknownRule "protected")
  require (targetPolicy.rules.items.map modelDump = sourcePolicy.rules.items.map modelDump)
    (mismatch "target v2 policy rules differ from the v1 source policy" "$.target_policy.rules")
  let projected ← deriveBehaviorSubjectSnapshots bundle
  require (projected.map (subjectProjection Fingerprint.digest) =
      sourceAssessment.subjects.items.map (subjectProjection Fingerprint.digest))
    (mismatch "v1 behavior projection cannot be represented exactly in v2"
      "$.source.assessment.subjects")
  let publicInterfaceStatus ← publicInterfaceCoverage bundle
  require (publicInterfaceStatus = .complete) (.ratchet .incompleteComparisonDomain
    "v1 migration requires a complete public-interface inventory"
    "$.source_assessment.coverage.inventory_coverage")

/-- `_convert_violation_keys` -/
def convertViolationKeys (values : List ViolationKey) : Except PyError (List ViolationKey) :=
  collect (fun value => validated (modelValidate (modelDump value))) values

/-- `_derive_migrated_baseline` -/
def deriveMigratedBaseline (targetPolicy : RatchetPolicy) (sourcePolicy : V1.RatchetPolicy)
    (sourceBaseline : V1.RatchetBaseline) (sourceAssessment : V1.RatchetAssessment)
    (bundle : OnboardingBundle) : Except PyError RatchetBaseline := do
  let coverage ← deriveCoverageLedger bundle
  let subjects ← deriveBehaviorSubjectSnapshots bundle
  let allowances ← convertViolationKeys sourceBaseline.allowances.items
  let protectedKeys ← convertViolationKeys sourceBaseline.protectedKeys.items
  let limitedSubjects ← validated (Tuple.ofList subjects)
  let limitedAllowances ← validated (Tuple.ofList allowances)
  let limitedProtected ← validated (Tuple.ofList protectedKeys)
  let provisional : RatchetBaseline := {
    id := ⟨zeroDigest⟩
    origin := .migratedV1
    generation := sourceBaseline.generation
    policy := policyRef targetPolicy
    sourceAssessment := .v1 (v1AssessmentRef sourceAssessment)
    sourceEvaluation := none
    predecessor := none
    migratedFrom := some {
      policy := v1PolicyRef sourcePolicy
      baseline := v1BaselineRef sourceBaseline
      assessment := v1AssessmentRef sourceAssessment
      onboardingBundle := onboardingBundleRef bundle }
    behavior := ⟨limitedSubjects, limitedAllowances, limitedProtected⟩
    coverage := ⟨coverage.qualification, coverage.groups, coverage.debts,
      ⟨[], Tuple.nil_lower, Tuple.nil_upper⟩⟩
    valid := ⟨rfl, rfl, rfl, rfl⟩ }
  pure { provisional with id := deriveBaselineId provisional }

/-- `validate_migrated_ratchet_baseline` -/
def validateMigratedRatchetBaseline (targetPolicy : RatchetPolicy) (sourcePolicy : V1.RatchetPolicy)
    (sourceBaseline : V1.RatchetBaseline) (sourceAssessment : V1.RatchetAssessment)
    (bundle : OnboardingBundle) (baseline : RatchetBaseline)
    (acceptedSourceBaselineId : BaselineId) : Except PyError Unit := do
  validateMigrationSources targetPolicy sourcePolicy sourceBaseline sourceAssessment bundle
    acceptedSourceBaselineId
  let expected ← deriveMigratedBaseline targetPolicy sourcePolicy sourceBaseline sourceAssessment
    bundle
  requireSameBaseline baseline expected "migrated baseline differs from its exact v1 source"
  validateRatchetBaselineStructure baseline

/-- `migrate_ratchet_v1_baseline` -/
def migrateRatchetV1Baseline (targetPolicy : RatchetPolicy) (sourcePolicy : V1.RatchetPolicy)
    (sourceBaseline : V1.RatchetBaseline) (sourceAssessment : V1.RatchetAssessment)
    (bundle : OnboardingBundle) (acceptedSourceBaselineId : BaselineId) :
    Except PyError RatchetBaseline := do
  validateMigrationSources targetPolicy sourcePolicy sourceBaseline sourceAssessment bundle
    acceptedSourceBaselineId
  let migrated ← deriveMigratedBaseline targetPolicy sourcePolicy sourceBaseline sourceAssessment
    bundle
  validateMigratedRatchetBaseline targetPolicy sourcePolicy sourceBaseline sourceAssessment bundle
    migrated acceptedSourceBaselineId
  pure migrated

end Ucf.V2

/-! ### A sample -/

namespace Ucf.V2.Sample

open Ucf.Sample

def rule : RatchetRule where
  id := ⟨"rule", by decide⟩
  version := ⟨"1.0.0", version_valid⟩
  procedureUri := ⟨"urn:ucf:check:1.0.0", by decide⟩
  producer := producer
  summary := ⟨"rule", by decide⟩

def policy : RatchetPolicy := ⟨⟨digestValue⟩, ⟨⟩, ⟨[rule], by decide, by decide⟩⟩

def sourcePolicy : V1.RatchetPolicy where
  id := ⟨digestValue⟩
  evaluator := ⟨⟨ratchetEvaluatorCapability, by decide⟩, ⟨V1.ratchetVersion, by decide⟩⟩
  rules := ⟨[rule], by decide, by decide⟩
  valid := by decide

/-- The baseline of the last generation but one that a run of advances could reach. -/
def lateBaseline (baseline : RatchetBaseline) (assessment : RatchetAssessment)
    (report : RatchetEvaluationReport) : RatchetBaseline :=
  { baseline with
    origin := .successor
    generation := ⟨maxSafeInteger - 1, Nat.zero_le _, Nat.sub_le _ _⟩
    sourceAssessment := .v2 (assessmentRef assessment)
    sourceEvaluation := some (evaluationRef report)
    predecessor := some ⟨baseline.id, digest, ⟨maxSafeInteger - 2, Nat.zero_le _, Nat.sub_le _ _⟩⟩
    migratedFrom := none
    valid := ⟨by simp, rfl, rfl, rfl⟩ }

/-- The documents of one run: of profile 1.0.0 until the migration, of profile 2.0.0 after it. -/
structure Run where
  bundle : OnboardingBundle
  sourceAssessment : V1.RatchetAssessment
  sourceBaseline : V1.RatchetBaseline
  sourceReport : V1.RatchetEvaluationReport
  sourceSuccessor : V1.RatchetBaseline
  baseline : RatchetBaseline
  assessment : RatchetAssessment
  report : RatchetEvaluationReport
  successor : RatchetBaseline
  lateReport : RatchetEvaluationReport
  last : RatchetBaseline
  lastReport : RatchetEvaluationReport

/-- The run of the sample bundle. -/
def run : Except PyError Run := do
  let bundle ← Sample.bundle
  let sourceAssessment ← V1.buildRatchetAssessment sourcePolicy bundle producer
    "urn:ucf:assess:1.0.0" captureContext [] []
  let sourceBaseline ← V1.establishRatchetBaseline sourcePolicy bundle sourceAssessment
  let sourceReport ← V1.evaluateRatchet sourcePolicy sourceBaseline bundle sourceAssessment
  let sourceSuccessor ← V1.advanceRatchetBaseline sourcePolicy sourceBaseline bundle
    sourceAssessment sourceReport
  let baseline ← migrateRatchetV1Baseline policy sourcePolicy sourceSuccessor sourceAssessment
    bundle sourceSuccessor.id
  let assessment ← buildRatchetAssessment policy bundle producer "urn:ucf:assess:1.0.0"
    captureContext [] []
  let report ← evaluateRatchet policy baseline bundle assessment baseline.id
  let successor ← advanceRatchetBaseline policy baseline bundle assessment report baseline.id
  let late := lateBaseline baseline assessment report
  let lateReport ← evaluateRatchet policy late bundle assessment late.id
  let last ← advanceRatchetBaseline policy late bundle assessment lateReport late.id
  let lastReport ← evaluateRatchet policy last bundle assessment last.id
  pure ⟨bundle, sourceAssessment, sourceBaseline, sourceReport, sourceSuccessor, baseline,
    assessment, report, successor, lateReport, last, lastReport⟩

/-- Nothing is allowed, nothing is found and nothing is covered, and the last evaluation
qualifies. -/
def Run.isEmpty (r : Run) : Bool :=
  r.baseline.behavior.allowances.items = [] && r.assessment.behavior.violations.items = [] &&
    r.baseline.coverage.groups.items = [] && r.assessment.coverage.groups.items = [] &&
    r.baseline.coverage.allowances.items = [] && r.assessment.coverage.debts.items = [] &&
    isQualifying r.lastReport.combinedOutcome && r.last.generation.val = maxSafeInteger

theorem assembleBundle_isSome :
    (assembleBundle inventory discovery decisions).toOption.isSome = true := by decide +kernel

/-- The sample bundle as it is assembled. -/
def assembled : OnboardingBundle :=
  (assembleBundle inventory discovery decisions).toOption.get assembleBundle_isSome

theorem assembleBundle_eq : assembleBundle inventory discovery decisions = .ok assembled := by
  have hsome : (assembleBundle inventory discovery decisions).toOption = some assembled :=
    (Option.some_get assembleBundle_isSome).symm
  cases hbundle : assembleBundle inventory discovery decisions with
  | error e =>
    rw [hbundle] at hsome
    cases hsome
  | ok bundle =>
    rw [hbundle] at hsome
    exact congrArg Except.ok (Option.some.inj hsome)

/-- The sample bundle without a detour over the texts of its documents. -/
theorem bundle_eq : bundle = .ok assembled :=
  build_of_assembleBundle assembleBundle_eq (by decide +kernel)

theorem validate_assembled : validateOnboardingBundle assembled = .ok () :=
  validate_of_assembleBundle assembleBundle_eq

theorem run_isEmpty : run.toOption.any Run.isEmpty = true := by
  rw [run, bundle_eq, ok_bind]
  -- the bundle is valid already: its check, which compares long texts, is left out of the run
  simp only [V1.buildRatchetAssessment, V1.establishRatchetBaseline, V1.evaluateRatchet,
    V1.advanceRatchetBaseline, V1.validateInitialRatchetBaseline,
    V1.validateSuccessorRatchetBaseline, V1.validateRatchetEvaluationReport,
    V1.validateRatchetAssessment, V1.deriveSubjectSnapshots, migrateRatchetV1Baseline,
    validateMigratedRatchetBaseline, validateMigrationSources, validateV1Source,
    deriveMigratedBaseline, buildRatchetAssessment, evaluateRatchet, advanceRatchetBaseline,
    validateSuccessorRatchetBaseline, validateRatchetEvaluationReport, validateRatchetAssessment,
    deriveBehaviorSubjectSnapshots, deriveCoverageLedger, validate_assembled, ok_bind]
  decide +kernel

/-- What the sample run does. -/
structure Run.Holds (r : Run) : Prop where
  established : V1.establishRatchetBaseline sourcePolicy r.bundle r.sourceAssessment =
    .ok r.sourceBaseline
  source_advanced : V1.advanceRatchetBaseline sourcePolicy r.sourceBaseline r.bundle
    r.sourceAssessment r.sourceReport = .ok r.sourceSuccessor
  migrated : migrateRatchetV1Baseline policy sourcePolicy r.sourceSuccessor r.sourceAssessment
    r.bundle r.sourceSuccessor.id = .ok r.baseline
  evaluated : evaluateRatchet policy r.baseline r.bundle r.assessment r.baseline.id = .ok r.report
  advanced : advanceRatchetBaseline policy r.baseline r.bundle r.assessment r.report
    r.baseline.id = .ok r.successor
  last_advanced : advanceRatchetBaseline policy (lateBaseline r.baseline r.assessment r.report)
    r.bundle r.assessment r.lateReport r.baseline.id = .ok r.last
  last_evaluated : evaluateRatchet policy r.last r.bundle r.assessment r.last.id =
    .ok r.lastReport
  isEmpty : r.isEmpty = true

theorem Run.holds {r : Run} (hrun : run = .ok r) (hempty : r.isEmpty = true) : r.Holds := by
  simp only [run, bind_eq_ok, pure_eq_ok, Except.ok.injEq] at hrun
  obtain ⟨bundle, _, sourceAssessment, _, sourceBaseline, hestablished, sourceReport, _,
    sourceSuccessor, hsource, baseline, hmigrated, assessment, _, report, hreport, successor,
    hsuccessor, lateReport, _, last, hlast, lastReport, hlastReport, rfl⟩ := hrun
  exact ⟨hestablished, hsource, hmigrated, hreport, hsuccessor, hlast, hlastReport, hempty⟩

theorem exists_run : ∃ r : Run, r.Holds := by
  obtain ⟨r, hrun, hempty⟩ := exists_of_any run_isEmpty
  exact ⟨r, Run.holds hrun hempty⟩

end Ucf.V2.Sample
