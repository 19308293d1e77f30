import Ucf.Library.Collect
import Ucf.Ratchet.Agreement
import Ucf.Ratchet.V2.Conservation

/-! Tombstones are permanent: what a baseline of a run protects, every later baseline protects, and
none of them takes it back. This holds of the runs of either profile and across the migration. -/

namespace Ucf.V1

variable [Hashlib]

/-- What the structural validator asks of the ledger of violations. -/
structure ValidLedger (baseline : RatchetBaseline) : Prop where
  protected_nodup : (baseline.protectedKeys.items.map deriveViolationId).Nodup
  disjoint : ∀ key ∈ baseline.allowances.items,
    deriveViolationId key ∉ baseline.protectedKeys.items.map deriveViolationId

theorem validLedger_of_validate {baseline : RatchetBaseline} {u : Unit}
    (h : validateRatchetBaselineStructure baseline = .ok u) : ValidLedger baseline := by
  simp only [validateRatchetBaselineStructure, bind_eq_ok, requireUniqueAndSorted_eq_ok,
    require_eq_ok, exists_const] at h
  obtain ⟨_, -, -, hprotected, hdisjoint, -⟩ := h
  exact ⟨hprotected.imp fun hlt => hlt.ne,
    fun key hkey => hdisjoint _ (List.mem_map_of_mem hkey)⟩

/-! ### Classifications -/

section Classifications

variable {baseline : RatchetBaseline} {assessment : RatchetAssessment}
  {changes : List (SubjectChange "ratchet_subject_change")}
  {classifications : List ViolationClassification}

omit [Hashlib] in
theorem classifyCurrent_ne_resolved
    {changeBySubject : Dict BehaviorSubjectId BehaviorSubjectChangeKind}
    {allowances protectedKeys : Dict ViolationId ViolationKey} {item : ViolationId × ViolationKey}
    {classification : ViolationClassification}
    (h : classifyCurrent changeBySubject allowances protectedKeys item = .ok classification) :
    classification.classification ≠ .resolved := by
  unfold classifyCurrent at h
  split_ifs at h
  · cases h
    exact fun hkind => by cases hkind
  · cases h
    exact fun hkind => by cases hkind
  · simp only [bind_eq_ok, pure_eq_ok, Except.ok.injEq] at h
    obtain ⟨change, -, rfl⟩ := h
    dsimp only
    split_ifs <;> decide

/-- A current violation that is protected was reintroduced. -/
theorem reintroduced_mem
    (h : violationClassifications baseline assessment changes = .ok classifications)
    (hids : (assessment.violations.items.map fun violation => violation.id).Nodup)
    {violation : RatchetViolation} (hviolation : violation ∈ assessment.violations.items)
    (hid : violation.id = deriveViolationId violation.key)
    (hprotected : violation.key ∈ baseline.protectedKeys.items) :
    ⟨.reintroduced, violation.key⟩ ∈ classifications := by
  simp only [violationClassifications, bind_eq_ok, pure_eq_ok, Except.ok.injEq] at h
  obtain ⟨present, hpresent, rfl⟩ := h
  have hitems : (currentViolations assessment).items =
      assessment.violations.items.map fun violation => (violation.id, violation.key) :=
    Dict.items_ofList (by rwa [List.map_map])
  obtain ⟨item, hitem, hclassified⟩ := exists_of_mem_collect hpresent
    (hitems ▸ List.mem_map_of_mem hviolation)
  have hcontains : (keysByViolationId baseline.protectedKeys.items).contains violation.id =
      true := by
    rw [Dict.contains_iff, keysByViolationId, Dict.mem_keys_ofList, List.map_map, hid]
    exact List.mem_map_of_mem hprotected
  rw [classifyCurrent, if_pos hcontains] at hclassified
  cases hclassified
  exact mem_sortedBy.mpr (List.mem_append_left _ hitem)

/-- Only allowances are resolved. -/
theorem allowed_of_resolved
    (h : violationClassifications baseline assessment changes = .ok classifications)
    {key : ViolationKey} (hkey : key ∈ keysClassified classifications fun kind =>
      kind = .resolved) : key ∈ baseline.allowances.items := by
  simp only [violationClassifications, bind_eq_ok, pure_eq_ok, Except.ok.injEq] at h
  obtain ⟨present, hpresent, rfl⟩ := h
  obtain ⟨item, hitem, hkind, rfl⟩ := ViolationView.mem_keysClassified.mp hkey
  rcases List.mem_append.mp (mem_sortedBy.mp hitem) with hmem | hmem
  · obtain ⟨current, -, hclassified⟩ := (mem_of_collect hpresent item).mp hmem
    exact absurd (of_decide_eq_true hkind) (classifyCurrent_ne_resolved hclassified)
  · obtain ⟨allowed, hallowed, rfl⟩ := List.mem_map.mp hmem
    obtain ⟨value, hvalue, rfl⟩ := List.mem_map.mp
      (Dict.mem_of_mem_ofList (List.mem_of_mem_filter hallowed))
    have hsame : (classifyAbsent assessment.subjectCoverage
        (Dict.ofList (assessment.coverage.items.map fun coverage =>
          (coverage.rule, coverage.status))) value).key = value := by
      unfold classifyAbsent
      split <;> rfl
    rw [hsame]
    exact hvalue

end Classifications

/-! ### Reports -/

/-- What a report says of the violations of an assessment. -/
structure Reported (baseline : RatchetBaseline) (assessment : RatchetAssessment)
    (report : RatchetEvaluationReport) : Prop where
  ledger : ValidLedger baseline
  ids_nodup : (assessment.violations.items.map fun violation => violation.id).Nodup
  ids_derived : ∀ violation ∈ assessment.violations.items,
    violation.id = deriveViolationId violation.key
  classified : ∃ changes, violationClassifications baseline assessment changes =
      .ok report.classifications.items ∧
    report.outcome = evaluationOutcome assessment changes report.classifications.items
  delta : weakeningDelta report.classifications.items = .ok report.weakeningDelta

variable [Unicodedata] {policy : RatchetPolicy} {start tip : RatchetBaseline}
  {bundle : OnboardingBundle} {assessment : RatchetAssessment} {report : RatchetEvaluationReport}

theorem reported_of_evaluateRatchet
    (h : evaluateRatchet policy tip bundle assessment = .ok report) :
    Reported tip assessment report := by
  simp only [evaluateRatchet, validateRatchetAssessment, validateRatchetAssessmentStructure,
    bind_eq_ok, require_eq_ok, requireUniqueAndSorted_eq_ok, checkEach_require_eq_ok,
    exists_const] at h
  obtain ⟨_, ⟨_, -, ⟨_, -, -, hsorted, hderived, -⟩, -⟩, _, hvalid, -, -, -, hderive⟩ := h
  simp only [deriveEvaluation, bind_eq_ok, validated_eq_ok, Tuple.ofList_eq_ok, pure_eq_ok,
    Except.ok.injEq] at hderive
  obtain ⟨changes, -, classifications, hclassifications, delta, hdelta, _, -,
    limited, hlimited, rfl⟩ := hderive
  subst hlimited
  exact ⟨validLedger_of_validate hvalid, hsorted.imp fun hlt => hlt.ne, hderived,
    ⟨changes, hclassifications, rfl⟩, hdelta⟩

/-- A protected violation is refused: a report on an assessment that shows it says that it was
reintroduced and fails, and the baseline does not advance. -/
structure RefusesViolation (policy : RatchetPolicy) (tip : RatchetBaseline)
    (bundle : OnboardingBundle) (assessment : RatchetAssessment)
    (report : RatchetEvaluationReport) (key : ViolationKey) : Prop where
  classified : ⟨.reintroduced, key⟩ ∈ report.classifications.items
  unprotected : key ∈ report.weakeningDelta.removedProtections.items
  review : report.weakeningDelta.status = .reviewRequired
  outcome : report.outcome = .fail
  refused : ∀ successor, advanceRatchetBaseline policy tip bundle assessment report ≠ .ok successor

theorem refusesViolation (h : evaluateRatchet policy tip bundle assessment = .ok report)
    {key : ViolationKey}
    (hkey : key ∈ assessment.violations.items.map fun violation => violation.key)
    (hprotected : key ∈ tip.protectedKeys.items) :
    RefusesViolation policy tip bundle assessment report key := by
  have hreport := reported_of_evaluateRatchet h
  obtain ⟨violation, hviolation, rfl⟩ := List.mem_map.mp hkey
  obtain ⟨changes, hclassified, houtcome⟩ := hreport.classified
  have hmem := reintroduced_mem hclassified hreport.ids_nodup hviolation
    (hreport.ids_derived violation hviolation) hprotected
  have hregression : hasRegression report.classifications.items = true :=
    List.any_eq_true.mpr ⟨_, hmem, rfl⟩
  rw [evaluationOutcome, if_pos hregression] at houtcome
  have hdelta := hreport.delta
  simp only [weakeningDelta, bind_eq_ok, validated_eq_ok, Tuple.ofList_eq_ok, pure_eq_ok,
    Except.ok.injEq] at hdelta
  obtain ⟨added, hadded, removed, hremoved, unprotected, hunprotected, hdelta⟩ := hdelta
  refine ⟨hmem, ?_, ?_, houtcome, fun successor hadvance => ?_⟩
  · rw [← hdelta, hunprotected]
    exact ViolationView.mem_keysClassified.mpr ⟨_, hmem, rfl, rfl⟩
  · rw [← hdelta, deltaStatus, if_pos hregression]
  · simp only [advanceRatchetBaseline, bind_eq_ok, require_eq_ok, exists_const] at hadvance
    obtain ⟨_, -, _, -, hpass, -⟩ := hadvance
    rw [houtcome] at hpass
    cases hpass

/-! ### Runs -/

theorem validate_of_established
    (h : establishRatchetBaseline policy bundle assessment = .ok start) :
    validateRatchetBaselineStructure start = .ok () := by
  simp only [establishRatchetBaseline, validateInitialRatchetBaseline, bind_eq_ok, pure_eq_ok,
    Except.ok.injEq] at h
  obtain ⟨_, -, _, -, baseline, -, _, ⟨_, -, _, -, _, -, _, -, _, hvalid, -⟩, rfl⟩ := h
  exact hvalid

/-- One baseline of profile 1.0.0 advances to another. -/
def Advances (predecessor successor : RatchetBaseline) : Prop :=
  ∃ policy bundle assessment report,
    advanceRatchetBaseline policy predecessor bundle assessment report = .ok successor

omit [Unicodedata] in
/-- An advance keeps what is protected: what it adds was allowed, so that it has another
identifier. -/
theorem mem_successorProtected (hledger : ValidLedger tip) (hresolved : ∀ key ∈ keysClassified
      report.classifications.items (fun kind => kind = .resolved), key ∈ tip.allowances.items)
    {key : ViolationKey} (hkey : key ∈ tip.protectedKeys.items) :
    key ∈ (successorProtected tip report).valuesByKey := by
  have hpresent : deriveViolationId key ∈ (successorProtected tip report).keys := by
    refine Dict.mem_keys_update.mpr (.inr (Dict.mem_keys_ofList.mpr ?_))
    rw [List.map_map]
    exact List.mem_map_of_mem hkey
  obtain ⟨value, hvalue⟩ := Dict.mem_keys.mp hpresent
  have hitem := Dict.get?_eq_some.mp hvalue
  rcases Dict.mem_of_mem_update hitem with hnew | hold
  · obtain ⟨allowed, hallowed, heq⟩ := List.mem_map.mp hnew
    have hid : deriveViolationId allowed = deriveViolationId key := congrArg Prod.fst heq
    exact absurd (hid ▸ List.mem_map_of_mem hkey) (hledger.disjoint allowed
      (hresolved allowed hallowed))
  · obtain ⟨kept, hkept, heq⟩ := List.mem_map.mp (Dict.mem_of_mem_ofList hold)
    have hsame : kept = key := List.inj_on_of_nodup_map hledger.protected_nodup hkept hkey
      (congrArg Prod.fst heq)
    refine Dict.mem_valuesByKey.mpr ⟨deriveViolationId key, ?_⟩
    rw [← heq, hsame] at hitem
    exact hitem

/-- What one advance keeps: its predecessor and its successor are validated, and what the former
protects, the latter protects. -/
theorem kept_of_advances (h : Advances start tip) :
    validateRatchetBaselineStructure tip = .ok () ∧
      ∀ key ∈ start.protectedKeys.items, key ∈ tip.protectedKeys.items := by
  obtain ⟨policy, bundle, assessment, report, hadvance⟩ := h
  simp only [advanceRatchetBaseline, validateRatchetEvaluationReport,
    validateSuccessorRatchetBaseline, bind_eq_ok, require_eq_ok, pure_eq_ok, Except.ok.injEq,
    requireSameReport_eq_ok, exists_const] at hadvance
  obtain ⟨⟨_, -, _, hevaluate, rfl⟩, _, -, -, successor, hderive,
    ⟨-, _, -, -, _, -, _, -, _, hvalid, -⟩, rfl⟩ := hadvance
  have hreport := reported_of_evaluateRatchet hevaluate
  obtain ⟨changes, hclassified, -⟩ := hreport.classified
  refine ⟨hvalid, fun key hkey => ?_⟩
  simp only [deriveSuccessorBaseline, bind_eq_ok, validated_eq_ok, Tuple.ofList_eq_ok] at hderive
  obtain ⟨generation, -, allowances, -, protectedKeys, hprotected, hderive⟩ := hderive
  split at hderive
  · cases hderive
    show key ∈ protectedKeys.items
    rw [hprotected]
    exact mem_successorProtected hreport.ledger (fun _ => allowed_of_resolved hclassified) hkey
  · cases hderive

/-- By induction on the run. -/
theorem kept_of_run (hrun : Relation.ReflTransGen Advances start tip)
    (hstart : validateRatchetBaselineStructure start = .ok ()) :
    validateRatchetBaselineStructure tip = .ok () ∧
      ∀ key ∈ start.protectedKeys.items, key ∈ tip.protectedKeys.items := by
  induction hrun with
  | refl => exact ⟨hstart, fun _ hkey => hkey⟩
  | tail _ hstep ih =>
    obtain ⟨hvalid, hkept⟩ := kept_of_advances hstep
    exact ⟨hvalid, fun key hkey => hkept key (ih.2 key hkey)⟩

/-- A key has a tombstone in a baseline of profile 1.0.0: it is protected and not allowed there, and
every report on an assessment that shows it again fails and is refused. -/
structure Tombstone (tip : RatchetBaseline) (key : ViolationKey) : Prop where
  kept : key ∈ tip.protectedKeys.items
  not_allowed : key ∉ tip.allowances.items
  refuses : ∀ policy bundle assessment report,
    evaluateRatchet policy tip bundle assessment = .ok report →
    key ∈ assessment.violations.items.map (fun violation => violation.key) →
    RefusesViolation policy tip bundle assessment report key

theorem tombstone_of_run (hrun : Relation.ReflTransGen Advances start tip)
    (hstart : validateRatchetBaselineStructure start = .ok ()) {key : ViolationKey}
    (hkey : key ∈ start.protectedKeys.items) : Tombstone tip key := by
  obtain ⟨hvalid, hkept⟩ := kept_of_run hrun hstart
  refine ⟨hkept key hkey, fun hallowed => ?_, ?_⟩
  · exact (validLedger_of_validate hvalid).disjoint key hallowed
      (List.mem_map_of_mem (hkept key hkey))
  · intro policy bundle assessment report hreport hcurrent
    exact refusesViolation hreport hcurrent (hkept key hkey)

end Ucf.V1

namespace Ucf.V2

variable [Hashlib] [Unicodedata] {policy : RatchetPolicy} {start tip : RatchetBaseline}
  {bundle : OnboardingBundle} {assessment : RatchetAssessment} {report : RatchetEvaluationReport}
  {acceptedId : BaselineId}

/-- A protected violation is refused: a report on an assessment that shows it says that it was
reintroduced and fails, and the baseline does not advance. -/
structure RefusesViolation (policy : RatchetPolicy) (tip : RatchetBaseline)
    (bundle : OnboardingBundle) (assessment : RatchetAssessment) (acceptedId : BaselineId)
    (report : RatchetEvaluationReport) (key : ViolationKey) : Prop where
  classified : ⟨.reintroduced, key⟩ ∈ report.behaviorClassifications.items
  unprotected : key ∈ report.behaviorDelta.removedProtections.items
  review : report.behaviorDelta.status = .reviewRequired
  outcome : report.combinedOutcome = .fail
  refused : ∀ successor, advanceRatchetBaseline policy tip bundle assessment report acceptedId ≠
    .ok successor

/-- The same for a protected debt. -/
structure RefusesDebt (policy : RatchetPolicy) (tip : RatchetBaseline) (bundle : OnboardingBundle)
    (assessment : RatchetAssessment) (acceptedId : BaselineId) (report : RatchetEvaluationReport)
    (key : CoverageDebtKey) : Prop where
  classified : ⟨.reintroduced, key⟩ ∈ report.coverageClassifications.items
  unprotected : key ∈ report.coverageDelta.removedProtections.items
  review : report.coverageDelta.status = .reviewRequired
  outcome : report.combinedOutcome = .fail
  refused : ∀ successor, advanceRatchetBaseline policy tip bundle assessment report acceptedId ≠
    .ok successor

/-! ### Reports -/

/-- A report that fails does not qualify, whatever it is given with. -/
theorem not_advances_of_fail (h : report.combinedOutcome = .fail) (successor : RatchetBaseline) :
    advanceRatchetBaseline policy tip bundle assessment report acceptedId ≠ .ok successor := by
  intro hadvance
  have hqualifying := (advanceRatchetBaseline_eq_ok.mp hadvance).2.1
  rw [isQualifying, h] at hqualifying
  rcases hqualifying with heq | heq <;> cases heq

omit [Hashlib] [Unicodedata] in
theorem deltaStatus_of_mem {κ : Type} {regressions resolutions : List κ} {key : κ}
    (h : key ∈ regressions) : deltaStatus regressions resolutions = .reviewRequired := by
  rw [deltaStatus, if_pos (List.ne_nil_of_mem h)]

theorem refusesViolation (h : evaluateRatchet policy tip bundle assessment acceptedId = .ok report)
    {key : ViolationKey} (hkey : key ∈ currentKeys assessment)
    (hprotected : key ∈ tip.behavior.protectedKeys.items) :
    RefusesViolation policy tip bundle assessment acceptedId report key := by
  obtain ⟨hready, hreport⟩ := evaluated_of_evaluateRatchet h
  have hreintroduced : key ∈ keysClassified report.behaviorClassifications.items
      fun kind => kind = .reintroduced := by
    rw [hreport.violations]
    exact ViolationView.mem_reintroduced.mpr ⟨hkey, List.mem_map_of_mem hprotected⟩
  obtain ⟨item, hitem, rfl⟩ := List.mem_map.mp hreintroduced
  obtain ⟨hmem, hkind⟩ := List.mem_filter.mp hitem
  have hkind : item.classification = .reintroduced := of_decide_eq_true hkind
  have hregression : item.classification.isRegression = true := by
    rw [hkind]
    rfl
  have hdelta := hreport.behavior_delta
  simp only [behaviorDelta, bind_eq_ok, validated_eq_ok, Tuple.ofList_eq_ok, pure_eq_ok,
    Except.ok.injEq] at hdelta
  obtain ⟨added, hadded, removed, hremoved, unprotected, hunprotected, hdelta⟩ := hdelta
  have houtcome : report.combinedOutcome = .fail := by
    rw [hreport.combined_outcome, combinedOutcome, if_pos]
    rw [Bool.or_eq_true, hreport.behavior_outcome, behaviorOutcome, if_pos
      (List.any_eq_true.mpr ⟨item, hmem, hregression⟩)]
    exact Or.inl rfl
  refine ⟨?_, ?_, ?_, houtcome, not_advances_of_fail houtcome⟩
  · rw [← hkind]
    exact hmem
  · rw [← hdelta, hunprotected]
    exact hreintroduced
  · rw [← hdelta]
    exact deltaStatus_of_mem (List.mem_map_of_mem
      (List.mem_filter.mpr ⟨hmem, hregression⟩))

theorem refusesDebt (h : evaluateRatchet policy tip bundle assessment acceptedId = .ok report)
    {debt : CoverageDebtSnapshot} (hdebt : debt ∈ assessment.coverage.debts.items)
    (hprotected : debt.key ∈ tip.coverage.protectedKeys.items) :
    RefusesDebt policy tip bundle assessment acceptedId report debt.key := by
  obtain ⟨hready, hreport⟩ := evaluated_of_evaluateRatchet h
  have hkind : currentDebtKind tip (coverageComparison tip assessment) debt = .reintroduced := by
    rw [currentDebtKind, if_pos]
    rw [hready.exact.wellFormed.debt_ids_derived debt hdebt]
    exact List.mem_map_of_mem hprotected
  have hmem : (⟨.reintroduced, debt.key⟩ : CoverageDebtClassification) ∈
      report.coverageClassifications.items := by
    rw [hreport.debts, ← hkind]
    exact current_mem_debtClassifications hdebt
  have hreintroduced : debt.key ∈ debtKeysClassified report.coverageClassifications.items
      fun kind => kind = .reintroduced :=
    List.mem_map.mpr ⟨_, List.mem_filter.mpr ⟨hmem, rfl⟩, rfl⟩
  have hregression : debt.key ∈ debtKeysClassified report.coverageClassifications.items
      fun kind => kind.isRegression :=
    List.mem_map.mpr ⟨_, List.mem_filter.mpr ⟨hmem, rfl⟩, rfl⟩
  have hdelta := hreport.coverage_delta
  simp only [coverageDelta, bind_eq_ok, validated_eq_ok, Tuple.ofList_eq_ok, pure_eq_ok,
    Except.ok.injEq] at hdelta
  obtain ⟨added, hadded, removed, hremoved, unprotected, hunprotected, hdelta⟩ := hdelta
  have houtcome : report.combinedOutcome = .fail := by
    rw [hreport.combined_outcome, combinedOutcome, if_pos]
    rw [Bool.or_eq_true, hreport.coverage_outcome, coverageOutcome, if_pos
      (List.any_eq_true.mpr ⟨_, hmem, rfl⟩)]
    exact Or.inr rfl
  refine ⟨hmem, ?_, ?_, houtcome, not_advances_of_fail houtcome⟩
  · rw [← hdelta, hunprotected]
    exact hreintroduced
  · rw [← hdelta]
    exact deltaStatus_of_mem hregression

/-! ### Runs -/

/-- The protected keys of a baseline are protected after any number of advances; by induction on the
run. -/
theorem protected_of_advances (hrun : Relation.ReflTransGen Advances start tip) :
    (∀ key ∈ start.behavior.protectedKeys.items, key ∈ tip.behavior.protectedKeys.items) ∧
      ∀ key ∈ start.coverage.protectedKeys.items, key ∈ tip.coverage.protectedKeys.items := by
  induction hrun with
  | refl => exact ⟨fun _ hkey => hkey, fun _ hkey => hkey⟩
  | tail _ hstep ih =>
    obtain ⟨policy, bundle, assessment, report, acceptedId, hadvance⟩ := hstep
    obtain ⟨hready, hadvanced⟩ := advanced_of_advanceRatchetBaseline hadvance
    exact ⟨fun key hkey => hadvanced.mem_protected.mpr (.inl (ih.1 key hkey)),
      fun key hkey => hadvanced.mem_protectedDebts.mpr (.inl (ih.2 key hkey))⟩

/-- A key has a tombstone in a baseline: it is protected and not allowed there, and every report on
an assessment that shows it again fails and is refused. -/
structure Tombstone (tip : RatchetBaseline) (key : ViolationKey) : Prop where
  kept : key ∈ tip.behavior.protectedKeys.items
  not_allowed : key ∉ tip.behavior.allowances.items
  refuses : ∀ policy bundle assessment acceptedId report,
    evaluateRatchet policy tip bundle assessment acceptedId = .ok report →
    key ∈ currentKeys assessment →
    RefusesViolation policy tip bundle assessment acceptedId report key

theorem tombstone_of_run (hstart : Reachable start)
    (hrun : Relation.ReflTransGen Advances start tip) {key : ViolationKey}
    (hkey : key ∈ start.behavior.protectedKeys.items) : Tombstone tip key := by
  have hkept := (protected_of_advances hrun).1 key hkey
  obtain ⟨htip, -⟩ := tightens_of_advances hrun hstart.wellFormed
  refine ⟨hkept, fun hallowed => htip.disjoint key hallowed (List.mem_map_of_mem hkept), ?_⟩
  intro policy bundle assessment acceptedId report hreport hcurrent
  exact refusesViolation hreport hcurrent hkept

/-- The migration carries the protected keys over. -/
theorem protectedKeys_of_migrated {targetPolicy : RatchetPolicy} {sourcePolicy : V1.RatchetPolicy}
    {sourceBaseline : V1.RatchetBaseline} {sourceAssessment : V1.RatchetAssessment}
    {bundle : OnboardingBundle} {acceptedId : BaselineId} {baseline : RatchetBaseline}
    (h : migrateRatchetV1Baseline targetPolicy sourcePolicy sourceBaseline sourceAssessment bundle
      acceptedId = .ok baseline) :
    baseline.behavior.protectedKeys.items = sourceBaseline.protectedKeys.items := by
  obtain ⟨-, hderive, -⟩ := migrateRatchetV1Baseline_eq_ok.mp h
  simp only [deriveMigratedBaseline, bind_eq_ok, convertViolationKeys_eq_ok, validated_eq_ok,
    Tuple.ofList_eq_ok, pure_eq_ok, Except.ok.injEq] at hderive
  obtain ⟨_, -, _, -, _, -, protectedKeys, hprotected, _, -, _, -, limited, hlimited, rfl⟩ :=
    hderive
  exact hlimited.trans hprotected

end Ucf.V2

namespace Ucf.V2

open Ucf.Sample

end Ucf.V2
