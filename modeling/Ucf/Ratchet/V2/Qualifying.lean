import Ucf.Ratchet.V2.Evaluated
import Ucf.Ratchet.V2.Migration

/-! When an evaluation of profile 2.0.0 qualifies, that is, when its combined outcome lets the
baseline advance. -/

namespace Ucf.V2

/-! ### Outcomes -/

theorem combinedOutcome_qualifies {behavior : BehaviorOutcome} {coverage : CoverageOutcome} :
    isQualifying (combinedOutcome behavior coverage) ↔
      behavior = .pass ∧ (coverage = .pass ∨ coverage = .passWithLegacyCoverageDebt) := by
  cases behavior <;> cases coverage <;> decide

theorem combinedOutcome_eq_legacy {behavior : BehaviorOutcome} {coverage : CoverageOutcome} :
    combinedOutcome behavior coverage = .passWithLegacyCoverageDebt ↔
      behavior = .pass ∧ coverage = .passWithLegacyCoverageDebt := by
  cases behavior <;> cases coverage <;> decide

theorem behaviorOutcome_eq_pass {assessment : RatchetAssessment}
    {changes : List BehaviorSubjectChange} {classifications : List ViolationClassification} :
    behaviorOutcome assessment changes classifications = .pass ↔
      (∀ item ∈ classifications, item.classification.isRegression = false) ∧
        (∀ item ∈ classifications, item.classification ≠ .unknown) ∧
        (∀ change ∈ changes, change.change ≠ .unknownSubject) ∧
        ∀ coverage ∈ assessment.behavior.coverage.items, coverage.status = .complete := by
  unfold behaviorOutcome
  by_cases hregression : ∀ item ∈ classifications, item.classification.isRegression = false
  · rw [if_neg (by simpa using hregression)]
    split
    · rename_i hunknown
      simp only [Bool.or_eq_true, List.any_eq_true, decide_eq_true_eq] at hunknown
      simp only [reduceCtorEq, false_iff, not_and]
      rintro - hknown hsubjects hcomplete
      rcases hunknown with (⟨item, hitem, hkind⟩ | ⟨change, hchange, hkind⟩) | ⟨item, hitem, hne⟩
      · exact hknown item hitem hkind
      · exact hsubjects change hchange hkind
      · exact hne (hcomplete item hitem)
    · rename_i hknown
      simp only [Bool.or_eq_true, List.any_eq_true, decide_eq_true_eq, not_or, not_exists,
        not_and, not_not] at hknown
      simp only [true_iff]
      exact ⟨hregression, hknown.1.1, hknown.1.2, hknown.2⟩
  · rw [if_pos (by simpa using hregression)]
    simp [hregression]

/-- What an outcome of the coverage half asks for to qualify. -/
structure CoverageQualifies (assessment : RatchetAssessment) (comparison : CoverageComparisonStatus)
    (changes : List CoverageSubjectChange) (classifications : List CoverageDebtClassification) :
    Prop where
  no_regression : ∀ item ∈ classifications, item.classification.isRegression = false
  comparable : comparison = .comparable
  no_unknown : ∀ item ∈ classifications, item.classification ≠ .unknown
  subjects_known : ∀ change ∈ changes, change.change ≠ .unknownSubject
  inventory_complete : assessment.coverage.inventoryCoverage = .complete

theorem coverageOutcome_qualifies {assessment : RatchetAssessment}
    {comparison : CoverageComparisonStatus} {changes : List CoverageSubjectChange}
    {classifications : List CoverageDebtClassification} :
    (coverageOutcome assessment comparison changes classifications = .pass ∨
      coverageOutcome assessment comparison changes classifications =
        .passWithLegacyCoverageDebt) ↔
      CoverageQualifies assessment comparison changes classifications := by
  unfold coverageOutcome
  by_cases hregression : ∀ item ∈ classifications, item.classification.isRegression = false
  · rw [if_neg (by simpa using hregression)]
    split
    · rename_i hunknown
      simp only [Bool.or_eq_true, List.any_eq_true, decide_eq_true_eq] at hunknown
      simp only [reduceCtorEq, or_self, false_iff]
      intro h
      rcases hunknown with ((hne | ⟨item, hitem, hkind⟩) | ⟨change, hchange, hkind⟩) | hne
      · exact hne h.comparable
      · exact h.no_unknown item hitem hkind
      · exact h.subjects_known change hchange hkind
      · exact hne h.inventory_complete
    · rename_i hknown
      simp only [Bool.or_eq_true, List.any_eq_true, decide_eq_true_eq, not_or, not_exists,
        not_and, not_not] at hknown
      have hqualifies : CoverageQualifies assessment comparison changes classifications :=
        ⟨hregression, hknown.1.1.1, hknown.1.1.2, hknown.1.2, hknown.2⟩
      simp only [hqualifies, iff_true]
      split <;> simp
  · rw [if_pos (by simpa using hregression)]
    simp only [reduceCtorEq, or_self, false_iff]
    exact fun h => hregression h.no_regression

theorem coverageOutcome_eq_legacy {assessment : RatchetAssessment}
    {comparison : CoverageComparisonStatus} {changes : List CoverageSubjectChange}
    {classifications : List CoverageDebtClassification}
    (h : CoverageQualifies assessment comparison changes classifications) :
    coverageOutcome assessment comparison changes classifications = .passWithLegacyCoverageDebt ↔
      ∃ item ∈ classifications, item.classification = .unchangedLegacy := by
  have hregression : (classifications.any fun item => item.classification.isRegression) = false := by
    simpa using h.no_regression
  have hunknown : (comparison ≠ .comparable || (classifications.any fun item =>
      item.classification = .unknown) || (changes.any fun change =>
      change.change = .unknownSubject) ||
      assessment.coverage.inventoryCoverage ≠ .complete) = false := by
    simp only [Bool.or_eq_false_iff, List.any_eq_false, decide_eq_true_eq, decide_eq_false_iff_not,
      not_not, ne_eq]
    exact ⟨⟨⟨h.comparable, h.no_unknown⟩, h.subjects_known⟩, h.inventory_complete⟩
  rw [coverageOutcome, hregression, if_neg Bool.false_ne_true, hunknown,
    if_neg Bool.false_ne_true]
  split <;> simp_all

/-! ### Debts of groups -/

theorem mem_deriveCoverageDebts [Hashlib] {groups : List CoverageSubjectGroup}
    {debt : CoverageDebtSnapshot} : debt ∈ deriveCoverageDebts groups ↔
      ∃ group ∈ groups, (group.reconciliations.items = [] ∧ debt = uncoveredDebt group) ∨
        ∃ item ∈ group.reconciliations.items, item.disposition = .uncertain ∧
          debt = uncertainDebt group item := by
  rw [deriveCoverageDebts, mem_sortedBy, List.mem_flatMap]
  refine exists_congr fun group => and_congr_right fun _ => ?_
  have hstate := group.validState
  unfold groupDebts
  cases hkind : group.state with
  | uncovered =>
    rw [hkind] at hstate
    simp [hstate.mp rfl]
  | reconciled =>
    rw [hkind] at hstate
    have hne : group.reconciliations.items ≠ [] := fun hnil => by simpa using hstate.mpr hnil
    simp only [List.mem_map, List.mem_filter, decide_eq_true_eq, hne, false_and, false_or]
    constructor
    · rintro ⟨item, ⟨hitem, huncertain⟩, rfl⟩
      exact ⟨item, hitem, huncertain, rfl⟩
    · rintro ⟨item, hitem, huncertain, rfl⟩
      exact ⟨item, ⟨hitem, huncertain⟩, rfl⟩

theorem isReviewed_eq_true {group : CoverageSubjectGroup} {digest : Option Digest} :
    isReviewed group digest = true ↔ ∃ item ∈ group.reconciliations.items,
      some item.candidateSemanticDigest = digest ∧ item.disposition ≠ .uncertain := by
  simp [isReviewed]

/-- A debt that its own group explains has not been reviewed there. -/
theorem not_isReviewed_of_uncertain [Hashlib] {group : CoverageSubjectGroup} (h : group.WellFormed)
    {item : CoverageReconciliationSnapshot} (hitem : item ∈ group.reconciliations.items)
    (huncertain : item.disposition = .uncertain) :
    isReviewed group (some item.candidateSemanticDigest) = false := by
  rw [← Bool.not_eq_true, isReviewed_eq_true]
  rintro ⟨other, hother, hdigest, hreviewed⟩
  rw [Option.some.injEq] at hdigest
  obtain rfl := List.inj_on_of_nodup_map h.candidates_nodup hother hitem hdigest
  exact hreviewed huncertain

/-! ### The condition -/

/-- Two snapshots have the same fingerprints. -/
def SameFingerprints {σ ο τ : Type} (old new : SubjectSnapshot σ ο τ) : Prop :=
  old.semantic = new.semantic ∧ old.observed = new.observed

/-- A debt that is gone has been reviewed in a group: its candidate has been decided, and not as
uncertain, or, where no candidate was known, there are candidates and none is uncertain. -/
def ReviewedIn (group : CoverageSubjectGroup) (key : CoverageDebtKey) : Prop :=
  match key.debtKind with
  | .uncertain => ∃ item ∈ group.reconciliations.items,
      some item.candidateSemanticDigest = key.candidateSemanticDigest ∧
        item.disposition ≠ .uncertain
  | .uncovered => group.reconciliations.items ≠ [] ∧
      ∀ item ∈ group.reconciliations.items, item.disposition ≠ .uncertain

/-- What an assessment has to show for its evaluation against a baseline to qualify. -/
structure Qualifies [Hashlib] (baseline : RatchetBaseline) (assessment : RatchetAssessment) :
    Prop where
  rules_complete : ∀ coverage ∈ assessment.behavior.coverage.items, coverage.status = .complete
  violations_allowed : ∀ violation ∈ assessment.behavior.violations.items,
    violation.id ∈ baseline.behavior.allowances.items.map deriveViolationId ∧
      ∃ old ∈ baseline.behavior.subjects.items, ∃ new ∈ assessment.behavior.subjects.items,
        old.id = violation.key.subject.targetId ∧ new.id = violation.key.subject.targetId ∧
          SameFingerprints old new
  subjects_known : ∀ subject ∈ baseline.behavior.subjects.items,
    subject.id ∉ assessment.behavior.subjects.items.map (fun subject => subject.id) →
      assessment.coverage.discoveryCoverage = .complete
  qualification_eq : assessment.coverage.qualification = baseline.coverage.qualification
  inventory_complete : assessment.coverage.inventoryCoverage = .complete
  groups_present : ∀ group ∈ baseline.coverage.groups.items,
    group.id ∈ assessment.coverage.groups.items.map fun group => group.id
  debts_allowed : ∀ debt ∈ assessment.coverage.debts.items,
    ∃ old ∈ baseline.coverage.allowances.items, old.id = debt.id ∧
      old.semantic = debt.semantic ∧ old.observed = debt.observed
  absent_reviewed : ∀ debt ∈ baseline.coverage.allowances.items,
    debt.id ∉ assessment.coverage.debts.items.map (fun debt => debt.id) →
      ∃ group ∈ assessment.coverage.groups.items, group.id = debt.key.subject.targetId ∧
        ReviewedIn group debt.key

/-- The keys of the coverage groups of a baseline and an assessment. -/
def groupKeys (baseline : RatchetBaseline) (assessment : RatchetAssessment) :
    Set CoverageSubjectKey :=
  {key | ∃ group, (group ∈ baseline.coverage.groups.items ∨
    group ∈ assessment.coverage.groups.items) ∧ group.key = key}

/-- The keys of the debts that a baseline allows and an assessment shows. -/
def debtKeys (baseline : RatchetBaseline) (assessment : RatchetAssessment) :
    Set CoverageDebtKey :=
  {key | ∃ debt, (debt ∈ baseline.coverage.allowances.items ∨
    debt ∈ assessment.coverage.debts.items) ∧ debt.key = key}

variable [Hashlib] {baseline : RatchetBaseline} {assessment : RatchetAssessment}

theorem group_ids_nodup {groups : List CoverageSubjectGroup} (h : GroupsWellFormed groups)
    {keys : Set CoverageSubjectKey} (hinj : Set.InjOn deriveCoverageSubjectId keys)
    (hkeys : ∀ group ∈ groups, group.key ∈ keys) :
    (groups.map fun group => group.id).Nodup := by
  have hnodup : (groups.map fun group => group.key).Nodup := by
    refine List.Nodup.of_map coverageGroupOrder ?_
    rw [List.map_map]
    exact h.keys_sorted.nodup
  have hids : (groups.map fun group => group.id) =
      (groups.map fun group => group.key).map deriveCoverageSubjectId := by
    rw [List.map_map]
    exact List.map_congr_left fun group hgroup => (h.wellFormed group hgroup).id_derived
  rw [hids]
  refine List.Nodup.map_on ?_ hnodup
  rw [List.forall_mem_map]
  intro group hgroup
  rw [List.forall_mem_map]
  exact fun other hother => hinj (hkeys group hgroup) (hkeys other hother)

/-! ### The behavior half -/

theorem subjectChangeOf_eq_unchanged (hbaseline : baseline.WellFormed)
    (hassessment : assessment.WellFormed) {id : BehaviorSubjectId} :
    subjectChangeOf baseline assessment id = .unchanged ↔
      ∃ old ∈ baseline.behavior.subjects.items, ∃ new ∈ assessment.behavior.subjects.items,
        old.id = id ∧ new.id = id ∧ SameFingerprints old new :=
  changeOf_eq_unchanged hbaseline.subjects.ids_nodup hassessment.subjects.ids_nodup

omit [Hashlib] in
theorem subjects_known_iff :
    (∀ change ∈ subjectChangesOf baseline assessment, change.change ≠ .unknownSubject) ↔
      ∀ subject ∈ baseline.behavior.subjects.items,
        subject.id ∉ assessment.behavior.subjects.items.map (fun subject => subject.id) →
          assessment.coverage.discoveryCoverage = .complete := by
  simp only [subjectChangesOf, changesOf, List.forall_mem_map]
  constructor
  · intro h subject hsubject habsent
    have hmem : subject.id ∈ baseline.behavior.subjects.items.map fun subject => subject.id :=
      List.mem_map_of_mem hsubject
    have hchanged : subject.id ∈ changedIds baseline.behavior.subjects.items
        assessment.behavior.subjects.items := by
      rw [changedIds, mem_sortedSet, List.mem_append]
      exact .inl hmem
    by_contra hcoverage
    exact h subject.id hchanged (changeOf_eq_unknown.mpr ⟨hcoverage, hmem, habsent⟩)
  · intro h id _ hunknown
    obtain ⟨hcoverage, hprevious, hcurrent⟩ := changeOf_eq_unknown.mp hunknown
    obtain ⟨subject, hsubject, rfl⟩ := List.mem_map.mp hprevious
    exact hcoverage (h subject hsubject hcurrent)

/-- With complete coverage of all rules, an allowed violation whose rule the policy has is examined
when its subject is not unknown. -/
theorem examined_of_complete (hassessment : assessment.WellFormed) {key : ViolationKey}
    (hcomplete : ∀ coverage ∈ assessment.behavior.coverage.items, coverage.status = .complete)
    (hrule : key.rule ∈ assessment.behavior.coverage.items.map fun item => item.rule) :
    ruleStatus assessment key.rule = some .complete := by
  obtain ⟨item, hitem, hitemRule⟩ := List.mem_map.mp hrule
  exact (ruleStatus_eq_some hassessment).mpr ⟨item, hitem, hitemRule, hcomplete item hitem⟩

theorem violations_allowed_iff (hbaseline : baseline.WellFormed)
    (hassessment : assessment.WellFormed) :
    (∀ key ∈ (violationView baseline assessment hbaseline hassessment).current,
      (violationView baseline assessment hbaseline hassessment).currentKind key =
        .unchangedLegacy) ↔
    ∀ violation ∈ assessment.behavior.violations.items,
      violation.id ∈ baseline.behavior.allowances.items.map deriveViolationId ∧
        ∃ old ∈ baseline.behavior.subjects.items, ∃ new ∈ assessment.behavior.subjects.items,
          old.id = violation.key.subject.targetId ∧ new.id = violation.key.subject.targetId ∧
            SameFingerprints old new := by
  have hcurrent : (violationView baseline assessment hbaseline hassessment).current =
      assessment.behavior.violations.items.map fun violation => violation.key := rfl
  rw [hcurrent, List.forall_mem_map]
  refine forall₂_congr fun violation hviolation => ?_
  rw [ViolationView.currentKind_eq_unchanged,
    ← subjectChangeOf_eq_unchanged hbaseline hassessment,
    (hassessment.violations violation hviolation).id_derived]
  exact and_congr_right fun _ => by simp [violationView]

/-! ### The coverage half -/

omit [Hashlib] in
theorem coverageComparison_eq_comparable :
    coverageComparison baseline assessment = .comparable ↔
      assessment.coverage.qualification = baseline.coverage.qualification ∧
        assessment.coverage.inventoryCoverage = .complete := by
  unfold coverageComparison
  split_ifs with hqualification hinventory
  · simp [Ne.symm hqualification]
  · simp [hinventory]
  · simp only [true_iff]
    exact ⟨(not_not.mp hqualification).symm, not_not.mp hinventory⟩

omit [Hashlib] in
theorem groups_present_iff :
    (∀ change ∈ groupChangesOf baseline assessment true, change.change ≠ .unknownSubject) ↔
      ∀ group ∈ baseline.coverage.groups.items,
        group.id ∈ assessment.coverage.groups.items.map fun group => group.id := by
  have hkind : ∀ id, groupChangeOf baseline assessment true id = .unknownSubject ↔
      groupAt baseline.coverage.groups.items id ≠ none ∧
        groupAt assessment.coverage.groups.items id = none := by
    intro id
    unfold groupChangeOf groupChangeKind
    cases groupAt baseline.coverage.groups.items id with
    | none => simp
    | some old =>
      cases groupAt assessment.coverage.groups.items id with
      | none => simp
      | some new =>
        simp only [coverageFingerprintChange]
        split_ifs <;> simp
  simp only [groupChangesOf, List.forall_mem_map, ne_eq, hkind, groupAt_eq_none, not_and,
    not_not]
  constructor
  · intro h group hgroup
    have hmem : group.id ∈ baseline.coverage.groups.items.map fun group => group.id :=
      List.mem_map_of_mem hgroup
    refine h group.id ?_ hmem
    rw [groupIds, mem_sortedSet, List.mem_append]
    exact .inl hmem
  · intro h id _ hprevious
    obtain ⟨group, hgroup, rfl⟩ := List.mem_map.mp hprevious
    exact h group hgroup

/-- A debt that its own group still explains was not reviewed in the groups of the baseline. -/
theorem not_wasExplicitlyReviewed (hbaseline : baseline.WellFormed)
    (hgroups : (baseline.coverage.groups.items.map fun group => group.id).Nodup)
    {debt : CoverageDebtSnapshot} (hdebt : debt ∈ baseline.coverage.allowances.items)
    {new : CoverageDebtSnapshot} (hkey : debt.key = new.key) :
    wasExplicitlyReviewed new baseline.coverage.groups.items = false := by
  unfold wasExplicitlyReviewed
  split_ifs with hkind
  · rfl
  · rw [← hkey]
    rw [hbaseline.coverage_allowances, mem_deriveCoverageDebts] at hdebt
    obtain ⟨group, hgroup, ⟨_, rfl⟩ | ⟨item, hitem, huncertain, rfl⟩⟩ := hdebt
    · rw [← hkey] at hkind
      exact absurd nofun hkind
    · have hfind : baseline.coverage.groups.items.find? (fun other =>
          other.id = (uncertainDebt group item).key.subject.targetId) = some group := by
        cases hfound : baseline.coverage.groups.items.find? (fun other =>
            other.id = (uncertainDebt group item).key.subject.targetId) with
        | none =>
          have hnot := List.find?_eq_none.mp hfound group hgroup
          simp [uncertainDebt] at hnot
        | some other =>
          have hid := List.find?_some hfound
          rw [decide_eq_true_eq] at hid
          rw [List.inj_on_of_nodup_map hgroups (List.mem_of_find?_eq_some hfound) hgroup hid]
      rw [hfind]
      exact not_isReviewed_of_uncertain (hbaseline.groups.wellFormed group hgroup) hitem huncertain

theorem currentDebtKind_eq_unchanged (hbaseline : baseline.WellFormed)
    (hgroups : (baseline.coverage.groups.items.map fun group => group.id).Nodup)
    (hassessment : assessment.WellFormed)
    (hdebts : Set.InjOn deriveCoverageDebtId (debtKeys baseline assessment))
    {debt : CoverageDebtSnapshot} (hdebt : debt ∈ assessment.coverage.debts.items) :
    currentDebtKind baseline .comparable debt = .unchangedLegacy ↔
      ∃ old ∈ baseline.coverage.allowances.items, old.id = debt.id ∧
        old.semantic = debt.semantic ∧ old.observed = debt.observed := by
  have hnodup := hbaseline.coverage_allowances_sorted.nodup
  constructor
  · intro h
    unfold currentDebtKind at h
    split_ifs at h
    split at h
    · cases h
    · rename_i old hold
      obtain ⟨hmem, hid⟩ := (debtAt_eq_some hnodup).mp hold
      split_ifs at h with hsame
      exact ⟨old, hmem, hid, hsame⟩
  · rintro ⟨old, hold, hid, hsame⟩
    have hkey : old.key = debt.key := by
      refine hdebts ⟨old, .inl hold, rfl⟩ ⟨debt, .inr hdebt, rfl⟩ ?_
      rw [← hbaseline.coverage_ids_derived old hold, hid, hassessment.debt_ids_derived debt hdebt]
    have hprotected : debt.id ∉ protectedDebtIds baseline := by
      rw [← hid]
      exact hbaseline.coverage_disjoint old hold
    have hreviewed := not_wasExplicitlyReviewed hbaseline hgroups hold hkey
    have hfound := (debtAt_eq_some hnodup).mpr ⟨hold, hid⟩
    simp only [currentDebtKind, if_neg hprotected, hreviewed, Bool.false_eq_true, if_false,
      reduceCtorEq, hfound]
    exact if_pos hsame

omit [Hashlib] in
theorem absentDebtKind_eq_resolved
    (hgroups : (assessment.coverage.groups.items.map fun group => group.id).Nodup)
    {debt : CoverageDebtSnapshot} :
    absentDebtKind assessment .comparable debt = .resolved ↔
      ∃ group ∈ assessment.coverage.groups.items, group.id = debt.key.subject.targetId ∧
        ReviewedIn group debt.key := by
  have hresolved : absentDebtKind assessment .comparable debt = .resolved ↔
      isExplicitlyResolved debt (Dict.index (fun group : CoverageSubjectGroup => group.id)
        assessment.coverage.groups.items) = true := by
    simp only [absentDebtKind, reduceCtorEq, if_false]
    split <;> simp_all
  rw [hresolved]
  unfold isExplicitlyResolved
  cases hfound : (Dict.index (fun group : CoverageSubjectGroup => group.id)
      assessment.coverage.groups.items).get? debt.key.subject.targetId with
  | none =>
    have hnone := Dict.get?_index_eq_none.mp hfound
    simp only [Bool.false_eq_true, false_iff]
    rintro ⟨group, hgroup, hid, _⟩
    exact hnone group hgroup hid
  | some group =>
    obtain ⟨hgroup, hid⟩ := (Dict.get?_index hgroups).mp hfound
    have hreviewed : (if debt.key.debtKind = .uncovered then
          decide (group.reconciliations.items ≠ [] ∧
            ∀ item ∈ group.reconciliations.items, item.disposition ≠ .uncertain)
        else isReviewed group debt.key.candidateSemanticDigest) = true ↔
        ReviewedIn group debt.key := by
      unfold ReviewedIn
      cases hkind : debt.key.debtKind with
      | uncovered => simp
      | uncertain =>
        simp only [reduceCtorEq, if_false]
        exact isReviewed_eq_true
    simp only at hreviewed ⊢
    rw [hreviewed]
    constructor
    · exact fun h => ⟨group, hgroup, hid, h⟩
    · rintro ⟨other, hother, hotherId, h⟩
      obtain rfl := List.inj_on_of_nodup_map hgroups hother hgroup (hotherId.trans hid.symm)
      exact h

theorem debts_classified_iff (hbaseline : baseline.WellFormed) (hassessment : assessment.WellFormed)
    (hgroups : Set.InjOn deriveCoverageSubjectId (groupKeys baseline assessment))
    (hdebts : Set.InjOn deriveCoverageDebtId (debtKeys baseline assessment)) :
    ((∀ item ∈ debtClassifications baseline assessment .comparable,
        item.classification.isRegression = false) ∧
      ∀ item ∈ debtClassifications baseline assessment .comparable,
        item.classification ≠ .unknown) ↔
    (∀ debt ∈ assessment.coverage.debts.items,
      ∃ old ∈ baseline.coverage.allowances.items, old.id = debt.id ∧
        old.semantic = debt.semantic ∧ old.observed = debt.observed) ∧
    ∀ debt ∈ baseline.coverage.allowances.items,
      debt.id ∉ assessment.coverage.debts.items.map (fun debt => debt.id) →
        ∃ group ∈ assessment.coverage.groups.items, group.id = debt.key.subject.targetId ∧
          ReviewedIn group debt.key := by
  have hprevious := group_ids_nodup hbaseline.groups hgroups
    fun group hgroup => ⟨group, .inl hgroup, rfl⟩
  have hcurrent := group_ids_nodup hassessment.groups hgroups
    fun group hgroup => ⟨group, .inr hgroup, rfl⟩
  constructor
  · rintro ⟨hregression, hunknown⟩
    constructor
    · intro debt hdebt
      rw [← currentDebtKind_eq_unchanged hbaseline hprevious hassessment hdebts hdebt]
      have hnoRegression := hregression _ (current_mem_debtClassifications hdebt)
      have hnoUnknown := hunknown _ (current_mem_debtClassifications hdebt)
      have hnotResolved := @currentDebtKind_ne_resolved _ baseline .comparable debt
      cases hkind : currentDebtKind baseline .comparable debt <;>
        simp_all [CoverageDebtClassificationKind.isRegression]
    · intro debt hdebt habsent
      rw [← absentDebtKind_eq_resolved hcurrent]
      have hitem := mem_absentDebts.mpr ⟨hdebt, habsent⟩
      rcases @absentDebtKind_eq assessment .comparable debt with hkind | hkind
      · exact hkind
      · exact absurd hkind (hunknown _ (absent_mem_debtClassifications hitem))
  · rintro ⟨hallowed, hreviewed⟩
    have hkinds : ∀ item ∈ debtClassifications baseline assessment .comparable,
        item.classification = .unchangedLegacy ∨ item.classification = .resolved := by
      intro item hitem
      rcases mem_debtClassifications.mp hitem with ⟨debt, hdebt, rfl⟩ | ⟨debt, hdebt, rfl⟩
      · exact .inl ((currentDebtKind_eq_unchanged hbaseline hprevious hassessment hdebts
          hdebt).mpr (hallowed debt hdebt))
      · obtain ⟨hmem, habsent⟩ := mem_absentDebts.mp hdebt
        exact .inr ((absentDebtKind_eq_resolved hcurrent).mpr (hreviewed debt hmem habsent))
    constructor
    · intro item hitem
      rcases hkinds item hitem with hkind | hkind <;> rw [hkind] <;> rfl
    · intro item hitem
      rcases hkinds item hitem with hkind | hkind <;> rw [hkind] <;> nofun

/-! ### The whole evaluation -/

variable [Unicodedata] {policy : RatchetPolicy}
  {bundle : OnboardingBundle} {acceptedBaselineId : BaselineId} {report : RatchetEvaluationReport}

/-- The first three conditions are what the behavior outcome asks for. -/
theorem behaviorOutcome_pass_iff
    (hready : Evaluable policy baseline bundle assessment acceptedBaselineId)
    (hreport : Evaluated policy baseline assessment hready.baseline_wellFormed
      hready.exact.wellFormed report) :
    report.behaviorOutcome = .pass ↔
      (∀ coverage ∈ assessment.behavior.coverage.items, coverage.status = .complete) ∧
      (∀ violation ∈ assessment.behavior.violations.items,
        violation.id ∈ baseline.behavior.allowances.items.map deriveViolationId ∧
          ∃ old ∈ baseline.behavior.subjects.items, ∃ new ∈ assessment.behavior.subjects.items,
            old.id = violation.key.subject.targetId ∧ new.id = violation.key.subject.targetId ∧
              SameFingerprints old new) ∧
      ∀ subject ∈ baseline.behavior.subjects.items,
        subject.id ∉ assessment.behavior.subjects.items.map (fun subject => subject.id) →
          assessment.coverage.discoveryCoverage = .complete := by
  rw [hreport.behavior_outcome, behaviorOutcome_eq_pass, hreport.violations,
    hreport.subject_changes, ViolationView.no_regression_iff, ViolationView.no_unknown_iff,
    violations_allowed_iff, subjects_known_iff]
  constructor
  · rintro ⟨hallowed, _, hknown, hcomplete⟩
    exact ⟨hcomplete, hallowed, hknown⟩
  · rintro ⟨hcomplete, hallowed, hknown⟩
    refine ⟨hallowed, ?_, hknown, hcomplete⟩
    intro key hkey
    have hkeyAllowed := (ViolationView.mem_absent.mp hkey).1
    refine decide_eq_true ⟨?_, ?_⟩
    · refine examined_of_complete hready.exact.wellFormed hcomplete ?_
      exact (hready.exact.rules_covered _).mpr (hready.allowance_rules key hkeyAllowed)
    · intro hunknown
      obtain ⟨hcoverage, hprevious, hcurrent⟩ := changeOf_eq_unknown.mp hunknown
      obtain ⟨subject, hsubject, hid⟩ := List.mem_map.mp hprevious
      exact hcoverage (hknown subject hsubject (hid ▸ hcurrent))

/-- The other conditions are what the coverage outcome asks for. -/
theorem coverage_qualifies_iff
    (hready : Evaluable policy baseline bundle assessment acceptedBaselineId)
    (hreport : Evaluated policy baseline assessment hready.baseline_wellFormed
      hready.exact.wellFormed report)
    (hgroups : Set.InjOn deriveCoverageSubjectId (groupKeys baseline assessment))
    (hdebts : Set.InjOn deriveCoverageDebtId (debtKeys baseline assessment)) :
    CoverageQualifies assessment report.coverageComparison report.coverageSubjectChanges.items
        report.coverageClassifications.items ↔
      (assessment.coverage.qualification = baseline.coverage.qualification ∧
        assessment.coverage.inventoryCoverage = .complete) ∧
      (∀ group ∈ baseline.coverage.groups.items,
        group.id ∈ assessment.coverage.groups.items.map fun group => group.id) ∧
      (∀ debt ∈ assessment.coverage.debts.items,
        ∃ old ∈ baseline.coverage.allowances.items, old.id = debt.id ∧
          old.semantic = debt.semantic ∧ old.observed = debt.observed) ∧
      ∀ debt ∈ baseline.coverage.allowances.items,
        debt.id ∉ assessment.coverage.debts.items.map (fun debt => debt.id) →
          ∃ group ∈ assessment.coverage.groups.items, group.id = debt.key.subject.targetId ∧
            ReviewedIn group debt.key := by
  rw [← debts_classified_iff hready.baseline_wellFormed hready.exact.wellFormed hgroups hdebts,
    ← groups_present_iff, ← coverageComparison_eq_comparable]
  have hchanges := hreport.group_changes
  have hclassified := hreport.debts
  rw [hreport.comparison] at *
  constructor
  · intro h
    rw [h.comparable, decide_eq_true rfl] at hchanges
    rw [h.comparable] at hclassified
    exact ⟨h.comparable, hchanges ▸ h.subjects_known, hclassified ▸ h.no_regression,
      hclassified ▸ h.no_unknown⟩
  · rintro ⟨hcomparable, hknown, hregression, hunknown⟩
    rw [hcomparable, decide_eq_true rfl] at hchanges
    rw [hcomparable] at hclassified
    exact ⟨hclassified ▸ hregression, hcomparable, hclassified ▸ hunknown, hchanges ▸ hknown,
      (coverageComparison_eq_comparable.mp hcomparable).2⟩

/-- A combined outcome qualifies when these conditions hold. -/
theorem qualifies_iff
    (hready : Evaluable policy baseline bundle assessment acceptedBaselineId)
    (hreport : Evaluated policy baseline assessment hready.baseline_wellFormed
      hready.exact.wellFormed report)
    (hgroups : Set.InjOn deriveCoverageSubjectId (groupKeys baseline assessment))
    (hdebts : Set.InjOn deriveCoverageDebtId (debtKeys baseline assessment)) :
    isQualifying report.combinedOutcome ↔ Qualifies baseline assessment := by
  rw [hreport.combined_outcome, combinedOutcome_qualifies, behaviorOutcome_pass_iff hready hreport,
    hreport.coverage_outcome, coverageOutcome_qualifies,
    coverage_qualifies_iff hready hreport hgroups hdebts]
  constructor
  · rintro ⟨⟨hcomplete, hviolations, hsubjects⟩, ⟨hqualification, hinventory⟩, hpresent, hallowed,
      hreviewed⟩
    exact ⟨hcomplete, hviolations, hsubjects, hqualification, hinventory, hpresent, hallowed,
      hreviewed⟩
  · intro h
    exact ⟨⟨h.rules_complete, h.violations_allowed, h.subjects_known⟩,
      ⟨h.qualification_eq, h.inventory_complete⟩, h.groups_present, h.debts_allowed,
      h.absent_reviewed⟩

/-- A qualifying outcome tells whether some debt is left. -/
theorem legacy_iff (hready : Evaluable policy baseline bundle assessment acceptedBaselineId)
    (hreport : Evaluated policy baseline assessment hready.baseline_wellFormed
      hready.exact.wellFormed report)
    (hgroups : Set.InjOn deriveCoverageSubjectId (groupKeys baseline assessment))
    (hdebts : Set.InjOn deriveCoverageDebtId (debtKeys baseline assessment)) :
    report.combinedOutcome = .passWithLegacyCoverageDebt ↔
      Qualifies baseline assessment ∧ assessment.coverage.debts.items ≠ [] := by
  have hqualifies := qualifies_iff hready hreport hgroups hdebts
  constructor
  · intro hlegacy
    have h := hqualifies.mp (.inr hlegacy)
    refine ⟨h, fun hnil => ?_⟩
    rw [hreport.combined_outcome, combinedOutcome_eq_legacy, hreport.coverage_outcome] at hlegacy
    have hcoverage := coverageOutcome_qualifies.mp (.inr hlegacy.2)
    obtain ⟨item, hitem, hkind⟩ := (coverageOutcome_eq_legacy hcoverage).mp hlegacy.2
    rw [hreport.debts, mem_debtClassifications] at hitem
    rcases hitem with ⟨debt, hdebt, _⟩ | ⟨debt, _, rfl⟩
    · rw [hnil] at hdebt
      cases hdebt
    · rcases @absentDebtKind_eq assessment (coverageComparison baseline assessment) debt with h | h
        <;> rw [h] at hkind <;> cases hkind
  · rintro ⟨h, hne⟩
    have hqualifying := hqualifies.mpr h
    rw [hreport.combined_outcome, combinedOutcome_qualifies, hreport.coverage_outcome,
      coverageOutcome_qualifies] at hqualifying
    obtain ⟨hbehavior, hcoverage⟩ := hqualifying
    rw [hreport.combined_outcome, combinedOutcome_eq_legacy, hreport.coverage_outcome,
      coverageOutcome_eq_legacy hcoverage]
    obtain ⟨debt, hdebt⟩ := List.exists_mem_of_ne_nil _ hne
    have hunchanged : currentDebtKind baseline .comparable debt = .unchangedLegacy :=
      (currentDebtKind_eq_unchanged hready.baseline_wellFormed
        (group_ids_nodup hready.baseline_wellFormed.groups hgroups
          fun group hgroup => ⟨group, .inl hgroup, rfl⟩)
        hready.exact.wellFormed hdebts hdebt).mpr (h.debts_allowed debt hdebt)
    refine ⟨hbehavior, ⟨currentDebtKind baseline .comparable debt, debt.key⟩, ?_, hunchanged⟩
    rw [hreport.debts, ← hreport.comparison, hcoverage.comparable]
    exact current_mem_debtClassifications hdebt

end Ucf.V2

namespace Ucf.V2

open Ucf.Sample

theorem Sample.Run.groupKeys_eq {r : Sample.Run} (h : r.isEmpty = true) :
    groupKeys r.baseline r.assessment = ∅ := by
  simp only [Run.isEmpty, Bool.and_eq_true, decide_eq_true_eq] at h
  simp [groupKeys, h]

theorem Sample.Run.debtKeys_eq {r : Sample.Run} (h : r.isEmpty = true) :
    debtKeys r.baseline r.assessment = ∅ := by
  simp only [Run.isEmpty, Bool.and_eq_true, decide_eq_true_eq] at h
  simp [debtKeys, h]

end Ucf.V2
