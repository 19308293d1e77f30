import Ucf.Ratchet.V2.Runs

/-! The behavior half of both ratchet profiles agrees. What profile 1.0.0 reports of documents is
what profile 2.0.0 reports of documents that say the same, but for the violations that are absent
from an incomplete discovery. -/

namespace Ucf

/-! ### Two views -/

namespace ViolationView

variable (v : ViolationView)

/-- The kind of a violation, present or absent. -/
def kindOf (key : ViolationKey) : ViolationClassificationKind :=
  if v.identify key ∈ v.current.map v.identify then v.currentKind key else v.absentKind key

variable {v} {key : ViolationKey}

/-- The classifications are those of the keys in order. -/
theorem classifications_eq_map : v.classifications =
    (sortedBy v.identify (v.current ++ v.absent)).map fun key => ⟨v.kindOf key, key⟩ := by
  have hcurrent : v.current.map (fun key => (⟨v.currentKind key, key⟩ : ViolationClassification)) =
      v.current.map fun key => ⟨v.kindOf key, key⟩ :=
    List.map_congr_left fun key hkey => by rw [kindOf, if_pos (List.mem_map_of_mem hkey)]
  have habsent : v.absent.map (fun key => (⟨v.absentKind key, key⟩ : ViolationClassification)) =
      v.absent.map fun key => ⟨v.kindOf key, key⟩ :=
    List.map_congr_left fun key hkey => by rw [kindOf, if_neg (mem_absent.mp hkey).2]
  rw [classifications, hcurrent, habsent, ← List.map_append, sortedBy_map]

end ViolationView

/-! ### Subjects of both profiles -/

namespace V1

theorem subjectChanges_eq (baseline : RatchetBaseline) (assessment : RatchetAssessment) :
    subjectChanges baseline assessment = .ok (changesOf _ assessment.subjectCoverage
      baseline.subjects.items assessment.subjects.items) := by
  refine @collect_changes _ _ _ _ _ _ _ _ _ (subjectChange assessment.subjectCoverage) ?_
  intro old new id hold hnew hsome
  unfold subjectChange
  cases hoid : old.get? id with
  | none =>
    cases hnid : new.get? id with
    | none => simp [hoid, hnid] at hsome
    | some n => simp [changeKind, hnew n hnid]
  | some o =>
    cases hnid : new.get? id with
    | none => simp [changeKind, hold o hoid]
    | some n =>
      have hid := hnew n hnid
      simp only [hid]
      rfl

/-- The changes of a report are within their limit. -/
theorem length_changes_le (baseline : RatchetBaseline) (assessment : RatchetAssessment) :
    (changesOf "ratchet_subject_change" assessment.subjectCoverage baseline.subjects.items
      assessment.subjects.items).length ≤ maxRatchetSubjects * 2 := by
  have hprevious := baseline.subjects.le_upper
  have hcurrent := assessment.subjects.le_upper
  have hids := @length_changedIds_le _ _ _ baseline.subjects.items assessment.subjects.items
  rw [changesOf, List.length_map]
  omega

end V1

/-- The documents of the two profiles say the same of behavior: they have the same ledgers,
violations, rules and subjects, and the fingerprints of a subject differ in both or in neither. -/
structure SameBehavior (sourceBaseline : V1.RatchetBaseline)
    (sourceAssessment : V1.RatchetAssessment) (baseline : V2.RatchetBaseline)
    (assessment : V2.RatchetAssessment) : Prop where
  allowances : sourceBaseline.allowances.items = baseline.behavior.allowances.items
  protectedKeys : sourceBaseline.protectedKeys.items = baseline.behavior.protectedKeys.items
  violations : (sourceAssessment.violations.items.map fun violation =>
      (violation.id, violation.key)) =
    assessment.behavior.violations.items.map fun violation => (violation.id, violation.key)
  rules : (sourceAssessment.coverage.items.map fun coverage => (coverage.rule, coverage.status)) =
    assessment.behavior.coverage.items.map fun coverage => (coverage.rule, coverage.status)
  discovery : sourceAssessment.subjectCoverage = assessment.coverage.discoveryCoverage
  previous_ids : (sourceBaseline.subjects.items.map fun subject => subject.id) =
    baseline.behavior.subjects.items.map fun subject => subject.id
  current_ids : (sourceAssessment.subjects.items.map fun subject => subject.id) =
    assessment.behavior.subjects.items.map fun subject => subject.id
  fingerprints : ∀ old ∈ sourceBaseline.subjects.items, ∀ new ∈ sourceAssessment.subjects.items,
    ∀ old' ∈ baseline.behavior.subjects.items, ∀ new' ∈ assessment.behavior.subjects.items,
    new.id = old.id → old'.id = old.id → new'.id = old.id →
    (old.semantic = new.semantic ↔ old'.semantic = new'.semantic) ∧
      (old.observed = new.observed ↔ old'.observed = new'.observed)

namespace SameBehavior

variable {sourceBaseline : V1.RatchetBaseline} {sourceAssessment : V1.RatchetAssessment}
  {baseline : V2.RatchetBaseline} {assessment : V2.RatchetAssessment}
  (h : SameBehavior sourceBaseline sourceAssessment baseline assessment)
include h

/-- Both profiles see the same change of a subject. -/
theorem changeOf_eq (id : BehaviorSubjectId) :
    changeOf sourceAssessment.subjectCoverage sourceBaseline.subjects.items
      sourceAssessment.subjects.items id = V2.subjectChangeOf baseline assessment id := by
  have hprevious : subjectAt sourceBaseline.subjects.items id = none ↔
      subjectAt baseline.behavior.subjects.items id = none := by
    rw [subjectAt_eq_none, subjectAt_eq_none, h.previous_ids]
  have hcurrent : subjectAt sourceAssessment.subjects.items id = none ↔
      subjectAt assessment.behavior.subjects.items id = none := by
    rw [subjectAt_eq_none, subjectAt_eq_none, h.current_ids]
  rw [V2.subjectChangeOf, changeOf, changeOf, h.discovery]
  cases hold : subjectAt sourceBaseline.subjects.items id with
  | none =>
    rw [hprevious.mp hold]
    rfl
  | some old =>
    obtain ⟨old', hold'⟩ := Option.ne_none_iff_exists'.mp (mt hprevious.mpr (by simp [hold]))
    rw [hold']
    cases hnew : subjectAt sourceAssessment.subjects.items id with
    | none =>
      rw [hcurrent.mp hnew]
      rfl
    | some new =>
      obtain ⟨new', hnew'⟩ := Option.ne_none_iff_exists'.mp (mt hcurrent.mpr (by simp [hnew]))
      rw [hnew']
      obtain ⟨holdMem, rfl⟩ := Dict.mem_of_get?_index hold
      obtain ⟨hnewMem, hnewId⟩ := Dict.mem_of_get?_index hnew
      obtain ⟨holdMem', holdId'⟩ := Dict.mem_of_get?_index hold'
      obtain ⟨hnewMem', hnewId'⟩ := Dict.mem_of_get?_index hnew'
      obtain ⟨hsemantic, hobserved⟩ := h.fingerprints old holdMem new hnewMem old' holdMem' new'
        hnewMem' hnewId holdId' hnewId'
      simp only [changeKind, ne_eq, hsemantic, hobserved]

/-- Both profiles see the same changes. -/
theorem changes_eq : (changesOf "ratchet_subject_change" sourceAssessment.subjectCoverage
      sourceBaseline.subjects.items sourceAssessment.subjects.items).map
        (fun change => (change.subject.targetId, change.change)) =
    (V2.subjectChangesOf baseline assessment).map
      fun change => (change.subject.targetId, change.change) := by
  rw [V2.subjectChangesOf, changesOf, changesOf, List.map_map, List.map_map, changedIds,
    changedIds, h.previous_ids, h.current_ids]
  refine List.map_congr_left fun id _ => ?_
  simp only [Function.comp_apply, Prod.mk.injEq, true_and]
  exact h.changeOf_eq id

end SameBehavior

variable [Hashlib]

/-- What profile 1.0.0 sees of violations: an absent one is resolved only under a complete
discovery. -/
def sourceView (baseline : V2.RatchetBaseline) (assessment : V2.RatchetAssessment)
    (hbaseline : baseline.WellFormed) (hassessment : assessment.WellFormed) : ViolationView :=
  { V2.violationView baseline assessment hbaseline hassessment with
    examined := fun key => assessment.coverage.discoveryCoverage = .complete ∧
      V2.ruleStatus assessment key.rule = some .complete }

/-- The code of profile 1.0.0 classifies violations as its view says. -/
theorem SameBehavior.violationClassifications_eq {sourceBaseline : V1.RatchetBaseline}
    {sourceAssessment : V1.RatchetAssessment} {baseline : V2.RatchetBaseline}
    {assessment : V2.RatchetAssessment}
    (h : SameBehavior sourceBaseline sourceAssessment baseline assessment)
    (hbaseline : baseline.WellFormed) (hassessment : assessment.WellFormed) :
    V1.violationClassifications sourceBaseline sourceAssessment
      (changesOf _ sourceAssessment.subjectCoverage sourceBaseline.subjects.items
        sourceAssessment.subjects.items) =
      .ok (sourceView baseline assessment hbaseline hassessment).classifications := by
  have hunfold : V1.violationClassifications sourceBaseline sourceAssessment
      (changesOf _ sourceAssessment.subjectCoverage sourceBaseline.subjects.items
        sourceAssessment.subjects.items) = (do
      let present ← collect (V2.classifyCurrent (V2.changeBySubject baseline assessment)
        (V2.keysByViolationId baseline.behavior.allowances.items)
        (V2.keysByViolationId baseline.behavior.protectedKeys.items))
        (V2.currentViolations assessment).items
      pure (sortedBy (fun item => V2.deriveViolationId item.key) (present ++
        ((V2.keysByViolationId baseline.behavior.allowances.items).items.filter fun item =>
          !(V2.currentViolations assessment).contains item.1).map fun item =>
            V1.classifyAbsent assessment.coverage.discoveryCoverage
              (Dict.ofList (assessment.behavior.coverage.items.map fun coverage =>
                (coverage.rule, coverage.status))) item.2))) := by
    unfold V1.violationClassifications V1.currentViolations
    rw [h.changes_eq, h.allowances, h.protectedKeys, h.violations, h.rules, h.discovery]
    rfl
  have hkinds : (V2.violationView baseline assessment hbaseline hassessment).absent.map (fun key =>
        V1.classifyAbsent assessment.coverage.discoveryCoverage
          (Dict.ofList (assessment.behavior.coverage.items.map fun coverage =>
            (coverage.rule, coverage.status))) key) =
      (sourceView baseline assessment hbaseline hassessment).absent.map fun key =>
        ⟨(sourceView baseline assessment hbaseline hassessment).absentKind key, key⟩ := by
    refine List.map_congr_left fun key _ => ?_
    by_cases hexamined : assessment.coverage.discoveryCoverage = .complete ∧
        V2.ruleStatus assessment key.rule = some .complete
    · rw [ViolationView.absentKind_eq_resolved.mpr (decide_eq_true hexamined), V1.classifyAbsent,
        if_pos ⟨hexamined.1, hexamined.2⟩]
    · rw [ViolationView.absentKind_eq_unknown.mpr (decide_eq_false hexamined), V1.classifyAbsent,
        if_neg fun hboth => hexamined ⟨hboth.1, hboth.2⟩]
  rw [hunfold, V2.collect_classifyCurrent hbaseline hassessment,
    V2.items_absent hbaseline hassessment, ok_bind, List.map_map]
  exact congrArg (fun absent => Except.ok (sortedBy (fun item => V2.deriveViolationId item.key)
    ((V2.currentKeys assessment).map (fun key =>
      ⟨(V2.violationView baseline assessment hbaseline hassessment).currentKind key, key⟩) ++
        absent))) hkinds

/-! ### What the views differ in -/

section Views

variable {baseline : V2.RatchetBaseline} {assessment : V2.RatchetAssessment}
  {hbaseline : baseline.WellFormed} {hassessment : assessment.WellFormed} {key : ViolationKey}

/-- A key that both views list is of one kind in both, unless it is absent from an incomplete
discovery that still has its subject. -/
theorem kindOf_sourceView (hbaseline : baseline.WellFormed)
    (hassessment : assessment.WellFormed) (hkey : key ∈ V2.currentKeys assessment ∨
      key ∈ (V2.violationView baseline assessment hbaseline hassessment).absent) :
    (sourceView baseline assessment hbaseline hassessment).kindOf key =
        (V2.violationView baseline assessment hbaseline hassessment).kindOf key ∨
      (assessment.coverage.discoveryCoverage ≠ .complete ∧
        V2.ruleStatus assessment key.rule = some .complete ∧
        V2.subjectChangeOf baseline assessment key.subject.targetId ≠ .unknownSubject ∧
        key ∈ (V2.violationView baseline assessment hbaseline hassessment).absent ∧
        (sourceView baseline assessment hbaseline hassessment).kindOf key = .unknown ∧
        (V2.violationView baseline assessment hbaseline hassessment).kindOf key = .resolved) := by
  rcases hkey with hcurrent | habsent
  · left
    have hmem : V2.deriveViolationId key ∈
        (V2.currentKeys assessment).map V2.deriveViolationId := List.mem_map_of_mem hcurrent
    exact (if_pos hmem).trans (if_pos hmem).symm
  · have hnot := (ViolationView.mem_absent.mp habsent).2
    have hsource : (sourceView baseline assessment hbaseline hassessment).kindOf key =
        (sourceView baseline assessment hbaseline hassessment).absentKind key := if_neg hnot
    have htarget : (V2.violationView baseline assessment hbaseline hassessment).kindOf key =
        (V2.violationView baseline assessment hbaseline hassessment).absentKind key := if_neg hnot
    rw [hsource, htarget]
    by_cases hexamined : V2.ruleStatus assessment key.rule = some .complete ∧
        V2.subjectChangeOf baseline assessment key.subject.targetId ≠ .unknownSubject
    · have hresolved : (V2.violationView baseline assessment hbaseline hassessment).absentKind key =
          .resolved := ViolationView.absentKind_eq_resolved.mpr (decide_eq_true hexamined)
      by_cases hcomplete : assessment.coverage.discoveryCoverage = .complete
      · left
        rw [hresolved, ViolationView.absentKind_eq_resolved.mpr
          (decide_eq_true ⟨hcomplete, hexamined.1⟩)]
      · right
        exact ⟨hcomplete, hexamined.1, hexamined.2, habsent, ViolationView.absentKind_eq_unknown.mpr
          (decide_eq_false fun hboth => hcomplete hboth.1), hresolved⟩
    · left
      have hunknown : (V2.violationView baseline assessment hbaseline hassessment).absentKind key =
          .unknown := ViolationView.absentKind_eq_unknown.mpr (decide_eq_false hexamined)
      rw [hunknown]
      refine ViolationView.absentKind_eq_unknown.mpr (decide_eq_false ?_)
      rintro ⟨hcomplete, hrule⟩
      refine hexamined ⟨hrule, fun hunknown => ?_⟩
      exact (changeOf_eq_unknown.mp hunknown).1 hcomplete

theorem classifications_sourceView
    (hcomplete : assessment.coverage.discoveryCoverage = .complete) :
    (sourceView baseline assessment hbaseline hassessment).classifications =
      (V2.violationView baseline assessment hbaseline hassessment).classifications := by
  rw [ViolationView.classifications_eq_map, ViolationView.classifications_eq_map]
  refine List.map_congr_left fun key hkey => ?_
  rcases kindOf_sourceView hbaseline hassessment (List.mem_append.mp (mem_sortedBy.mp hkey)) with
    heq | ⟨hunfinished, _⟩
  · rw [heq]
  · exact absurd hcomplete hunfinished

/-- Both views have the same regressions. -/
theorem isRegression_sourceView :
    ((sourceView baseline assessment hbaseline hassessment).classifications.any fun item =>
        item.classification.isRegression) =
      (V2.violationView baseline assessment hbaseline hassessment).classifications.any fun item =>
        item.classification.isRegression := by
  rw [ViolationView.classifications_eq_map, ViolationView.classifications_eq_map, List.any_map,
    List.any_map, Bool.eq_iff_iff, List.any_eq_true, List.any_eq_true]
  refine exists_congr fun key => and_congr_right fun hkey => ?_
  rcases kindOf_sourceView hbaseline hassessment (List.mem_append.mp (mem_sortedBy.mp hkey)) with
    heq | ⟨-, -, -, -, hunknown, hresolved⟩
  · simp only [Function.comp_apply, heq]
  · simp only [Function.comp_apply, hunknown, hresolved]
    rfl

end Views

/-! ### Outcomes -/

section Outcomes

omit [Hashlib]

variable {sourceBaseline : V1.RatchetBaseline} {sourceAssessment : V1.RatchetAssessment}
  {baseline : V2.RatchetBaseline} {assessment : V2.RatchetAssessment}

/-- What profile 1.0.0 concludes from the classifications of a view. -/
abbrev sourceOutcome (sourceBaseline : V1.RatchetBaseline) (sourceAssessment : V1.RatchetAssessment)
    (v : ViolationView) : BehaviorOutcome :=
  V1.evaluationOutcome sourceAssessment (changesOf _ sourceAssessment.subjectCoverage
    sourceBaseline.subjects.items sourceAssessment.subjects.items) v.classifications

/-- Under an incomplete discovery profile 1.0.0 passes nothing. -/
theorem sourceOutcome_of_ne (hunfinished : sourceAssessment.subjectCoverage ≠ .complete)
    (v : ViolationView) : sourceOutcome sourceBaseline sourceAssessment v =
      if v.classifications.any fun item => item.classification.isRegression then .fail
      else .inconclusive := by
  simp [sourceOutcome, V1.evaluationOutcome, V1.hasRegression, hunfinished]

/-- Under a complete discovery both profiles conclude the same. -/
theorem SameBehavior.outcome_eq
    (h : SameBehavior sourceBaseline sourceAssessment baseline assessment)
    (hcomplete : sourceAssessment.subjectCoverage = .complete) (v : ViolationView) :
    sourceOutcome sourceBaseline sourceAssessment v = V2.behaviorOutcome assessment
      (V2.subjectChangesOf baseline assessment) v.classifications := by
  have hchanges : ((changesOf "ratchet_subject_change" sourceAssessment.subjectCoverage
      sourceBaseline.subjects.items sourceAssessment.subjects.items).any fun change =>
        change.change = .unknownSubject) =
      (V2.subjectChangesOf baseline assessment).any fun change =>
        change.change = .unknownSubject := by
    have := congrArg (List.any · fun change => decide (change.2 =
      BehaviorSubjectChangeKind.unknownSubject)) h.changes_eq
    rwa [List.any_map, List.any_map] at this
  have hrules : (sourceAssessment.coverage.items.any fun coverage => coverage.status ≠ .complete) =
      assessment.behavior.coverage.items.any fun coverage => coverage.status ≠ .complete := by
    have := congrArg (List.any · fun coverage => decide (coverage.2 ≠ CoverageStatus.complete))
      h.rules
    rwa [List.any_map, List.any_map] at this
  simp only [sourceOutcome, V1.evaluationOutcome, V1.hasRegression, V1.hasUnknown, hchanges, hrules,
    V2.behaviorOutcome]
  simp [hcomplete]

theorem behaviorOutcome_eq_fail {changes : List V2.BehaviorSubjectChange}
    {classifications : List ViolationClassification} :
    V2.behaviorOutcome assessment changes classifications = .fail ↔
      (classifications.any fun item => item.classification.isRegression) = true := by
  unfold V2.behaviorOutcome
  split_ifs <;> simp_all

end Outcomes

/-! ### The reports -/

/-- Profile 1.0.0 leaves open what profile 2.0.0 resolves: an allowed violation is absent from an
incomplete discovery, its rule was examined and its subject was still discovered. -/
structure ResolvedEarlier (sourceBaseline : V1.RatchetBaseline)
    (sourceAssessment : V1.RatchetAssessment) (s t : ViolationClassification) : Prop where
  same_key : s.key = t.key
  unknown : s.classification = .unknown
  resolved : t.classification = .resolved
  incomplete : sourceAssessment.subjectCoverage ≠ .complete
  allowed : t.key ∈ sourceBaseline.allowances.items
  absent : t.key ∉ sourceAssessment.violations.items.map fun violation => violation.key
  examined : (t.key.rule, .complete) ∈
    sourceAssessment.coverage.items.map fun coverage => (coverage.rule, coverage.status)
  discovered : t.key.subject.targetId ∈
    sourceAssessment.subjects.items.map fun subject => subject.id

/-- What the reports of the two profiles on the same documents have in common. -/
structure SameVerdict (sourceBaseline : V1.RatchetBaseline)
    (sourceAssessment : V1.RatchetAssessment) (source : V1.RatchetEvaluationReport)
    (report : V2.RatchetEvaluationReport) : Prop where
  subject_changes : (source.subjectChanges.items.map fun change =>
      (change.subject.targetId, change.change)) =
    report.behaviorSubjectChanges.items.map fun change => (change.subject.targetId, change.change)
  complete : sourceAssessment.subjectCoverage = .complete →
    source.classifications.items = report.behaviorClassifications.items ∧
      source.outcome = report.behaviorOutcome
  classifications : List.Forall₂
    (fun s t => s = t ∨ ResolvedEarlier sourceBaseline sourceAssessment s t)
    source.classifications.items report.behaviorClassifications.items
  fail_iff : source.outcome = .fail ↔ report.behaviorOutcome = .fail
  pass_iff : source.outcome = .pass ↔
    report.behaviorOutcome = .pass ∧ sourceAssessment.subjectCoverage = .complete

namespace SameBehavior

variable {sourceBaseline : V1.RatchetBaseline} {sourceAssessment : V1.RatchetAssessment}
  {baseline : V2.RatchetBaseline} {assessment : V2.RatchetAssessment}
  (h : SameBehavior sourceBaseline sourceAssessment baseline assessment)
  (hbaseline : baseline.WellFormed) (hassessment : assessment.WellFormed)
include h

omit [Hashlib] in
theorem currentKeys_eq : V2.currentKeys assessment =
    sourceAssessment.violations.items.map fun violation => violation.key := by
  have := congrArg (List.map Prod.snd) h.violations
  rw [List.map_map, List.map_map] at this
  exact this.symm

/-- The lists of a report of profile 1.0.0 are within their limits. -/
theorem exists_weakeningDelta : ∃ delta, V1.weakeningDelta
    (sourceView baseline assessment hbaseline hassessment).classifications = .ok delta := by
  have hcurrent : (V2.currentKeys assessment).length ≤ V1.maxRatchetViolations := by
    rw [h.currentKeys_eq, List.length_map]
    exact sourceAssessment.violations.le_upper
  have hallowances : baseline.behavior.allowances.items.length ≤ V1.maxRatchetViolations := by
    rw [← h.allowances]
    exact sourceBaseline.allowances.le_upper
  have hadded := (@ViolationView.length_keysClassified_le_current
    (sourceView baseline assessment hbaseline hassessment) V1.isAdded fun key => by
      unfold ViolationView.absentKind
      split <;> rfl).trans hcurrent
  have hremoved := (@ViolationView.length_keysClassified_le_allowances
    (sourceView baseline assessment hbaseline hassessment) (fun kind => kind = .resolved)
    fun _ => decide_eq_false ViolationView.currentKind_ne_resolved).trans hallowances
  have hunprotected := (@ViolationView.length_keysClassified_le_current
    (sourceView baseline assessment hbaseline hassessment) (fun kind => kind = .reintroduced)
    fun _ => decide_eq_false ViolationView.absentKind_ne_reintroduced).trans hcurrent
  simp only [V1.weakeningDelta, Tuple.ofList_of_le (Nat.zero_le _) hadded,
    Tuple.ofList_of_le (Nat.zero_le _) hremoved, Tuple.ofList_of_le (Nat.zero_le _) hunprotected]
  exact ⟨_, rfl⟩

theorem length_classifications_le :
    (sourceView baseline assessment hbaseline hassessment).classifications.length ≤
      V1.maxRatchetViolations * 2 := by
  have hcurrent : (V2.currentKeys assessment).length ≤ V1.maxRatchetViolations := by
    rw [h.currentKeys_eq, List.length_map]
    exact sourceAssessment.violations.le_upper
  have hallowances : baseline.behavior.allowances.items.length ≤ V1.maxRatchetViolations := by
    rw [← h.allowances]
    exact sourceBaseline.allowances.le_upper
  have habsent : (sourceView baseline assessment hbaseline hassessment).absent.length ≤
      baseline.behavior.allowances.items.length := ViolationView.length_absent_le
  rw [ViolationView.length_classifications]
  refine (Nat.add_le_add hcurrent (habsent.trans hallowances)).trans_eq ?_
  rw [Nat.mul_two]

/-- The reports on documents that say the same have the same verdict. -/
theorem sameVerdict {source : V1.RatchetEvaluationReport} {report : V2.RatchetEvaluationReport}
    {policy : V2.RatchetPolicy}
    (hreport : V2.Evaluated policy baseline assessment hbaseline hassessment report)
    (hchanges : source.subjectChanges.items = changesOf _ sourceAssessment.subjectCoverage
      sourceBaseline.subjects.items sourceAssessment.subjects.items)
    (hclassifications : source.classifications.items =
      (sourceView baseline assessment hbaseline hassessment).classifications)
    (houtcome : source.outcome = sourceOutcome sourceBaseline sourceAssessment
      (sourceView baseline assessment hbaseline hassessment)) :
    SameVerdict sourceBaseline sourceAssessment source report := by
  have hverdict : report.behaviorOutcome = V2.behaviorOutcome assessment
      (V2.subjectChangesOf baseline assessment)
      (V2.violationView baseline assessment hbaseline hassessment).classifications := by
    rw [hreport.behavior_outcome, hreport.subject_changes, hreport.violations]
  have hcomplete : sourceAssessment.subjectCoverage = .complete →
      source.classifications.items = report.behaviorClassifications.items ∧
        source.outcome = report.behaviorOutcome := by
    intro hcomplete
    have hsame := @classifications_sourceView _ _ _ hbaseline hassessment
      (h.discovery.symm.trans hcomplete)
    refine ⟨by rw [hclassifications, hreport.violations, hsame], ?_⟩
    rw [houtcome, hverdict, h.outcome_eq hcomplete, hsame]
  have hunfinished : sourceAssessment.subjectCoverage ≠ .complete → source.outcome =
      if (V2.violationView baseline assessment hbaseline hassessment).classifications.any
        fun item => item.classification.isRegression then .fail else .inconclusive := by
    intro hunfinished
    rw [houtcome, sourceOutcome_of_ne hunfinished, isRegression_sourceView]
  refine ⟨?_, hcomplete, ?_, ?_, ?_⟩
  · rw [hchanges, hreport.subject_changes, h.changes_eq]
  · rw [hclassifications, hreport.violations, ViolationView.classifications_eq_map,
      ViolationView.classifications_eq_map, List.forall₂_map_left_iff, List.forall₂_map_right_iff]
    refine List.forall₂_same.mpr fun key hkey => ?_
    rcases kindOf_sourceView hbaseline hassessment (List.mem_append.mp (mem_sortedBy.mp hkey)) with
      heq | ⟨hincomplete, hrule, hsubject, habsent, hunknown, hresolved⟩
    · exact .inl (by rw [heq])
    · obtain ⟨hallowed, hnot⟩ := ViolationView.mem_absent.mp habsent
      refine .inr ⟨rfl, hunknown, hresolved, ?_, ?_, ?_, ?_, ?_⟩
      · rwa [h.discovery]
      · rw [h.allowances]
        exact hallowed
      · rw [← h.currentKeys_eq]
        exact fun hmem => hnot (List.mem_map_of_mem hmem)
      · rw [h.rules]
        obtain ⟨item, hitem, hrule, hstatus⟩ := (V2.ruleStatus_eq_some hassessment).mp hrule
        exact List.mem_map.mpr ⟨item, hitem, Prod.ext hrule hstatus⟩
      · rw [h.current_ids]
        by_contra hgone
        exact hsubject (changeOf_eq_unknown.mpr
          ⟨hincomplete, hbaseline.allowance_subjects key hallowed, hgone⟩)
  · by_cases hstatus : sourceAssessment.subjectCoverage = .complete
    · rw [(hcomplete hstatus).2]
    · rw [hunfinished hstatus, hverdict, behaviorOutcome_eq_fail]
      split_ifs with hregression
      · exact iff_of_true rfl hregression
      · exact iff_of_false (by decide) hregression
  · by_cases hstatus : sourceAssessment.subjectCoverage = .complete
    · rw [(hcomplete hstatus).2]
      exact (and_iff_left hstatus).symm
    · rw [hunfinished hstatus]
      split <;> simp [hstatus]

end SameBehavior

namespace V2

omit [Hashlib] in
theorem convertViolationKeys_eq_ok {values keys : List ViolationKey} :
    convertViolationKeys values = .ok keys ↔ keys = values := by
  have hconvert : convertViolationKeys values = .ok (values.map id) :=
    collect_eq_ok_of_forall fun value _ => validated_eq_ok.mpr (modelValidate_eq_ok.mpr rfl)
  rw [hconvert, List.map_id, Except.ok.injEq, eq_comm]

variable [Unicodedata] {sourceBaseline : V1.RatchetBaseline}
  {sourceAssessment : V1.RatchetAssessment} {targetPolicy policy : RatchetPolicy}
  {sourcePolicy : V1.RatchetPolicy} {baseline : RatchetBaseline} {bundle : OnboardingBundle}
  {assessment : RatchetAssessment} {acceptedId : BaselineId}

theorem discoveryCoverage_of_exact (h : assessment.Exact policy bundle) :
    assessment.coverage.discoveryCoverage = bundle.discovery.coverage.status := by
  have hderive := h.coverage_eq
  simp only [deriveCoverageLedger, bind_eq_ok, pure_eq_ok, Except.ok.injEq] at hderive
  obtain ⟨_, _, _, _, _, _, _, _, _, _, _, _, hledger⟩ := hderive
  rw [← hledger]

/-- A migrated baseline and an assessment of the bundle that was migrated say the same as their
sources. -/
theorem sameBehavior_of_migrated
    (h : migrateRatchetV1Baseline targetPolicy sourcePolicy sourceBaseline sourceAssessment bundle
      acceptedId = .ok baseline)
    (hassessment : assessment.Exact policy bundle)
    (hviolations : (sourceAssessment.violations.items.map fun violation =>
        (violation.id, violation.key)) =
      assessment.behavior.violations.items.map fun violation => (violation.id, violation.key))
    (hrules : (sourceAssessment.coverage.items.map fun coverage =>
        (coverage.rule, coverage.status)) =
      assessment.behavior.coverage.items.map fun coverage => (coverage.rule, coverage.status)) :
    SameBehavior sourceBaseline sourceAssessment baseline assessment := by
  obtain ⟨hsources, hderive, -⟩ := migrateRatchetV1Baseline_eq_ok.mp h
  simp only [validateMigrationSources, validateV1Source, V1.validateRatchetAssessment, bind_eq_ok,
    require_eq_ok, mapError_eq_ok, exists_const] at hsources
  obtain ⟨_, -, -, _, ⟨_, -, _, ⟨_, -, _, -, -, -, hdiscovery, -⟩, -⟩, -, -, hsame, -, -, -,
    projected, hprojected, hprojection, -⟩ := hsources
  simp only [deriveMigratedBaseline, bind_eq_ok, convertViolationKeys_eq_ok, validated_eq_ok,
    Tuple.ofList_eq_ok, pure_eq_ok, Except.ok.injEq] at hderive
  obtain ⟨coverage, hcoverage, subjects, hsubjects, allowances, hallowances, protectedKeys,
    hprotected, limited, hlimited, limitedAllowances, hlimitedAllowances, limitedProtected,
    hlimitedProtected, rfl⟩ := hderive
  have hids : (sourceAssessment.subjects.items.map fun subject => subject.id) =
      projected.map fun subject => subject.id := by
    have := congrArg (List.map Prod.fst) hprojection
    rw [List.map_map, List.map_map] at this
    exact this.symm
  have hlimit : limited.items = assessment.behavior.subjects.items := by
    rw [hassessment.subjects_eq, Except.ok.injEq] at hsubjects
    exact hlimited.trans hsubjects.symm
  have hprojected' : projected = assessment.behavior.subjects.items := by
    rw [hassessment.subjects_eq, Except.ok.injEq] at hprojected
    exact hprojected.symm
  rw [hprojected'] at hids
  have hnodup := hassessment.wellFormed.subjects.ids_nodup
  refine ⟨?_, ?_, hviolations, hrules, ?_, ?_, hids, ?_⟩
  · exact hallowances.symm.trans hlimitedAllowances.symm
  · exact hprotected.symm.trans hlimitedProtected.symm
  · rw [hdiscovery, discoveryCoverage_of_exact hassessment]
  · rw [hsame, hids]
    exact congrArg (List.map _) hlimit.symm
  · intro old hold new hnew old' hold' new' hnew' hid hid' hidNew
    rw [hsame] at hold
    rw [show old' ∈ _ ↔ old' ∈ assessment.behavior.subjects.items from hlimit ▸ Iff.rfl] at hold'
    obtain rfl := List.inj_on_of_nodup_map (hids ▸ hnodup) hnew hold hid
    obtain rfl := List.inj_on_of_nodup_map hnodup hnew' hold' (hidNew.trans hid'.symm)
    exact ⟨iff_of_true rfl rfl, iff_of_true rfl rfl⟩

end V2

section Built

variable [Unicodedata] {bundle : OnboardingBundle} {producer : Producer} {procedureUri : String}
  {captureContext : CaptureContext} {partialRuleIds : List Identifier}

theorem V1.built_clean {policy : RatchetPolicy} {assessment : RatchetAssessment}
    (h : buildRatchetAssessment policy bundle producer procedureUri captureContext []
      partialRuleIds = .ok assessment) : assessment.violations.items = [] ∧
    (assessment.coverage.items.map fun coverage => (coverage.rule, coverage.status)) =
      policy.rules.items.map fun rule =>
        (ruleRef rule, if rule.id ∈ partialRuleIds then .partial_ else .complete) := by
  simp only [V1.buildRatchetAssessment, bind_eq_ok, validated_eq_ok, Tuple.ofList_eq_ok,
    collect_nil, pure_eq_ok, Except.ok.injEq] at h
  obtain ⟨_, _, _, _, _, _, _, _, _, rfl, _, _, _, _, coverage, hcoverage, violations, hviolations,
    _, _, rfl⟩ := h
  refine ⟨hviolations, ?_⟩
  show coverage.items.map _ = _
  rw [hcoverage, V1.ruleCoverageOf, List.map_map]
  rfl

theorem V2.built_clean {policy : RatchetPolicy} {assessment : RatchetAssessment}
    (h : buildRatchetAssessment policy bundle producer procedureUri captureContext []
      partialRuleIds = .ok assessment) : assessment.behavior.violations.items = [] ∧
    (assessment.behavior.coverage.items.map fun coverage => (coverage.rule, coverage.status)) =
      policy.rules.items.map fun rule =>
        (ruleRef rule, if rule.id ∈ partialRuleIds then .partial_ else .complete) := by
  simp only [buildRatchetAssessment, bind_eq_ok, validated_eq_ok, Tuple.ofList_eq_ok,
    collect_nil, pure_eq_ok, Except.ok.injEq] at h
  obtain ⟨_, _, _, _, _, _, _, _, _, rfl, _, _, coverage, hcoverage, violations, hviolations, _, _,
    _, _, _, _, rfl⟩ := h
  refine ⟨hviolations, ?_⟩
  show coverage.items.map _ = _
  rw [hcoverage, ruleCoverageOf, List.map_map]
  rfl

end Built

end Ucf

namespace Ucf.V2

open Ucf.Sample

end Ucf.V2
