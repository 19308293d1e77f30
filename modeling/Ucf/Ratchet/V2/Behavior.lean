import Ucf.Ratchet.V2.Evaluation
import Ucf.Ratchet.V2.WellFormed

/-! The behavior half of an evaluation of profile 2.0.0: the subject changes and the classifications
that the code computes, and what the outcome says of them. -/

namespace Ucf.V2

/-! ### Subjects -/

/-- How the subject with an identifier differs. -/
def subjectChangeOf (baseline : RatchetBaseline) (assessment : RatchetAssessment)
    (id : BehaviorSubjectId) : BehaviorSubjectChangeKind :=
  changeOf assessment.coverage.discoveryCoverage baseline.behavior.subjects.items
    assessment.behavior.subjects.items id

/-- The changes of all subjects. -/
def subjectChangesOf (baseline : RatchetBaseline) (assessment : RatchetAssessment) :
    List BehaviorSubjectChange :=
  changesOf _ assessment.coverage.discoveryCoverage baseline.behavior.subjects.items
    assessment.behavior.subjects.items

theorem fingerprintChange_eq (coverage : CoverageStatus) (old new : BehaviorSubjectSnapshot) :
    fingerprintChange (old.semantic ≠ new.semantic) (old.observed ≠ new.observed) =
      changeKind coverage (some old) (some new) := by
  by_cases hsemantic : old.semantic = new.semantic <;>
    by_cases hobserved : old.observed = new.observed <;>
    simp [fingerprintChange, changeKind, hsemantic, hobserved]

theorem behaviorSubjectChanges_eq (baseline : RatchetBaseline) (assessment : RatchetAssessment) :
    behaviorSubjectChanges baseline assessment = .ok (subjectChangesOf baseline assessment) := by
  refine @collect_changes _ _ _ _ _ _ _ _ _
    (behaviorSubjectChange assessment.coverage.discoveryCoverage) ?_
  intro old new id hold hnew hsome
  unfold behaviorSubjectChange
  cases hoid : old.get? id with
  | none =>
    cases hnid : new.get? id with
    | none => simp [hoid, hnid] at hsome
    | some n => simp [changeKind, hnew n hnid]
  | some o =>
    cases hnid : new.get? id with
    | none => simp [changeKind, hold o hoid]
    | some n =>
      have hid := hnew n hnid
      simp only [hid]
      rw [fingerprintChange_eq]

/-- `change_by_subject` -/
def changeBySubject (baseline : RatchetBaseline) (assessment : RatchetAssessment) :
    Dict BehaviorSubjectId BehaviorSubjectChangeKind :=
  Dict.ofList ((subjectChangesOf baseline assessment).map fun change =>
    (change.subject.targetId, change.change))

theorem get?_changeBySubject {baseline : RatchetBaseline} {assessment : RatchetAssessment}
    {id : BehaviorSubjectId} (h : id ∈ changedIds baseline.behavior.subjects.items
      assessment.behavior.subjects.items) :
    (changeBySubject baseline assessment).get? id =
      some (subjectChangeOf baseline assessment id) :=
  get?_changesOf.mpr ⟨h, rfl⟩

/-! ### Violations -/

/-- The status of a rule in an assessment. -/
def ruleStatus (assessment : RatchetAssessment) (rule : RatchetRuleRef) : Option CoverageStatus :=
  (Dict.ofList (assessment.behavior.coverage.items.map fun coverage =>
    (coverage.rule, coverage.status))).get? rule

theorem ruleStatus_eq_some [Hashlib] {assessment : RatchetAssessment} (h : assessment.WellFormed)
    {rule : RatchetRuleRef} {status : CoverageStatus} :
    ruleStatus assessment rule = some status ↔
      ∃ item ∈ assessment.behavior.coverage.items, item.rule = rule ∧ item.status = status := by
  have hnodup : ((assessment.behavior.coverage.items.map fun coverage =>
      (coverage.rule, coverage.status)).map Prod.fst).Nodup := by
    rw [List.map_map]
    exact h.rules_nodup
  rw [ruleStatus, Dict.get?_ofList hnodup, List.mem_map]
  simp

variable [Hashlib]

/-- The keys of the current violations. -/
def currentKeys (assessment : RatchetAssessment) : List ViolationKey :=
  assessment.behavior.violations.items.map fun violation => violation.key

theorem RatchetAssessment.WellFormed.ids_eq {assessment : RatchetAssessment}
    (h : assessment.WellFormed) :
    (currentKeys assessment).map deriveViolationId =
      assessment.behavior.violations.items.map fun violation => violation.id := by
  rw [currentKeys, List.map_map]
  exact List.map_congr_left fun violation hviolation =>
    ((h.violations violation hviolation).id_derived).symm

theorem RatchetAssessment.WellFormed.currentKeys_sorted {assessment : RatchetAssessment}
    (h : assessment.WellFormed) : SortedKeys deriveViolationId (currentKeys assessment) := by
  rw [sortedKeys_iff, h.ids_eq]
  exact sortedKeys_iff.mp h.violations_sorted

/-- What the classification of the violations of an assessment depends on. -/
def violationView (baseline : RatchetBaseline) (assessment : RatchetAssessment)
    (hbaseline : baseline.WellFormed) (hassessment : assessment.WellFormed) : ViolationView where
  identify := deriveViolationId
  allowances := baseline.behavior.allowances.items
  protectedKeys := baseline.behavior.protectedKeys.items
  current := currentKeys assessment
  touched id := subjectChangeOf baseline assessment id ≠ .unchanged
  examined key := ruleStatus assessment key.rule = some .complete ∧
    subjectChangeOf baseline assessment key.subject.targetId ≠ .unknownSubject
  allowances_sorted := hbaseline.allowances_sorted
  protected_sorted := hbaseline.protected_sorted
  current_sorted := hassessment.currentKeys_sorted
  disjoint := hbaseline.disjoint

variable {baseline : RatchetBaseline} {assessment : RatchetAssessment}

theorem mem_keysByViolationId {keys : List ViolationKey} {id : ViolationId} :
    id ∈ (keysByViolationId keys).keys ↔ id ∈ keys.map deriveViolationId := by
  simp [keysByViolationId]

theorem items_keysByViolationId {keys : List ViolationKey} (h : SortedKeys deriveViolationId keys) :
    (keysByViolationId keys).items = keys.map fun key => (deriveViolationId key, key) := by
  refine Dict.items_ofList ?_
  rw [List.map_map]
  exact h.nodup

theorem items_currentViolations (h : assessment.WellFormed) :
    (currentViolations assessment).items =
      (currentKeys assessment).map fun key => (deriveViolationId key, key) := by
  rw [currentViolations, Dict.items_ofList]
  · rw [currentKeys, List.map_map]
    refine List.map_congr_left fun violation hviolation => ?_
    rw [(h.violations violation hviolation).id_derived]
    rfl
  · rw [List.map_map]
    exact h.violations_sorted.nodup

theorem mem_changedIds_of_violation (h : assessment.WellFormed) {key : ViolationKey}
    (hkey : key ∈ currentKeys assessment) :
    key.subject.targetId ∈ changedIds baseline.behavior.subjects.items
      assessment.behavior.subjects.items := by
  obtain ⟨violation, hviolation, rfl⟩ := List.mem_map.mp hkey
  rw [changedIds, mem_sortedSet, List.mem_append]
  exact .inr (h.violations violation hviolation).subject_known

theorem mem_changedIds_of_allowance (h : baseline.WellFormed) {key : ViolationKey}
    (hkey : key ∈ baseline.behavior.allowances.items) :
    key.subject.targetId ∈ changedIds baseline.behavior.subjects.items
      assessment.behavior.subjects.items := by
  rw [changedIds, mem_sortedSet, List.mem_append]
  exact .inl (h.allowance_subjects key hkey)

/-- Each current violation gets the kind that the view gives it. -/
theorem classifyCurrent_eq (hbaseline : baseline.WellFormed) (hassessment : assessment.WellFormed)
    {key : ViolationKey} (hkey : key ∈ currentKeys assessment) :
    classifyCurrent (changeBySubject baseline assessment)
      (keysByViolationId baseline.behavior.allowances.items)
      (keysByViolationId baseline.behavior.protectedKeys.items) (deriveViolationId key, key) =
    .ok ⟨(violationView baseline assessment hbaseline hassessment).currentKind key, key⟩ := by
  have hchange := get?_changeBySubject (@mem_changedIds_of_violation _ baseline _ hassessment _ hkey)
  by_cases hprotected : deriveViolationId key ∈
      baseline.behavior.protectedKeys.items.map deriveViolationId
  · have hcontains := Dict.contains_iff.mpr (mem_keysByViolationId.mpr hprotected)
    rw [ViolationView.currentKind_of_protected hprotected, classifyCurrent, if_pos hcontains]
    rfl
  · have hcontains := mt Dict.contains_iff.mp (mt mem_keysByViolationId.mp hprotected)
    rw [classifyCurrent, if_neg hcontains]
    by_cases hallowed : deriveViolationId key ∈
        baseline.behavior.allowances.items.map deriveViolationId
    · have hknown := Dict.contains_iff.mpr (mem_keysByViolationId.mpr hallowed)
      rw [ViolationView.currentKind_of_allowed hallowed, if_neg (by simp [hknown]), hchange]
      simp [violationView]
    · have hunknown := mt Dict.contains_iff.mp (mt mem_keysByViolationId.mp hallowed)
      rw [ViolationView.currentKind_of_new hprotected hallowed,
        if_pos (Bool.not_eq_true' _ ▸ Bool.eq_false_iff.mpr hunknown)]
      rfl

/-- An absent violation gets the kind that the view gives it. -/
theorem classifyAbsent_eq (hbaseline : baseline.WellFormed) (hassessment : assessment.WellFormed)
    {key : ViolationKey} (hkey : key ∈ baseline.behavior.allowances.items) :
    classifyAbsent (changeBySubject baseline assessment)
      (Dict.ofList (assessment.behavior.coverage.items.map fun coverage =>
        (coverage.rule, coverage.status))) key =
    ⟨(violationView baseline assessment hbaseline hassessment).absentKind key, key⟩ := by
  have hchange := get?_changeBySubject (@mem_changedIds_of_allowance _ _ assessment hbaseline _ hkey)
  by_cases hexamined : ruleStatus assessment key.rule = some .complete ∧
      subjectChangeOf baseline assessment key.subject.targetId ≠ .unknownSubject
  · rw [ViolationView.absentKind_eq_resolved.mpr (decide_eq_true hexamined), classifyAbsent,
      if_pos ⟨hexamined.1, by rw [hchange]; simpa using hexamined.2⟩]
  · rw [ViolationView.absentKind_eq_unknown.mpr (decide_eq_false hexamined), classifyAbsent,
      if_neg]
    rintro ⟨hstatus, hne⟩
    rw [hchange] at hne
    exact hexamined ⟨hstatus, by simpa using hne⟩

/-- The loop over the current violations gives each the kind that the view gives it. -/
theorem collect_classifyCurrent (hbaseline : baseline.WellFormed)
    (hassessment : assessment.WellFormed) :
    collect (classifyCurrent (changeBySubject baseline assessment)
      (keysByViolationId baseline.behavior.allowances.items)
      (keysByViolationId baseline.behavior.protectedKeys.items))
      (currentViolations assessment).items = .ok ((currentKeys assessment).map fun key =>
        ⟨(violationView baseline assessment hbaseline hassessment).currentKind key, key⟩) := by
  have hpresent : collect (classifyCurrent (changeBySubject baseline assessment)
      (keysByViolationId baseline.behavior.allowances.items)
      (keysByViolationId baseline.behavior.protectedKeys.items))
      (currentViolations assessment).items = .ok (((currentKeys assessment).map fun key =>
        (deriveViolationId key, key)).map fun item =>
          ⟨(violationView baseline assessment hbaseline hassessment).currentKind item.2, item.2⟩) := by
    rw [items_currentViolations hassessment]
    refine collect_eq_ok_of_forall fun item hitem => ?_
    obtain ⟨key, hkey, rfl⟩ := List.mem_map.mp hitem
    exact classifyCurrent_eq hbaseline hassessment hkey
  rw [hpresent, List.map_map]
  rfl

/-- The allowed violations that are not there now. -/
theorem items_absent (hbaseline : baseline.WellFormed) (hassessment : assessment.WellFormed) :
    ((keysByViolationId baseline.behavior.allowances.items).items.filter fun item =>
      !(currentViolations assessment).contains item.1) =
      (violationView baseline assessment hbaseline hassessment).absent.map
        fun key => (deriveViolationId key, key) := by
  rw [items_keysByViolationId hbaseline.allowances_sorted, List.filter_map]
  refine congrArg (List.map _) (List.filter_congr fun key _ => ?_)
  have hkeys : deriveViolationId key ∈ (currentViolations assessment).keys ↔
      deriveViolationId key ∈ (currentKeys assessment).map deriveViolationId := by
    rw [hassessment.ids_eq, currentViolations, Dict.mem_keys_ofList, List.map_map]
    rfl
  rw [Function.comp_apply, Bool.eq_iff_iff, Bool.not_eq_true', ← Bool.not_eq_true,
    Dict.contains_iff, hkeys, decide_eq_true_eq]
  rfl

/-- The code classifies violations as their view says. -/
theorem behaviorClassifications_eq (hbaseline : baseline.WellFormed)
    (hassessment : assessment.WellFormed) :
    behaviorClassifications baseline assessment (subjectChangesOf baseline assessment) =
      .ok (violationView baseline assessment hbaseline hassessment).classifications := by
  have hkinds : ((violationView baseline assessment hbaseline hassessment).absent.map
      fun key => (deriveViolationId key, key)).map (fun item =>
        classifyAbsent (changeBySubject baseline assessment)
          (Dict.ofList (assessment.behavior.coverage.items.map fun coverage =>
            (coverage.rule, coverage.status))) item.2) =
      (violationView baseline assessment hbaseline hassessment).absent.map fun key =>
        ⟨(violationView baseline assessment hbaseline hassessment).absentKind key, key⟩ := by
    rw [List.map_map]
    exact List.map_congr_left fun key hkey =>
      classifyAbsent_eq hbaseline hassessment (ViolationView.mem_absent.mp hkey).1
  have hunfold : behaviorClassifications baseline assessment
      (subjectChangesOf baseline assessment) = (do
        let present ← collect (classifyCurrent (changeBySubject baseline assessment)
          (keysByViolationId baseline.behavior.allowances.items)
          (keysByViolationId baseline.behavior.protectedKeys.items))
          (currentViolations assessment).items
        pure (sortedBy (fun item => deriveViolationId item.key) (present ++
          ((keysByViolationId baseline.behavior.allowances.items).items.filter fun item =>
            !(currentViolations assessment).contains item.1).map fun item =>
              classifyAbsent (changeBySubject baseline assessment)
                (Dict.ofList (assessment.behavior.coverage.items.map fun coverage =>
                  (coverage.rule, coverage.status))) item.2))) := rfl
  rw [hunfold, collect_classifyCurrent hbaseline hassessment,
    items_absent hbaseline hassessment, hkinds, ok_bind]
  rfl

end Ucf.V2
