import Ucf.Ratchet.V2.Behavior

/-! The coverage half of an evaluation of profile 2.0.0: the group changes and the classifications of
debts that the code computes. -/

namespace Ucf.V2

/-! ### Groups -/

/-- The group with an identifier. -/
def groupAt (groups : List CoverageSubjectGroup) (id : CoverageSubjectId) :
    Option CoverageSubjectGroup :=
  (Dict.index (fun group : CoverageSubjectGroup => group.id) groups).get? id

theorem groupAt_eq_none {groups : List CoverageSubjectGroup} {id : CoverageSubjectId} :
    groupAt groups id = none ↔ id ∉ groups.map fun group => group.id := by
  rw [groupAt, Dict.get?_index_eq_none]
  simp

theorem groupAt_eq_some {groups : List CoverageSubjectGroup} {id : CoverageSubjectId}
    {group : CoverageSubjectGroup} (h : (groups.map fun group => group.id).Nodup) :
    groupAt groups id = some group ↔ group ∈ groups ∧ group.id = id :=
  Dict.get?_index h

/-- How a group differs. -/
def groupChangeKind (comparable : Bool) :
    Option CoverageSubjectGroup → Option CoverageSubjectGroup → CoverageSubjectChangeKind
  | old, new =>
    match comparable, old, new with
    | false, _, _ => .unknownSubject
    | true, none, _ => .newSubject
    | true, some _, none => .unknownSubject
    | true, some old, some new =>
      coverageFingerprintChange (old.semantic ≠ new.semantic) (old.observed ≠ new.observed)

/-- How the group with an identifier differs. -/
def groupChangeOf (baseline : RatchetBaseline) (assessment : RatchetAssessment) (comparable : Bool)
    (id : CoverageSubjectId) : CoverageSubjectChangeKind :=
  groupChangeKind comparable (groupAt baseline.coverage.groups.items id)
    (groupAt assessment.coverage.groups.items id)

/-- The identifiers of all groups, in order. -/
def groupIds (baseline : RatchetBaseline) (assessment : RatchetAssessment) :
    List CoverageSubjectId :=
  sortedSet ((baseline.coverage.groups.items.map fun group => group.id) ++
    assessment.coverage.groups.items.map fun group => group.id)

/-- The changes of all groups, in order. -/
def groupChangesOf (baseline : RatchetBaseline) (assessment : RatchetAssessment)
    (comparable : Bool) : List CoverageSubjectChange :=
  (groupIds baseline assessment).map fun id =>
    ⟨⟨id⟩, groupChangeOf baseline assessment comparable id⟩

theorem coverageSubjectChange_eq {comparable : Bool}
    {previous current : Dict CoverageSubjectId CoverageSubjectGroup} {id : CoverageSubjectId}
    (hprevious : ∀ group, previous.get? id = some group → group.id = id)
    (hcurrent : ∀ group, current.get? id = some group → group.id = id)
    (hsome : previous.get? id ≠ none ∨ current.get? id ≠ none) :
    coverageSubjectChange comparable previous current id =
      .ok ⟨⟨id⟩, groupChangeKind comparable (previous.get? id) (current.get? id)⟩ := by
  unfold coverageSubjectChange groupChangeKind
  cases hold : previous.get? id with
  | none =>
    cases hnew : current.get? id with
    | none => simp [hold, hnew] at hsome
    | some new =>
      have hid := hcurrent new hnew
      cases comparable <;> simp [hid]
  | some old =>
    have hoid := hprevious old hold
    cases hnew : current.get? id with
    | none => cases comparable <;> simp [hoid]
    | some new =>
      have hid := hcurrent new hnew
      cases comparable <;> simp [hid]

theorem coverageSubjectChanges_eq (baseline : RatchetBaseline) (assessment : RatchetAssessment)
    (comparable : Bool) : coverageSubjectChanges baseline assessment comparable =
      .ok (groupChangesOf baseline assessment comparable) := by
  have hids : sortedSet ((Dict.index (fun group : CoverageSubjectGroup => group.id)
        baseline.coverage.groups.items).keys ++
      (Dict.index (fun group : CoverageSubjectGroup => group.id)
        assessment.coverage.groups.items).keys) = groupIds baseline assessment :=
    sortedSet_congr fun id => by simp
  rw [coverageSubjectChanges, hids]
  refine collect_eq_ok_of_forall fun id hid => ?_
  rw [coverageSubjectChange_eq]
  · rfl
  · exact fun group h => (Dict.mem_of_get?_index h).2
  · exact fun group h => (Dict.mem_of_get?_index h).2
  · by_contra hnone
    push Not at hnone
    have hprevious := groupAt_eq_none.mp hnone.1
    have hcurrent := groupAt_eq_none.mp hnone.2
    rw [groupIds, mem_sortedSet, List.mem_append] at hid
    tauto

theorem mem_groupChangesOf {baseline : RatchetBaseline} {assessment : RatchetAssessment}
    {comparable : Bool} {change : CoverageSubjectChange} :
    change ∈ groupChangesOf baseline assessment comparable ↔
      change.subject.targetId ∈ groupIds baseline assessment ∧
        change.change = groupChangeOf baseline assessment comparable change.subject.targetId := by
  rw [groupChangesOf, List.mem_map]
  constructor
  · rintro ⟨id, hid, rfl⟩
    exact ⟨hid, rfl⟩
  · rintro ⟨hid, hchange⟩
    exact ⟨_, hid, by rw [← hchange]⟩

/-! ### Debts -/

/-- The debt with an identifier. -/
def debtAt (debts : List CoverageDebtSnapshot) (id : CoverageDebtId) :
    Option CoverageDebtSnapshot :=
  (Dict.index (fun debt : CoverageDebtSnapshot => debt.id) debts).get? id

theorem debtAt_eq_some {debts : List CoverageDebtSnapshot} {id : CoverageDebtId}
    {debt : CoverageDebtSnapshot} (h : (debts.map fun debt => debt.id).Nodup) :
    debtAt debts id = some debt ↔ debt ∈ debts ∧ debt.id = id :=
  Dict.get?_index h

theorem debtAt_eq_none {debts : List CoverageDebtSnapshot} {id : CoverageDebtId} :
    debtAt debts id = none ↔ id ∉ debts.map fun debt => debt.id := by
  rw [debtAt, Dict.get?_index_eq_none]
  simp

variable [Hashlib]

/-- The identifiers of the debts that a baseline protects. -/
def protectedDebtIds (baseline : RatchetBaseline) : List CoverageDebtId :=
  baseline.coverage.protectedKeys.items.map deriveCoverageDebtId

/-- The kind of a current debt. -/
def currentDebtKind (baseline : RatchetBaseline) (comparison : CoverageComparisonStatus)
    (debt : CoverageDebtSnapshot) : CoverageDebtClassificationKind :=
  if debt.id ∈ protectedDebtIds baseline then .reintroduced
  else if wasExplicitlyReviewed debt baseline.coverage.groups.items then .reintroduced
  else if comparison = .nonComparableQualification then .unknown
  else match debtAt baseline.coverage.allowances.items debt.id with
  | none => .newRegression
  | some old =>
    if old.semantic = debt.semantic ∧ old.observed = debt.observed then .unchangedLegacy
    else .changedRegression

omit [Hashlib] in
/-- The kind of an allowed debt that is absent now. -/
def absentDebtKind (assessment : RatchetAssessment) (comparison : CoverageComparisonStatus)
    (debt : CoverageDebtSnapshot) : CoverageDebtClassificationKind :=
  if comparison = .nonComparableQualification then .unknown
  else if isExplicitlyResolved debt (Dict.index (fun group : CoverageSubjectGroup => group.id)
    assessment.coverage.groups.items) then .resolved
  else .unknown

/-- The allowed debts that are absent now. -/
def absentDebts (baseline : RatchetBaseline) (assessment : RatchetAssessment) :
    List CoverageDebtSnapshot :=
  baseline.coverage.allowances.items.filter fun debt =>
    debt.id ∉ assessment.coverage.debts.items.map fun debt => debt.id

/-- The classifications of the current debts and of the absent ones. -/
def classifiedDebts (baseline : RatchetBaseline) (assessment : RatchetAssessment)
    (comparison : CoverageComparisonStatus) : List CoverageDebtClassification :=
  assessment.coverage.debts.items.map
      (fun debt => ⟨currentDebtKind baseline comparison debt, debt.key⟩) ++
    (absentDebts baseline assessment).map
      fun debt => ⟨absentDebtKind assessment comparison debt, debt.key⟩

/-- The classifications of all debts, in order. -/
def debtClassifications (baseline : RatchetBaseline) (assessment : RatchetAssessment)
    (comparison : CoverageComparisonStatus) : List CoverageDebtClassification :=
  sortedBy (fun item => deriveCoverageDebtId item.key)
    (classifiedDebts baseline assessment comparison)

variable {baseline : RatchetBaseline} {assessment : RatchetAssessment}
  {comparison : CoverageComparisonStatus}

omit [Hashlib] in
theorem mem_absentDebts {debt : CoverageDebtSnapshot} :
    debt ∈ absentDebts baseline assessment ↔ debt ∈ baseline.coverage.allowances.items ∧
      debt.id ∉ assessment.coverage.debts.items.map fun debt => debt.id := by
  rw [absentDebts, List.mem_filter, decide_eq_true_eq]

/-- No debt is classified twice. -/
theorem classifiedDebts_nodup (hbaseline : baseline.WellFormed)
    (hassessment : assessment.WellFormed) :
    ((classifiedDebts baseline assessment comparison).map
      fun item => deriveCoverageDebtId item.key).Nodup := by
  have hcurrent : (assessment.coverage.debts.items.map fun debt => deriveCoverageDebtId debt.key) =
      assessment.coverage.debts.items.map fun debt => debt.id :=
    List.map_congr_left fun debt hdebt => (hassessment.debt_ids_derived debt hdebt).symm
  have habsent : ((absentDebts baseline assessment).map fun debt => deriveCoverageDebtId debt.key) =
      (absentDebts baseline assessment).map fun debt => debt.id :=
    List.map_congr_left fun debt hdebt =>
      (hbaseline.coverage_ids_derived debt (mem_absentDebts.mp hdebt).1).symm
  rw [classifiedDebts, List.map_append, List.map_map, List.map_map]
  simp only [Function.comp_def]
  rw [hcurrent, habsent, List.nodup_append]
  refine ⟨hassessment.debts_sorted.nodup,
    (hbaseline.coverage_allowances_sorted.filter _).nodup, ?_⟩
  intro a ha b hb heq
  obtain ⟨debt, hdebt, rfl⟩ := List.mem_map.mp hb
  rw [heq] at ha
  exact (mem_absentDebts.mp hdebt).2 ha

theorem debtClassifications_sorted (hbaseline : baseline.WellFormed)
    (hassessment : assessment.WellFormed) :
    SortedKeys (fun item => deriveCoverageDebtId item.key)
      (debtClassifications baseline assessment comparison) :=
  sortedKeys_sortedBy (classifiedDebts_nodup hbaseline hassessment)

theorem mem_debtClassifications {item : CoverageDebtClassification} :
    item ∈ debtClassifications baseline assessment comparison ↔
      (∃ debt ∈ assessment.coverage.debts.items,
        item = ⟨currentDebtKind baseline comparison debt, debt.key⟩) ∨
      ∃ debt ∈ absentDebts baseline assessment,
        item = ⟨absentDebtKind assessment comparison debt, debt.key⟩ := by
  rw [debtClassifications, mem_sortedBy, classifiedDebts, List.mem_append, List.mem_map,
    List.mem_map]
  simp only [eq_comm]

theorem current_mem_debtClassifications {debt : CoverageDebtSnapshot}
    (h : debt ∈ assessment.coverage.debts.items) :
    ⟨currentDebtKind baseline comparison debt, debt.key⟩ ∈
      debtClassifications baseline assessment comparison :=
  mem_debtClassifications.mpr (.inl ⟨debt, h, rfl⟩)

theorem absent_mem_debtClassifications {debt : CoverageDebtSnapshot}
    (h : debt ∈ absentDebts baseline assessment) :
    ⟨absentDebtKind assessment comparison debt, debt.key⟩ ∈
      debtClassifications baseline assessment comparison :=
  mem_debtClassifications.mpr (.inr ⟨debt, h, rfl⟩)

omit [Hashlib] in
/-- The identifiers of the debts that are classified. -/
theorem mem_debtIds {id : CoverageDebtId} :
    id ∈ sortedSet ((Dict.index (fun debt : CoverageDebtSnapshot => debt.id)
          baseline.coverage.allowances.items).keys ++
        (Dict.index (fun debt : CoverageDebtSnapshot => debt.id)
          assessment.coverage.debts.items).keys) ↔
      (∃ debt ∈ assessment.coverage.debts.items, debt.id = id) ∨
        ∃ debt ∈ absentDebts baseline assessment, debt.id = id := by
  rw [mem_sortedSet, List.mem_append, Dict.mem_keys_index, Dict.mem_keys_index]
  by_cases hcurrent : ∃ debt ∈ assessment.coverage.debts.items, debt.id = id
  · simp only [hcurrent, or_true, true_or]
  · have hnot : id ∉ assessment.coverage.debts.items.map fun debt => debt.id := by
      rwa [List.mem_map]
    simp only [hcurrent, or_false, false_or]
    constructor
    · rintro ⟨debt, hdebt, rfl⟩
      exact ⟨debt, mem_absentDebts.mpr ⟨hdebt, hnot⟩, rfl⟩
    · rintro ⟨debt, hdebt, rfl⟩
      exact ⟨debt, (mem_absentDebts.mp hdebt).1, rfl⟩

/-- The code classifies a current debt so. -/
theorem coverageClassification_current (hassessment : assessment.WellFormed)
    {debt : CoverageDebtSnapshot} (hdebt : debt ∈ assessment.coverage.debts.items) :
    coverageClassification baseline.coverage.groups.items comparison
      (Dict.index (fun debt => debt.id) baseline.coverage.allowances.items)
      (Dict.ofList (baseline.coverage.protectedKeys.items.map fun key =>
        (deriveCoverageDebtId key, key)))
      (Dict.index (fun debt => debt.id) assessment.coverage.debts.items)
      (Dict.index (fun group => group.id) assessment.coverage.groups.items) debt.id =
      .ok ⟨currentDebtKind baseline comparison debt, debt.key⟩ := by
  have hfound : (Dict.index (fun debt => debt.id) assessment.coverage.debts.items).get? debt.id =
      some debt := (Dict.get?_index hassessment.debts_sorted.nodup).mpr ⟨hdebt, rfl⟩
  have hprotected : (Dict.ofList (baseline.coverage.protectedKeys.items.map fun key =>
      (deriveCoverageDebtId key, key))).contains debt.id = true ↔
      debt.id ∈ protectedDebtIds baseline := by
    rw [Dict.contains_iff, Dict.mem_keys_ofList, List.map_map]
    rfl
  cases hallowance : (Dict.index (fun debt => debt.id) baseline.coverage.allowances.items).get?
    debt.id <;>
    simp only [coverageClassification, hfound, currentDebtKind, debtAt, hprotected, hallowance]

omit [Hashlib] in
/-- The code classifies an absent debt so. -/
theorem coverageClassification_absent {groups : List CoverageSubjectGroup}
    {protectedKeys : Dict CoverageDebtId CoverageDebtKey}
    (hallowances : (baseline.coverage.allowances.items.map fun debt => debt.id).Nodup)
    {debt : CoverageDebtSnapshot} (hdebt : debt ∈ absentDebts baseline assessment) :
    coverageClassification groups comparison
      (Dict.index (fun debt => debt.id) baseline.coverage.allowances.items) protectedKeys
      (Dict.index (fun debt => debt.id) assessment.coverage.debts.items)
      (Dict.index (fun group => group.id) assessment.coverage.groups.items) debt.id =
      .ok ⟨absentDebtKind assessment comparison debt, debt.key⟩ := by
  obtain ⟨hallowed, hnot⟩ := mem_absentDebts.mp hdebt
  have hnone : (Dict.index (fun debt => debt.id) assessment.coverage.debts.items).get? debt.id =
      none := debtAt_eq_none.mpr hnot
  have hfound : (Dict.index (fun debt => debt.id) baseline.coverage.allowances.items).get? debt.id =
      some debt := (Dict.get?_index hallowances).mpr ⟨hallowed, rfl⟩
  simp only [coverageClassification, hnone, hfound, absentDebtKind]

/-- The code classifies debts so. -/
theorem coverageClassifications_eq (hbaseline : baseline.WellFormed)
    (hassessment : assessment.WellFormed) :
    coverageClassifications baseline assessment comparison =
      .ok (debtClassifications baseline assessment comparison) := by
  refine collect_eq_sortedBy (sortedSet_pairwise _) (classifiedDebts_nodup hbaseline hassessment)
    ?_ ?_
  · intro item hitem
    rw [classifiedDebts, List.mem_append, List.mem_map, List.mem_map] at hitem
    rcases hitem with ⟨debt, hdebt, rfl⟩ | ⟨debt, hdebt, rfl⟩
    · have hid := hassessment.debt_ids_derived debt hdebt
      simp only [← hid]
      exact coverageClassification_current hassessment hdebt
    · have hid := hbaseline.coverage_ids_derived debt (mem_absentDebts.mp hdebt).1
      simp only [← hid]
      exact coverageClassification_absent hbaseline.coverage_allowances_sorted.nodup hdebt
  · intro id
    rw [mem_debtIds]
    simp only [classifiedDebts, List.mem_append, List.mem_map, or_and_right, exists_or]
    refine or_congr ?_ ?_
    · constructor
      · rintro ⟨debt, hdebt, rfl⟩
        exact ⟨_, ⟨debt, hdebt, rfl⟩, (hassessment.debt_ids_derived debt hdebt).symm⟩
      · rintro ⟨_, ⟨debt, hdebt, rfl⟩, hid⟩
        exact ⟨debt, hdebt, (hassessment.debt_ids_derived debt hdebt).trans hid⟩
    · constructor
      · rintro ⟨debt, hdebt, rfl⟩
        exact ⟨_, ⟨debt, hdebt, rfl⟩,
          (hbaseline.coverage_ids_derived debt (mem_absentDebts.mp hdebt).1).symm⟩
      · rintro ⟨_, ⟨debt, hdebt, rfl⟩, hid⟩
        exact ⟨debt, hdebt,
          (hbaseline.coverage_ids_derived debt (mem_absentDebts.mp hdebt).1).trans hid⟩

end Ucf.V2
