import Ucf.Library.Ledger
import Ucf.Ratchet.Keys

/-! How both ratchet profiles compare behavior subjects and classify violations. Each profile's code
is shown to compute these lists, and what follows from them is shown here once. -/

namespace Ucf

/-! ### Subjects -/

section Subjects

variable {σ ο τ : Type}

/-- What the structural validators ask of a sequence of subjects. -/
structure SubjectsWellFormed (identify : BehaviorSubjectKey → BehaviorSubjectId)
    (subjects : List (SubjectSnapshot σ ο τ)) : Prop where
  keys_sorted : (subjects.map fun subject => behaviorSubjectOrder subject.key).Pairwise (· < ·)
  ids_nodup : (subjects.map fun subject => subject.id).Nodup
  ids_derived : ∀ subject ∈ subjects, subject.id = identify subject.key

/-- The subject with an identifier. -/
def subjectAt (subjects : List (SubjectSnapshot σ ο τ)) (id : BehaviorSubjectId) :
    Option (SubjectSnapshot σ ο τ) :=
  (Dict.index (fun subject : SubjectSnapshot σ ο τ => subject.id) subjects).get? id

theorem subjectAt_eq_some {subjects : List (SubjectSnapshot σ ο τ)} {id : BehaviorSubjectId}
    {subject : SubjectSnapshot σ ο τ} (h : (subjects.map fun subject => subject.id).Nodup) :
    subjectAt subjects id = some subject ↔ subject ∈ subjects ∧ subject.id = id :=
  Dict.get?_index h

theorem subjectAt_eq_none {subjects : List (SubjectSnapshot σ ο τ)} {id : BehaviorSubjectId} :
    subjectAt subjects id = none ↔ id ∉ subjects.map fun subject => subject.id := by
  rw [subjectAt, Dict.get?_index_eq_none]
  simp

variable [DecidableEq σ] [DecidableEq ο]

/-- How a subject differs, from its snapshots in the baseline and in the assessment. -/
def changeKind (coverage : CoverageStatus) :
    Option (SubjectSnapshot σ ο τ) → Option (SubjectSnapshot σ ο τ) → BehaviorSubjectChangeKind
  | none, _ => .newSubject
  | some _, none => if coverage = .complete then .removedSubject else .unknownSubject
  | some old, some new =>
    if old.semantic ≠ new.semantic ∧ old.observed ≠ new.observed then .semanticAndObservedChanged
    else if old.semantic ≠ new.semantic then .semanticChanged
    else if old.observed ≠ new.observed then .observedChanged
    else .unchanged

/-- How the subject with an identifier differs between two sequences of subjects. -/
def changeOf (coverage : CoverageStatus) (previous current : List (SubjectSnapshot σ ο τ))
    (id : BehaviorSubjectId) : BehaviorSubjectChangeKind :=
  changeKind coverage (subjectAt previous id) (subjectAt current id)

variable {coverage : CoverageStatus} {previous current : List (SubjectSnapshot σ ο τ)}
  {id : BehaviorSubjectId}

theorem changeKind_eq_unchanged {old new : Option (SubjectSnapshot σ ο τ)} :
    changeKind coverage old new = .unchanged ↔
      ∃ o n, old = some o ∧ new = some n ∧ o.semantic = n.semantic ∧ o.observed = n.observed := by
  cases old with
  | none => simp [changeKind]
  | some o =>
    cases new with
    | none =>
      simp only [changeKind]
      split <;> simp
    | some n =>
      simp only [changeKind, Option.some.injEq, existsAndEq, true_and]
      split
      · simp_all
      · split
        · simp_all
        · split <;> simp_all

theorem changeKind_eq_unknown {old new : Option (SubjectSnapshot σ ο τ)} :
    changeKind coverage old new = .unknownSubject ↔
      coverage ≠ .complete ∧ old ≠ none ∧ new = none := by
  cases old with
  | none => simp [changeKind]
  | some o =>
    cases new with
    | none => by_cases hcomplete : coverage = .complete <;> simp [changeKind, hcomplete]
    | some n =>
      simp only [changeKind]
      split
      · simp
      · split
        · simp
        · split <;> simp

theorem changeOf_eq_unchanged (hprevious : (previous.map fun subject => subject.id).Nodup)
    (hcurrent : (current.map fun subject => subject.id).Nodup) :
    changeOf coverage previous current id = .unchanged ↔
      ∃ old ∈ previous, ∃ new ∈ current, old.id = id ∧ new.id = id ∧
        old.semantic = new.semantic ∧ old.observed = new.observed := by
  rw [changeOf, changeKind_eq_unchanged]
  simp only [subjectAt_eq_some hprevious, subjectAt_eq_some hcurrent]
  constructor
  · rintro ⟨old, new, ⟨hold, hoid⟩, ⟨hnew, hnid⟩, hsame⟩
    exact ⟨old, hold, new, hnew, hoid, hnid, hsame⟩
  · rintro ⟨old, hold, new, hnew, hoid, hnid, hsame⟩
    exact ⟨old, new, ⟨hold, hoid⟩, ⟨hnew, hnid⟩, hsame⟩

theorem changeOf_eq_unknown :
    changeOf coverage previous current id = .unknownSubject ↔
      coverage ≠ .complete ∧ (id ∈ previous.map fun subject => subject.id) ∧
        id ∉ current.map fun subject => subject.id := by
  rw [changeOf, changeKind_eq_unknown, ne_eq (subjectAt previous id), subjectAt_eq_none,
    subjectAt_eq_none, not_not]

/-- The identifiers that the changes are about, in order. -/
def changedIds (previous current : List (SubjectSnapshot σ ο τ)) : List BehaviorSubjectId :=
  sortedSet ((previous.map fun subject => subject.id) ++ current.map fun subject => subject.id)

omit [DecidableEq σ] [DecidableEq ο] in
theorem length_changedIds_le :
    (changedIds previous current).length ≤ previous.length + current.length := by
  refine (length_sortedSet_le _).trans_eq ?_
  rw [List.length_append, List.length_map, List.length_map]

/-- The changes of all subjects, in order. -/
def changesOf (kind : String) (coverage : CoverageStatus)
    (previous current : List (SubjectSnapshot σ ο τ)) : List (SubjectChange kind) :=
  (changedIds previous current).map fun id => ⟨⟨id⟩, changeOf coverage previous current id⟩

/-- A loop that finds one change by one, as both profiles have it, gives the changes in order. -/
theorem collect_changes {kind : String}
    {step : Dict BehaviorSubjectId (SubjectSnapshot σ ο τ) →
      Dict BehaviorSubjectId (SubjectSnapshot σ ο τ) → BehaviorSubjectId →
      Except PyError (SubjectChange kind)}
    (hstep : ∀ old new id, (∀ s, old.get? id = some s → s.id = id) →
      (∀ s, new.get? id = some s → s.id = id) → (old.get? id ≠ none ∨ new.get? id ≠ none) →
      step old new id = .ok ⟨⟨id⟩, changeKind coverage (old.get? id) (new.get? id)⟩) :
    collect (step (Dict.index (fun subject : SubjectSnapshot σ ο τ => subject.id) previous)
        (Dict.index (fun subject : SubjectSnapshot σ ο τ => subject.id) current))
      (sortedSet ((Dict.index (fun subject : SubjectSnapshot σ ο τ => subject.id) previous).keys ++
        (Dict.index (fun subject : SubjectSnapshot σ ο τ => subject.id) current).keys)) =
      .ok (changesOf kind coverage previous current) := by
  have hids : sortedSet
      ((Dict.index (fun subject : SubjectSnapshot σ ο τ => subject.id) previous).keys ++
        (Dict.index (fun subject : SubjectSnapshot σ ο τ => subject.id) current).keys) =
      changedIds previous current := sortedSet_congr fun id => by simp
  rw [hids]
  refine collect_eq_ok_of_forall fun id hid => ?_
  rw [hstep]
  · rfl
  · exact fun s hs => (Dict.mem_of_get?_index hs).2
  · exact fun s hs => (Dict.mem_of_get?_index hs).2
  · by_contra hnone
    push Not at hnone
    have hprevious : id ∉ previous.map fun subject => subject.id := subjectAt_eq_none.mp hnone.1
    have hcurrent : id ∉ current.map fun subject => subject.id := subjectAt_eq_none.mp hnone.2
    rw [changedIds, mem_sortedSet, List.mem_append] at hid
    tauto

/-- Looking up a change by subject. -/
theorem get?_changesOf {kind : String} {change : BehaviorSubjectChangeKind} :
    (Dict.ofList ((changesOf kind coverage previous current).map fun change =>
      (change.subject.targetId, change.change))).get? id = some change ↔
      id ∈ changedIds previous current ∧ change = changeOf coverage previous current id := by
  have hnodup : (((changesOf kind coverage previous current).map fun change =>
      (change.subject.targetId, change.change)).map Prod.fst).Nodup := by
    have : (changedIds previous current).Nodup := (sortedSet_pairwise _).imp ne_of_lt
    simpa [changesOf, Function.comp_def] using this
  rw [Dict.get?_ofList hnodup]
  simp only [changesOf, List.map_map, List.mem_map, Function.comp_apply, Prod.mk.injEq]
  constructor
  · rintro ⟨id', hid', rfl, rfl⟩
    exact ⟨hid', rfl⟩
  · rintro ⟨hid, rfl⟩
    exact ⟨id, hid, rfl, rfl⟩

end Subjects

/-! ### Violations -/

/-- What the classification of violations depends on: what the baseline allows and protects, what is
there now, the subjects that differ from the baseline, and the keys whose absence says that they are
resolved. -/
structure ViolationView where
  identify : ViolationKey → ViolationId
  allowances : List ViolationKey
  protectedKeys : List ViolationKey
  current : List ViolationKey
  touched : BehaviorSubjectId → Bool
  examined : ViolationKey → Bool
  allowances_sorted : SortedKeys identify allowances
  protected_sorted : SortedKeys identify protectedKeys
  current_sorted : SortedKeys identify current
  disjoint : ∀ key ∈ allowances, identify key ∉ protectedKeys.map identify

namespace ViolationView

variable (v : ViolationView)

/-- The kind of a current violation. -/
def currentKind (key : ViolationKey) : ViolationClassificationKind :=
  if v.identify key ∈ v.protectedKeys.map v.identify then .reintroduced
  else if v.identify key ∉ v.allowances.map v.identify then .newRegression
  else if v.touched key.subject.targetId then .touchedLegacy
  else .unchangedLegacy

/-- The kind of an allowed violation that is absent now. -/
def absentKind (key : ViolationKey) : ViolationClassificationKind :=
  if v.examined key then .resolved else .unknown

/-- The allowed violations that are absent now. -/
def absent : List ViolationKey :=
  v.allowances.filter fun key => v.identify key ∉ v.current.map v.identify

/-- The classifications in order. -/
def classifications : List ViolationClassification :=
  sortedBy (fun item => v.identify item.key)
    (v.current.map (fun key => ⟨v.currentKind key, key⟩) ++
      v.absent.map fun key => ⟨v.absentKind key, key⟩)

variable {v} {item : ViolationClassification} {key : ViolationKey}

theorem mem_absent : key ∈ v.absent ↔
    key ∈ v.allowances ∧ v.identify key ∉ v.current.map v.identify := by
  rw [absent, List.mem_filter, decide_eq_true_eq]

theorem mem_classifications : item ∈ v.classifications ↔
    (item.key ∈ v.current ∧ item.classification = v.currentKind item.key) ∨
      (item.key ∈ v.absent ∧ item.classification = v.absentKind item.key) := by
  obtain ⟨kind, key⟩ := item
  rw [classifications, mem_sortedBy, List.mem_append]
  refine or_congr ?_ ?_ <;>
  · rw [List.mem_map]
    constructor
    · rintro ⟨key, hkey, heq⟩
      cases heq
      exact ⟨hkey, rfl⟩
    · rintro ⟨hkey, heq⟩
      simp only at heq
      exact ⟨key, hkey, by rw [heq]⟩

/-- No identifier is classified twice. -/
theorem classifications_sorted : SortedKeys (fun item => v.identify item.key) v.classifications := by
  refine sortedKeys_sortedBy ?_
  rw [List.map_append, List.map_map, List.map_map, List.nodup_append]
  refine ⟨v.current_sorted.nodup, (v.allowances_sorted.filter _).nodup, ?_⟩
  intro a ha b hb heq
  obtain ⟨key, hkey, rfl⟩ := List.mem_map.mp hb
  rw [heq] at ha
  exact (mem_absent.mp hkey).2 ha

theorem length_classifications :
    v.classifications.length = v.current.length + v.absent.length := by
  simp [classifications]

theorem length_absent_le : v.absent.length ≤ v.allowances.length := List.length_filter_le _ _

theorem currentKind_of_protected (h : v.identify key ∈ v.protectedKeys.map v.identify) :
    v.currentKind key = .reintroduced := if_pos h

theorem currentKind_of_new (hprotected : v.identify key ∉ v.protectedKeys.map v.identify)
    (hallowed : v.identify key ∉ v.allowances.map v.identify) :
    v.currentKind key = .newRegression := by
  rw [currentKind, if_neg hprotected, if_pos hallowed]

theorem currentKind_of_allowed (hallowed : v.identify key ∈ v.allowances.map v.identify) :
    v.currentKind key =
      if v.touched key.subject.targetId then .touchedLegacy else .unchangedLegacy := by
  obtain ⟨key', hkey', hid⟩ := List.mem_map.mp hallowed
  have hprotected := v.disjoint key' hkey'
  rw [hid] at hprotected
  rw [currentKind, if_neg hprotected, if_neg (not_not.mpr hallowed)]

theorem currentKind_ne_resolved : v.currentKind key ≠ .resolved := by
  unfold currentKind
  split_ifs <;> simp

theorem currentKind_ne_unknown : v.currentKind key ≠ .unknown := by
  unfold currentKind
  split_ifs <;> simp

theorem currentKind_eq_reintroduced :
    v.currentKind key = .reintroduced ↔ v.identify key ∈ v.protectedKeys.map v.identify := by
  unfold currentKind
  split_ifs <;> simp_all

theorem currentKind_eq_unchanged :
    v.currentKind key = .unchangedLegacy ↔
      v.identify key ∈ v.allowances.map v.identify ∧ v.touched key.subject.targetId = false := by
  have hdisjoint : v.identify key ∈ v.allowances.map v.identify →
      v.identify key ∉ v.protectedKeys.map v.identify := by
    intro hmem
    obtain ⟨key', hkey', heq⟩ := List.mem_map.mp hmem
    rw [← heq]
    exact v.disjoint key' hkey'
  unfold currentKind
  split_ifs <;> simp_all

theorem currentKind_isRegression :
    (v.currentKind key).isRegression = false ↔ v.currentKind key = .unchangedLegacy := by
  unfold currentKind
  split_ifs <;> simp [ViolationClassificationKind.isRegression]

theorem absentKind_isRegression : (v.absentKind key).isRegression = false := by
  unfold absentKind
  split <;> rfl

theorem absentKind_ne_reintroduced : v.absentKind key ≠ .reintroduced := by
  unfold absentKind
  split <;> simp

theorem absentKind_eq_resolved : v.absentKind key = .resolved ↔ v.examined key = true := by
  unfold absentKind
  split <;> simp_all

theorem absentKind_eq_unknown : v.absentKind key = .unknown ↔ v.examined key = false := by
  unfold absentKind
  split <;> simp_all

/-- There is no regression when every current violation is an unchanged allowed one. -/
theorem no_regression_iff :
    (∀ item ∈ v.classifications, item.classification.isRegression = false) ↔
      ∀ key ∈ v.current, v.currentKind key = .unchangedLegacy := by
  constructor
  · intro h key hkey
    rw [← currentKind_isRegression]
    exact h ⟨v.currentKind key, key⟩ (mem_classifications.mpr (.inl ⟨hkey, rfl⟩))
  · intro h item hitem
    rcases mem_classifications.mp hitem with ⟨hkey, hkind⟩ | ⟨hkey, hkind⟩
    · rw [hkind, h _ hkey]
      rfl
    · rw [hkind, absentKind_isRegression]

/-- Nothing is unknown when every absent violation was looked into. -/
theorem no_unknown_iff :
    (∀ item ∈ v.classifications, item.classification ≠ .unknown) ↔
      ∀ key ∈ v.absent, v.examined key = true := by
  constructor
  · intro h key hkey
    have hne := h ⟨v.absentKind key, key⟩ (mem_classifications.mpr (.inr ⟨hkey, rfl⟩))
    by_contra hexamined
    exact hne (absentKind_eq_unknown.mpr (by simpa using hexamined))
  · intro h item hitem
    rcases mem_classifications.mp hitem with ⟨hkey, hkind⟩ | ⟨hkey, hkind⟩
    · rw [hkind]
      exact currentKind_ne_unknown
    · rw [hkind, absentKind_eq_resolved.mpr (h _ hkey)]
      nofun

theorem mem_keysClassified {classifications : List ViolationClassification}
    {kinds : ViolationClassificationKind → Bool} :
    key ∈ keysClassified classifications kinds ↔
      ∃ item ∈ classifications, kinds item.classification = true ∧ item.key = key := by
  simp only [keysClassified, List.mem_map, List.mem_filter]
  constructor
  · rintro ⟨item, ⟨hmem, hkind⟩, rfl⟩
    exact ⟨item, hmem, hkind, rfl⟩
  · rintro ⟨item, hmem, hkind, rfl⟩
    exact ⟨item, ⟨hmem, hkind⟩, rfl⟩

/-- What only current violations can be is no more than the current violations. -/
theorem length_keysClassified_le_current {kinds : ViolationClassificationKind → Bool}
    (h : ∀ key, kinds (v.absentKind key) = false) :
    (keysClassified v.classifications kinds).length ≤ v.current.length := by
  rw [keysClassified, List.length_map]
  refine (length_filter_sortedBy_le_left ?_).trans_eq (List.length_map _)
  rintro _ hitem
  obtain ⟨key, _, rfl⟩ := List.mem_map.mp hitem
  exact h key

/-- What only absent violations can be is no more than the allowed ones. -/
theorem length_keysClassified_le_allowances {kinds : ViolationClassificationKind → Bool}
    (h : ∀ key, kinds (v.currentKind key) = false) :
    (keysClassified v.classifications kinds).length ≤ v.allowances.length := by
  rw [keysClassified, List.length_map]
  refine (length_filter_sortedBy_le_right ?_).trans ((List.length_map _).trans_le length_absent_le)
  rintro _ hitem
  obtain ⟨key, _, rfl⟩ := List.mem_map.mp hitem
  exact h key

theorem mem_resolved : key ∈ keysClassified v.classifications (fun kind => kind = .resolved) ↔
    key ∈ v.absent ∧ v.examined key = true := by
  rw [mem_keysClassified]
  constructor
  · rintro ⟨item, hitem, hkind, rfl⟩
    rw [decide_eq_true_eq] at hkind
    rcases mem_classifications.mp hitem with ⟨_, hcurrent⟩ | ⟨hkey, habsent⟩
    · exact absurd (hcurrent.symm.trans hkind) currentKind_ne_resolved
    · exact ⟨hkey, absentKind_eq_resolved.mp (habsent.symm.trans hkind)⟩
  · rintro ⟨hkey, hexamined⟩
    refine ⟨⟨v.absentKind key, key⟩, mem_classifications.mpr (.inr ⟨hkey, rfl⟩), ?_, rfl⟩
    simpa using absentKind_eq_resolved.mpr hexamined

theorem mem_reintroduced :
    key ∈ keysClassified v.classifications (fun kind => kind = .reintroduced) ↔
      key ∈ v.current ∧ v.identify key ∈ v.protectedKeys.map v.identify := by
  rw [mem_keysClassified]
  constructor
  · rintro ⟨item, hitem, hkind, rfl⟩
    rw [decide_eq_true_eq] at hkind
    rcases mem_classifications.mp hitem with ⟨hkey, hcurrent⟩ | ⟨_, habsent⟩
    · exact ⟨hkey, currentKind_eq_reintroduced.mp (hcurrent.symm.trans hkind)⟩
    · have hregression : (v.absentKind item.key).isRegression = false := absentKind_isRegression
      rw [← habsent, hkind] at hregression
      cases hregression
  · rintro ⟨hkey, hprotected⟩
    refine ⟨⟨v.currentKind key, key⟩, mem_classifications.mpr (.inl ⟨hkey, rfl⟩), ?_, rfl⟩
    simpa using currentKind_eq_reintroduced.mpr hprotected

theorem mem_unchanged :
    key ∈ keysClassified v.classifications (fun kind => kind = .unchangedLegacy) ↔
      key ∈ v.current ∧ v.currentKind key = .unchangedLegacy := by
  rw [mem_keysClassified]
  constructor
  · rintro ⟨item, hitem, hkind, rfl⟩
    rw [decide_eq_true_eq] at hkind
    rcases mem_classifications.mp hitem with ⟨hkey, hcurrent⟩ | ⟨_, habsent⟩
    · exact ⟨hkey, hcurrent.symm.trans hkind⟩
    · rw [hkind] at habsent
      unfold absentKind at habsent
      split at habsent <;> cases habsent
  · rintro ⟨hkey, hkind⟩
    refine ⟨⟨v.currentKind key, key⟩, mem_classifications.mpr (.inl ⟨hkey, rfl⟩), ?_, rfl⟩
    simpa using hkind

/-! ### The ledger of violations -/

variable (v)

/-- The ledger of the identifiers of violations. -/
def ledger : Ledger ViolationId where
  allowed := {id | id ∈ v.allowances.map v.identify}
  tombs := {id | id ∈ v.protectedKeys.map v.identify}
  disjoint := by
    rw [Set.disjoint_left]
    intro id hallowed
    obtain ⟨key, hkey, rfl⟩ := List.mem_map.mp hallowed
    exact v.disjoint key hkey

/-- What the assessment sees of the violations. -/
def sighting : Sighting ViolationId where
  current := {id | id ∈ v.current.map v.identify}
  unchanged := {id | ∃ key ∈ v.current, v.identify key = id ∧ v.touched key.subject.targetId = false}
  examined := {id | ∃ key ∈ v.allowances, v.identify key = id ∧ v.examined key = true}

variable {v}

/-- The ledger accepts what the assessment sees when nothing is a regression or unknown. -/
theorem accepts_iff : v.ledger.Accepts v.sighting ↔
    (∀ key ∈ v.current, v.currentKind key = .unchangedLegacy) ∧
      ∀ key ∈ v.absent, v.examined key = true := by
  constructor
  · intro h
    constructor
    · intro key hkey
      have hcurrent : v.identify key ∈ v.current.map v.identify := List.mem_map_of_mem hkey
      obtain ⟨key', hkey', hid, htouched⟩ := h.unchanged hcurrent
      obtain rfl := List.inj_on_of_nodup_map v.current_sorted.nodup hkey' hkey hid
      exact currentKind_eq_unchanged.mpr ⟨h.allowed hcurrent, htouched⟩
    · intro key hkey
      obtain ⟨hallowed, hnot⟩ := mem_absent.mp hkey
      obtain ⟨key', hkey', hid, hexamined⟩ := h.examined ⟨List.mem_map_of_mem hallowed, hnot⟩
      obtain rfl := List.inj_on_of_nodup_map v.allowances_sorted.nodup hkey' hallowed hid
      exact hexamined
  · rintro ⟨hcurrent, habsent⟩
    refine ⟨?_, ?_, ?_⟩
    · intro id hid
      obtain ⟨key, hkey, rfl⟩ := List.mem_map.mp hid
      exact (currentKind_eq_unchanged.mp (hcurrent key hkey)).1
    · intro id hid
      obtain ⟨key, hkey, rfl⟩ := List.mem_map.mp hid
      exact ⟨key, hkey, rfl, (currentKind_eq_unchanged.mp (hcurrent key hkey)).2⟩
    · rintro id ⟨hid, hnot⟩
      obtain ⟨key, hkey, rfl⟩ := List.mem_map.mp hid
      exact ⟨key, hkey, rfl, habsent key (mem_absent.mpr ⟨hkey, hnot⟩)⟩

theorem resolved_sorted : SortedKeys v.identify
    (keysClassified v.classifications fun kind => kind = .resolved) := by
  rw [sortedKeys_iff, keysClassified, List.map_map]
  exact sortedKeys_iff.mp (classifications_sorted.filter _)

theorem unchanged_sorted : SortedKeys v.identify
    (keysClassified v.classifications fun kind => kind = .unchangedLegacy) := by
  rw [sortedKeys_iff, keysClassified, List.map_map]
  exact sortedKeys_iff.mp (classifications_sorted.filter _)

/-- The protected keys and those resolved now have different identifiers. -/
theorem protected_resolved_nodup : ((v.protectedKeys ++ keysClassified v.classifications
    fun kind => kind = .resolved).map v.identify).Nodup := by
  rw [List.map_append, List.nodup_append]
  refine ⟨v.protected_sorted.nodup, resolved_sorted.nodup, ?_⟩
  intro a ha b hb heq
  obtain ⟨key, hkey, rfl⟩ := List.mem_map.mp hb
  rw [heq] at ha
  exact v.disjoint key (mem_absent.mp (mem_resolved.mp hkey).1).1 ha

/-- What a successor allows when every current violation is an unchanged allowed one: exactly what
is there now. -/
theorem unchanged_eq_current (h : ∀ key ∈ v.current, v.currentKind key = .unchangedLegacy) :
    sortedBy v.identify (keysClassified v.classifications fun kind => kind = .unchangedLegacy) =
      v.current := by
  rw [unchanged_sorted.sortedBy_eq]
  refine unchanged_sorted.eq_of_mem_iff v.current_sorted fun key => ?_
  rw [mem_unchanged]
  exact ⟨fun hkey => hkey.1, fun hkey => ⟨hkey, h key hkey⟩⟩

/-- What a successor protects: what its predecessor protects and what is resolved now. -/
theorem successor_protected :
    ((Dict.ofList (v.protectedKeys.map fun key => (v.identify key, key))).update
      ((keysClassified v.classifications fun kind => kind = .resolved).map
        fun key => (v.identify key, key))).valuesByKey =
      sortedBy v.identify (v.protectedKeys ++ keysClassified v.classifications
        fun kind => kind = .resolved) :=
  Dict.valuesByKey_update_ofList protected_resolved_nodup

end ViolationView

end Ucf
