import Ucf.Change.DeltaExact
import Ucf.Ir.Capabilities
import Ucf.Library.WordOrder

/-! How an impact report classifies the compatibility of two behavior documents: by the base roots
that are lost, by the capabilities that are newly required or raised, and by whether the final
document extends the base one. -/

namespace Ucf

/-! ### Assessments -/

/-- `CompatibilityOutcome` -/
inductive CompatibilityOutcome where
  | compatible
  | breaking
  | unresolved
deriving DecidableEq, Repr

/-- `CompatibilityProfile` -/
inductive CompatibilityProfile where
  | backwardCompatibleGraphExtension
  | breakingBaseRootContract
  | breakingRequiredCapability
  | compatibilityUnresolved
deriving DecidableEq, Repr

/-- `GovernanceReason` -/
abbrev GovernanceReason : Type := Checked (stringConstraints 1 (some 2048) fun _ => true)

/-- What `_classify_compatibility` raises: an error of `int`, or of the model. -/
inductive ClassifyError where
  | version (error : VersionError)
  | validation (issues : List Issue)

/-- `CompatibilityAssessment.validate_reasons` -/
def validateReasons (outcome : CompatibilityOutcome) (profile : CompatibilityProfile)
    (reasons : List String) : Except String Unit := do
  require reasons.Nodup "compatibility assessment contains duplicate reasons"
  require (reasons = sortedBy id reasons) "compatibility reasons are not canonical"
  require (¬(outcome = .compatible ∧ profile ≠ .backwardCompatibleGraphExtension))
    "compatible outcome uses the wrong profile"
  require (¬(outcome = .unresolved ∧ profile ≠ .compatibilityUnresolved))
    "unresolved outcome uses the wrong profile"
  require (¬(outcome = .breaking ∧
      profile ∉ [.breakingBaseRootContract, CompatibilityProfile.breakingRequiredCapability]))
    "breaking outcome uses the wrong profile"

structure CompatibilityAssessment where
  outcome : CompatibilityOutcome
  profile : CompatibilityProfile
  reasons : List GovernanceReason
  nonempty : 1 ≤ reasons.length
  valid : validateReasons outcome profile (reasons.map Subtype.val) = .ok ()

namespace CompatibilityAssessment

/-- The texts of the reasons. -/
def texts (assessment : CompatibilityAssessment) : List String :=
  assessment.reasons.map Subtype.val

/-- `CompatibilityAssessment(...)` -/
def make (outcome : CompatibilityOutcome) (profile : CompatibilityProfile)
    (reasons : List String) : Except ClassifyError CompatibilityAssessment := do
  let reasons ← (under (.name "reasons")
    (Schema.loadItems modelValidate 0 (reasons.map Json.str))).mapError .validation
  if hnonempty : 1 ≤ reasons.length then
    if hvalid : validateReasons outcome profile (reasons.map Subtype.val) = .ok () then
      pure ⟨outcome, profile, reasons, hnonempty, hvalid⟩
    else throw (.validation [⟨"value_error", []⟩])
  else throw (.validation [⟨"too_short", [.name "reasons"]⟩])

end CompatibilityAssessment

/-! ### The classification -/

/-- "required capability ... was introduced" -/
def introducedReason (requirement : CapabilityRequirement) : String :=
  "required capability " ++ requirement.name.val ++ " was introduced"

/-- "required capability ... minimum version increased from ... to ..." -/
def increasedReason (requirement previous : CapabilityRequirement) : String :=
  "required capability " ++ requirement.name.val ++ (" minimum version increased from " ++
    previous.minimumVersion.val ++ " to " ++ requirement.minimumVersion.val)

/-- "base root ... is not a final root" -/
def lostRootReason (root : EntityRef) : String :=
  "base root " ++ (root.targetKind.value ++ ":" ++ root.targetId.val) ++ " is not a final root"

/-- The body of the loop of `_required_capability_breaks`, with the reason that it appends. -/
def capabilityBreak (base : Dict Identifier CapabilityRequirement)
    (item : Identifier × CapabilityRequirement) : Except VersionError (Option String) :=
  let (identifier, requirement) := item
  if ¬requirement.required then .ok none
  else
    match (base.get? identifier).filter (·.required) with
    | none => .ok (some (introducedReason requirement))
    | some previous => do
      let version ← splitVersion requirement.minimumVersion.val
      let previousVersion ← splitVersion previous.minimumVersion.val
      if previousVersion < version then pure (some (increasedReason requirement previous))
      else pure none

/-- `_required_capability_breaks` -/
def requiredCapabilityBreaks (baseBehavior finalBehavior : BehaviorIR) :
    Except VersionError (List String) := do
  let base := Dict.ofList (baseBehavior.capabilities.map fun entity => (entity.id, entity))
  let final := Dict.ofList (finalBehavior.capabilities.map fun entity => (entity.id, entity))
  let reasons ← collect (capabilityBreak base) (sortedBy (fun item => item.1.val) final.items)
  pure (reasons.filterMap id)

/-- `_classify_compatibility` -/
def classifyCompatibility (baseBehavior finalBehavior : BehaviorIR)
    (baseEntities finalEntities : Dict EntityRef Json) (baseRoots finalRoots : List EntityRef) :
    Except ClassifyError CompatibilityAssessment := do
  let lostRoots := sortedBy refKey (baseRoots.dedup.filter fun root => root ∉ finalRoots)
  if lostRoots ≠ [] then
    CompatibilityAssessment.make .breaking .breakingBaseRootContract (lostRoots.map lostRootReason)
  else
    let requiredBreaks ←
      (requiredCapabilityBreaks baseBehavior finalBehavior).mapError .version
    if requiredBreaks ≠ [] then
      CompatibilityAssessment.make .breaking .breakingRequiredCapability requiredBreaks
    else if baseEntities.items.all fun item => finalEntities.get? item.1 = some item.2 then
      CompatibilityAssessment.make .compatible .backwardCompatibleGraphExtension
        ["every base entity and root remains byte-exact"]
    else
      CompatibilityAssessment.make .unresolved .compatibilityUnresolved
        ["existing behavior changed outside the narrow structural profile"]

/-- `_classify_compatibility` as `derive_impact_report` calls it -/
def compatibilityOf (baseBehavior finalBehavior : BehaviorIR) :
    Except ClassifyError CompatibilityAssessment :=
  let (baseEntities, baseRoots) := canonicalEntitiesAndRoots baseBehavior
  let (finalEntities, finalRoots) := canonicalEntitiesAndRoots finalBehavior
  classifyCompatibility baseBehavior finalBehavior baseEntities finalEntities baseRoots finalRoots

/-- `DecisionClass` -/
inductive DecisionClass where
  | publicContract
  | productionDependency
  | irreversibleMigration
  | controlWeakening
  | productSemantics
  | scopeExpansion
deriving DecidableEq, Repr

/-- `required_classes` of `derive_impact_report` -/
def requiredClasses (compatibility : CompatibilityAssessment) : List DecisionClass :=
  if compatibility.outcome = .breaking then [.publicContract] else []

/-! ### Lists of checked texts -/

theorem loadItems_checked_eq_ok {check : String → Option String} {texts : List String}
    {items : List (Checked check)} :
    Schema.loadItems modelValidate 0 (texts.map Json.str) = .ok items ↔
      items.map Subtype.val = texts := by
  rw [Schema.loadItems_eq_ok, List.forall₂_map_left_iff]
  constructor
  · intro h
    induction h with
    | nil => rfl
    | cons hread _ ih =>
      have hsame := Json.same_str.mp (modelValidate_eq_ok.mp hread)
      rw [List.map_cons, ih, ← Json.str.inj hsame]
  · rintro rfl
    rw [List.forall₂_map_left_iff, List.forall₂_same]
    intro item _
    rw [modelValidate_eq_ok]
    rfl

/-- Texts that pass a check, as a list of checked texts. -/
theorem exists_checked {check : String → Option String} {texts : List String}
    (h : ∀ text ∈ texts, check text = none) :
    ∃ items : List (Checked check), items.map Subtype.val = texts := by
  refine ⟨texts.pmap (fun text htext => ⟨text, htext⟩) h, ?_⟩
  rw [List.map_pmap, List.pmap_eq_map, List.map_id']

theorem lengthConstraints_eq_none {minLength maxLength : Nat} {text : String} :
    stringConstraints minLength (some maxLength) (fun _ => true) text = none ↔
      minLength ≤ text.toList.length ∧ text.toList.length ≤ maxLength := by
  simp only [stringConstraints, Option.any_some, decide_eq_true_eq]
  split
  · simp only [reduceCtorEq, false_iff]
    omega
  · split
    · simp only [reduceCtorEq, false_iff]
      omega
    · simp only [if_true, true_iff]
      omega

/-! ### What an assessment takes -/

namespace CompatibilityAssessment

/-- The profiles that an outcome may have. -/
def Fits : CompatibilityOutcome → CompatibilityProfile → Prop
  | .compatible, profile => profile = .backwardCompatibleGraphExtension
  | .unresolved, profile => profile = .compatibilityUnresolved
  | .breaking, profile =>
    profile = .breakingBaseRootContract ∨ profile = .breakingRequiredCapability

end CompatibilityAssessment

theorem validateReasons_eq_ok {outcome : CompatibilityOutcome} {profile : CompatibilityProfile}
    {reasons : List String} {u : Unit} : validateReasons outcome profile reasons = .ok u ↔
      reasons.Pairwise (· < ·) ∧ CompatibilityAssessment.Fits outcome profile := by
  simp only [validateReasons, bind_eq_ok, require_eq_ok, exists_const]
  rw [← and_assoc, nodup_and_eq_sortedBy_iff]
  refine and_congr_right fun _ => ?_
  cases outcome <;> simp [CompatibilityAssessment.Fits, or_iff_not_imp_left]

namespace CompatibilityAssessment

theorem texts_ne_nil (a : CompatibilityAssessment) : a.texts ≠ [] := by
  have h := a.nonempty
  rw [texts, Ne, List.map_eq_nil_iff]
  exact List.ne_nil_of_length_pos h

theorem texts_sorted (a : CompatibilityAssessment) : a.texts.Pairwise (· < ·) :=
  (validateReasons_eq_ok.mp a.valid).1

variable {outcome : CompatibilityOutcome} {profile : CompatibilityProfile} {texts : List String}

theorem make_eq_ok {a : CompatibilityAssessment} : make outcome profile texts = .ok a ↔
    a.outcome = outcome ∧ a.profile = profile ∧ a.texts = texts := by
  simp only [make, bind_eq_ok, mapError_eq_ok, under_eq_ok, loadItems_checked_eq_ok]
  constructor
  · rintro ⟨reasons, rfl, h⟩
    split at h
    · split at h
      · cases h
        exact ⟨rfl, rfl, rfl⟩
      · cases h
    · cases h
  · rintro ⟨rfl, rfl, rfl⟩
    exact ⟨a.reasons, rfl, by rw [dif_pos a.nonempty, dif_pos a.valid]; rfl⟩

/-- What reasons make an assessment. -/
theorem exists_make : (∃ a, make outcome profile texts = .ok a) ↔
    texts ≠ [] ∧ (∀ text ∈ texts, 1 ≤ text.toList.length ∧ text.toList.length ≤ 2048) ∧
      texts.Pairwise (· < ·) ∧ Fits outcome profile := by
  simp only [make_eq_ok]
  constructor
  · rintro ⟨a, rfl, rfl, rfl⟩
    refine ⟨a.texts_ne_nil, fun text htext => ?_, validateReasons_eq_ok.mp a.valid⟩
    obtain ⟨reason, -, rfl⟩ := List.mem_map.mp htext
    exact lengthConstraints_eq_none.mp reason.property
  · rintro ⟨hne, hlength, hvalid⟩
    obtain ⟨reasons, htexts⟩ : ∃ reasons : List GovernanceReason,
        reasons.map Subtype.val = texts :=
      exists_checked fun text htext => lengthConstraints_eq_none.mpr (hlength text htext)
    have hnonempty : 1 ≤ reasons.length := by
      rw [← List.length_map Subtype.val, htexts]
      exact List.length_pos_of_ne_nil hne
    have hvalidReasons : validateReasons outcome profile (reasons.map Subtype.val) = .ok () := by
      rw [htexts]
      exact validateReasons_eq_ok.mpr hvalid
    exact ⟨⟨outcome, profile, reasons, hnonempty, hvalidReasons⟩, rfl, rfl, htexts⟩

end CompatibilityAssessment

/-! ### Words of sentences -/

theorem separator_lt_of_matchSegments {isSeparator : Char → Bool} {sep : Char} {pending : Bool}
    {cs : List Char} (hsep : sep < '0') (hseparator : ∀ c, isSeparator c = true → sep < c)
    (h : matchSegments isSeparator pending cs = true) : ∀ c ∈ cs, sep < c := by
  induction cs generalizing pending with
  | nil => simp
  | cons c cs ih =>
    rw [matchSegments] at h
    split at h
    · rename_i halnum
      refine List.forall_mem_cons.mpr ⟨?_, ih h⟩
      simp only [isLowerAlnum, isLower, isDigit, Bool.or_eq_true, Bool.and_eq_true,
        decide_eq_true_eq] at halnum
      rcases halnum with ⟨ha, -⟩ | ⟨h0, -⟩
      · exact hsep.trans (lt_of_lt_of_le (by decide) ha)
      · exact hsep.trans_le h0
    · simp only [Bool.and_eq_true] at h
      exact List.forall_mem_cons.mpr ⟨hseparator c h.1.2, ih h.2⟩

theorem separator_lt_of_matchName {isSeparator : Char → Bool} {sep : Char} {cs : List Char}
    (hsep : sep < '0') (hseparator : ∀ c, isSeparator c = true → sep < c)
    (h : matchName isSeparator cs = true) : ∀ c ∈ cs, sep < c := by
  cases cs with
  | nil => simp
  | cons c cs =>
    rw [matchName, Bool.and_eq_true] at h
    refine List.forall_mem_cons.mpr ⟨?_, separator_lt_of_matchSegments hsep hseparator h.2⟩
    simp only [isLower, Bool.and_eq_true, decide_eq_true_eq] at h
    exact hsep.trans (lt_of_lt_of_le (by decide) h.1.1)

theorem isMatch_of_stringConstraints {minLength : Nat} {maxLength : Option Nat}
    {isMatch : List Char → Bool} {s : String}
    (h : stringConstraints minLength maxLength isMatch s = none) : isMatch s.toList = true := by
  simp only [stringConstraints] at h
  split at h
  · cases h
  · split at h
    · cases h
    · split at h
      · assumption
      · cases h

theorem length_of_stringConstraints {minLength maxLength : Nat} {isMatch : List Char → Bool}
    {s : String} (h : stringConstraints minLength (some maxLength) isMatch s = none) :
    s.toList.length ≤ maxLength := by
  simp only [stringConstraints, Option.any_some, decide_eq_true_eq] at h
  split at h
  · cases h
  · split at h
    · cases h
    · omega

/-- The characters of an identifier come after a blank. -/
theorem Identifier.wordAfter (identifier : Identifier) : WordAfter ' ' identifier.val := by
  refine separator_lt_of_matchName (by decide) (fun c hc => ?_)
    (isMatch_of_stringConstraints identifier.property)
  simp only [List.mem_cons, List.not_mem_nil, or_false, decide_eq_true_eq] at hc
  rcases hc with rfl | rfl | rfl <;> decide

theorem splitOn_ne_nil (separator : Char) (cs : List Char) : splitOn separator cs ≠ [] := by
  cases cs with
  | nil => simp [splitOn]
  | cons c cs =>
    rw [splitOn]
    split
    · simp
    · split <;> simp

theorem mem_splitOn_or {separator c : Char} {cs : List Char} (h : c ∈ cs) :
    c = separator ∨ ∃ part ∈ splitOn separator cs, c ∈ part := by
  induction cs with
  | nil => simp at h
  | cons d cs ih =>
    rw [splitOn]
    cases hsplit : splitOn separator cs with
    | nil => exact absurd hsplit (splitOn_ne_nil separator cs)
    | cons part parts =>
      simp only [hsplit] at ih
      rcases List.mem_cons.mp h with rfl | h
      · by_cases hc : c = separator
        · exact .inl hc
        · exact .inr ⟨c :: part, by simp [hc], by simp⟩
      · rcases ih h with hc | ⟨found, hfound, hmem⟩
        · exact .inl hc
        · right
          by_cases hd : d = separator
          · exact ⟨found, by simp [hd, hfound], hmem⟩
          · rcases List.mem_cons.mp hfound with rfl | hfound
            · exact ⟨d :: found, by simp [hd], List.mem_cons_of_mem _ hmem⟩
            · exact ⟨found, by simp [hd, hfound], hmem⟩

theorem QualifiedName.wordAfter (name : QualifiedName) : WordAfter ' ' name.val := by
  intro c hc
  have hmatch := isMatch_of_stringConstraints name.property
  simp only [Bool.and_eq_true, List.all_eq_true] at hmatch
  rcases @mem_splitOn_or '.' c _ hc with rfl | ⟨part, hpart, hmem⟩
  · decide
  · refine separator_lt_of_matchName (by decide) (fun c hc => ?_) (hmatch.2 part hpart) c hmem
    rw [decide_eq_true_eq] at hc
    rw [hc]
    decide

theorem EntityKind.wordAfter (kind : EntityKind) : WordAfter ':' kind.value := by
  cases kind <;> decide

end Ucf
