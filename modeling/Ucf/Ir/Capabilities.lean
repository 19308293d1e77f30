import Mathlib.Data.Prod.Lex
import Ucf.Ir.WellFormed

/-! The capabilities that a Behavior IR document requires, by name and minimum version, and which
environments provide them. -/

namespace Ucf

/-- `repr` of a text, whose quoting depends on what the interpreter takes as printable. -/
class ReprText where
  reprText : String → String

export ReprText (reprText)

/-! ### Versions -/

/-- An exception, or the `ValueError` of `int`. -/
inductive VersionError where
  | raised (error : PyError)
  | valueError

/-- The digits that `int` converts by default, `sys.int_info.default_max_str_digits`. -/
def maxStrDigits : Nat := 4300

/-- `int(digits)` -/
def pyInt (digits : List Char) : Except VersionError Nat :=
  if digits.length ≤ maxStrDigits then .ok (decimalValue digits) else .error .valueError

/-- `tuple[int, int, int]` -/
abbrev VersionTuple : Type := Nat ×ₗ Nat ×ₗ Nat

/-- `major, minor, patch = version.split(".")`, and their integers. -/
def splitVersion (version : String) : Except VersionError VersionTuple :=
  match splitOn '.' version.toList with
  | [major, minor, patch] => do
    let major ← pyInt major
    let minor ← pyInt minor
    let patch ← pyInt patch
    pure (toLex (major, toLex (minor, patch)))
  | _ => .error .valueError

/-- `int` converts each part of the version. -/
def Readable (version : String) : Prop :=
  ∀ part ∈ splitOn '.' version.toList, part.length ≤ maxStrDigits

instance (version : String) : Decidable (Readable version) :=
  inferInstanceAs (Decidable (∀ part ∈ splitOn '.' version.toList, part.length ≤ maxStrDigits))

/-- The numbers of a version. -/
def versionNumbers (version : String) : VersionTuple :=
  match splitOn '.' version.toList with
  | [major, minor, patch] =>
    toLex (decimalValue major, toLex (decimalValue minor, decimalValue patch))
  | _ => toLex (0, toLex (0, 0))

theorem length_of_matchVersion {cs : List Char} (h : matchVersion cs = true) :
    (splitOn '.' cs).length = 3 := by
  simp only [matchVersion, Bool.and_eq_true, decide_eq_true_eq] at h
  exact h.1

theorem splitVersion_eq_ok {version : String} (h : matchVersion version.toList = true)
    {numbers : VersionTuple} :
    splitVersion version = .ok numbers ↔ Readable version ∧ numbers = versionNumbers version := by
  have hlength := length_of_matchVersion h
  rw [splitVersion, Readable, versionNumbers]
  generalize splitOn '.' version.toList = parts at hlength
  match parts, hlength with
  | [major, minor, patch], _ =>
    simp only [pyInt, bind_eq_ok, pure_eq_ok, Except.ok.injEq, List.forall_mem_cons,
      List.not_mem_nil, false_imp_iff, implies_true, and_true, eq_comm (a := numbers)]
    constructor
    · rintro ⟨a, ha, b, hb, c, hc, rfl⟩
      split at ha
      · split at hb
        · split at hc
          · cases ha
            cases hb
            cases hc
            exact ⟨⟨‹_›, ‹_›, ‹_›⟩, rfl⟩
          · cases hc
        · cases hb
      · cases ha
    · rintro ⟨⟨hmajor, hminor, hpatch⟩, rfl⟩
      exact ⟨_, if_pos hmajor, _, if_pos hminor, _, if_pos hpatch, rfl⟩

theorem NormalizedVersion.matches (version : NormalizedVersion) :
    matchVersion version.val.toList = true := by
  have h := version.property
  simp only [stringConstraints, Option.any_none, Bool.false_eq_true, if_false, Nat.not_lt_zero]
    at h
  split at h
  · assumption
  · cases h

/-! ### Requirements -/

/-- `isinstance(entity, CapabilityRequirement)`, and the entity as one. -/
def Entity.capability? : Entity → Option CapabilityRequirement
  | .capabilityRequirement e => some e
  | _ => none

/-- The capability requirements of a document. -/
def BehaviorIR.capabilities (document : BehaviorIR) : List CapabilityRequirement :=
  document.entities.filterMap Entity.capability?

theorem Entity.capability?_eq_some {entity : Entity} {c : CapabilityRequirement} :
    entity.capability? = some c ↔ entity = .capabilityRequirement c := by
  cases entity <;> simp [Entity.capability?]

theorem BehaviorIR.mem_capabilities {document : BehaviorIR} {c : CapabilityRequirement} :
    c ∈ document.capabilities ↔ .capabilityRequirement c ∈ document.entities := by
  simp [BehaviorIR.capabilities, Entity.capability?_eq_some]

namespace BehaviorIR.WellFormed

variable {document : BehaviorIR} (h : document.WellFormed)
include h

theorem capability_ids : (document.capabilities.map CapabilityRequirement.id).Nodup := by
  have hsub : (document.capabilities.map CapabilityRequirement.id).Sublist
      (document.entities.map Entity.id) := by
    rw [BehaviorIR.capabilities, List.map_filterMap]
    induction document.entities with
    | nil => simp
    | cons entity entities ih =>
      cases entity
      case capabilityRequirement c => exact ih.cons_cons c.id
      all_goals exact ih.cons _
  exact h.ids_nodup.sublist hsub

theorem capability_names : (document.capabilities.map CapabilityRequirement.name).Nodup := by
  have heq : document.capabilities.map CapabilityRequirement.name =
      document.entities.filterMap Entity.capabilityName? := by
    rw [BehaviorIR.capabilities, List.map_filterMap]
    congr 1
    funext entity
    cases entity <;> rfl
  rw [heq]
  exact h.names_nodup

end BehaviorIR.WellFormed

/-! ### Environments -/

section Required

variable [ReprText]

/-- `_version_tuple` -/
def versionTuple (version location : String) : Except VersionError VersionTuple := do
  require (matchVersion version.toList = true) (.raised (.ir .invalidValue
    ("capability version " ++ reprText version ++ " is not normalized major.minor.patch") location))
  splitVersion version

/-- The body of the loop of `validate_required_capabilities` -/
def checkCapability (available : Dict String String) (position : Nat) (entity : Entity) :
    Except VersionError Unit :=
  match entity with
  | .capabilityRequirement e =>
    if e.required then do
      let location := at_ "$.entities" position ++ ".minimum_version"
      let actual ← orRaise (available.get? e.name.val) (.raised (.ir .unsupportedCapability
        ("required capability " ++ quoted e.name.val ++ " is unavailable") location))
      let actualVersion ← versionTuple actual ("$.capabilities." ++ e.name.val)
      let minimumVersion ← versionTuple e.minimumVersion.val location
      require (¬actualVersion < minimumVersion) (.raised (.ir .unsupportedCapability
        ("capability " ++ quoted e.name.val ++ " has version " ++ reprText actual ++
          "; requires at least " ++ quoted e.minimumVersion.val) location))
    else pure ()
  | _ => pure ()

/-- `validate_required_capabilities` -/
def validateRequiredCapabilities (document : BehaviorIR) (available : Dict String String) :
    Except VersionError Unit :=
  checkEach (checkCapability available) document.entities

/-- What an environment must have for a requirement. -/
def CapabilityRequirement.Met (c : CapabilityRequirement) (available : Dict String String) : Prop :=
  ∃ actual, available.get? c.name.val = some actual ∧ matchVersion actual.toList = true ∧
    Readable actual ∧ Readable c.minimumVersion.val ∧
      versionNumbers c.minimumVersion.val ≤ versionNumbers actual

theorem checkCapability_eq_ok {available : Dict String String} {position : Nat} {entity : Entity} :
    checkCapability available position entity = .ok () ↔
      ∀ c, entity = .capabilityRequirement c → c.required = true → c.Met available := by
  cases entity with
  | capabilityRequirement e =>
    simp only [checkCapability, Entity.capabilityRequirement.injEq, forall_eq']
    cases hrequired : e.required with
    | false => simp
    | true =>
      simp only [if_true, bind_eq_ok, orRaise_eq_ok, versionTuple, require_eq_ok, exists_const,
        splitVersion_eq_ok e.minimumVersion.matches, not_lt, forall_const,
        CapabilityRequirement.Met]
      constructor
      · rintro ⟨actual, hactual, numbers, ⟨hmatch, hnumbers⟩, minimum, ⟨-, hreadable, rfl⟩, hle⟩
        obtain ⟨hread, rfl⟩ := (splitVersion_eq_ok hmatch).mp hnumbers
        exact ⟨actual, hactual, hmatch, hread, hreadable, hle⟩
      · rintro ⟨actual, hactual, hmatch, hread, hreadable, hle⟩
        exact ⟨actual, hactual, _, ⟨hmatch, (splitVersion_eq_ok hmatch).mpr ⟨hread, rfl⟩⟩, _,
          ⟨e.minimumVersion.matches, hreadable, rfl⟩, hle⟩
  | _ => simp [checkCapability]

/-- An environment is accepted when it meets every requirement that is required. -/
theorem validateRequiredCapabilities_eq_ok {document : BehaviorIR} {available : Dict String String} :
    validateRequiredCapabilities document available = .ok () ↔
      ∀ c ∈ document.capabilities, c.required = true → c.Met available := by
  refine Iff.trans (checkEach_eq_ok_of_iff fun _ _ => checkCapability_eq_ok) ?_
  constructor
  · intro h c hc
    exact h _ (BehaviorIR.mem_capabilities.mp hc) c rfl
  · rintro h entity hentity c rfl
    exact h c (BehaviorIR.mem_capabilities.mpr hentity)

end Required

end Ucf
