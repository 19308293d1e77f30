import Mathlib.Order.Defs.Unbundled
import Ucf.Adapter.Errors
import Ucf.Governance.Compatibility
import Ucf.Library.Numerals

/-! The comparisons of versions: by the length and the text of the parts where capabilities are
negotiated, by their numbers where a document's requirements are checked and where the impact of a
change is classified. On normalized versions they are one order. -/

namespace Ucf

open Adapter (versionAtLeast)
open Numerals

/-! ### Decimal numbers -/

theorem digits_decimal :
    Digits (fun c : Char => c.toNat - '0'.toNat) 10 fun c => isDigit c = true where
  lt_base c hc := by
    simp only [isDigit, Bool.and_eq_true, decide_eq_true_eq, Char.le_def, UInt32.le_iff_toNat_le]
      at hc
    have hhigh : c.toNat ≤ 57 := hc.2
    show c.toNat - 48 < 10
    omega
  lt_iff c d hc hd := by
    simp only [isDigit, Bool.and_eq_true, decide_eq_true_eq, Char.le_def, UInt32.le_iff_toNat_le]
      at hc hd
    have hc : 48 ≤ c.toNat := hc.1
    have hd : 48 ≤ d.toNat := hd.1
    rw [Char.lt_def, UInt32.lt_iff_toNat_lt]
    show c.toNat - 48 < d.toNat - 48 ↔ c.toNat < d.toNat
    omega

theorem decimalValue_eq_value (cs : List Char) :
    decimalValue cs = value (fun c : Char => c.toNat - '0'.toNat) 10 cs := by
  rw [decimalValue, foldl_eq_value, Nat.zero_mul, Nat.zero_add]

theorem normal_of_matchNumber {cs : List Char} (h : matchNumber cs = true) :
    Normal (fun c : Char => c.toNat - '0'.toNat) (fun c => isDigit c = true) cs := by
  simp only [matchNumber, Bool.and_eq_true, Bool.or_eq_true, decide_eq_true_eq, List.all_eq_true]
    at h
  obtain ⟨⟨hne, hdigits⟩, hleading⟩ := h
  refine ⟨hdigits, hne, hleading.imp id fun hzero d hd => ?_⟩
  have hdigit := hdigits d (List.mem_of_mem_head? hd)
  simp only [isDigit, Bool.and_eq_true, decide_eq_true_eq, Char.le_def, UInt32.le_iff_toNat_le]
    at hdigit
  have hlow : 48 ≤ d.toNat := hdigit.1
  intro hvalue
  have heq : d.toNat = '0'.toNat := by
    show d.toNat = 48
    have hsub : d.toNat - 48 = 0 := hvalue
    omega
  exact hzero (by rw [hd, Char.toNat_inj.mp heq])

/-! ### The parts of a version -/

theorem splitOn_eq_splitOn (separator : Char) (cs : List Char) :
    splitOn separator cs = cs.splitOn separator := by
  induction cs with
  | nil => rfl
  | cons c cs ih =>
    rw [splitOn, ih, List.splitOn_cons_eq_if_modifyHead]
    cases hsplit : cs.splitOn separator with
    | nil => exact absurd hsplit (List.splitOn_ne_nil _ _)
    | cons part parts => simp [List.modifyHead]

theorem splitOn_inj {separator : Char} {cs ds : List Char}
    (h : splitOn separator cs = splitOn separator ds) : cs = ds := by
  rw [splitOn_eq_splitOn, splitOn_eq_splitOn] at h
  calc
    cs = [separator].intercalate (cs.splitOn separator) := (List.intercalate_splitOn separator).symm
    _ = [separator].intercalate (ds.splitOn separator) := by rw [h]
    _ = ds := List.intercalate_splitOn separator

/-- The three parts of a normalized version. -/
theorem NormalizedVersion.exists_parts (version : NormalizedVersion) :
    ∃ major minor patch, splitOn '.' version.val.toList = [major, minor, patch] ∧
      matchNumber major = true ∧ matchNumber minor = true ∧ matchNumber patch = true := by
  have h := version.matches
  simp only [matchVersion, Bool.and_eq_true, decide_eq_true_eq, List.all_eq_true] at h
  obtain ⟨hlength, hparts⟩ := h
  match hsplit : splitOn '.' version.val.toList, hlength with
  | [major, minor, patch], _ =>
    rw [hsplit] at hparts
    exact ⟨major, minor, patch, rfl, hparts _ (by simp), hparts _ (by simp), hparts _ (by simp)⟩

/-- The pair of a part that `version_at_least` compares. -/
def segmentKey (segment : List Char) : Nat ×ₗ String :=
  toLex (segment.length, String.ofList segment)

theorem segmentKey_lt_iff {part other : List Char} (h : matchNumber part = true)
    (h' : matchNumber other = true) :
    segmentKey part < segmentKey other ↔ decimalValue part < decimalValue other := by
  rw [decimalValue_eq_value, decimalValue_eq_value,
    digits_decimal.value_lt_iff (normal_of_matchNumber h) (normal_of_matchNumber h'), segmentKey,
    segmentKey, Prod.Lex.toLex_lt_toLex, Prod.Lex.toLex_lt_toLex, String.lt_iff_toList_lt,
    String.toList_ofList, String.toList_ofList]

theorem decimalValue_inj {part other : List Char} (h : matchNumber part = true)
    (h' : matchNumber other = true) : decimalValue part = decimalValue other ↔ part = other := by
  rw [decimalValue_eq_value, decimalValue_eq_value,
    digits_decimal.value_inj (normal_of_matchNumber h) (normal_of_matchNumber h')]

theorem segmentKey_inj {part other : List Char} : segmentKey part = segmentKey other ↔ part = other := by
  refine ⟨fun h => ?_, fun h => by rw [h]⟩
  exact String.ofList_injective (Prod.mk.inj (toLex.injective h)).2

/-! ### The comparison of versions -/

/-- The order of the parts' keys is the order of the numbers. -/
theorem versionAtLeast_iff (v w : NormalizedVersion) :
    versionAtLeast v.val.toList w.val.toList = true ↔
      versionNumbers w.val ≤ versionNumbers v.val := by
  obtain ⟨major, minor, patch, hv, hmajor, hminor, hpatch⟩ := v.exists_parts
  obtain ⟨major', minor', patch', hw, hmajor', hminor', hpatch'⟩ := w.exists_parts
  have hkey : versionAtLeast v.val.toList w.val.toList =
      decide ([segmentKey major', segmentKey minor', segmentKey patch'] ≤
        [segmentKey major, segmentKey minor, segmentKey patch]) := by
    simp only [versionAtLeast, hv, hw, List.map_cons, List.map_nil]
    rfl
  rw [hkey, decide_eq_true_iff, ← not_lt, ← not_lt, versionNumbers, versionNumbers, hv, hw]
  simp only [List.cons_lt_cons_iff, List.not_lt_nil, and_false, or_false,
    Prod.Lex.toLex_lt_toLex, segmentKey_lt_iff hmajor hmajor', segmentKey_lt_iff hminor hminor',
    segmentKey_lt_iff hpatch hpatch', segmentKey_inj, decimalValue_inj hmajor hmajor',
    decimalValue_inj hminor hminor']

/-- Normalized versions of the same numbers are the same text. -/
theorem versionNumbers_injective :
    Function.Injective fun version : NormalizedVersion => versionNumbers version.val := by
  intro v w h
  obtain ⟨major, minor, patch, hv, hmajor, hminor, hpatch⟩ := v.exists_parts
  obtain ⟨major', minor', patch', hw, hmajor', hminor', hpatch'⟩ := w.exists_parts
  simp only [versionNumbers, hv, hw, EmbeddingLike.apply_eq_iff_eq, Prod.mk.injEq,
    decimalValue_inj hmajor hmajor', decimalValue_inj hminor hminor',
    decimalValue_inj hpatch hpatch'] at h
  obtain ⟨rfl, rfl, rfl⟩ := h
  exact Subtype.ext (String.toList_inj.mp (splitOn_inj (hv.trans hw.symm)))

theorem isLinearOrder_versionAtLeast : IsLinearOrder NormalizedVersion fun v w =>
    versionAtLeast v.val.toList w.val.toList = true where
  refl v := (versionAtLeast_iff v v).mpr le_rfl
  trans u v w huv hvw := by
    rw [versionAtLeast_iff] at huv hvw ⊢
    exact hvw.trans huv
  antisymm v w hvw hwv := by
    rw [versionAtLeast_iff] at hvw hwv
    exact versionNumbers_injective (hwv.antisymm hvw)
  total v w := by
    rw [versionAtLeast_iff, versionAtLeast_iff]
    exact le_total _ _

/-! ### The keys with an unbounded `int` -/

section Keys

/-- An `int` that converts digits of any count. -/
def Exact (int : List Char → Except VersionError Nat) : Prop :=
  ∀ digits, int digits = .ok (decimalValue digits)

/-- `_version`, by what `int` does. -/
def splitVersionBy (int : List Char → Except VersionError Nat) (version : String) :
    Except VersionError VersionTuple :=
  match splitOn '.' version.toList with
  | [major, minor, patch] => do
    let major ← int major
    let minor ← int minor
    let patch ← int patch
    pure (toLex (major, toLex (minor, patch)))
  | _ => .error .valueError

/-- `_version_tuple`, by what `int` does. -/
def versionTupleBy [ReprText] (int : List Char → Except VersionError Nat)
    (version location : String) : Except VersionError VersionTuple := do
  require (matchVersion version.toList = true) (.raised (.ir .invalidValue
    ("capability version " ++ reprText version ++ " is not normalized major.minor.patch") location))
  splitVersionBy int version

theorem splitVersionBy_pyInt : splitVersionBy pyInt = splitVersion := rfl

theorem versionTupleBy_pyInt [ReprText] : versionTupleBy pyInt = versionTuple := rfl

variable {int : List Char → Except VersionError Nat} (hint : Exact int)
include hint

theorem splitVersionBy_eq (version : NormalizedVersion) :
    splitVersionBy int version.val = .ok (versionNumbers version.val) := by
  obtain ⟨major, minor, patch, hparts, -⟩ := version.exists_parts
  simp only [splitVersionBy, versionNumbers, hparts, hint major, hint minor, hint patch]
  rfl

theorem versionTupleBy_eq [ReprText] (version : NormalizedVersion) (location : String) :
    versionTupleBy int version.val location = .ok (versionNumbers version.val) := by
  rw [versionTupleBy, splitVersionBy_eq hint]
  simp [require, version.matches]

end Keys

/-! ### The three comparisons -/

section Comparisons

variable [ReprText] (v w : NormalizedVersion)

/-- What the comparisons of two versions find. -/
structure ComparedByNumbers : Prop where
  parts : ∃ major minor patch, splitOn '.' v.val.toList = [major, minor, patch] ∧
    versionNumbers v.val =
      toLex (decimalValue major, toLex (decimalValue minor, decimalValue patch))
  numbers : versionAtLeast v.val.toList w.val.toList = true ↔
    versionNumbers w.val ≤ versionNumbers v.val
  impactKeys : ∀ int, Exact int → ∃ key key', splitVersionBy int v.val = .ok key ∧
    splitVersionBy int w.val = .ok key' ∧
    (versionAtLeast v.val.toList w.val.toList = true ↔ key' ≤ key)
  irKeys : ∀ int, Exact int → ∀ location location', ∃ key key',
    versionTupleBy int v.val location = .ok key ∧ versionTupleBy int w.val location' = .ok key' ∧
    (versionAtLeast v.val.toList w.val.toList = true ↔ key' ≤ key)
  required : Readable v.val → Readable w.val → ∀ (c : CapabilityRequirement) (position : Nat)
    (available : Dict String String), c.required = true → c.minimumVersion = w →
    available.get? c.name.val = some v.val →
    (checkCapability available position (.capabilityRequirement c) = .ok () ↔
      versionAtLeast v.val.toList w.val.toList = true)
  impact : Readable v.val → Readable w.val → ∀ (previous c : CapabilityRequirement)
    (base : Dict Identifier CapabilityRequirement), c.required = true →
    previous.required = true → base.get? c.id = some previous →
    previous.minimumVersion = v → c.minimumVersion = w →
    (capabilityBreak base (c.id, c) = .ok none ↔
      versionAtLeast v.val.toList w.val.toList = true)

omit [ReprText] in
theorem capabilityBreak_eq_none (hv : Readable v.val) (hw : Readable w.val)
    {previous c : CapabilityRequirement} {base : Dict Identifier CapabilityRequirement}
    (hc : c.required = true) (hprevious : previous.required = true)
    (hbase : base.get? c.id = some previous) (hpv : previous.minimumVersion = v)
    (hcw : c.minimumVersion = w) :
    capabilityBreak base (c.id, c) = .ok none ↔ versionNumbers w.val ≤ versionNumbers v.val := by
  have hkey := (splitVersion_eq_ok v.matches).mpr ⟨hv, rfl⟩
  have hkey' := (splitVersion_eq_ok w.matches).mpr ⟨hw, rfl⟩
  have hfilter : (base.get? c.id).filter (·.required) = some previous := by
    rw [hbase, Option.filter_some, if_pos hprevious]
  simp only [capabilityBreak, hc, not_true_eq_false, if_false, hfilter, hcw, hpv, hkey, hkey',
    ok_bind]
  split
  · rename_i hlt
    refine iff_of_false ?_ hlt.not_ge
    rintro ⟨⟩
  · rename_i hnot
    exact iff_of_true rfl (not_lt.mp hnot)

/-- All three comparisons order normalized versions by their three numbers. -/
theorem versions_comparedByNumbers :
    (IsLinearOrder NormalizedVersion fun v w => versionAtLeast v.val.toList w.val.toList = true) ∧
      ∀ v w, ComparedByNumbers v w := by
  refine ⟨isLinearOrder_versionAtLeast, fun v w => ?_⟩
  have hnumbers := versionAtLeast_iff v w
  refine ⟨?_, hnumbers, ?_, ?_, ?_, ?_⟩
  · obtain ⟨major, minor, patch, hparts, -⟩ := v.exists_parts
    exact ⟨major, minor, patch, hparts, by simp only [versionNumbers, hparts]⟩
  · intro int hint
    exact ⟨_, _, splitVersionBy_eq hint v, splitVersionBy_eq hint w, hnumbers⟩
  · intro int hint location location'
    exact ⟨_, _, versionTupleBy_eq hint v location, versionTupleBy_eq hint w location', hnumbers⟩
  · intro hv hw c position available hc hcw hget
    rw [checkCapability_eq_ok, hnumbers]
    constructor
    · intro hmet
      obtain ⟨actual, hactual, -, -, -, hle⟩ := hmet c rfl hc
      rw [hget, Option.some.injEq] at hactual
      rwa [← hactual, hcw] at hle
    · rintro hle _ ⟨⟩ -
      exact ⟨v.val, hget, v.matches, hv, hcw ▸ hw, hcw ▸ hle⟩
  · intro hv hw previous c base hc hprevious hbase hpv hcw
    rw [capabilityBreak_eq_none v w hv hw hc hprevious hbase hpv hcw, hnumbers]

end Comparisons

end Ucf
