import Ucf.Ir.StrictJson
import Ucf.Typescript.StrictJson
import Ucf.Library.Rfc8259Reader

/-! The profile that the strict JSON parsers of the core and of the TypeScript adapter share: safe
integers, names that occur once, and nesting up to a bound. -/

namespace Ucf

open Rfc8259

/-! ### Numbers of the profile -/

/-- The integer that a number writes, if the profile has it. -/
def exactInteger? (n : Number) : Option Int :=
  if n.fraction = [] ∧ n.exponent = [] ∧ n.text ≠ [minus, zero] ∧
      -(maxSafeInteger : Int) ≤ Core.intOf n.text ∧ Core.intOf n.text ≤ maxSafeInteger then
    some (Core.intOf n.text)
  else none

namespace Typescript

theorem nearestDouble_of_lt {n : Nat} (h : n < 2 ^ 53) : nearestDouble n = n := by
  have hlog : n.log2 - 52 = 0 := by
    by_cases hn : n = 0
    · rw [hn]
      rfl
    · have := (Nat.log2_lt hn).mpr h
      omega
  simp [nearestDouble, hlog, Nat.mod_one]

theorem le_nearestDouble {n : Nat} (h : 2 ^ 53 ≤ n) : 2 ^ 53 ≤ nearestDouble n := by
  have hn : n ≠ 0 := by
    rintro rfl
    exact absurd h (by decide)
  have hlog : 53 ≤ n.log2 := (Nat.le_log2 hn).mpr h
  obtain ⟨k, hk⟩ : ∃ k, n.log2 = 52 + (k + 1) := ⟨n.log2 - 53, by omega⟩
  have hstep : n.log2 - 52 = k + 1 := by omega
  have hbelow : 2 ^ 52 ≤ n / 2 ^ (k + 1) := by
    rw [Nat.le_div_iff_mul_le (by positivity), ← pow_add, ← hk]
    exact Nat.log2_self_le hn
  have htwo : 2 ≤ 2 ^ (k + 1) := by
    rw [pow_succ]
    have := Nat.one_le_two_pow (n := k)
    omega
  have hprod : 2 ^ 53 ≤ n / 2 ^ (k + 1) * 2 ^ (k + 1) := Nat.mul_le_mul hbelow htwo
  unfold nearestDouble
  rw [hstep]
  dsimp only
  split
  · exact hprod
  · rw [Nat.add_mul]
    exact hprod.trans (Nat.le_add_right _ _)

/-- Rounding to a double neither moves a safe integer nor brings another one into the range. -/
theorem numberOf_safe (token : List Nat) :
    (numberOf token < -maxSafe ∨ maxSafe < numberOf token) ∧
        ¬(-(maxSafeInteger : Int) ≤ Core.intOf token ∧ Core.intOf token ≤ maxSafeInteger) ∨
      ¬(numberOf token < -maxSafe ∨ maxSafe < numberOf token) ∧
        (-(maxSafeInteger : Int) ≤ Core.intOf token ∧ Core.intOf token ≤ maxSafeInteger) ∧
        numberOf token = Core.intOf token := by
  have hcases : ∀ n : Nat, n < 2 ^ 53 ∧ nearestDouble n = n ∨ 2 ^ 53 ≤ n ∧ 2 ^ 53 ≤ nearestDouble n := by
    intro n
    by_cases h : n < 2 ^ 53
    · exact Or.inl ⟨h, nearestDouble_of_lt h⟩
    · exact Or.inr ⟨by omega, le_nearestDouble (by omega)⟩
  unfold numberOf Core.intOf maxSafe maxSafeInteger
  split
  · have := hcases (natOfDigits token.tail)
    omega
  · have := hcases (natOfDigits token)
    omega

end Typescript

theorem Typescript.parseInteger_eq {n : Number} (h : n.WellFormed) (rest : List Nat) :
    (parseInteger n.text rest).toOption =
      (exactInteger? n).map fun value => (.number value, rest) := by
  have hinteger := isInteger_iff h
  unfold parseInteger exactInteger?
  by_cases hzero : n.text = [minus, zero]
  · rw [if_pos (Or.inl hzero), if_neg (by simp [hzero])]
    rfl
  by_cases hparts : n.fraction = [] ∧ n.exponent = []
  · have hnone := hinteger.mpr hparts
    rw [if_neg (by simp only [hzero, false_or]; exact hnone)]
    rcases numberOf_safe n.text with ⟨hout, hin⟩ | ⟨hout, hin, heq⟩
    · rw [if_pos hout, if_neg (fun hall => hin hall.2.2.2)]
      rfl
    · rw [if_neg hout, if_pos ⟨hparts.1, hparts.2, hzero, hin⟩, heq]
      rfl
  · have hsome : decimalPoint ∈ n.text ∨ n.text.any isExponentMark :=
      not_not.mp fun hnone => hparts (hinteger.mp hnone)
    rw [if_pos (Or.inr hsome), if_neg (fun hall => hparts ⟨hall.1, hall.2.1⟩)]
    rfl

theorem Core.parseInteger_eq {n : Number} (h : n.WellFormed)
    (hparts : n.fraction = [] ∧ n.exponent = []) : parseInteger n.text = exactInteger? n := by
  unfold parseInteger exactInteger?
  by_cases hzero : n.text = [minus, zero]
  · rw [if_pos hzero, if_neg (by simp [hzero])]
  rw [if_neg hzero]
  by_cases hlength : 16 < (unsigned n.text).length
  · have hhead := head_text h []
    rw [List.append_nil] at hhead
    have hlarge : Core.intOf n.text < -(maxSafeInteger : Int) ∨
        (maxSafeInteger : Int) < Core.intOf n.text := by
      unfold unsigned at hlength
      unfold intOf maxSafeInteger
      cases hsign : n.negative with
      | true =>
        have hif := of_decide_eq_true (hhead.trans hsign)
        have htail : n.text.tail = n.whole := by simp [text_integer hparts, signOf, hsign]
        rw [if_pos hif, htail] at hlength
        rw [if_pos hif, htail]
        have := natOfDigits_large h.whole hlength
        omega
      | false =>
        have hif := of_decide_eq_false (hhead.trans hsign)
        have htext : n.text = n.whole := by simp [text_integer hparts, signOf, hsign]
        rw [if_neg hif, htext] at hlength
        rw [if_neg hif, htext]
        have := natOfDigits_large h.whole hlength
        omega
    rw [if_pos hlength, if_neg (by omega)]
  · rw [if_neg hlength]
    by_cases hsafe : -(maxSafeInteger : Int) ≤ intOf n.text ∧ intOf n.text ≤ maxSafeInteger
    · rw [if_pos hsafe, if_pos ⟨hparts.1, hparts.2, hzero, hsafe⟩]
    · rw [if_neg hsafe, if_neg fun hall => hsafe hall.2.2.2]

/-! ### The profile -/

section Profile

open Typescript (JsonValue)

mutual

/-- The value that a document has in the profile, with this many levels of nesting left. -/
def profile : Nat → Doc → Option JsonValue
  | 0, _ => none
  | _ + 1, .null => some .null
  | _ + 1, .bool value => some (.boolean value)
  | _ + 1, .number n => (exactInteger? n).map .number
  | _ + 1, .string units => some (.string units)
  | levels + 1, .array items => (profileItems levels items).map .array
  | levels + 1, .object members => (profileMembers levels [] members).map .object

def profileItems (levels : Nat) : List Doc → Option (List JsonValue)
  | [] => some []
  | item :: items =>
    (profile levels item).bind fun item =>
      (profileItems levels items).map fun items => item :: items

/-- The members of an object, with the names that have come before. -/
def profileMembers (levels : Nat) (names : List (List Nat)) :
    List (List Nat × Doc) → Option (List (List Nat × JsonValue))
  | [] => some []
  | (name, value) :: members =>
    if name ∈ names then none
    else (profile levels value).bind fun value =>
      (profileMembers levels (name :: names) members).map fun members => (name, value) :: members

end

/-- A value is out of the profile once no level is left. -/
@[simp] theorem profile_zero (doc : Doc) : profile 0 doc = none := by
  cases doc <;> rfl

/-- A document is within the profile with this many levels of nesting: nothing in it is deeper, its
numbers are exact integers, and no object in it has a name twice. -/
structure Within (levels : Nat) (doc : Doc) : Prop where
  depth : ∀ depth part, Occurs depth part doc → depth < levels
  integers : ∀ depth n, Occurs depth (.number n) doc → (exactInteger? n).isSome
  names : ∀ depth members, Occurs depth (.object members) doc → (members.map Prod.fst).Nodup

theorem not_within_zero (doc : Doc) : ¬Within 0 doc :=
  fun h => absurd (h.depth 0 doc (.here doc)) (Nat.not_lt_zero 0)

theorem within_array {levels : Nat} {items : List Doc} :
    Within (levels + 1) (.array items) ↔ ∀ item ∈ items, Within levels item := by
  constructor
  · intro h item hitem
    exact ⟨fun depth part hpart => Nat.lt_of_succ_lt_succ (h.depth _ part (.item hitem hpart)),
      fun depth n hn => h.integers _ n (.item hitem hn),
      fun depth members hmembers => h.names _ members (.item hitem hmembers)⟩
  · intro h
    constructor
    · intro depth part hpart
      cases hpart with
      | here => exact Nat.succ_pos levels
      | item hitem hpart => exact Nat.succ_lt_succ ((h _ hitem).depth _ part hpart)
    · intro depth n hn
      cases hn with
      | item hitem hn => exact (h _ hitem).integers _ n hn
    · intro depth members hmembers
      cases hmembers with
      | item hitem hmembers => exact (h _ hitem).names _ members hmembers

theorem within_object {levels : Nat} {members : List (List Nat × Doc)} :
    Within (levels + 1) (.object members) ↔
      (members.map Prod.fst).Nodup ∧ ∀ member ∈ members, Within levels member.2 := by
  constructor
  · intro h
    refine ⟨h.names 0 members (.here _), fun member hmember => ?_⟩
    exact ⟨fun depth part hpart => Nat.lt_of_succ_lt_succ (h.depth _ part (.member hmember hpart)),
      fun depth n hn => h.integers _ n (.member hmember hn),
      fun depth inner hinner => h.names _ inner (.member hmember hinner)⟩
  · rintro ⟨hnodup, h⟩
    constructor
    · intro depth part hpart
      cases hpart with
      | here => exact Nat.succ_pos levels
      | member hmember hpart => exact Nat.succ_lt_succ ((h _ hmember).depth _ part hpart)
    · intro depth n hn
      cases hn with
      | member hmember hn => exact (h _ hmember).integers _ n hn
    · intro depth inner hinner
      cases hinner with
      | here => exact hnodup
      | member hmember hinner => exact (h _ hmember).names _ inner hinner

theorem within_scalar {levels : Nat} {doc : Doc}
    (hscalar : ∀ depth part, Occurs depth part doc → depth = 0 ∧ part = doc)
    (hobject : ∀ members, doc ≠ .object members) :
    Within (levels + 1) doc ↔ ∀ n, doc = .number n → (exactInteger? n).isSome := by
  constructor
  · intro h n hn
    exact h.integers 0 n (hn ▸ .here doc)
  · intro h
    constructor
    · intro depth part hpart
      rw [(hscalar depth part hpart).1]
      exact Nat.succ_pos levels
    · intro depth n hn
      exact h n (hscalar _ _ hn).2.symm
    · intro depth members hmembers
      exact absurd (hscalar _ _ hmembers).2.symm (hobject members)

/-- The values of the members, whatever their names. -/
def profileValues (levels : Nat) : List (List Nat × Doc) → Option (List (List Nat × JsonValue))
  | [] => some []
  | (name, value) :: members =>
    (profile levels value).bind fun value =>
      (profileValues levels members).map fun members => (name, value) :: members

theorem profileMembers_eq (levels : Nat) (names : List (List Nat))
    (members : List (List Nat × Doc)) :
    profileMembers levels names members =
      if (members.map Prod.fst).Nodup ∧ ∀ name ∈ members.map Prod.fst, name ∉ names then
        profileValues levels members
      else none := by
  induction members generalizing names with
  | nil => simp [profileMembers, profileValues]
  | cons member members ih =>
    obtain ⟨name, value⟩ := member
    rw [profileMembers, profileValues, ih]
    by_cases hname : name ∈ names
    · rw [if_pos hname, if_neg]
      rintro ⟨-, hall⟩
      exact hall name List.mem_cons_self hname
    rw [if_neg hname]
    have hiff : ((members.map Prod.fst).Nodup ∧ ∀ other ∈ members.map Prod.fst, other ∉ name :: names) ↔
        (((name, value) :: members).map Prod.fst).Nodup ∧
          ∀ other ∈ ((name, value) :: members).map Prod.fst, other ∉ names := by
      simp only [List.map_cons, List.nodup_cons, List.mem_cons, not_or]
      constructor
      · rintro ⟨hnodup, hall⟩
        refine ⟨⟨fun hmem => (hall name hmem).1 rfl, hnodup⟩, ?_⟩
        rintro other (rfl | hother)
        · exact hname
        · exact (hall other hother).2
      · rintro ⟨⟨hmem, hnodup⟩, hall⟩
        refine ⟨hnodup, fun other hother => ⟨?_, hall other (Or.inr hother)⟩⟩
        rintro rfl
        exact hmem hother
    rw [if_congr hiff rfl rfl]
    split
    · rfl
    · cases profile levels value <;> rfl

theorem isSome_profileItems {levels : Nat} {items : List Doc} :
    (profileItems levels items).isSome ↔ ∀ item ∈ items, (profile levels item).isSome := by
  induction items with
  | nil => simp [profileItems]
  | cons item items ih =>
    rw [profileItems, List.forall_mem_cons, ← ih]
    cases profile levels item <;> simp

theorem isSome_profileValues {levels : Nat} {members : List (List Nat × Doc)} :
    (profileValues levels members).isSome ↔
      ∀ member ∈ members, (profile levels member.2).isSome := by
  induction members with
  | nil => simp [profileValues]
  | cons member members ih =>
    rw [profileValues, List.forall_mem_cons, ← ih]
    cases profile levels member.2 <;> simp

/-- A document has a value in the profile exactly if it is within it. -/
theorem isSome_profile {levels : Nat} {doc : Doc} :
    (profile levels doc).isSome ↔ Within levels doc := by
  cases levels with
  | zero => simp [not_within_zero]
  | succ levels =>
    induction doc using Doc.induction generalizing levels with
    | null =>
      rw [within_scalar (fun _ _ h => by cases h; exact ⟨rfl, rfl⟩) (by simp)]
      simp [profile]
    | bool b =>
      rw [within_scalar (fun _ _ h => by cases h; exact ⟨rfl, rfl⟩) (by simp)]
      simp [profile]
    | number n =>
      rw [within_scalar (fun _ _ h => by cases h; exact ⟨rfl, rfl⟩) (by simp)]
      simp [profile]
    | string units =>
      rw [within_scalar (fun _ _ h => by cases h; exact ⟨rfl, rfl⟩) (by simp)]
      simp [profile]
    | array items ih =>
      rw [within_array, profile, Option.isSome_map, isSome_profileItems]
      refine forall₂_congr fun item hitem => ?_
      cases levels with
      | zero => simp [not_within_zero]
      | succ levels => exact ih item hitem levels
    | object members ih =>
      have hvalues : (profileValues levels members).isSome ↔
          ∀ member ∈ members, Within levels member.2 := by
        rw [isSome_profileValues]
        refine forall₂_congr fun member hmember => ?_
        cases levels with
        | zero => simp [not_within_zero]
        | succ levels => exact ih member hmember levels
      rw [within_object, profile, Option.isSome_map, profileMembers_eq, ← hvalues]
      simp only [List.not_mem_nil, not_false_eq_true, implies_true, and_true]
      split
      · rename_i hnodup
        simp [hnodup]
      · rename_i hnodup
        simp [hnodup]

end Profile

end Ucf
