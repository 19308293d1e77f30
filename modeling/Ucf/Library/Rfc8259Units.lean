import Ucf.Library.Rfc8259Reader

/-! Reading the UTF-16 units of a text is reading the text: what the grammar tells apart is ASCII,
which UTF-16 leaves as it is. -/

namespace Ucf.Rfc8259

@[simp] theorem inUnits_nil : inUnits [] = [] := rfl

theorem inUnits_cons (c : Nat) (text : List Nat) :
    inUnits (c :: text) = unitsOf c ++ inUnits text := List.flatMap_cons

theorem unitsOf_small {c : Nat} (h : c < 0x10000) : unitsOf c = [c] := if_pos h

theorem inUnits_cons_small {c : Nat} (h : c < 0x10000) (text : List Nat) :
    inUnits (c :: text) = c :: inUnits text := by
  rw [inUnits_cons, unitsOf_small h, List.singleton_append]

/-- A code point is its own unit, or two surrogates stand for it. -/
theorem unitsOf_cases (c : Nat) : c < 0x10000 ∧ unitsOf c = [c] ∨
    0x10000 ≤ c ∧ ∃ high low, unitsOf c = [high, low] ∧ 0xd800 ≤ high ∧ high < 0xdc00 ∧
      0xdc00 ≤ low ∧ low < 0xe000 := by
  by_cases h : c < 0x10000
  · exact Or.inl ⟨h, if_pos h⟩
  · exact Or.inr ⟨by omega, _, _, if_neg h, by omega, by omega, by omega, by omega⟩

theorem unitsOf_lt (c : Nat) : ∀ unit ∈ unitsOf c, unit < 0x10000 := by
  rcases unitsOf_cases c with ⟨h, heq⟩ | ⟨-, high, low, heq, -, hhigh, -, hlow⟩
  · simpa [heq] using h
  · rw [heq]
    simp only [List.mem_cons, List.not_mem_nil, or_false, forall_eq_or_imp, forall_eq]
    omega

theorem unitsOf_ne_nil (c : Nat) : unitsOf c ≠ [] := by
  rcases unitsOf_cases c with ⟨-, heq⟩ | ⟨-, high, low, heq, -⟩ <;> simp [heq]

theorem unitsOf_toNat (c : Char) : unitsOf c.toNat = utf16 c := by
  have hvalid := char_toNat_valid c
  by_cases h : c.toNat < 0x10000
  · simp only [unitsOf, utf16, if_pos h]
  · simp only [unitsOf, utf16, if_neg h]
    rw [Nat.mod_eq_of_lt (by omega)]

theorem inUnits_codes (text : List Char) : inUnits (codes text) = text.flatMap utf16 := by
  rw [inUnits, codes, List.flatMap_map]
  exact List.flatMap_congr fun c _ => unitsOf_toNat c

/-- The units begin with a unit that is no surrogate exactly when the text does. -/
theorem inUnits_eq_cons {k : Nat} (hk : k < 0xd800) {text rest : List Nat} :
    inUnits text = k :: rest ↔ ∃ after, text = k :: after ∧ rest = inUnits after := by
  constructor
  · intro h
    cases text with
    | nil => cases h
    | cons c after =>
      rw [inUnits_cons] at h
      rcases unitsOf_cases c with ⟨hc, heq⟩ | ⟨-, high, low, heq, hhigh, -⟩
      · rw [heq] at h
        cases h
        exact ⟨after, rfl, rfl⟩
      · rw [heq] at h
        cases h
        omega
  · rintro ⟨after, rfl, rfl⟩
    exact inUnits_cons_small (by omega) after

theorem inUnits_eq_nil {text : List Nat} : inUnits text = [] ↔ text = [] := by
  constructor
  · intro h
    cases text with
    | nil => rfl
    | cons c text =>
      rw [inUnits_cons, List.append_eq_nil_iff] at h
      exact absurd h.1 (unitsOf_ne_nil c)
  · rintro rfl
    rfl

/-! ### Runs of ASCII characters -/

section Runs

variable {kind : Nat → Bool} (hkind : ∀ c, kind c → c < 0x80)

include hkind

theorem takeWhile_inUnits (text : List Nat) :
    (inUnits text).takeWhile kind = text.takeWhile kind := by
  induction text with
  | nil => rfl
  | cons c text ih =>
    rw [inUnits_cons]
    rcases unitsOf_cases c with ⟨hc, heq⟩ | ⟨hc, high, low, heq, hhigh, -⟩
    · rw [heq, List.singleton_append, List.takeWhile_cons, List.takeWhile_cons, ih]
    · have hno : ∀ d, 0x80 ≤ d → ¬kind d = true := fun d hd h => by
        have := hkind d h
        omega
      rw [heq, List.cons_append, List.takeWhile_cons, if_neg (hno high (by omega)),
        List.takeWhile_cons, if_neg (hno c (by omega))]

theorem dropWhile_inUnits (text : List Nat) :
    (inUnits text).dropWhile kind = inUnits (text.dropWhile kind) := by
  induction text with
  | nil => rfl
  | cons c text ih =>
    rw [inUnits_cons]
    rcases unitsOf_cases c with ⟨hc, heq⟩ | ⟨hc, high, low, heq, hhigh, -⟩
    · rw [heq, List.singleton_append, List.dropWhile_cons, List.dropWhile_cons, ih]
      split
      · rfl
      · rw [inUnits_cons, heq, List.singleton_append]
    · have hno : ∀ d, 0x80 ≤ d → ¬kind d = true := fun d hd h => by
        have := hkind d h
        omega
      rw [heq, List.cons_append, List.dropWhile_cons, if_neg (hno high (by omega)),
        List.dropWhile_cons, if_neg (hno c (by omega)), inUnits_cons, heq]
      rfl

end Runs

theorem skipSpace_inUnits (text : List Nat) :
    skipSpace (inUnits text) = inUnits (skipSpace text) := by
  refine dropWhile_inUnits (fun c hc => ?_) text
  rw [isSpace_iff] at hc
  omega

theorem isDigit_lt {c : Nat} (h : isDigit c) : c < 0x80 := by
  rw [isDigit_iff] at h
  omega

theorem isPrefixOf?_inUnits {token : List Nat} (h : ∀ c ∈ token, c < 0x80) (text : List Nat) :
    List.isPrefixOf? token (inUnits text) = (List.isPrefixOf? token text).map inUnits := by
  induction token generalizing text with
  | nil => rfl
  | cons k token ih =>
    cases text with
    | nil => rfl
    | cons c text =>
      have hk := h k List.mem_cons_self
      have htail := ih (fun d hd => h d (List.mem_cons_of_mem _ hd)) text
      rw [inUnits_cons]
      rcases unitsOf_cases c with ⟨hc, heq⟩ | ⟨hc, high, low, heq, hhigh, -⟩
      · rw [heq, List.singleton_append, List.isPrefixOf?, List.isPrefixOf?, htail]
        split <;> rfl
      · have hne : (k == high) = false := beq_eq_false_iff_ne.mpr (by omega)
        have hne' : (k == c) = false := beq_eq_false_iff_ne.mpr (by omega)
        rw [heq, List.cons_append, List.isPrefixOf?, List.isPrefixOf?, hne, hne']
        rfl

/-! ### Numbers -/

theorem matchDigits_inUnits (text : List Nat) : matchDigits (inUnits text) =
    (matchDigits text).map fun (digits, rest) => (digits, inUnits rest) := by
  rw [matchDigits, takeWhile_inUnits (fun _ => isDigit_lt), dropWhile_inUnits (fun _ => isDigit_lt),
    matchDigits]
  split <;> rfl

theorem matchWhole_inUnits (text : List Nat) : matchWhole (inUnits text) =
    (matchWhole text).map fun (whole, rest) => (whole, inUnits rest) := by
  cases text with
  | nil => rfl
  | cons c text =>
    rw [inUnits_cons]
    rcases unitsOf_cases c with ⟨hc, heq⟩ | ⟨hc, high, low, heq, hhigh, -⟩
    · rw [heq, List.singleton_append, matchWhole, takeWhile_inUnits (fun _ => isDigit_lt),
        dropWhile_inUnits (fun _ => isDigit_lt), matchWhole]
      split
      · rfl
      · split <;> rfl
    · have hno : ∀ d, 0x80 ≤ d → d ≠ zero ∧ ¬isDigit d = true := fun d hd => by
        rw [isDigit_iff]
        unfold zero
        omega
      rw [heq, List.cons_append, matchWhole, if_neg (hno high (by omega)).1,
        if_neg (hno high (by omega)).2, matchWhole, if_neg (hno c (by omega)).1,
        if_neg (hno c (by omega)).2]
      rfl

theorem matchFraction_inUnits (text : List Nat) : matchFraction (inUnits text) =
    ((matchFraction text).1, inUnits (matchFraction text).2) := by
  unfold matchFraction
  split
  · rename_i rest heq
    obtain ⟨after, rfl, rfl⟩ := (inUnits_eq_cons (by decide)).mp heq
    cases hdigits : matchDigits after <;> simp [matchDigits_inUnits, hdigits]
  · rename_i hno
    split
    · rename_i after
      exact absurd (inUnits_cons_small (by decide) after) (hno _)
    · rfl

theorem matchSign_inUnits (text : List Nat) : matchSign (inUnits text) =
    ((matchSign text).1, inUnits (matchSign text).2) := by
  cases text with
  | nil => rfl
  | cons c text =>
    rcases unitsOf_cases c with ⟨hc, heq⟩ | ⟨hc, high, low, heq, hhigh, -⟩
    · rw [inUnits_cons_small hc, matchSign, matchSign]
      split
      · rfl
      · rw [inUnits_cons_small hc]
    · have hno : ∀ d, 0x80 ≤ d → ¬(d = plus ∨ d = minus) := fun d hd => by
        unfold plus minus
        omega
      have hunits : inUnits (c :: text) = high :: low :: inUnits text := by
        rw [inUnits_cons, heq]
        rfl
      rw [hunits, matchSign, if_neg (hno high (by omega)), matchSign, if_neg (hno c (by omega)),
        hunits]

theorem matchExponent_inUnits (text : List Nat) : matchExponent (inUnits text) =
    ((matchExponent text).1, inUnits (matchExponent text).2) := by
  cases text with
  | nil => rfl
  | cons c text =>
    rcases unitsOf_cases c with ⟨hc, heq⟩ | ⟨hc, high, low, heq, hhigh, -⟩
    · rw [inUnits_cons_small hc, matchExponent, matchExponent, matchSign_inUnits,
        matchDigits_inUnits]
      split
      · cases matchDigits (matchSign text).2 with
        | none => rw [← inUnits_cons_small hc]; rfl
        | some found => rfl
      · rw [inUnits_cons_small hc]
    · have hno : ∀ d, 0x80 ≤ d → ¬isExponentMark d = true := fun d hd => by
        simp only [isExponentMark, Bool.or_eq_true, decide_eq_true_eq]
        omega
      have hunits : inUnits (c :: text) = high :: low :: inUnits text := by
        rw [inUnits_cons, heq]
        rfl
      rw [hunits, matchExponent, if_neg (hno high (by omega)), matchExponent,
        if_neg (hno c (by omega)), hunits]

theorem head?_inUnits {k : Nat} (hk : k < 0xd800) (text : List Nat) :
    (inUnits text).head? = some k ↔ text.head? = some k := by
  rw [List.head?_eq_some_iff, List.head?_eq_some_iff]
  constructor
  · rintro ⟨rest, h⟩
    obtain ⟨after, rfl, -⟩ := (inUnits_eq_cons hk).mp h
    exact ⟨after, rfl⟩
  · rintro ⟨after, rfl⟩
    exact ⟨inUnits after, inUnits_cons_small (by omega) after⟩

theorem matchNumber_inUnits (text : List Nat) : matchNumber (inUnits text) =
    (matchNumber text).map fun (n, rest) => (n, inUnits rest) := by
  have htail : (if (inUnits text).head? = some minus then (inUnits text).tail else inUnits text) =
      inUnits (if text.head? = some minus then text.tail else text) := by
    by_cases h : text.head? = some minus
    · obtain ⟨after, rfl⟩ := List.head?_eq_some_iff.mp h
      rw [if_pos ((head?_inUnits (by decide) _).mpr h), if_pos h, inUnits_cons_small (by decide)]
      rfl
    · rw [if_neg (fun h' => h ((head?_inUnits (by decide) _).mp h')), if_neg h]
  simp only [matchNumber]
  rw [htail, matchWhole_inUnits]
  simp only [head?_inUnits (show minus < 0xd800 by decide)]
  cases matchWhole (if text.head? = some minus then text.tail else text) with
  | none => rfl
  | some found =>
    obtain ⟨whole, rest⟩ := found
    simp only [Option.map_some, matchFraction_inUnits, matchExponent_inUnits]

/-! ### Strings -/

theorem hexValue?_lt {c x : Nat} (h : hexValue? c = some x) : c < 0x80 ∧ x < 16 := by
  unfold hexValue? at h
  split_ifs at h <;> cases h <;> omega

theorem shortEscape?_lt {c unit : Nat} (h : shortEscape? c = some unit) :
    c < 0x80 ∧ unit < 0x80 := by
  unfold shortEscape? at h
  split_ifs at h <;> cases h <;> omega

theorem hexValue?_eq_none {c : Nat} (h : 0x80 ≤ c) : hexValue? c = none := by
  cases hx : hexValue? c with
  | none => rfl
  | some x =>
    have := (hexValue?_lt hx).1
    omega

theorem shortEscape?_eq_none {c : Nat} (h : 0x80 ≤ c) : shortEscape? c = none := by
  cases hx : shortEscape? c with
  | none => rfl
  | some x =>
    have := (shortEscape?_lt hx).1
    omega

theorem readChars_unescaped {c : Nat} (h : 0x80 ≤ c) (text : List Nat) :
    readChars .plain (c :: text) =
      (readChars .plain text).map fun (units, rest) => (unitsOf c ++ units, rest) := by
  rw [readChars, if_neg (by unfold quotationMark; omega), if_neg (by unfold escape; omega),
    if_neg (by omega)]

theorem readChars_escaped {c : Nat} (h : 0x80 ≤ c) (text : List Nat) :
    readChars .escaped (c :: text) = none := by
  rw [readChars, if_neg (by omega), shortEscape?_eq_none h]
  rfl

theorem readChars_unit {c : Nat} (h : 0x80 ≤ c) (left value : Nat) (text : List Nat) :
    readChars (.unit left value) (c :: text) = none := by
  rw [readChars, hexValue?_eq_none h]
  rfl

theorem readChars_inUnits (state : CharState) (text : List Nat) :
    readChars state (inUnits text) =
      (readChars state text).map fun (units, rest) => (units, inUnits rest) := by
  induction text generalizing state with
  | nil => cases state <;> rfl
  | cons c text ih =>
    rcases unitsOf_cases c with ⟨hc, heq⟩ | ⟨hc, high, low, heq, hhigh, hhigh', hlow, hlow'⟩
    · rw [inUnits_cons_small hc]
      cases state with
      | plain =>
        rw [readChars, readChars, ih, ih]
        split_ifs
        · rfl
        · rfl
        · rfl
        · cases readChars .plain text <;> rfl
      | escaped =>
        rw [readChars, readChars, ih, ih]
        split_ifs
        · rfl
        · cases shortEscape? c with
          | none => rfl
          | some unit => cases readChars .plain text <;> rfl
      | unit left value =>
        rw [readChars, readChars]
        cases hexValue? c with
        | none => rfl
        | some digit =>
          cases left with
          | zero =>
            simp only [Option.bind_some, ih]
            cases readChars .plain text <;> rfl
          | succ left => exact ih _
    · have hunits : inUnits (c :: text) = high :: low :: inUnits text := by
        rw [inUnits_cons, heq]
        rfl
      rw [hunits]
      cases state with
      | plain =>
        rw [readChars_unescaped (by omega), readChars_unescaped (by omega), ih,
          readChars_unescaped (by omega), heq, unitsOf_small (by omega), unitsOf_small (by omega)]
        cases readChars .plain text <;> rfl
      | escaped =>
        rw [readChars_escaped (by omega), readChars_escaped (by omega)]
        rfl
      | unit left value =>
        rw [readChars_unit (by omega), readChars_unit (by omega)]
        rfl

/-- The units that a string stands for are UTF-16 units. -/
theorem Chars.units_lt {chars units : List Nat} (h : Chars chars units) :
    ∀ unit ∈ units, unit < 0x10000 := by
  induction h with
  | nil => simp
  | @unescaped c chars units _ _ _ _ ih =>
    intro unit hunit
    rcases List.mem_append.mp hunit with hunit | hunit
    · exact unitsOf_lt c unit hunit
    · exact ih unit hunit
  | short hunit _ ih =>
    intro unit' hmem
    rcases List.mem_cons.mp hmem with rfl | hmem
    · have := (shortEscape?_lt hunit).2
      omega
    · exact ih unit' hmem
  | unit ha hb hc hd _ ih =>
    intro unit' hmem
    rcases List.mem_cons.mp hmem with rfl | hmem
    · have := (hexValue?_lt ha).2
      have := (hexValue?_lt hb).2
      have := (hexValue?_lt hc).2
      have := (hexValue?_lt hd).2
      omega
    · exact ih unit' hmem

/-- What the grammar derives is well formed. -/
theorem Element.wellFormed {text : List Nat} {doc : Doc} (h : Element text doc) :
    doc.WellFormed := by
  refine @Element.rec (fun _ doc _ => doc.WellFormed) (fun _ doc _ => doc.WellFormed)
    (fun _ items _ => ItemsWellFormed items)
    (fun _ member _ => (∀ unit ∈ member.1, unit < 0x10000) ∧ member.2.WellFormed)
    (fun _ members _ => MembersWellFormed members)
    trivial trivial trivial ?number ?string ?emptyArray ?array ?emptyObject ?object ?element ?oneItem
    ?items ?member ?oneMember ?members text doc h
  case number => exact fun hn => hn
  case string => exact fun hchars => hchars.units_lt
  case emptyArray => exact fun _ => trivial
  case array => exact fun _ ih => ih
  case emptyObject => exact fun _ => trivial
  case object => exact fun _ ih => ih
  case element => exact fun _ _ _ ih => ih
  case oneItem => exact fun _ ih => ⟨ih, trivial⟩
  case items => exact fun _ _ ih ihs => ⟨ih, ihs⟩
  case member => exact fun _ hchars _ _ ih => ⟨hchars.units_lt, ih⟩
  case oneMember => exact fun _ ih => ⟨ih.1, ih.2, trivial⟩
  case members => exact fun _ _ ih ihs => ⟨ih.1, ih.2, ihs⟩

end Ucf.Rfc8259
