import Mathlib.Data.List.DropRight
import Mathlib.Tactic.Ring
import Ucf.Library.Rfc8259

/-! The reader of `Rfc8259` reads exactly what the grammar derives. -/

namespace Ucf.Rfc8259

/-! ### Whitespace -/

theorem skipSpace_append {space text : List Nat} (h : Space space) :
    skipSpace (space ++ text) = skipSpace text := by
  induction space with
  | nil => rfl
  | cons c space ih =>
    rw [skipSpace, List.cons_append, List.dropWhile_cons, if_pos (h c List.mem_cons_self)]
    exact ih fun d hd => h d (List.mem_cons_of_mem _ hd)

theorem skipSpace_cons {c : Nat} {text : List Nat} (h : isSpace c = false) :
    skipSpace (c :: text) = c :: text := by
  rw [skipSpace, List.dropWhile_cons, if_neg (by simp [h])]

/-- What is skipped is whitespace, and what is left does not begin with any. -/
theorem exists_skipSpace (text : List Nat) : ∃ space, Space space ∧ text = space ++ skipSpace text :=
  ⟨text.takeWhile isSpace, fun _ hc => List.mem_takeWhile_imp hc,
    (List.takeWhile_append_dropWhile).symm⟩

theorem space_nil : Space [] := by simp [Space]

/-- What may follow a value in a document. -/
def Follows (text : List Nat) : Prop :=
  text = [] ∨ ∃ c rest, text = c :: rest ∧
    (isSpace c ∨ c = valueSeparator ∨ c = endArray ∨ c = endObject)

theorem follows_space {space text : List Nat} (h : Space space) (hfollows : Follows text) :
    Follows (space ++ text) := by
  cases space with
  | nil => exact hfollows
  | cons c space => exact Or.inr ⟨c, space ++ text, rfl, Or.inl (h c List.mem_cons_self)⟩

/-! ### Numbers -/

/-- A text that does not begin with a character of this kind. -/
def Stops (kind : Nat → Bool) (text : List Nat) : Prop := ∀ c rest, text = c :: rest → kind c = false

theorem takeWhile_of_stops {kind : Nat → Bool} {taken text : List Nat}
    (htaken : ∀ c ∈ taken, kind c) (hstops : Stops kind text) :
    (taken ++ text).takeWhile kind = taken ∧ (taken ++ text).dropWhile kind = text := by
  rw [List.takeWhile_append_of_pos htaken, List.dropWhile_append_of_pos htaken]
  cases text with
  | nil => simp
  | cons c text => simp [hstops c text rfl]

theorem stops_dropWhile (kind : Nat → Bool) (text : List Nat) : Stops kind (text.dropWhile kind) := by
  intro c rest h
  have hhead := List.head?_dropWhile_not kind text
  rw [h] at hhead
  simpa using hhead

theorem matchDigits_eq_some {text digits rest : List Nat} :
    matchDigits text = some (digits, rest) ↔
      digits ≠ [] ∧ (∀ d ∈ digits, isDigit d) ∧ text = digits ++ rest ∧ Stops isDigit rest := by
  unfold matchDigits
  constructor
  · intro h
    split at h
    · cases h
    · rename_i hne
      cases h
      exact ⟨hne, fun _ hd => List.mem_takeWhile_imp hd, List.takeWhile_append_dropWhile.symm,
        stops_dropWhile isDigit text⟩
  · rintro ⟨hne, hdigits, rfl, hstops⟩
    obtain ⟨htake, hdrop⟩ := takeWhile_of_stops hdigits hstops
    rw [htake, hdrop, if_neg hne]

theorem isDigit_iff {c : Nat} : isDigit c = true ↔ 0x30 ≤ c ∧ c ≤ 0x39 := by
  simp [isDigit]

theorem matchWhole_sound {text whole rest : List Nat} (h : matchWhole text = some (whole, rest)) :
    IsWhole whole ∧ text = whole ++ rest := by
  cases text with
  | nil => cases h
  | cons c text =>
    rw [matchWhole] at h
    split at h
    · rename_i hzero
      cases h
      exact ⟨Or.inl rfl, by rw [hzero]; rfl⟩
    · rename_i hzero
      split at h
      · rename_i hdigit
        cases h
        exact ⟨Or.inr ⟨c, _, rfl, hdigit, hzero, fun _ hd => List.mem_takeWhile_imp hd⟩,
          by rw [List.cons_append, List.takeWhile_append_dropWhile]⟩
      · cases h

theorem matchWhole_complete {whole rest : List Nat} (h : IsWhole whole) (hstops : Stops isDigit rest) :
    matchWhole (whole ++ rest) = some (whole, rest) := by
  rcases h with rfl | ⟨c, digits, rfl, hdigit, hzero, hdigits⟩
  · rfl
  · obtain ⟨htake, hdrop⟩ := takeWhile_of_stops hdigits hstops
    rw [List.cons_append, matchWhole, if_neg hzero, if_pos hdigit, htake, hdrop]

theorem matchFraction_sound {text fraction rest : List Nat}
    (h : matchFraction text = (fraction, rest)) : IsFraction fraction ∧ text = fraction ++ rest := by
  unfold matchFraction at h
  split at h
  · rename_i after
    split at h
    · rename_i digits rest' hdigits
      cases h
      obtain ⟨hne, hall, rfl, -⟩ := matchDigits_eq_some.mp hdigits
      exact ⟨Or.inr ⟨digits, rfl, hne, hall⟩, rfl⟩
    · cases h
      exact ⟨Or.inl rfl, rfl⟩
  · cases h
    exact ⟨Or.inl rfl, rfl⟩

/-- What may follow a fraction: neither a digit nor a point. -/
def isFractionPart (c : Nat) : Bool := isDigit c || c = decimalPoint

theorem matchFraction_complete {fraction rest : List Nat} (h : IsFraction fraction)
    (hstops : Stops isFractionPart rest) :
    matchFraction (fraction ++ rest) = (fraction, rest) := by
  have hdigit : Stops isDigit rest := by
    intro c after hrest
    have hpart := hstops c after hrest
    rw [isFractionPart, Bool.or_eq_false_iff] at hpart
    exact hpart.1
  rcases h with rfl | ⟨digits, rfl, hne, hdigits⟩
  · unfold matchFraction
    split
    · rename_i after hrest
      have hpoint := hstops _ _ hrest
      simp [isFractionPart] at hpoint
    · rfl
  · have hmatch := matchDigits_eq_some.mpr ⟨hne, hdigits, rfl, hdigit⟩
    rw [List.cons_append, matchFraction, hmatch]

theorem matchSign_append {sign digits rest : List Nat}
    (hsign : sign = [] ∨ sign = [plus] ∨ sign = [minus]) (hne : digits ≠ [])
    (hdigits : ∀ d ∈ digits, isDigit d) :
    matchSign (sign ++ (digits ++ rest)) = (sign, digits ++ rest) := by
  rcases hsign with rfl | rfl | rfl
  · cases digits with
    | nil => exact absurd rfl hne
    | cons d digits =>
      have hdigit := isDigit_iff.mp (hdigits d List.mem_cons_self)
      have hne : ¬(d = plus ∨ d = minus) := by
        unfold plus minus
        omega
      rw [List.nil_append, List.cons_append, matchSign, if_neg hne]
  · rfl
  · rfl

theorem matchSign_sound (text : List Nat) : text = (matchSign text).1 ++ (matchSign text).2 ∧
    ((matchSign text).1 = [] ∨ (matchSign text).1 = [plus] ∨ (matchSign text).1 = [minus]) := by
  cases text with
  | nil => exact ⟨rfl, Or.inl rfl⟩
  | cons c rest =>
    rw [matchSign]
    split
    · rename_i hsign
      rcases hsign with rfl | rfl
      · exact ⟨rfl, Or.inr (Or.inl rfl)⟩
      · exact ⟨rfl, Or.inr (Or.inr rfl)⟩
    · exact ⟨rfl, Or.inl rfl⟩

theorem matchExponent_sound {text exponent rest : List Nat}
    (h : matchExponent text = (exponent, rest)) : IsExponent exponent ∧ text = exponent ++ rest := by
  cases text with
  | nil =>
    cases h
    exact ⟨Or.inl rfl, rfl⟩
  | cons mark after =>
    rw [matchExponent] at h
    split at h
    · rename_i hmark
      split at h
      · rename_i digits rest' hdigits
        cases h
        obtain ⟨hne, hall, htext, -⟩ := matchDigits_eq_some.mp hdigits
        obtain ⟨hsplit, hsign⟩ := matchSign_sound after
        refine ⟨Or.inr ⟨mark, _, digits, rfl, hmark, hsign, hne, hall⟩, ?_⟩
        rw [List.cons_append, List.append_assoc, ← htext, ← hsplit]
      · cases h
        exact ⟨Or.inl rfl, rfl⟩
    · cases h
      exact ⟨Or.inl rfl, rfl⟩

theorem matchExponent_complete {exponent rest : List Nat} (h : IsExponent exponent)
    (hdigit : Stops isDigit rest) (hmark : Stops isExponentMark rest) :
    matchExponent (exponent ++ rest) = (exponent, rest) := by
  rcases h with rfl | ⟨mark, sign, digits, rfl, hm, hsign, hne, hdigits⟩
  · cases rest with
    | nil => rfl
    | cons c rest =>
      rw [List.nil_append, matchExponent, if_neg (by simp [hmark c rest rfl])]
  · have hmatch := matchDigits_eq_some.mpr ⟨hne, hdigits, rfl, hdigit⟩
    rw [List.cons_append, List.append_assoc, matchExponent, if_pos hm,
      matchSign_append hsign hne hdigits, hmatch]

theorem stops_of_follows {kind : Nat → Bool} {text : List Nat} (h : Follows text)
    (hkind : ∀ c, isSpace c ∨ c = valueSeparator ∨ c = endArray ∨ c = endObject → kind c = false) :
    Stops kind text := by
  rintro c rest rfl
  rcases h with h | ⟨d, after, heq, hd⟩
  · cases h
  · cases heq
    exact hkind c hd

theorem isSpace_iff {c : Nat} :
    isSpace c = true ↔ c = 0x20 ∨ c = 0x09 ∨ c = 0x0a ∨ c = 0x0d := by
  simp [isSpace, or_assoc]

/-- What may follow a value is no part of a number. -/
theorem Follows.stops {text : List Nat} (h : Follows text) :
    Stops isDigit text ∧ Stops isFractionPart text ∧ Stops isExponentMark text := by
  refine ⟨stops_of_follows h ?_, stops_of_follows h ?_, stops_of_follows h ?_⟩ <;>
  · intro c hc
    rw [isSpace_iff] at hc
    rcases hc with (rfl | rfl | rfl | rfl) | rfl | rfl | rfl <;> rfl

theorem stops_fraction {fraction rest : List Nat} (h : IsFraction fraction)
    (hstops : Stops isDigit rest) : Stops isDigit (fraction ++ rest) := by
  rcases h with rfl | ⟨digits, rfl, -⟩
  · exact hstops
  · rintro c after heq
    cases heq
    rfl

theorem stops_exponent {exponent rest : List Nat} (h : IsExponent exponent)
    (hdigit : Stops isDigit rest) (hpart : Stops isFractionPart rest) :
    Stops isDigit (exponent ++ rest) ∧ Stops isFractionPart (exponent ++ rest) := by
  rcases h with rfl | ⟨mark, sign, digits, rfl, hmark, -⟩
  · exact ⟨hdigit, hpart⟩
  · have hcases : mark = 0x65 ∨ mark = 0x45 := by simpa [isExponentMark] using hmark
    constructor <;>
    · intro c after heq
      cases heq
      rcases hcases with rfl | rfl <;> rfl

theorem IsWhole.exists_digit {whole : List Nat} (h : IsWhole whole) :
    ∃ c digits, whole = c :: digits ∧ isDigit c := by
  rcases h with rfl | ⟨c, digits, rfl, hdigit, -⟩
  · exact ⟨zero, [], rfl, rfl⟩
  · exact ⟨c, digits, rfl, hdigit⟩

/-- The sign is told from the first character. -/
theorem signOf_split (text : List Nat) :
    text = signOf (text.head? = some minus) ++
      (if text.head? = some minus then text.tail else text) := by
  cases text with
  | nil => rfl
  | cons c text =>
    by_cases h : c = minus
    · simp [signOf, h]
    · simp [signOf, h]

theorem matchNumber_sound {text rest : List Nat} {n : Number}
    (h : matchNumber text = some (n, rest)) : n.WellFormed ∧ text = n.text ++ rest := by
  unfold matchNumber at h
  obtain ⟨⟨whole, after⟩, hwhole, heq⟩ := Option.map_eq_some_iff.mp h
  obtain ⟨hw, hsplit⟩ := matchWhole_sound hwhole
  rcases hfraction : matchFraction after with ⟨fraction, after'⟩
  rcases hexponent : matchExponent after' with ⟨exponent, rest'⟩
  simp only [hfraction, hexponent] at heq
  obtain ⟨hf, hafter⟩ := matchFraction_sound hfraction
  obtain ⟨he, hafter'⟩ := matchExponent_sound hexponent
  cases heq
  refine ⟨⟨hw, hf, he⟩, ?_⟩
  have hsign := signOf_split text
  rw [hsplit, hafter, hafter'] at hsign
  simpa [Number.text] using hsign

/-- A number begins with a minus sign or with a digit. -/
theorem head_text {n : Number} (h : n.WellFormed) (rest : List Nat) :
    decide ((n.text ++ rest).head? = some minus) = n.negative := by
  obtain ⟨c, digits, hc, hdigit⟩ := h.whole.exists_digit
  have hne : c ≠ minus := by
    rintro rfl
    exact absurd hdigit (by decide)
  cases hsign : n.negative <;> simp [Number.text, signOf, hsign, hc, hne]

theorem tail_text {n : Number} (h : n.WellFormed) (rest : List Nat) :
    (if (n.text ++ rest).head? = some minus then (n.text ++ rest).tail else n.text ++ rest) =
      n.whole ++ (n.fraction ++ (n.exponent ++ rest)) := by
  have hhead := head_text h rest
  cases hsign : n.negative with
  | true =>
    rw [if_pos (of_decide_eq_true (hhead.trans hsign))]
    simp [Number.text, signOf, hsign]
  | false =>
    rw [if_neg (of_decide_eq_false (hhead.trans hsign))]
    simp [Number.text, signOf, hsign]

theorem matchNumber_complete {n : Number} {rest : List Nat} (h : n.WellFormed)
    (hfollows : Follows rest) : matchNumber (n.text ++ rest) = some (n, rest) := by
  obtain ⟨hdigit, hpart, hmark⟩ := hfollows.stops
  obtain ⟨hedigit, hepart⟩ := stops_exponent h.exponent hdigit hpart
  have hwhole := matchWhole_complete h.whole (stops_fraction h.fraction hedigit)
  have hfraction := matchFraction_complete h.fraction hepart
  have hexponent := matchExponent_complete h.exponent hdigit hmark
  simp only [matchNumber, tail_text h, head_text h, hwhole, Option.map_some, hfraction, hexponent]

theorem IsWhole.digits {whole : List Nat} (h : IsWhole whole) : ∀ d ∈ whole, isDigit d := by
  rcases h with rfl | ⟨c, digits, rfl, hc, -, hdigits⟩
  · exact fun d hd => List.mem_singleton.mp hd ▸ rfl
  · intro d hd
    rcases List.mem_cons.mp hd with rfl | hd
    · exact hc
    · exact hdigits d hd

theorem mem_signOf {c : Nat} {negative : Bool} (h : c ∈ signOf negative) : c = minus := by
  unfold signOf at h
  split at h
  · simpa using h
  · cases h

/-- The token of an integer holds neither a point nor an exponent's mark. -/
theorem mem_text_integer {n : Number} (h : n.WellFormed) (hfraction : n.fraction = [])
    (hexponent : n.exponent = []) {c : Nat} (hc : c ∈ n.text) : c = minus ∨ isDigit c := by
  rw [Number.text, hfraction, hexponent, List.append_nil, List.append_nil, List.mem_append] at hc
  rcases hc with hc | hc
  · exact Or.inl (mem_signOf hc)
  · exact Or.inr (h.whole.digits c hc)

theorem isInteger_iff {n : Number} (h : n.WellFormed) :
    ¬(decimalPoint ∈ n.text ∨ n.text.any isExponentMark) ↔ n.fraction = [] ∧ n.exponent = [] := by
  constructor
  · intro hnone
    rw [not_or] at hnone
    constructor
    · rcases h.fraction with hf | ⟨digits, hf, -⟩
      · exact hf
      · exact absurd (by simp [Number.text, hf]) hnone.1
    · rcases h.exponent with he | ⟨mark, sign, digits, he, hmark, -⟩
      · exact he
      · refine absurd (List.any_eq_true.mpr ⟨mark, ?_, hmark⟩) hnone.2
        simp [Number.text, he]
  · rintro ⟨hf, he⟩ (hpoint | hmark)
    · rcases mem_text_integer h hf he hpoint with hm | hd
      · cases hm
      · exact absurd hd (by decide)
    · obtain ⟨c, hc, hm⟩ := List.any_eq_true.mp hmark
      simp only [isExponentMark, Bool.or_eq_true, decide_eq_true_eq] at hm
      rcases mem_text_integer h hf he hc with rfl | hd
      · exact absurd hm (by decide)
      · rw [isDigit_iff] at hd
        omega

theorem le_foldl_digits (digits : List Nat) (n : Nat) :
    n * 10 ^ digits.length ≤ digits.foldl (fun n d => 10 * n + (d - zero)) n := by
  induction digits generalizing n with
  | nil => simp
  | cons d digits ih =>
    calc n * 10 ^ (d :: digits).length = 10 * n * 10 ^ digits.length := by
          rw [List.length_cons, pow_succ]
          ring
      _ ≤ (10 * n + (d - zero)) * 10 ^ digits.length := Nat.mul_le_mul_right _ (Nat.le_add_right _ _)
      _ ≤ _ := ih _

/-- An integer of more than 16 digits is not safe. -/
theorem natOfDigits_large {whole : List Nat} (h : IsWhole whole) (hlength : 16 < whole.length) :
    10 ^ 16 ≤ natOfDigits whole := by
  rcases h with rfl | ⟨c, digits, rfl, hdigit, hzero, -⟩
  · exact absurd hlength (by decide)
  · rw [isDigit_iff] at hdigit
    unfold zero at hzero
    rw [List.length_cons] at hlength
    calc 10 ^ 16 ≤ 10 ^ digits.length := Nat.pow_le_pow_right (by decide) (by omega)
      _ ≤ (10 * 0 + (c - zero)) * 10 ^ digits.length :=
        Nat.le_mul_of_pos_left _ (by unfold zero; omega)
      _ ≤ _ := le_foldl_digits digits _

theorem text_integer {n : Number} (hparts : n.fraction = [] ∧ n.exponent = []) :
    n.text = signOf n.negative ++ n.whole := by
  rw [Number.text, hparts.1, hparts.2, List.append_nil, List.append_nil]

/-! ### Strings -/

theorem escape_ne_quotationMark : escape ≠ quotationMark := by decide

theorem readChars_complete {chars units : List Nat} (h : Chars chars units) (rest : List Nat) :
    readChars .plain (chars ++ quotationMark :: rest) = some (units, rest) := by
  induction h with
  | nil => rfl
  | unescaped hcontrol hquote hescape hchars ih =>
    rw [List.cons_append, readChars, if_neg hquote, if_neg hescape, if_neg (by omega), ih]
    rfl
  | @short c unit chars units hunit hchars ih =>
    have hu : c ≠ 0x75 := by
      rintro rfl
      cases hunit
    simp [readChars, escape_ne_quotationMark, hu, hunit, ih]
  | unit ha hb hc hd hchars ih => simp [readChars, escape_ne_quotationMark, ha, hb, hc, hd, ih]

theorem readUnit_sound {text rest units : List Nat}
    (h : readChars (.unit 3 0) text = some (units, rest)) :
    ∃ a b c d x y z w after units', text = a :: b :: c :: d :: after ∧
      hexValue? a = some x ∧ hexValue? b = some y ∧ hexValue? c = some z ∧ hexValue? d = some w ∧
      readChars .plain after = some (units', rest) ∧
      units = (16 * (16 * (16 * x + y) + z) + w) :: units' := by
  match text with
  | [] => simp [readChars] at h
  | [a] => simp [readChars] at h
  | [a, b] => simp [readChars] at h
  | [a, b, c] => simp [readChars] at h
  | a :: b :: c :: d :: after =>
    simp only [readChars, Option.bind_eq_some_iff, Option.map_eq_some_iff, Prod.exists] at h
    obtain ⟨x, hx, y, hy, z, hz, w, hw, units', rest', hrest, heq⟩ := h
    cases heq
    refine ⟨a, b, c, d, x, y, z, w, after, units', rfl, hx, hy, hz, hw, hrest, ?_⟩
    simp

theorem readChars_sound {text rest units : List Nat}
    (h : readChars .plain text = some (units, rest)) :
    ∃ chars, Chars chars units ∧ text = chars ++ quotationMark :: rest := by
  induction hlength : text.length using Nat.strong_induction_on generalizing text units with
  | _ length ih =>
  subst hlength
  match text with
  | [] => cases h
  | c :: text =>
    rw [readChars] at h
    by_cases hquote : c = quotationMark
    · rw [if_pos hquote] at h
      cases h
      exact ⟨[], .nil, by rw [hquote]; rfl⟩
    rw [if_neg hquote] at h
    by_cases hescape : c = escape
    · rw [if_pos hescape] at h
      subst hescape
      match text with
      | [] => cases h
      | e :: text =>
        rw [readChars] at h
        by_cases hu : e = 0x75
        · rw [if_pos hu] at h
          subst hu
          obtain ⟨a, b, c, d, x, y, z, w, after, units', rfl, ha, hb, hc, hd, hafter, rfl⟩ :=
            readUnit_sound h
          obtain ⟨chars, hchars, rfl⟩ := ih after.length (by simp; omega) hafter rfl
          exact ⟨_, .unit ha hb hc hd hchars, rfl⟩
        · rw [if_neg hu] at h
          obtain ⟨unit, hunit, hrest⟩ := Option.bind_eq_some_iff.mp h
          obtain ⟨⟨units', rest'⟩, hrest, heq⟩ := Option.map_eq_some_iff.mp hrest
          cases heq
          obtain ⟨chars, hchars, rfl⟩ := ih text.length
            (by simp only [List.length_cons]; omega) hrest rfl
          exact ⟨_, .short hunit hchars, rfl⟩
    rw [if_neg hescape] at h
    by_cases hcontrol : c < 0x20
    · rw [if_pos hcontrol] at h
      cases h
    · rw [if_neg hcontrol] at h
      obtain ⟨⟨units', rest'⟩, hrest, heq⟩ := Option.map_eq_some_iff.mp h
      cases heq
      obtain ⟨chars, hchars, rfl⟩ := ih text.length (by simp) hrest rfl
      exact ⟨_, .unescaped (by omega) hquote hescape hchars, rfl⟩

/-! ### Values -/

theorem readScalar_number {n : Number} (h : n.WellFormed) (rest : List Nat) :
    readScalar (n.text ++ rest) =
      (matchNumber (n.text ++ rest)).map fun (n, rest) => (.number n, rest) := by
  obtain ⟨c, digits, hc, hdigit⟩ := h.whole.exists_digit
  have hfirst : ∃ first after, n.text ++ rest = first :: after ∧ (first = minus ∨ isDigit first) := by
    cases hsign : n.negative with
    | true => exact ⟨minus, _, by simp [Number.text, signOf, hsign]; rfl, Or.inl rfl⟩
    | false => exact ⟨c, _, by simp [Number.text, signOf, hsign, hc]; rfl, Or.inr hdigit⟩
  obtain ⟨first, after, heq, hcases⟩ := hfirst
  have hletter : ∀ letter, 0x61 ≤ letter → ((letter == first) = false) := by
    intro letter hletter
    rw [beq_eq_false_iff_ne]
    rintro rfl
    rcases hcases with rfl | hdigit
    · exact absurd hletter (by decide)
    · exact absurd (isDigit_iff.mp hdigit).2 (by omega)
  have hnone : ∀ letter token, 0x61 ≤ letter →
      List.isPrefixOf? (letter :: token) (first :: after) = none := by
    intro letter token hle
    simp [List.isPrefixOf?, hletter letter hle]
  rw [heq, readScalar, hnone _ _ (by decide), hnone _ _ (by decide), hnone _ _ (by decide)]

theorem readScalar_sound {text rest : List Nat} {doc : Doc}
    (h : readScalar text = some (doc, rest)) : ∃ value, Value value doc ∧ text = value ++ rest := by
  unfold readScalar at h
  split at h
  · rename_i after hprefix
    cases h
    exact ⟨_, .true, (List.isPrefixOf?_eq_some_iff_append_eq.mp hprefix).symm⟩
  split at h
  · rename_i after hprefix
    cases h
    exact ⟨_, .false, (List.isPrefixOf?_eq_some_iff_append_eq.mp hprefix).symm⟩
  split at h
  · rename_i after hprefix
    cases h
    exact ⟨_, .null, (List.isPrefixOf?_eq_some_iff_append_eq.mp hprefix).symm⟩
  · obtain ⟨⟨n, after⟩, hnumber, heq⟩ := Option.map_eq_some_iff.mp h
    cases heq
    obtain ⟨hn, htext⟩ := matchNumber_sound hnumber
    exact ⟨_, .number hn, htext⟩

theorem skipSpace_skipSpace (text : List Nat) : skipSpace (skipSpace text) = skipSpace text :=
  List.dropWhile_idempotent isSpace text

theorem readItems_skipSpace (fuel : Nat) (text : List Nat) :
    readItems fuel (skipSpace text) = readItems fuel text := by
  cases fuel with
  | zero => rfl
  | succ fuel => rw [readItems, readItems, skipSpace_skipSpace]

theorem readMembers_skipSpace (fuel : Nat) (text : List Nat) :
    readMembers fuel (skipSpace text) = readMembers fuel text := by
  cases fuel with
  | zero => rfl
  | succ fuel => rw [readMembers, readMembers, skipSpace_skipSpace]

theorem readValue_array {fuel c : Nat} {text rest : List Nat} (h : skipSpace text = c :: rest)
    (hc : c ≠ endArray) : readValue (fuel + 1) (beginArray :: text) =
      (readItems fuel text).map fun (items, rest) => (.array items, rest) := by
  rw [readValue, ← readItems_skipSpace fuel text, h]
  split
  · rename_i after heq
    exact absurd (List.cons.inj heq).1 hc
  · rfl

theorem readValue_object {fuel c : Nat} {text rest : List Nat} (h : skipSpace text = c :: rest)
    (hc : c ≠ endObject) : readValue (fuel + 1) (beginObject :: text) =
      (readMembers fuel text).map fun (members, rest) => (.object members, rest) := by
  rw [readValue, ← readMembers_skipSpace fuel text, h]
  split
  · rename_i after heq
    exact absurd (List.cons.inj heq).1 hc
  · rfl

/-- A value begins neither with whitespace nor with the end of an array or an object. -/
theorem Value.head {text : List Nat} {doc : Doc} (h : Value text doc) :
    ∃ c rest, text = c :: rest ∧ isSpace c = Bool.false ∧ c ≠ endArray := by
  cases h with
  | null => exact ⟨_, _, rfl, rfl, by decide⟩
  | true => exact ⟨_, _, rfl, rfl, by decide⟩
  | false => exact ⟨_, _, rfl, rfl, by decide⟩
  | string => exact ⟨_, _, rfl, rfl, by decide⟩
  | emptyArray => exact ⟨_, _, rfl, rfl, by decide⟩
  | array => exact ⟨_, _, rfl, rfl, by decide⟩
  | emptyObject => exact ⟨_, _, rfl, rfl, by decide⟩
  | object => exact ⟨_, _, rfl, rfl, by decide⟩
  | @number n hn =>
    obtain ⟨c, digits, hc, hdigit⟩ := hn.whole.exists_digit
    cases hsign : n.negative with
    | true => exact ⟨minus, _, by simp [Number.text, signOf, hsign]; rfl, rfl, by decide⟩
    | false =>
      refine ⟨c, _, by simp [Number.text, signOf, hsign, hc]; rfl, ?_, ?_⟩
      · rw [isDigit_iff] at hdigit
        rw [Bool.eq_false_iff, Ne, isSpace_iff]
        omega
      · rintro rfl
        exact absurd hdigit (by decide)

theorem Value.skipSpace {text : List Nat} {doc : Doc} (h : Value text doc) (rest : List Nat) :
    skipSpace (text ++ rest) = text ++ rest := by
  obtain ⟨c, after, rfl, hspace, -⟩ := h.head
  exact skipSpace_cons hspace

theorem Element.head {text : List Nat} {doc : Doc} (h : Element text doc) (rest : List Nat) :
    ∃ c after, Rfc8259.skipSpace (text ++ rest) = c :: after ∧ c ≠ endArray := by
  obtain ⟨hbefore, hvalue, hafter⟩ := h
  obtain ⟨c, after, heq, hspace, hc⟩ := hvalue.head
  rw [List.append_assoc, skipSpace_append hbefore, List.append_assoc, hvalue.skipSpace, heq]
  exact ⟨c, _, rfl, hc⟩

theorem Items.head {text : List Nat} {items : List Doc} (h : Items text items) (rest : List Nat) :
    ∃ c after, Rfc8259.skipSpace (text ++ rest) = c :: after ∧ c ≠ endArray := by
  cases h with
  | one helement => exact helement.head rest
  | cons helement hitems =>
    rw [List.append_assoc]
    exact helement.head _

theorem Member.head {text : List Nat} {member : List Nat × Doc} (h : Member text member)
    (rest : List Nat) :
    ∃ after, Rfc8259.skipSpace (text ++ rest) = quotationMark :: after := by
  obtain ⟨hbefore, hchars, hafter, helement⟩ := h
  rw [List.append_assoc, skipSpace_append hbefore, List.cons_append, skipSpace_cons rfl]
  exact ⟨_, rfl⟩

theorem Members.head {text : List Nat} {members : List (List Nat × Doc)} (h : Members text members)
    (rest : List Nat) :
    ∃ after, Rfc8259.skipSpace (text ++ rest) = quotationMark :: after := by
  cases h with
  | one hmember => exact hmember.head rest
  | cons hmember hmembers =>
    rw [List.append_assoc]
    exact hmember.head _

/-- What may follow an element: the end of the text, of an array or of an object, or a comma. -/
def Closes (text : List Nat) : Prop :=
  text = [] ∨ ∃ c rest, text = c :: rest ∧ (c = valueSeparator ∨ c = endArray ∨ c = endObject)

theorem Closes.follows {text : List Nat} (h : Closes text) : Follows text := by
  rcases h with rfl | ⟨c, rest, rfl, hc⟩
  · exact Or.inl rfl
  · exact Or.inr ⟨c, rest, rfl, Or.inr hc⟩

theorem Closes.skipSpace {text : List Nat} (h : Closes text) : skipSpace text = text := by
  rcases h with rfl | ⟨c, rest, rfl, rfl | rfl | rfl⟩ <;> rfl

theorem closes_cons {c : Nat} (rest : List Nat)
    (h : c = valueSeparator ∨ c = endArray ∨ c = endObject) : Closes (c :: rest) :=
  Or.inr ⟨c, rest, rfl, h⟩

theorem Value.length_pos {text : List Nat} {doc : Doc} (h : Value text doc) : 0 < text.length := by
  obtain ⟨c, rest, rfl, -⟩ := h.head
  simp

theorem readValue_number {n : Number} (h : n.WellFormed) (fuel : Nat) (rest : List Nat) :
    readValue (fuel + 1) (n.text ++ rest) = readScalar (n.text ++ rest) := by
  obtain ⟨c, digits, hc, hdigit⟩ := h.whole.exists_digit
  rw [isDigit_iff] at hdigit
  have hfirst : ∃ first after, n.text ++ rest = first :: after ∧ first ≠ quotationMark ∧
      first ≠ beginArray ∧ first ≠ beginObject := by
    cases hsign : n.negative with
    | true =>
      exact ⟨minus, _, by simp [Number.text, signOf, hsign]; rfl, by decide, by decide, by decide⟩
    | false =>
      unfold quotationMark beginArray beginObject
      exact ⟨c, _, by simp [Number.text, signOf, hsign, hc]; rfl, by omega, by omega, by omega⟩
  obtain ⟨first, after, heq, hquote, harray, hobject⟩ := hfirst
  rw [heq, readValue]
  · exact fun _ h => hquote (List.cons.inj h).1
  · exact fun _ h => harray (List.cons.inj h).1
  · exact fun _ h => hobject (List.cons.inj h).1

mutual

theorem Value.reads {text : List Nat} {doc : Doc} (h : Value text doc) {fuel : Nat}
    (hfuel : text.length < fuel) {rest : List Nat} (hfollows : Follows rest) :
    readValue fuel (text ++ rest) = some (doc, rest) := by
  obtain ⟨fuel, rfl⟩ : ∃ more, fuel = more + 1 := ⟨fuel - 1, by omega⟩
  cases h with
  | null => rfl
  | true => rfl
  | false => rfl
  | number hn =>
    rw [readValue_number hn, readScalar_number hn, matchNumber_complete hn hfollows]
    rfl
  | string hchars =>
    rw [List.cons_append, List.append_assoc, List.singleton_append, readValue,
      readChars_complete hchars]
    rfl
  | emptyArray hspace =>
    rw [List.cons_append, List.append_assoc, List.singleton_append, readValue,
      skipSpace_append hspace]
    rfl
  | @array inner items hitems =>
    rw [List.length_cons, List.length_append, List.length_singleton] at hfuel
    obtain ⟨c, after, hhead, hc⟩ := hitems.head (endArray :: rest)
    rw [List.cons_append, List.append_assoc, List.singleton_append, readValue_array hhead hc,
      hitems.reads (by omega) rest]
    rfl
  | emptyObject hspace =>
    rw [List.cons_append, List.append_assoc, List.singleton_append, readValue,
      skipSpace_append hspace]
    rfl
  | @object inner members hmembers =>
    rw [List.length_cons, List.length_append, List.length_singleton] at hfuel
    obtain ⟨after, hhead⟩ := hmembers.head (endObject :: rest)
    rw [List.cons_append, List.append_assoc, List.singleton_append,
      readValue_object hhead (by decide), hmembers.reads (by omega) rest]
    rfl
termination_by (fuel, 0)
decreasing_by all_goals exact Prod.Lex.left _ _ (by omega)

theorem Element.reads {text : List Nat} {doc : Doc} (h : Element text doc) {fuel : Nat}
    (hfuel : text.length < fuel) {rest : List Nat} (hcloses : Closes rest) :
    ∃ after, readValue fuel (Rfc8259.skipSpace (text ++ rest)) = some (doc, after) ∧
      Rfc8259.skipSpace after = rest := by
  cases h with
  | @mk before value after doc hbefore hvalue hafter =>
    rw [List.length_append, List.length_append] at hfuel
    refine ⟨after ++ rest, ?_, ?_⟩
    · rw [List.append_assoc, List.append_assoc, skipSpace_append hbefore, hvalue.skipSpace]
      exact hvalue.reads (by omega) (follows_space hafter hcloses.follows)
    · rw [skipSpace_append hafter, hcloses.skipSpace]
termination_by (fuel, 1)
decreasing_by exact Prod.Lex.right _ (Nat.lt_succ_self _)

theorem Items.reads {text : List Nat} {items : List Doc} (h : Items text items) {fuel : Nat}
    (hfuel : text.length + 1 < fuel) (rest : List Nat) :
    readItems fuel (text ++ endArray :: rest) = some (items, rest) := by
  obtain ⟨fuel, rfl⟩ : ∃ more, fuel = more + 1 := ⟨fuel - 1, by omega⟩
  cases h with
  | one helement =>
    obtain ⟨after, hread, hskip⟩ :=
      helement.reads (show _ < fuel by omega) (closes_cons rest (Or.inr (Or.inl rfl)))
    simp only [readItems, hread, Option.bind_some, hskip]
  | @cons text more doc items helement hitems =>
    rw [List.length_append, List.length_cons] at hfuel
    obtain ⟨after, hread, hskip⟩ := helement.reads (show _ < fuel by omega)
      (closes_cons (more ++ endArray :: rest) (Or.inl rfl))
    have hrest := hitems.reads (show _ < fuel by omega) rest
    simp only [List.append_assoc, List.cons_append, readItems, hread, Option.bind_some, hskip,
      hrest, Option.map_some]
termination_by (fuel, 0)
decreasing_by all_goals exact Prod.Lex.left _ _ (by omega)

theorem Member.reads {text : List Nat} {member : List Nat × Doc} (h : Member text member)
    {fuel : Nat} (hfuel : text.length < fuel) {rest : List Nat} (hcloses : Closes rest) :
    ∃ chars after value rest', Rfc8259.skipSpace (text ++ rest) = quotationMark :: chars ∧
      readChars .plain chars = some (member.1, after) ∧
      Rfc8259.skipSpace after = nameSeparator :: value ∧
      readValue fuel (Rfc8259.skipSpace value) = some (member.2, rest') ∧
      Rfc8259.skipSpace rest' = rest := by
  cases h with
  | @mk before chars units after value doc hbefore hchars hafter helement =>
    simp only [List.length_append, List.length_cons] at hfuel
    obtain ⟨rest', hread, hskip⟩ := helement.reads (show _ < fuel by omega) hcloses
    refine ⟨chars ++ quotationMark :: (after ++ nameSeparator :: (value ++ rest)),
      after ++ nameSeparator :: (value ++ rest), value ++ rest, rest', ?_, ?_, ?_, hread, hskip⟩
    · rw [List.append_assoc, skipSpace_append hbefore, List.cons_append, skipSpace_cons rfl]
      simp
    · exact readChars_complete hchars _
    · rw [skipSpace_append hafter, skipSpace_cons rfl]
termination_by (fuel, 2)
decreasing_by exact Prod.Lex.right _ (Nat.lt_succ_self _)

theorem Members.reads {text : List Nat} {members : List (List Nat × Doc)} (h : Members text members)
    {fuel : Nat} (hfuel : text.length + 1 < fuel) (rest : List Nat) :
    readMembers fuel (text ++ endObject :: rest) = some (members, rest) := by
  obtain ⟨fuel, rfl⟩ : ∃ more, fuel = more + 1 := ⟨fuel - 1, by omega⟩
  cases h with
  | @one _ member hmember =>
    obtain ⟨chars, after, value, rest', hquote, hname, hcolon, hvalue, hskip⟩ :=
      hmember.reads (show _ < fuel by omega) (closes_cons rest (Or.inr (Or.inr rfl)))
    rw [readMembers, hquote]
    simp only [hname, Option.bind_some, hcolon, hvalue, hskip]
  | @cons text more member members hmember hmembers =>
    rw [List.length_append, List.length_cons] at hfuel
    obtain ⟨chars, after, value, rest', hquote, hname, hcolon, hvalue, hskip⟩ :=
      hmember.reads (show _ < fuel by omega) (closes_cons (more ++ endObject :: rest) (Or.inl rfl))
    rw [List.append_assoc, List.cons_append, readMembers, hquote]
    have hrest := hmembers.reads (show _ < fuel by omega) rest
    simp only [hname, Option.bind_some, hcolon, hvalue, hskip, hrest, Option.map_some]
termination_by (fuel, 0)
decreasing_by all_goals exact Prod.Lex.left _ _ (by omega)

end

/-! ### What is read is derived -/

/-- The three readers find what the grammar derives, with this much fuel. -/
structure Sound (fuel : Nat) : Prop where
  value : ∀ {text rest doc}, readValue fuel text = some (doc, rest) →
    ∃ value, Value value doc ∧ text = value ++ rest
  items : ∀ {text rest items}, readItems fuel text = some (items, rest) →
    ∃ inner, Items inner items ∧ text = inner ++ endArray :: rest
  members : ∀ {text rest members}, readMembers fuel text = some (members, rest) →
    ∃ inner, Members inner members ∧ text = inner ++ endObject :: rest

theorem sound_value {fuel : Nat} (ih : Sound fuel) {text rest : List Nat} {doc : Doc}
    (h : readValue (fuel + 1) text = some (doc, rest)) :
    ∃ value, Value value doc ∧ text = value ++ rest := by
  rw [readValue.eq_def] at h
  dsimp only at h
  split at h
  case h_1 _ chars =>
    obtain ⟨⟨units, after⟩, hread, heq⟩ := Option.map_eq_some_iff.mp h
    cases heq
    obtain ⟨inner, hinner, rfl⟩ := readChars_sound hread
    exact ⟨_, .string hinner, by simp⟩
  case h_2 _ after =>
    obtain ⟨space, hspace, hsplit⟩ := exists_skipSpace after
    split at h
    case h_1 _ rest' hend =>
      cases h
      exact ⟨_, .emptyArray hspace, by rw [hsplit, hend]; simp⟩
    case h_2 =>
      rw [readItems_skipSpace] at h
      obtain ⟨⟨items, rest'⟩, hread, heq⟩ := Option.map_eq_some_iff.mp h
      cases heq
      obtain ⟨inner, hinner, rfl⟩ := ih.items hread
      exact ⟨_, .array hinner, by simp⟩
  case h_3 _ after =>
    obtain ⟨space, hspace, hsplit⟩ := exists_skipSpace after
    split at h
    case h_1 _ rest' hend =>
      cases h
      exact ⟨_, .emptyObject hspace, by rw [hsplit, hend]; simp⟩
    case h_2 =>
      rw [readMembers_skipSpace] at h
      obtain ⟨⟨members, rest'⟩, hread, heq⟩ := Option.map_eq_some_iff.mp h
      cases heq
      obtain ⟨inner, hinner, rfl⟩ := ih.members hread
      exact ⟨_, .object hinner, by simp⟩
  case h_4 => exact readScalar_sound h

theorem sound_items {fuel : Nat} (ih : Sound fuel) {text rest : List Nat} {items : List Doc}
    (h : readItems (fuel + 1) text = some (items, rest)) :
    ∃ inner, Items inner items ∧ text = inner ++ endArray :: rest := by
  rw [readItems] at h
  obtain ⟨⟨item, after⟩, hread, h⟩ := Option.bind_eq_some_iff.mp h
  dsimp only at h
  obtain ⟨before, hbefore, htext⟩ := exists_skipSpace text
  obtain ⟨behind, hbehind, hafter⟩ := exists_skipSpace after
  obtain ⟨value, hvalue, hsplit⟩ := ih.value hread
  have helement : Element (before ++ (value ++ behind)) item := .mk hbefore hvalue hbehind
  split at h
  case h_1 _ rest' hend =>
    cases h
    refine ⟨_, .one helement, ?_⟩
    rw [htext, hsplit, hafter, hend]
    simp
  case h_2 _ rest' hcomma =>
    obtain ⟨⟨items, rest'⟩, hrest, heq⟩ := Option.map_eq_some_iff.mp h
    cases heq
    obtain ⟨inner, hinner, rfl⟩ := ih.items hrest
    refine ⟨_, .cons helement hinner, ?_⟩
    rw [htext, hsplit, hafter, hcomma]
    simp
  case h_3 => cases h

theorem sound_members {fuel : Nat} (ih : Sound fuel) {text rest : List Nat}
    {members : List (List Nat × Doc)} (h : readMembers (fuel + 1) text = some (members, rest)) :
    ∃ inner, Members inner members ∧ text = inner ++ endObject :: rest := by
  rw [readMembers] at h
  obtain ⟨before, hbefore, htext⟩ := exists_skipSpace text
  split at h
  case h_2 => cases h
  case h_1 _ chars hquote =>
  obtain ⟨⟨name, after⟩, hname, hnamed⟩ := Option.bind_eq_some_iff.mp h
  obtain ⟨chars', hchars, rfl⟩ := readChars_sound hname
  dsimp only at hnamed
  obtain ⟨behind, hbehind, hafter⟩ := exists_skipSpace after
  split at hnamed
  case h_2 => cases hnamed
  case h_1 _ value hcolon =>
  obtain ⟨⟨doc, after'⟩, hread, hended⟩ := Option.bind_eq_some_iff.mp hnamed
  dsimp only at hended
  obtain ⟨left, hleft, hvalue⟩ := exists_skipSpace value
  obtain ⟨right, hright, hafter'⟩ := exists_skipSpace after'
  obtain ⟨inner, hinner, hsplit⟩ := ih.value hread
  have hmember : Member (before ++ quotationMark ::
      (chars' ++ quotationMark :: (behind ++ nameSeparator :: (left ++ (inner ++ right)))))
      (name, doc) := .mk hbefore hchars hbehind (.mk hleft hinner hright)
  split at hended
  case h_1 _ rest' hend =>
    cases hended
    refine ⟨_, .one hmember, ?_⟩
    rw [htext, hquote, hafter, hcolon, hvalue, hsplit, hafter', hend]
    simp
  case h_2 _ rest' hcomma =>
    obtain ⟨⟨members, rest'⟩, hrest, heq⟩ := Option.map_eq_some_iff.mp hended
    cases heq
    obtain ⟨more, hmore, rfl⟩ := ih.members hrest
    refine ⟨_, .cons hmember hmore, ?_⟩
    rw [htext, hquote, hafter, hcolon, hvalue, hsplit, hafter', hcomma]
    simp
  case h_3 => cases hended

theorem sound (fuel : Nat) : Sound fuel := by
  induction fuel with
  | zero => exact ⟨by simp [readValue], by simp [readItems], by simp [readMembers]⟩
  | succ fuel ih => exact ⟨sound_value ih, sound_items ih, sound_members ih⟩

/-- The reader reads exactly the texts that the grammar derives, with any fuel above the length of
the text. -/
theorem readWith_eq_some {fuel : Nat} {text : List Nat} {doc : Doc} (hfuel : text.length < fuel) :
    readWith fuel text = some doc ↔ Element text doc := by
  unfold readWith
  constructor
  · intro h
    obtain ⟨⟨doc', rest⟩, hread, h⟩ := Option.bind_eq_some_iff.mp h
    obtain ⟨before, hbefore, htext⟩ := exists_skipSpace text
    obtain ⟨after, hafter, hrest⟩ := exists_skipSpace rest
    obtain ⟨value, hvalue, hsplit⟩ := (sound fuel).value hread
    dsimp only at h
    split at h
    · rename_i hnil
      cases h
      rw [htext, hsplit, hrest, hnil, List.append_nil]
      exact .mk hbefore hvalue hafter
    · cases h
  · intro h
    obtain ⟨after, hread, hskip⟩ := h.reads hfuel (Or.inl rfl)
    rw [List.append_nil] at hread
    simp only [hread, Option.bind_some, hskip, if_true]

theorem read_eq_some {text : List Nat} {doc : Doc} : read text = some doc ↔ Element text doc :=
  readWith_eq_some (Nat.lt_succ_self _)

end Ucf.Rfc8259
