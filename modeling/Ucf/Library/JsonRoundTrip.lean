import Mathlib.Data.Nat.Digits.Lemmas
import Ucf.Library.JsonText

/-! Reading what was written: a text that the writer gives is read back as the value it was written
from. -/

namespace Ucf

namespace Json

/-! ### Characters -/

theorem toLower_hexChar {n : Nat} (h : n < 16) : (hexChar n).toLower = hexChar n := by
  revert n
  decide

theorem toLower_hexChars (count n : Nat) :
    (hexChars count n).map Char.toLower = hexChars count n := by
  induction count generalizing n with
  | zero => rfl
  | succ count ih =>
    rw [hexChars, List.map_append, ih, List.map_singleton, toLower_hexChar (Nat.mod_lt n (by decide))]

/-- Four hexadecimal digits, one by one. -/
theorem hexChars_four (n : Nat) : hexChars 4 n =
    [hexChar (n / 16 / 16 / 16 % 16), hexChar (n / 16 / 16 % 16), hexChar (n / 16 % 16),
      hexChar (n % 16)] := rfl

theorem hexNumber4?_hexChars {n : Nat} (h : n < 65536) :
    hexNumber4? (hexChar (n / 16 / 16 / 16 % 16)) (hexChar (n / 16 / 16 % 16))
      (hexChar (n / 16 % 16)) (hexChar (n % 16)) = some n := by
  rw [hexNumber4?, ← hexChars_four, toLower_hexChars]
  exact hexNumber?_hexChars h

/-- An escape that names a character which is not half of a pair. -/
theorem readString_unicode {a b c d : Char} {n : Nat} (h : hexNumber4? a b c d = some n)
    (hsurrogate : n < 0xd800 ∨ 0xdfff < n) (rest : List Char) :
    readString ('\\' :: 'u' :: a :: b :: c :: d :: rest) = (do
      let (cs, rest) ← readString rest
      .ok (Char.ofNat n :: cs, rest)) := by
  have hchar : charOfCodePoint n = .ok (Char.ofNat n) := if_neg (by omega)
  have hpair : ∀ low, ¬(0xd800 ≤ n ∧ n ≤ 0xdbff ∧ 0xdc00 ≤ low ∧ low ≤ 0xdfff) :=
    fun low => by omega
  rw [readString.eq_def]
  split
  case h_3 heq =>
    -- the escape after it is read on its own
    simp only [List.cons.injEq, true_and] at heq
    obtain ⟨rfl, rfl, rfl, rfl, rfl⟩ := heq
    rw [h]
    split
    · rename_i high low hhigh hlow
      cases hhigh
      rw [if_neg (hpair low), hchar]
      rfl
    · rename_i high hhigh hlow
      cases hhigh
      rw [hchar]
      rfl
    · rename_i hnone
      cases hnone
  case h_4 heq =>
    simp only [List.cons.injEq, true_and] at heq
    obtain ⟨rfl, rfl, rfl, rfl, rfl⟩ := heq
    simp only [h, hchar, ok_bind]
  case h_5 hno heq =>
    simp only [List.cons.injEq, true_and] at heq
    exact absurd heq.2.symm (hno _ _ _ _ _ heq.1.symm)
  case h_6 hno heq =>
    simp only [List.cons.injEq] at heq
    exact absurd heq.2.symm (hno _ _ heq.1.symm)
  all_goals simp at *

/-- Two escapes that name the halves of a pair. -/
theorem readString_pair {a b c d a' b' c' d' : Char} {high low : Nat}
    (hhigh : hexNumber4? a b c d = some high) (hlow : hexNumber4? a' b' c' d' = some low)
    (hpair : 0xd800 ≤ high ∧ high ≤ 0xdbff ∧ 0xdc00 ≤ low ∧ low ≤ 0xdfff) (rest : List Char) :
    readString ('\\' :: 'u' :: a :: b :: c :: d :: '\\' :: 'u' :: a' :: b' :: c' :: d' :: rest) =
      (do
        let (cs, rest) ← readString rest
        .ok (Char.ofNat (0x10000 + (high - 0xd800) * 0x400 + (low - 0xdc00)) :: cs, rest)) := by
  rw [readString.eq_def]
  simp only [hhigh, hlow, if_pos hpair]

/-- A short escape. -/
theorem readString_short {c char : Char} (hc : c ≠ 'u')
    (h : [('"', '"'), ('\\', '\\'), ('/', '/'), ('b', Char.ofNat 8), ('f', Char.ofNat 12),
      ('n', '\n'), ('r', '\r'), ('t', '\t')].lookup c = some char) (rest : List Char) :
    readString ('\\' :: c :: rest) = (do
      let (cs, rest) ← readString rest
      .ok (char :: cs, rest)) := by
  rw [readString.eq_def]
  split
  case h_5 heq =>
    simp only [List.cons.injEq, true_and] at heq
    obtain ⟨rfl, rfl⟩ := heq
    simp only [h]
  case h_6 hno heq =>
    simp only [List.cons.injEq] at heq
    exact absurd heq.2.symm (hno _ _ heq.1.symm)
  all_goals simp_all

/-- A character that stands for itself. -/
theorem readString_plain {c : Char} (hquote : c ≠ '"') (hslash : c ≠ '\\') (hc : 0x20 ≤ c.toNat)
    (rest : List Char) :
    readString (c :: rest) = (do
      let (cs, rest) ← readString rest
      .ok (c :: cs, rest)) := by
  rw [readString.eq_def]
  split
  case h_6 heq =>
    simp only [List.cons.injEq] at heq
    obtain ⟨rfl, rfl⟩ := heq
    rw [if_neg (by simp [hslash]; omega)]
  all_goals simp_all

theorem toNat_valid (c : Char) : c.toNat < 0xd800 ∨ 0xdfff < c.toNat ∧ c.toNat < 0x110000 :=
  c.valid

/-- What is written for one character is read back as that character. -/
theorem readString_escapeChar (c : Char) (rest : List Char) :
    readString (escapeChar c ++ rest) = (do
      let (cs, rest) ← readString rest
      .ok (c :: cs, rest)) := by
  have hvalid := toNat_valid c
  have hofNat : Char.ofNat c.toNat = c := Char.ofNat_toNat c
  unfold escapeChar
  simp only
  split_ifs with hquote hslash hn hr ht hb hf hplain hbmp
  · subst hquote
    exact readString_short (by decide) rfl rest
  · subst hslash
    exact readString_short (by decide) rfl rest
  · subst hn
    exact readString_short (by decide) rfl rest
  · subst hr
    exact readString_short (by decide) rfl rest
  · subst ht
    exact readString_short (by decide) rfl rest
  · rw [← hofNat, hb]
    exact readString_short (by decide) rfl rest
  · rw [← hofNat, hf]
    exact readString_short (by decide) rfl rest
  · exact readString_plain hquote hslash hplain.1 rest
  · have h := readString_unicode (hexNumber4?_hexChars (n := c.toNat) (by omega)) (by omega) rest
    rw [hofNat] at h
    exact h
  · have hhigh := hexNumber4?_hexChars (n := 0xd800 + (c.toNat - 0x10000) / 0x400) (by omega)
    have hlow := hexNumber4?_hexChars (n := 0xdc00 + (c.toNat - 0x10000) % 0x400) (by omega)
    have h := readString_pair hhigh hlow (by omega) rest
    have hnumber : 0x10000 + (0xd800 + (c.toNat - 0x10000) / 0x400 - 0xd800) * 0x400 +
        (0xdc00 + (c.toNat - 0x10000) % 0x400 - 0xdc00) = c.toNat := by omega
    rw [hnumber, hofNat] at h
    exact h

/-- What is written for a string is read back as that string. -/
theorem readString_writeString (s : String) (rest : List Char) :
    readString (s.toList.flatMap escapeChar ++ '"' :: rest) = .ok (s.toList, rest) := by
  induction s.toList with
  | nil =>
    rw [List.flatMap_nil, List.nil_append, readString.eq_def]
    rfl
  | cons c cs ih => rw [List.flatMap_cons, List.append_assoc, readString_escapeChar, ih, ok_bind]

/-! ### Numbers -/

theorem digit_toNat {d : Nat} (h : d < 10) : (Char.ofNat (48 + d)).toNat - 48 = d := by
  revert d
  decide

theorem isDecimal_digit {d : Nat} (h : d < 10) : isDecimal (Char.ofNat (48 + d)) = true := by
  revert d
  decide

theorem digit_ne_zero {d : Nat} (h : d < 10) (hd : d ≠ 0) : Char.ofNat (48 + d) ≠ '0' := by
  revert d
  decide

theorem natOfDigits_writeNat (n : Nat) : natOfDigits (writeNat n) = n := by
  unfold writeNat
  split
  · rename_i hzero
    subst hzero
    rfl
  · rw [natOfDigits, List.foldl_map, List.foldl_reverse]
    have hdigits : ∀ d ∈ Nat.digits 10 n, d < 10 := fun d hd => Nat.digits_lt_base (by decide) hd
    calc (Nat.digits 10 n).foldr (fun d m => 10 * m + ((Char.ofNat (48 + d)).toNat - 48)) 0
        = (Nat.digits 10 n).foldr (fun d m => d + 10 * m) 0 := by
          refine List.foldr_ext _ _ _ fun d hd m => ?_
          rw [digit_toNat (hdigits d hd), Nat.add_comm]
      _ = Nat.ofDigits 10 (Nat.digits 10 n) := by
          rw [Nat.ofDigits_eq_foldr]
          rfl
      _ = n := Nat.ofDigits_digits 10 n

theorem isDecimal_writeNat (n : Nat) : ∀ c ∈ writeNat n, isDecimal c = true := by
  unfold writeNat
  split
  · exact List.all_eq_true.mp (by decide)
  · intro c hc
    obtain ⟨d, hd, rfl⟩ := List.mem_map.mp hc
    exact isDecimal_digit (Nat.digits_lt_base (by decide) (List.mem_reverse.mp hd))

theorem length_writeNat_le {n : Nat} (h : n ≤ 9007199254740991) : (writeNat n).length ≤ 16 := by
  unfold writeNat
  split
  · decide
  · rw [List.length_map, List.length_reverse]
    exact (Nat.digits_length_le_iff (by decide) n).mpr (by omega)

/-- The first digit is zero for zero only. -/
theorem writeNat_eq_cons (n : Nat) :
    ∃ c cs, writeNat n = c :: cs ∧ isDecimal c = true ∧ (c = '0' → cs = [] ∧ n = 0) := by
  by_cases hzero : n = 0
  · subst hzero
    exact ⟨'0', [], rfl, rfl, fun _ => ⟨rfl, rfl⟩⟩
  · have hdigits : Nat.digits 10 n ≠ [] := Nat.digits_ne_nil_iff_ne_zero.mpr hzero
    have hne : (Nat.digits 10 n).reverse ≠ [] := by simpa using hdigits
    have hlast := Nat.getLast_digit_ne_zero 10 hzero
    obtain ⟨d, ds, hds⟩ := List.exists_cons_of_ne_nil hne
    have hmem : d ∈ Nat.digits 10 n := by
      rw [← List.mem_reverse, hds]
      exact List.mem_cons_self
    have hlt : d < 10 := Nat.digits_lt_base (by decide) hmem
    have hdne : d ≠ 0 := by
      have hd : (Nat.digits 10 n).getLast hdigits = d := by
        rw [← List.head_reverse hne]
        simp only [hds, List.head_cons]
      rwa [hd] at hlast
    refine ⟨Char.ofNat (48 + d), ds.map fun d => Char.ofNat (48 + d), ?_, isDecimal_digit hlt,
      fun h => absurd h (digit_ne_zero hlt hdne)⟩
    rw [writeNat, if_neg hzero, hds, List.map_cons]

/-- What may follow a number. -/
def Stops (rest : List Char) : Prop :=
  ∀ c cs, rest = c :: cs → isDecimal c = false ∧ c ≠ '.' ∧ c ≠ 'e' ∧ c ≠ 'E'

theorem readFraction_of_stops {rest : List Char} (h : Stops rest) :
    readFraction rest = ([], rest) := by
  cases rest with
  | nil => rfl
  | cons c cs =>
    rw [readFraction.eq_def]
    split
    · rename_i heq
      cases heq
      exact absurd rfl (h _ _ rfl).2.1
    · rfl

theorem readExponent_of_stops {rest : List Char} (h : Stops rest) :
    readExponent rest = ([], rest) := by
  cases rest with
  | nil => rfl
  | cons c cs =>
    obtain ⟨_, _, he, hE⟩ := h c cs rfl
    rw [readExponent, if_neg (by simp [he, hE])]

theorem takeWhile_of_stops {cs rest : List Char} (hcs : ∀ c ∈ cs, isDecimal c = true)
    (h : Stops rest) : (cs ++ rest).takeWhile isDecimal = cs := by
  rw [List.takeWhile_append_of_pos hcs]
  cases rest with
  | nil => simp
  | cons c rest => rw [List.takeWhile_cons_of_neg (by simp [(h c rest rfl).1]), List.append_nil]

theorem dropWhile_of_stops {cs rest : List Char} (hcs : ∀ c ∈ cs, isDecimal c = true)
    (h : Stops rest) : (cs ++ rest).dropWhile isDecimal = rest := by
  rw [List.dropWhile_append_of_pos hcs]
  cases rest with
  | nil => simp
  | cons c rest => rw [List.dropWhile_cons_of_neg (by simp [(h c rest rfl).1])]

/-- A number is read back as what it was written for. -/
theorem readNumber_writeNat {n : Nat} {negative : Bool} (hn : n ≤ 9007199254740991)
    (hsign : negative = true → n ≠ 0) {rest : List Char} (h : Stops rest) :
    readNumber negative (writeNat n ++ rest) =
      .ok (.int (if negative then -(n : Int) else n), rest) := by
  obtain ⟨c, cs, hwrite, hc, hzero⟩ := writeNat_eq_cons n
  have hcs : ∀ d ∈ cs, isDecimal d = true := fun d hd =>
    isDecimal_writeNat n d (hwrite ▸ List.mem_cons_of_mem c hd)
  have hdigits : (if c = '0' then ['0'] else c :: (cs ++ rest).takeWhile isDecimal) =
      writeNat n := by
    rw [takeWhile_of_stops hcs h, hwrite]
    split
    · rename_i hczero
      rw [(hzero hczero).1, hczero]
    · rfl
  have hrest : (if c = '0' then cs ++ rest else (cs ++ rest).dropWhile isDecimal) = rest := by
    rw [dropWhile_of_stops hcs h]
    split
    · rename_i hczero
      rw [(hzero hczero).1, List.nil_append]
    · rfl
  have hparse : parseInteger negative (writeNat n) =
      .ok (.int (if negative then -(n : Int) else n)) := by
    rw [parseInteger, if_neg, if_neg (by have := length_writeNat_le hn; omega),
      natOfDigits_writeNat]
    · simp only
      rw [if_pos]
      unfold SafeInt
      split <;> omega
    · rintro ⟨hnegative, hdigits⟩
      have hn0 : n = 0 := by
        rw [← natOfDigits_writeNat n, hdigits]
        rfl
      exact hsign hnegative hn0
  rw [hwrite, List.cons_append, readNumber]
  simp only [hc, if_true, hdigits, hrest, readFraction_of_stops h, readExponent_of_stops h,
    and_self, hparse, ok_bind]

/-! ### Values -/

theorem readValue_decimal {fuel : Nat} {c : Char} (hc : isDecimal c = true) (cs : List Char) :
    readValue (fuel + 1) (c :: cs) = readNumber false (c :: cs) := by
  rw [readValue.eq_def]
  split
  · rename_i heq
    cases heq
  · rename_i fuel' heq
    split
    case h_11 => rfl
    all_goals
      rename_i heq'
      cases heq'
      exact absurd hc (by decide)

theorem readValue_minus {fuel : Nat} {c : Char} (hc : isDecimal c = true) (cs : List Char) :
    readValue (fuel + 1) ('-' :: c :: cs) = readNumber true (c :: cs) := by
  rw [readValue.eq_def]
  split
  · rename_i heq
    cases heq
  · rename_i fuel' heq
    split
    case h_10 heq' =>
      cases heq'
      rfl
    case h_11 hno =>
      exact absurd rfl (hno _)
    all_goals
      rename_i heq'
      cases heq'
    exact absurd hc (by decide)

theorem readValue_writeInt {fuel : Nat} {n : Int} (hn : SafeInt n) {rest : List Char}
    (h : Stops rest) : readValue (fuel + 1) (writeInt n ++ rest) = .ok (.int n, rest) := by
  obtain ⟨hlower, hupper⟩ := hn
  cases n with
  | ofNat n =>
    obtain ⟨c, cs, hwrite, hc, _⟩ := writeNat_eq_cons n
    have hnumber := @readNumber_writeNat n false
      (by rw [Int.ofNat_eq_natCast] at hupper; omega) (fun h => absurd h Bool.false_ne_true) rest h
    rw [hwrite] at hnumber
    rw [writeInt, hwrite, List.cons_append, readValue_decimal hc, ← List.cons_append, hnumber]
    rfl
  | negSucc n =>
    obtain ⟨c, cs, hwrite, hc, _⟩ := writeNat_eq_cons (n + 1)
    have hnumber := @readNumber_writeNat (n + 1) true
      (by rw [Int.negSucc_eq] at hlower; omega) (fun _ => Nat.succ_ne_zero n) rest h
    rw [hwrite] at hnumber
    rw [writeInt, hwrite, List.cons_append, List.cons_append, readValue_minus hc,
      ← List.cons_append, hnumber]
    rfl

/-- Where a value may begin. -/
def StartsValue (c : Char) : Prop :=
  c ≠ ' ' ∧ c ≠ '\t' ∧ c ≠ '\n' ∧ c ≠ '\r' ∧ c ≠ ']' ∧ c ≠ '}'

instance (c : Char) : Decidable (StartsValue c) := inferInstanceAs (Decidable (_ ∧ _))

theorem startsValue_of_isDecimal {c : Char} (hc : isDecimal c = true) : StartsValue c := by
  refine ⟨?_, ?_, ?_, ?_, ?_, ?_⟩ <;>
  · rintro rfl
    exact absurd hc (by decide)

theorem skipSpace_of_starts {c : Char} (h : StartsValue c) (cs : List Char) :
    skipSpace (c :: cs) = c :: cs := by
  obtain ⟨hspace, htab, hline, hreturn, _⟩ := h
  rw [skipSpace, if_neg (by simp [hspace, htab, hline, hreturn])]

theorem write_eq_cons {j : Json} (h : j.Exact) : ∃ c cs, j.write = c :: cs ∧ StartsValue c := by
  cases h with
  | null => exact ⟨_, _, rfl, by decide⟩
  | bool b => cases b <;> exact ⟨_, _, rfl, by decide⟩
  | int h =>
    rename_i n
    cases n with
    | ofNat n =>
      obtain ⟨c, cs, hwrite, hc, _⟩ := writeNat_eq_cons n
      exact ⟨c, cs, by rw [write, writeInt, hwrite], startsValue_of_isDecimal hc⟩
    | negSucc n => exact ⟨'-', writeNat (n + 1), by rw [write, writeInt], by decide⟩
  | str s => exact ⟨'"', _, by rw [write, writeString, List.cons_append], by decide⟩
  | arr => exact ⟨'[', _, by rw [write, List.cons_append], by decide⟩
  | obj => exact ⟨'{', _, by rw [write, List.cons_append], by decide⟩

theorem stops_cons {c : Char} (h : c = ',' ∨ c = ']' ∨ c = '}' ∨ c = '\n') (cs : List Char) :
    Stops (c :: cs) := by
  intro c' cs' heq
  cases heq
  rcases h with rfl | rfl | rfl | rfl <;> decide

/-- Reading back what was written for a value, with fuel for the length of its text. -/
def ReadsBack (j : Json) : Prop :=
  ∀ fuel rest, Stops rest → 2 * j.write.length ≤ fuel →
    readValue fuel (j.write ++ rest) = .ok (j, rest)

theorem uniqueObject_of_nodup {fields : List (String × Json)}
    (h : (fields.map Prod.fst).Nodup) : uniqueObject fields = .ok (.obj fields) := by
  have hnone : (fields.zipIdx.find? fun p => p.1.1 ∈ (fields.take p.2).map Prod.fst) = none := by
    rw [List.find?_eq_none]
    rintro ⟨field, position⟩ hmem hearlier
    rw [decide_eq_true_eq, List.map_take] at hearlier
    obtain ⟨hposition, hfield⟩ := List.mem_zipIdx' hmem
    obtain ⟨earlier, hlt, hname⟩ := List.mem_iff_getElem.mp hearlier
    rw [List.length_take, List.length_map] at hlt
    rw [List.getElem_take, List.getElem_map] at hname
    have hget : (fields.map Prod.fst).get ⟨earlier, by rw [List.length_map]; omega⟩ =
        (fields.map Prod.fst).get ⟨position, by rw [List.length_map]; exact hposition⟩ := by
      simp only [List.get_eq_getElem, List.getElem_map, hname, hfield]
    have hinj := List.nodup_iff_injective_get.mp h hget
    rw [Fin.mk.injEq] at hinj
    omega
  rw [uniqueObject, hnone]

/-- The text of the elements of an array begins as its first element. -/
theorem writeItems_eq_cons {item : Json} {items : List Json} (h : item.Exact) (rest : List Char) :
    ∃ c cs, writeItems (item :: items) ++ rest = c :: cs ∧ StartsValue c := by
  obtain ⟨c, cs, hcs, hc⟩ := write_eq_cons h
  cases items with
  | nil => exact ⟨c, _, by rw [writeItems, hcs, List.cons_append], hc⟩
  | cons => exact ⟨c, _, by rw [writeItems, hcs, List.cons_append, List.cons_append]; exact nofun, hc⟩

theorem readElements_writeItems {items : List Json} (hexact : ∀ item ∈ items, item.Exact)
    (hitems : ∀ item ∈ items, ReadsBack item) (hne : items ≠ []) {fuel : Nat}
    (hfuel : 2 * (writeItems items).length + 1 ≤ fuel) (rest : List Char) :
    readElements fuel (writeItems items ++ ']' :: rest) = .ok (items, rest) := by
  induction items generalizing fuel with
  | nil => exact absurd rfl hne
  | cons item items ih =>
    have hitem := hitems item List.mem_cons_self
    obtain ⟨fuel, rfl⟩ : ∃ k, fuel = k + 1 := ⟨fuel - 1, by omega⟩
    cases items with
    | nil =>
      rw [writeItems] at hfuel ⊢
      rw [readElements, hitem fuel _ (stops_cons (by decide) _) (by omega), ok_bind]
      rfl
    | cons next items =>
      have hwrite : writeItems (item :: next :: items) =
          item.write ++ ',' :: writeItems (next :: items) := by rw [writeItems]; exact nofun
      rw [hwrite, List.length_append, List.length_cons] at hfuel
      have hrest : readElements fuel (writeItems (next :: items) ++ ']' :: rest) =
          .ok (next :: items, rest) :=
        ih (fun j hj => hexact j (List.mem_cons_of_mem item hj))
          (fun j hj => hitems j (List.mem_cons_of_mem item hj)) (List.cons_ne_nil _ _) (by omega)
      obtain ⟨c, cs, hcs, hc⟩ := writeItems_eq_cons
        (hexact next (List.mem_cons_of_mem item List.mem_cons_self)) (']' :: rest)
      rw [hwrite, List.append_assoc, List.cons_append, readElements,
        hitem fuel _ (stops_cons (by decide) _) (by omega), ok_bind]
      simp only [skipSpace_of_starts (c := ',') (by decide)]
      rw [hcs, skipSpace_of_starts hc, ← hcs, hrest, ok_bind]

theorem skipSpace_of_close {c : Char} (h : c = ']' ∨ c = '}') (cs : List Char) :
    skipSpace (c :: cs) = c :: cs := by
  rcases h with rfl | rfl <;> rfl

/-- The text of one member after its opening quote. -/
theorem writeField_eq (name : String) (value : Json) (rest : List Char) :
    writeString name ++ ':' :: value.write ++ rest =
      '"' :: (name.toList.flatMap escapeChar ++ '"' :: ':' :: (value.write ++ rest)) := by
  simp [writeString]

/-- The text of the members of an object begins with a quote. -/
theorem writeFields_eq_cons (field : String × Json) (fields : List (String × Json))
    (rest : List Char) : ∃ cs, writeFields (field :: fields) ++ rest = '"' :: cs := by
  obtain ⟨name, value⟩ := field
  cases fields with
  | nil => exact ⟨_, by rw [writeFields, writeField_eq]⟩
  | cons => exact ⟨_, by rw [writeFields, List.append_assoc, writeField_eq]; exact nofun⟩

theorem readMembers_writeFields {fields : List (String × Json)}
    (hexact : ∀ field ∈ fields, field.2.Exact) (hfields : ∀ field ∈ fields, ReadsBack field.2)
    (hne : fields ≠ []) {fuel : Nat} (hfuel : 2 * (writeFields fields).length + 1 ≤ fuel)
    (rest : List Char) :
    readMembers fuel (writeFields fields ++ '}' :: rest) = .ok (fields, rest) := by
  induction fields generalizing fuel with
  | nil => exact absurd rfl hne
  | cons field fields ih =>
    obtain ⟨name, value⟩ := field
    have hvalue : ReadsBack value := hfields (name, value) List.mem_cons_self
    have hvalueExact : value.Exact := hexact (name, value) List.mem_cons_self
    obtain ⟨c, cs, hcs, hc⟩ := write_eq_cons hvalueExact
    have hskip : ∀ rest, skipSpace (value.write ++ rest) = value.write ++ rest := by
      intro rest
      rw [hcs, List.cons_append, skipSpace_of_starts hc]
    obtain ⟨fuel, rfl⟩ : ∃ k, fuel = k + 1 := ⟨fuel - 1, by omega⟩
    cases fields with
    | nil =>
      rw [writeFields, List.length_append, List.length_cons] at hfuel
      have hread := hvalue fuel ('}' :: rest) (stops_cons (by decide) rest) (by omega)
      rw [writeFields, writeField_eq, readMembers]
      simp only [readString_writeString, ok_bind, skipSpace_of_starts (c := ':') (by decide),
        hskip, hread, String.ofList_toList, skipSpace_of_close (c := '}') (by decide)]
    | cons next fields =>
      have hwrite : writeFields ((name, value) :: next :: fields) =
          writeString name ++ ':' :: value.write ++ ',' :: writeFields (next :: fields) := by
        rw [writeFields]
        exact nofun
      rw [hwrite, List.length_append, List.length_append, List.length_cons, List.length_cons]
        at hfuel
      have hrest : readMembers fuel (writeFields (next :: fields) ++ '}' :: rest) =
          .ok (next :: fields, rest) :=
        ih (fun field hfield => hexact field (List.mem_cons_of_mem _ hfield))
          (fun field hfield => hfields field (List.mem_cons_of_mem _ hfield))
          (List.cons_ne_nil _ _) (by omega)
      obtain ⟨cs', hcs'⟩ := writeFields_eq_cons next fields ('}' :: rest)
      have hread := hvalue fuel (',' :: (writeFields (next :: fields) ++ '}' :: rest))
        (stops_cons (by decide) _) (by omega)
      rw [hwrite, List.append_assoc, writeField_eq, readMembers]
      simp only [readString_writeString, ok_bind, skipSpace_of_starts (c := ':') (by decide),
        hskip, List.cons_append, hread, String.ofList_toList,
        skipSpace_of_starts (c := ',') (by decide)]
      rw [hcs', skipSpace_of_starts (by decide), ← hcs', hrest, ok_bind]

theorem readsBack {j : Json} (h : j.Exact) : ReadsBack j := by
  induction j using Json.induction with
  | null =>
    intro fuel rest _ hfuel
    obtain ⟨fuel, rfl⟩ : ∃ k, fuel = k + 1 := ⟨fuel - 1, by simp [write] at hfuel; omega⟩
    rw [write, readValue.eq_def]
    rfl
  | bool b =>
    intro fuel rest _ hfuel
    obtain ⟨fuel, rfl⟩ : ∃ k, fuel = k + 1 := ⟨fuel - 1, by cases b <;> simp [write] at hfuel <;> omega⟩
    cases b <;>
    · rw [write, readValue.eq_def]
      rfl
  | int n =>
    cases h with
    | int hsafe =>
      intro fuel rest hstops hfuel
      obtain ⟨c, cs, hcs, _⟩ := write_eq_cons (.int hsafe)
      rw [hcs, List.length_cons] at hfuel
      obtain ⟨fuel, rfl⟩ : ∃ k, fuel = k + 1 := ⟨fuel - 1, by omega⟩
      rw [write]
      exact readValue_writeInt hsafe hstops
  | float token => cases h
  | str s =>
    intro fuel rest _ hfuel
    rw [write, writeString] at hfuel
    rw [List.length_append, List.length_cons] at hfuel
    obtain ⟨fuel, rfl⟩ : ∃ k, fuel = k + 1 := ⟨fuel - 1, by omega⟩
    have hwrite : (Json.str s).write ++ rest =
        '"' :: (s.toList.flatMap escapeChar ++ '"' :: rest) := by simp [write, writeString]
    rw [hwrite, readValue.eq_def]
    simp only [readString_writeString, ok_bind, String.ofList_toList]
  | arr items ih =>
    cases h with
    | arr hitems =>
      intro fuel rest _ hfuel
      rw [write, List.length_append, List.length_cons, List.length_singleton] at hfuel
      obtain ⟨fuel, rfl⟩ : ∃ k, fuel = k + 1 := ⟨fuel - 1, by omega⟩
      have hwrite : (Json.arr items).write ++ rest = '[' :: (writeItems items ++ ']' :: rest) := by
        simp [write]
      rw [hwrite]
      cases items with
      | nil =>
        rw [readValue.eq_def]
        rfl
      | cons item items =>
        have hread : readElements fuel (writeItems (item :: items) ++ ']' :: rest) =
            .ok (item :: items, rest) :=
          readElements_writeItems hitems (fun j hj => ih j hj (hitems j hj))
            (List.cons_ne_nil _ _) (by omega) rest
        obtain ⟨c, cs, hcs, hc⟩ := writeItems_eq_cons (hitems item List.mem_cons_self)
          (']' :: rest)
        rw [hcs] at hread ⊢
        rw [readValue.eq_def]
        simp only [skipSpace_of_starts hc]
        split
        · rename_i heq
          cases heq
          exact absurd rfl hc.2.2.2.2.1
        · rw [hread, ok_bind]
  | obj fields ih =>
    cases h with
    | obj hnodup hfields =>
      intro fuel rest _ hfuel
      rw [write, List.length_append, List.length_cons, List.length_singleton] at hfuel
      obtain ⟨fuel, rfl⟩ : ∃ k, fuel = k + 1 := ⟨fuel - 1, by omega⟩
      have hwrite : (Json.obj fields).write ++ rest =
          '{' :: (writeFields fields ++ '}' :: rest) := by simp [write]
      rw [hwrite]
      cases fields with
      | nil =>
        rw [readValue.eq_def]
        rfl
      | cons field fields =>
        have hread : readMembers fuel (writeFields (field :: fields) ++ '}' :: rest) =
            .ok (field :: fields, rest) :=
          readMembers_writeFields hfields (fun field hfield =>
            ih field hfield (hfields field hfield)) (List.cons_ne_nil _ _) (by omega) rest
        obtain ⟨cs, hcs⟩ := writeFields_eq_cons field fields ('}' :: rest)
        rw [hcs] at hread ⊢
        rw [readValue.eq_def]
        simp only [skipSpace_of_starts (c := '"') (by decide)]
        split
        · rename_i heq
          cases heq
        · rw [hread, ok_bind]
          simp only [uniqueObject_of_nodup hnodup, ok_bind]

/-- A text that the writer gives, with spaces after it or without, is read as its value. -/
theorem loads_write_append {j : Json} (h : j.Exact) {rest : List Char} (hstops : Stops rest)
    (hspace : skipSpace rest = []) : loads (j.write ++ rest) = .ok j := by
  obtain ⟨c, cs, hcs, hc⟩ := write_eq_cons h
  have hread := readsBack h (2 * (j.write ++ rest).length + 2) rest hstops
    (by rw [List.length_append]; omega)
  have hskip : skipSpace (j.write ++ rest) = j.write ++ rest := by
    rw [hcs, List.cons_append, skipSpace_of_starts hc]
  rw [loads, hskip, hread, ok_bind]
  exact if_pos hspace

theorem loads_write {j : Json} (h : j.Exact) : loads (j.write ++ ['\n']) = .ok j :=
  loads_write_append h (stops_cons (by decide) []) rfl

/-! ### Canonical text -/

theorem Exact.canonical {j : Json} (h : j.Exact) : j.canonical.Exact := by
  induction h with
  | null => exact canonical_null ▸ .null
  | bool b => exact canonical_bool b ▸ .bool b
  | int h => exact canonical_int _ ▸ .int h
  | str s => exact canonical_str s ▸ .str s
  | @arr items _ ih =>
    rw [canonical_arr]
    exact .arr (by simpa using ih)
  | @obj fields hnodup _ ih =>
    rw [canonical_obj]
    refine .obj ?_ fun field hfield => ?_
    · have hperm := (sortedBy_perm Prod.fst
        (fields.map fun field => (field.1, field.2.canonical))).map Prod.fst
      rw [hperm.nodup_iff, List.map_map]
      exact hnodup
    · obtain ⟨field, hmem, rfl⟩ := List.mem_map.mp (mem_sortedBy.mp hfield)
      exact ih field hmem

/-- The canonical line of a value is read as the canonical form of the value. -/
theorem loads_canonicalLine {j : Json} (h : j.Exact) :
    loads j.canonicalLine = .ok j.canonical :=
  loads_write h.canonical

/-- Two values have one canonical line exactly when they are equal. -/
theorem canonicalLine_inj {j k : Json} (hj : j.Exact) (hk : k.Exact) :
    j.canonicalLine = k.canonicalLine ↔ j.Same k := by
  constructor
  · intro h
    have hread := loads_canonicalLine hj
    rw [h, loads_canonicalLine hk, Except.ok.injEq] at hread
    exact hread.symm
  · intro h
    rw [canonicalLine, canonicalLine, h]

theorem heightItems_le {items : List Json} {n : Nat} :
    heightItems items ≤ n ↔ ∀ item ∈ items, item.height ≤ n := by
  induction items with
  | nil => simp [heightItems]
  | cons item items ih => rw [heightItems, max_le_iff, ih, List.forall_mem_cons]

theorem heightFields_le {fields : List (String × Json)} {n : Nat} :
    heightFields fields ≤ n ↔ ∀ field ∈ fields, field.2.height ≤ n := by
  induction fields with
  | nil => simp [heightFields]
  | cons field fields ih => rw [heightFields, max_le_iff, ih, List.forall_mem_cons]

/-- Sorting fields changes no height. -/
theorem height_canonical_le {j : Json} {n : Nat} : j.canonical.height ≤ n ↔ j.height ≤ n := by
  induction j using Json.induction generalizing n with
  | null | bool | int | float | str => simp
  | arr items ih =>
    rw [canonical_arr, height, height]
    cases n with
    | zero => omega
    | succ n =>
      rw [Nat.succ_le_succ_iff, Nat.succ_le_succ_iff, heightItems_le, heightItems_le,
        List.forall_mem_map]
      exact forall₂_congr fun item hitem => ih item hitem
  | obj fields ih =>
    rw [canonical_obj, height, height]
    cases n with
    | zero => omega
    | succ n =>
      rw [Nat.succ_le_succ_iff, Nat.succ_le_succ_iff, heightFields_le, heightFields_le]
      simp only [mem_sortedBy, List.forall_mem_map]
      exact forall₂_congr fun field hfield => ih field hfield

theorem height_canonical (j : Json) : j.canonical.height = j.height :=
  le_antisymm (height_canonical_le.mpr le_rfl) (height_canonical_le.mp le_rfl)

end Json

end Ucf
