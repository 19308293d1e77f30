import Ucf.Library.JsonRoundTrip

/-! Texts as bytes: ASCII characters as one byte each, UTF-8 decoding, and the characters that the
JSON writer uses. -/

namespace Ucf

def isAscii (c : Char) : Bool := c.toNat < 128

/-- The byte of an ASCII character. -/
def asciiByte (c : Char) : UInt8 := c.val.toUInt8

/-- `text.encode("ascii")` -/
def asciiEncode (text : List Char) : Option (List UInt8) :=
  if text.all isAscii then some (text.map asciiByte) else none

/-- `payload.decode("utf-8")` -/
def utf8Decode (bytes : List UInt8) : Option (List Char) :=
  bytes.toByteArray.utf8Decode?.map Array.toList

/-- `text.encode("utf-8")` -/
def utf8Encode (text : List Char) : List UInt8 := text.flatMap String.utf8EncodeChar

@[simp] theorem utf8Decode_utf8Encode (text : List Char) :
    utf8Decode (utf8Encode text) = some text := by
  have hbytes : (utf8Encode text).toByteArray = text.utf8Encode := rfl
  rw [utf8Decode, hbytes, List.utf8Decode?_utf8Encode]
  rfl

theorem utf8Encode_injective {text text' : List Char} (h : utf8Encode text = utf8Encode text') :
    text = text' := by
  have hdecode := utf8Decode_utf8Encode text
  rw [h, utf8Decode_utf8Encode, Option.some.injEq] at hdecode
  exact hdecode.symm

theorem utf8EncodeChar_of_isAscii {c : Char} (h : isAscii c = true) :
    String.utf8EncodeChar c = [asciiByte c] := by
  refine String.utf8EncodeChar_eq_singleton ?_
  have hlt : c.val.toNat < 128 := of_decide_eq_true h
  rw [Char.utf8Size_eq_one_iff, UInt32.le_iff_toNat_le]
  exact Nat.le_of_lt_succ hlt

/-- ASCII text is decoded as itself. -/
theorem utf8Decode_asciiEncode {text : List Char} {bytes : List UInt8}
    (h : asciiEncode text = some bytes) : utf8Decode bytes = some text := by
  unfold asciiEncode at h
  split at h
  · rename_i hall
    rw [Option.some.injEq] at h
    subst h
    have hencode : (text.map asciiByte).toByteArray = text.utf8Encode := by
      rw [List.utf8Encode]
      congr 1
      induction text with
      | nil => rfl
      | cons c text ih =>
        rw [List.all_cons, Bool.and_eq_true] at hall
        rw [List.map_cons, List.flatMap_cons, utf8EncodeChar_of_isAscii hall.1, ih hall.2]
        rfl
    rw [utf8Decode, hencode, List.utf8Decode?_utf8Encode]
    rfl
  · cases h

theorem asciiByte_eq_newline {c : Char} (h : isAscii c = true) : asciiByte c = 10 ↔ c = '\n' := by
  have hlt : c.val.toNat < 128 := of_decide_eq_true h
  constructor
  · intro heq
    have hnat : c.val.toNat = 10 := by
      have := congrArg UInt8.toNat heq
      rw [asciiByte, UInt32.toNat_toUInt8, Nat.mod_eq_of_lt (by omega)] at this
      exact this
    exact Char.ext (UInt32.toNat.inj hnat)
  · rintro rfl
    rfl

namespace Json

/-- Characters from the space to the tilde. -/
def Printable (c : Char) : Prop := 0x20 ≤ c.toNat ∧ c.toNat ≤ 0x7e

theorem Printable.isAscii {c : Char} (h : Printable c) : Ucf.isAscii c = true := by
  have := h.2
  simp only [Ucf.isAscii, decide_eq_true_eq]
  omega

theorem not_printable_newline : ¬Printable '\n' := by
  unfold Printable
  decide

theorem printable_hexChars (count n : Nat) : ∀ c ∈ hexChars count n, Printable c := by
  have hdigit : ∀ m < 16, Printable (hexChar m) := by
    unfold Printable
    decide
  induction count generalizing n with
  | zero => simp [hexChars]
  | succ count ih =>
    intro c hc
    rw [hexChars, List.mem_append, List.mem_singleton] at hc
    rcases hc with hc | rfl
    · exact ih _ c hc
    · exact hdigit _ (Nat.mod_lt _ (by decide))

theorem printable_escapeChar (d : Char) : ∀ c ∈ escapeChar d, Printable c := by
  have hhex : ∀ n, ∀ c ∈ '\\' :: 'u' :: hexChars 4 n, Printable c := by
    intro n c hc
    rw [List.mem_cons, List.mem_cons] at hc
    rcases hc with rfl | rfl | hc
    · exact ⟨by decide, by decide⟩
    · exact ⟨by decide, by decide⟩
    · exact printable_hexChars 4 n c hc
  have hpair : ∀ e, Printable e → ∀ c ∈ ['\\', e], Printable c := by
    intro e he c hc
    rw [List.mem_cons, List.mem_singleton] at hc
    rcases hc with rfl | rfl
    · exact ⟨by decide, by decide⟩
    · exact he
  unfold escapeChar
  dsimp only
  iterate 7
    split
    · exact hpair _ ⟨by decide, by decide⟩
  split
  · rename_i hrange
    intro c hc
    rw [List.mem_singleton] at hc
    subst hc
    exact hrange
  · split
    · exact hhex _
    · intro c hc
      rw [List.cons_append, List.cons_append, ← List.cons_append, ← List.cons_append,
        List.mem_append] at hc
      exact hc.elim (hhex _ c) (hhex _ c)

theorem printable_writeString (s : String) : ∀ c ∈ writeString s, Printable c := by
  intro c hc
  rw [writeString, List.mem_append, List.mem_cons, List.mem_singleton, List.mem_flatMap] at hc
  rcases hc with (rfl | ⟨d, -, hc⟩) | rfl
  · exact ⟨by decide, by decide⟩
  · exact printable_escapeChar d c hc
  · exact ⟨by decide, by decide⟩

theorem printable_writeNat (n : Nat) : ∀ c ∈ writeNat n, Printable c := by
  have hdigit : ∀ d < 10, Printable (Char.ofNat (48 + d)) := by
    unfold Printable
    decide
  intro c hc
  unfold writeNat at hc
  split at hc
  · rw [List.mem_singleton] at hc
    subst hc
    exact hdigit 0 (by decide)
  · obtain ⟨d, hd, rfl⟩ := List.mem_map.mp hc
    exact hdigit d (Nat.digits_lt_base (by decide) (List.mem_reverse.mp hd))

theorem printable_writeInt (n : Int) : ∀ c ∈ writeInt n, Printable c := by
  cases n with
  | ofNat n => exact printable_writeNat n
  | negSucc n =>
    intro c hc
    rw [writeInt, List.mem_cons] at hc
    rcases hc with rfl | hc
    · exact ⟨by decide, by decide⟩
    · exact printable_writeNat _ c hc

theorem printable_writeItems {items : List Json}
    (h : ∀ item ∈ items, ∀ c ∈ item.write, Printable c) : ∀ c ∈ writeItems items, Printable c := by
  induction items with
  | nil => simp [writeItems]
  | cons item items ih =>
    have hitem := h item List.mem_cons_self
    cases items with
    | nil => exact hitem
    | cons next items =>
      intro c hc
      rw [writeItems, List.mem_append, List.mem_cons] at hc
      rcases hc with hc | rfl | hc
      · exact hitem c hc
      · exact ⟨by decide, by decide⟩
      · exact ih (fun item hmem => h item (List.mem_cons_of_mem _ hmem)) c hc
      · rintro ⟨⟩

theorem printable_writeFields {fields : List (String × Json)}
    (h : ∀ field ∈ fields, ∀ c ∈ field.2.write, Printable c) :
    ∀ c ∈ writeFields fields, Printable c := by
  induction fields with
  | nil => simp [writeFields]
  | cons field fields ih =>
    obtain ⟨name, value⟩ := field
    have hfield : ∀ c ∈ writeString name ++ ':' :: value.write, Printable c := by
      intro c hc
      rw [List.mem_append, List.mem_cons] at hc
      rcases hc with hc | rfl | hc
      · exact printable_writeString name c hc
      · exact ⟨by decide, by decide⟩
      · exact h (name, value) List.mem_cons_self c hc
    cases fields with
    | nil => exact hfield
    | cons next fields =>
      intro c hc
      rw [writeFields, List.mem_append, List.mem_cons] at hc
      rcases hc with hc | rfl | hc
      · exact hfield c hc
      · exact ⟨by decide, by decide⟩
      · exact ih (fun field hmem => h field (List.mem_cons_of_mem _ hmem)) c hc
      · rintro ⟨⟩

/-- The writer uses printable ASCII characters only. -/
theorem printable_write {j : Json} (h : j.Exact) : ∀ c ∈ j.write, Printable c := by
  have hword : ∀ cs : List Char, (cs.all fun c => 0x20 ≤ c.toNat ∧ c.toNat ≤ 0x7e) = true →
      ∀ c ∈ cs, Printable c := by
    intro cs h c hc
    simpa [Printable] using List.all_eq_true.mp h c hc
  induction h with
  | null => exact hword ['n', 'u', 'l', 'l'] (by decide)
  | bool b =>
    cases b
    · exact hword ['f', 'a', 'l', 's', 'e'] (by decide)
    · exact hword ['t', 'r', 'u', 'e'] (by decide)
  | int _ => exact printable_writeInt _
  | str s => exact printable_writeString s
  | arr _ ih =>
    intro c hc
    rw [write, List.mem_append, List.mem_cons, List.mem_singleton] at hc
    rcases hc with (rfl | hc) | rfl
    · exact ⟨by decide, by decide⟩
    · exact printable_writeItems ih c hc
    · exact ⟨by decide, by decide⟩
  | obj _ _ ih =>
    intro c hc
    rw [write, List.mem_append, List.mem_cons, List.mem_singleton] at hc
    rcases hc with (rfl | hc) | rfl
    · exact ⟨by decide, by decide⟩
    · exact printable_writeFields ih c hc
    · exact ⟨by decide, by decide⟩

end Json

end Ucf
