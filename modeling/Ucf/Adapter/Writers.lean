import Ucf.Go.CanonicalJson
import Ucf.Library.Bytes
import Ucf.Typescript.CanonicalJson

/-! The three canonical JSON writers: the core's, the Go adapter's and the TypeScript adapter's. They
give the same text except where a string holds `U+007F`, which only the Go writer leaves as it is,
and where UTF-16 orders the member names of an object otherwise than their code points. -/

namespace Ucf

open Json

namespace Go

/-! ### The Go adapter -/

/-- What the Go adapter writes for a character of a string. -/
def escape (c : Char) : List Char := if c = '\x7f' then [c] else escapeChar c

theorem appendUnicodeEscape_eq (destination : List Char) (n : Nat) :
    appendUnicodeEscape destination n = destination ++ '\\' :: 'u' :: hexChars 4 n := by
  have hthree : n / 0x1000 = n / 16 / 16 / 16 := by omega
  have htwo : n / 0x100 = n / 16 / 16 := by omega
  rw [appendUnicodeEscape, hexChars_four, hthree, htwo]

theorem appendCharacter_eq (destination : List Char) (c : Char) :
    appendCharacter destination c = destination ++ escape c := by
  by_cases hquote : c = '"'
  · subst hquote
    rfl
  by_cases hslash : c = '\\'
  · subst hslash
    rfl
  have hchar : ∀ d : Char, c = d ↔ c.toNat = d.toNat := fun d => char_toNat_injective.eq_iff.symm
  unfold appendCharacter escape escapeChar
  simp only [appendUnicodeEscape_eq, hquote, hslash, or_self, if_false, hchar, Char.reduceToNat]
  split_ifs
  all_goals first
    | rfl
    | omega
    | simp

theorem appendJSONString_eq (destination : List Char) (s : String) :
    appendJSONString destination s = destination ++ literal escape s := by
  have hloop : ∀ (cs destination : List Char), cs.foldl appendCharacter destination =
      destination ++ cs.flatMap escape := by
    intro cs
    induction cs with
    | nil => simp
    | cons c cs ih =>
      intro destination
      rw [List.foldl_cons, ih, appendCharacter_eq, List.flatMap_cons, List.append_assoc]
  rw [appendJSONString, hloop, literal]
  simp

theorem validSafeInteger_writeInt {n : Int} (h : SafeInt n) :
    validSafeInteger (writeInt n) = true := by
  have hdigits : ∀ m : Nat, digitsOf (writeNat m) = writeNat m ∧
      (m ≠ 0 → ((writeNat m).head?.any fun c => '1' ≤ c && c ≤ '9') = true) ∧
      (writeNat m).all isDecimal = true := by
    intro m
    obtain ⟨c, cs, hcons, hc, hzero⟩ := writeNat_eq_cons m
    refine ⟨?_, fun hm => ?_, List.all_eq_true.mpr (isDecimal_writeNat m)⟩
    · rw [digitsOf, hcons, List.head?_cons, if_neg]
      intro hminus
      rw [Option.some.injEq] at hminus
      rw [hminus] at hc
      exact absurd hc (by decide)
    · rw [hcons, List.head?_cons, Option.any_some]
      have hne : c ≠ '0' := fun hc => hm (hzero hc).2
      unfold isDecimal at hc
      simp only [Bool.and_eq_true, decide_eq_true_eq] at hc ⊢
      refine ⟨?_, hc.2⟩
      have hlt : '0' < c := lt_of_le_of_ne hc.1 (Ne.symm hne)
      exact hlt
  cases n with
  | ofNat m =>
    obtain ⟨hsame, hfirst, hall⟩ := hdigits m
    unfold SafeInt at h
    have hle : m ≤ 9007199254740991 := by simpa using h.2
    rw [writeInt, validSafeInteger, integerPattern, hsame, natOfDigits_writeNat]
    have hne : writeNat m ≠ ['-', '0'] := by
      intro heq
      rw [heq] at hall
      exact absurd hall (by decide)
    by_cases hm : m = 0
    · subst hm
      simp [writeNat]
    · simp [hfirst hm, hall, hne, hle]
  | negSucc m =>
    obtain ⟨-, hfirst, hall⟩ := hdigits (m + 1)
    unfold SafeInt at h
    have hle : m + 1 ≤ 9007199254740991 := by omega
    have hsame : digitsOf ('-' :: writeNat (m + 1)) = writeNat (m + 1) := by simp [digitsOf]
    rw [writeInt, validSafeInteger, integerPattern, hsame, natOfDigits_writeNat]
    have hne : writeNat (m + 1) ≠ ['0'] := by
      intro heq
      have hval := natOfDigits_writeNat (m + 1)
      rw [heq] at hval
      exact absurd hval (by simp [natOfDigits])
    simp [hfirst (by omega), hall, hne, hle]

theorem intercalate_cons_flatMap {α : Type} (text : α → List Char) (a : α) (items : List α) :
    List.intercalate [','] ((a :: items).map text) =
      text a ++ items.flatMap fun b => ',' :: text b := by
  induction items generalizing a with
  | nil => simp
  | cons b items ih =>
    rw [List.map_cons, List.map_cons, List.intercalate_cons_cons, ← List.map_cons, ih,
      List.flatMap_cons]
    simp

theorem appendRest_map {α : Type} {items : List α} {item : α → Append} {text : α → List Char}
    (h : ∀ a ∈ items, ∀ destination, item a destination = some (destination ++ text a))
    (destination : List Char) : appendRest (items.map item) destination =
      some (destination ++ items.flatMap fun a => ',' :: text a) := by
  induction items generalizing destination with
  | nil => simp [appendRest]
  | cons a items ih =>
    rw [List.map_cons, appendRest, h a List.mem_cons_self]
    refine (ih (fun b hb => h b (List.mem_cons_of_mem _ hb)) _).trans ?_
    simp

theorem appendEach_map {α : Type} {items : List α} {item : α → Append} {text : α → List Char}
    (h : ∀ a ∈ items, ∀ destination, item a destination = some (destination ++ text a))
    (destination : List Char) : appendEach (items.map item) destination =
      some (destination ++ List.intercalate [','] (items.map text)) := by
  cases items with
  | nil => simp [appendEach]
  | cons a items =>
    rw [List.map_cons, appendEach, h a List.mem_cons_self]
    refine (appendRest_map (fun b hb => h b (List.mem_cons_of_mem _ hb)) _).trans ?_
    rw [intercalate_cons_flatMap, List.append_assoc]

theorem ofJson_arr (made : Int → Bool) (items : List Json) :
    appendCanonicalJSON (.ofJson made (.arr items)) = fun destination => do
      let destination ← appendEach
        (items.map fun item => appendCanonicalJSON (.ofJson made item)) (destination ++ ['['])
      return destination ++ [']'] := by
  have hitems : appendItems (GoValue.ofJsonItems made items) =
      items.map fun item => appendCanonicalJSON (.ofJson made item) := by
    induction items with
    | nil => rfl
    | cons item items ih => rw [GoValue.ofJsonItems, appendItems, ih, List.map_cons]
  funext destination
  rw [GoValue.ofJson, appendCanonicalJSON, hitems]

/-- What writes a member. -/
def appendMember (made : Int → Bool) (field : String × Json) : Append := fun destination =>
  appendCanonicalJSON (.ofJson made field.2) (appendJSONString destination field.1 ++ [':'])

/-- Sorting by bytes sorts by code points. -/
theorem sortedBy_utf8Units (fields : List (String × Json)) :
    sortedBy (fun field => utf8Units field.1) fields = sortedBy Prod.fst fields := by
  have hle : (fun a b : String × Json => utf8Units a.1 ≤ utf8Units b.1) =
      fun a b => a.1 ≤ b.1 := by
    funext a b
    rw [← not_lt, ← not_lt, utf8Units_lt_iff]
  unfold sortedBy
  simp only [hle]

theorem ofJson_obj (made : Int → Bool) (fields : List (String × Json)) :
    appendCanonicalJSON (.ofJson made (.obj fields)) = fun destination => do
      let destination ← appendEach ((sortedBy Prod.fst fields).map (appendMember made))
        (destination ++ ['{'])
      return destination ++ ['}'] := by
  have hmembers : appendMembers (GoValue.ofJsonFields made fields) =
      fields.map fun field => (field.1, appendMember made field) := by
    induction fields with
    | nil => rfl
    | cons field fields ih =>
      rw [GoValue.ofJsonFields, appendMembers, ih, List.map_cons]
      rfl
  funext destination
  rw [GoValue.ofJson, appendCanonicalJSON, hmembers,
    sortedBy_map (fun member : String × Append => utf8Units member.1), List.map_map,
    sortedBy_utf8Units]
  rfl

theorem appendCanonicalJSON_ofJson (made : Int → Bool) {j : Json} (h : j.Exact)
    (destination : List Char) : appendCanonicalJSON (.ofJson made j) destination =
      some (destination ++ writeWith escape j.canonical) := by
  induction h generalizing destination with
  | null => rfl
  | bool b => cases b <;> rfl
  | @int n hn =>
    rw [GoValue.ofJson, canonical_int, writeWith]
    split
    · rfl
    · rw [appendCanonicalJSON, if_pos (validSafeInteger_writeInt hn)]
  | str s => rw [GoValue.ofJson, appendCanonicalJSON, appendJSONString_eq, canonical_str, writeWith]
  | arr _ ih =>
    rw [ofJson_arr, canonical_arr, writeWith_arr, List.map_map]
    simp only [appendEach_map ih]
    simp [Function.comp_def]
  | @obj fields _ _ ih =>
    have hsort : sortedBy Prod.fst (fields.map fun field => (field.1, field.2.canonical)) =
        (sortedBy Prod.fst fields).map fun field => (field.1, field.2.canonical) :=
      sortedBy_map _ _ fields
    have hmember : ∀ field ∈ sortedBy Prod.fst fields, ∀ destination,
        appendMember made field destination =
          some (destination ++ writeField escape (field.1, field.2.canonical)) := by
      intro field hfield destination
      rw [appendMember, ih field (mem_sortedBy.mp hfield), appendJSONString_eq, writeField]
      simp
    rw [ofJson_obj, canonical_obj, writeWith_obj, hsort, List.map_map]
    simp only [appendEach_map hmember]
    simp [Function.comp_def]

end Go

namespace Typescript

/-! ### The TypeScript adapter -/

theorem encodeUnit_high {code : Nat} (h : 0x7e < code) :
    encodeUnit code = '\\' :: 'u' :: hexChars 4 code := by
  unfold encodeUnit
  repeat rw [if_neg (by omega)]
  rw [if_pos (Or.inr h)]

theorem encodeUnit_utf16 (c : Char) : (utf16 c).flatMap encodeUnit = escapeChar c := by
  have hvalid := char_toNat_valid c
  have hchar : ∀ d : Char, c = d ↔ c.toNat = d.toNat := fun d => char_toNat_injective.eq_iff.symm
  unfold utf16 escapeChar
  simp only [hchar, Char.reduceToNat]
  split
  · rw [List.flatMap_singleton, encodeUnit]
    split_ifs <;> first | rfl | omega | rw [Char.ofNat_toNat]
  · -- a pair: both of its units are above the tilde
    repeat rw [if_neg (by omega)]
    rw [List.flatMap_cons, List.flatMap_singleton, encodeUnit_high (by omega),
      encodeUnit_high (by omega)]

theorem encodeString_utf16Units (s : String) : encodeString (utf16Units s) = literal escapeChar s := by
  have hunits : (utf16Units s).flatMap encodeUnit = s.toList.flatMap escapeChar := by
    rw [utf16Units, List.flatMap_assoc]
    exact List.flatMap_congr fun c _ => encodeUnit_utf16 c
  rw [encodeString, literal, hunits]

theorem encodeItems_map {items : List Json} {text : Json → List Char}
    (h : ∀ item ∈ items, encode (.ofJson item) = some (text item)) :
    encodeItems (JsValue.ofJsonItems items) = some (items.map text) := by
  induction items with
  | nil => rfl
  | cons item items ih =>
    rw [JsValue.ofJsonItems, encodeItems, h item List.mem_cons_self,
      ih fun item hitem => h item (List.mem_cons_of_mem _ hitem)]
    rfl

theorem encodeMembers_map {fields : List (String × Json)} {text : Json → List Char}
    (h : ∀ field ∈ fields, encode (.ofJson field.2) = some (text field.2)) :
    encodeMembers (JsValue.ofJsonFields fields) = some (fields.map fun field =>
      (utf16Units field.1, literal escapeChar field.1 ++ ':' :: text field.2)) := by
  induction fields with
  | nil => rfl
  | cons field fields ih =>
    rw [JsValue.ofJsonFields, encodeMembers, h field List.mem_cons_self,
      ih fun field hfield => h field (List.mem_cons_of_mem _ hfield), encodeString_utf16Units]
    rfl

theorem encode_ofJson {j : Json} (h : j.Exact) :
    encode (.ofJson j) = some (j.canonicalBy utf16Units).write := by
  rw [← writeWith_escapeChar]
  induction h with
  | null => rfl
  | bool b => cases b <;> rfl
  | @int n hn => rw [JsValue.ofJson, encode, if_pos hn, canonicalBy, writeWith]
  | str s => rw [JsValue.ofJson, encode, encodeString_utf16Units, canonicalBy, writeWith]
  | arr _ ih =>
    rw [JsValue.ofJson, encode, encodeItems_map ih, canonicalBy_arr, writeWith_arr, List.map_map]
    rfl
  | @obj fields _ _ ih =>
    have hsort := sortedBy_map (fun field : String × Json => utf16Units field.1)
      (fun field => (field.1, field.2.canonicalBy utf16Units)) fields
    have hparts := @encodeMembers_map fields
      (fun value => writeWith escapeChar (value.canonicalBy utf16Units)) ih
    have hsorted := sortedBy_map (Prod.fst : List Nat × List Char → List Nat)
      (fun field : String × Json => (utf16Units field.1, literal escapeChar field.1 ++
        ':' :: writeWith escapeChar (field.2.canonicalBy utf16Units))) fields
    rw [JsValue.ofJson, encode, hparts, canonicalBy_obj, writeWith_obj, hsort, List.map_map]
    refine congrArg some ?_
    rw [join, hsorted, List.map_map]
    rfl

end Typescript

/-! ### Agreement -/

/-- No string of the value holds the character `U+007F`. -/
def Json.WithoutDelete (j : Json) : Prop := ∀ s ∈ j.texts, '\x7f' ∉ s.toList

/-- No two names of an object first differ in a character from `U+E000` to `U+FFFF` and one above
`U+FFFF`. -/
def Json.WithoutCrossedNames (j : Json) : Prop :=
  ∀ names ∈ j.memberNames, ∀ a ∈ names, ∀ b ∈ names, ¬Differs Crossed a.toList b.toList

theorem write_injective {j k : Json} (hj : j.Exact) (hk : k.Exact) (h : j.write = k.write) :
    j = k := by
  have hload := loads_write hj
  rw [h, loads_write hk, Except.ok.injEq] at hload
  exact hload.symm

/-- The Go writer gives the core's text exactly when no string holds `U+007F`. -/
theorem go_agrees_iff {j : Json} (h : j.Exact) :
    writeWith Go.escape j.canonical = j.canonical.write ↔ j.WithoutDelete := by
  rw [← writeWith_escapeChar]
  constructor
  · intro heq s hs hc
    have hmem : '\x7f' ∈ writeWith Go.escape j.canonical :=
      mem_writeWith (mem_texts_canonical.mpr hs) hc (by decide)
    rw [heq, writeWith_escapeChar] at hmem
    exact absurd (printable_write h.canonical _ hmem).2 (by decide)
  · intro hplain
    refine writeWith_congr fun s hs c hc => ?_
    rw [Go.escape, if_neg]
    rintro rfl
    exact hplain s (mem_texts_canonical.mp hs) hc

/-- The TypeScript writer gives the core's text exactly when no object has crossed names. -/
theorem typescript_agrees_iff {j : Json} (h : j.Exact) :
    (j.canonicalBy utf16Units).write = j.canonical.write ↔ j.WithoutCrossedNames := by
  have hwrite : (j.canonicalBy utf16Units).write = j.canonical.write ↔
      j.canonicalBy utf16Units = j.canonical :=
    ⟨write_injective (canonicalBy_exact h) h.canonical, congrArg write⟩
  rw [hwrite, canonicalBy_eq_canonical_iff utf16Units_injective h]
  simp only [utf16Units_lt_iff]
  constructor
  · intro hall names hnames a ha b hb
    exact (hall names hnames a ha b hb).1
  · intro hall names hnames a ha b hb
    exact ⟨hall names hnames a ha b hb, hall names hnames b hb a ha⟩

/-- The core, the Go adapter and the TypeScript adapter write three copies of a value, which may hold
the members of their objects in different orders, as the same bytes. -/
def WritersAgree (made : Int → Bool) (core go typescript : Json) : Prop :=
  Go.appendCanonicalJSON (.ofJson made go) [] = some core.canonical.write ∧
    Typescript.canonicalJson (.ofJson typescript) = some (canonicalLine core)

/-- The writers agree on a value exactly when none of its strings holds `U+007F` and none of its
objects has crossed names. -/
theorem writersAgree_iff (made : Int → Bool) {j k l : Json} (hj : j.Exact) (hk : k.Exact)
    (hl : l.Exact) (hkj : Same k j) (hlj : Same l j) :
    WritersAgree made j k l ↔ j.WithoutDelete ∧ j.WithoutCrossedNames := by
  have hgo : Go.appendCanonicalJSON (.ofJson made k) [] = some j.canonical.write ↔
      j.WithoutDelete := by
    rw [Go.appendCanonicalJSON_ofJson made hk, hkj, List.nil_append, Option.some.injEq]
    exact go_agrees_iff hj
  have htypescript : Typescript.canonicalJson (.ofJson l) = some (canonicalLine j) ↔
      j.WithoutCrossedNames := by
    rw [Typescript.canonicalJson, Typescript.encode_ofJson hl, canonicalLine,
      canonicalBy_congr utf16Units_injective hl hj hlj]
    refine Iff.trans ?_ (typescript_agrees_iff hj)
    simp
  rw [WritersAgree, hgo, htypescript]

namespace Sample

/-- An object with its members in two orders. -/
def ports : Json := .obj [("port", .int 8080), ("host", .str "\u00e9")]

def portsReversed : Json := .obj [("host", .str "\u00e9"), ("port", .int 8080)]

theorem exact_ports : ports.Exact ∧ portsReversed.Exact := by
  constructor
  all_goals
    refine .obj (by decide) ?_
    intro field hfield
    simp only [List.mem_cons, List.not_mem_nil, or_false] at hfield
    rcases hfield with rfl | rfl
    · first | exact .int (by decide) | exact .str _
    · first | exact .int (by decide) | exact .str _

theorem writersAgree_iff_ports :
    WritersAgree (fun _ => false) ports portsReversed ports ↔
      ports.WithoutDelete ∧ ports.WithoutCrossedNames :=
  writersAgree_iff _ exact_ports.1 exact_ports.2 exact_ports.1
    (show portsReversed.canonical = ports.canonical by decide +kernel) rfl

/-- The Go writer leaves `U+007F` as it is, and UTF-16 puts a character above `U+FFFF` before
`U+E000`. -/
theorem writers_disagree :
    (Json.str "\x7f").Exact ∧
      Go.appendCanonicalJSON (.ofJson (fun _ => false) (.str "\x7f")) [] ≠
        some (Json.str "\x7f").canonical.write ∧
      (Json.obj [("\ue000", .null), ("𐀀", .null)]).Exact ∧
      Typescript.canonicalJson (.ofJson (.obj [("\ue000", .null), ("𐀀", .null)])) ≠
        some (canonicalLine (.obj [("\ue000", .null), ("𐀀", .null)])) := by
  refine ⟨.str _, by decide +kernel, .obj (by decide) ?_, by decide +kernel⟩
  intro field hfield
  simp only [List.mem_cons, List.not_mem_nil, or_false] at hfield
  rcases hfield with rfl | rfl <;> exact .null

end Sample

end Ucf
