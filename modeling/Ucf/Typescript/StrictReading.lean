import Ucf.Adapter.StrictProfile
import Ucf.Library.Rfc8259Units

/-! The TypeScript adapter's strict parser ends on every text, and gives on the units of a text what
the profile makes of the document in it. -/

namespace Ucf.Typescript

open Rfc8259

/-! ### Strings -/

/-- Whether the scan for the closing quotation mark is after a reverse solidus. -/
def isEscaped : CharState → Bool
  | .escaped => true
  | _ => false

theorem isEscaped_plain : isEscaped .plain = false := rfl

theorem isEscaped_unit (left value : Nat) : isEscaped (.unit left value) = false := rfl

/-- What the reader gives for a token, if it ends with it. -/
def readAll (state : CharState) (token : List Nat) : Option (List Nat) :=
  match readChars state token with
  | some (units, []) => some units
  | _ => none

theorem readAll_map {state state' : CharState} {token token' : List Nat}
    {f : List Nat → List Nat}
    (h : readChars state token =
      (readChars state' token').map fun (units, rest) => (f units, rest)) :
    readAll state token = (readAll state' token').map f := by
  unfold readAll
  rw [h]
  rcases readChars state' token' with - | ⟨units, rest⟩
  · rfl
  · cases rest <;> rfl

/-- What the parser gives for a scanned token. -/
def finish (state : CharState) (scanned : Option (List Nat × List Nat)) :
    Option (List Nat × List Nat) :=
  scanned.bind fun (token, rest) => (readAll state token).map fun units => (units, rest)

/-- A character in front of the token changes what the reader gives by `f`. -/
theorem finish_cons {state state' : CharState} {c : Nat} {f : List Nat → List Nat}
    (h : ∀ text, readChars state (c :: text) =
      (readChars state' text).map fun (units, rest) => (f units, rest))
    (scanned : Option (List Nat × List Nat)) :
    finish state (scanned.map fun (token, rest) => (c :: token, rest)) =
      (finish state' scanned).map fun (units, rest) => (f units, rest) := by
  rcases scanned with - | ⟨token, rest⟩
  · rfl
  · show (readAll state (c :: token)).map _ = ((readAll state' token).map _).map _
    rw [readAll_map (h token), Option.map_map, Option.map_map]
    rfl

theorem finish_none {state : CharState} {c : Nat} (h : ∀ text, readChars state (c :: text) = none)
    (escaped : Bool) (text : List Nat) : finish state (scanString escaped (c :: text)) = none := by
  have hall : ∀ token, readAll state (c :: token) = none := fun token => by
    unfold readAll
    rw [h]
  have hmap : ∀ scanned : Option (List Nat × List Nat),
      finish state (scanned.map fun (token, rest) => (c :: token, rest)) = none := by
    rintro (- | ⟨token, rest⟩)
    · rfl
    · simp [finish, hall]
  rw [scanString]
  split_ifs
  · exact hmap _
  · exact hmap _
  · simp [finish, hall]
  · rfl
  · exact hmap _

theorem scanString_plain {c : Nat} (hescape : c ≠ escape) (hquote : c ≠ quotationMark)
    (hcontrol : ¬c < 0x20) (text : List Nat) :
    scanString false (c :: text) =
      (scanString false text).map fun (token, rest) => (c :: token, rest) := by
  rw [scanString, if_neg (by decide), if_neg hescape, if_neg hquote, if_neg hcontrol]

theorem scanString_escaped (c : Nat) (text : List Nat) :
    scanString true (c :: text) =
      (scanString false text).map fun (token, rest) => (c :: token, rest) := by
  rw [scanString, if_pos rfl]

/-- A string is read as its token is, once the scan has found where the token ends. -/
theorem readChars_scan (state : CharState) (text : List Nat) :
    readChars state text = finish state (scanString (isEscaped state) text) := by
  induction text generalizing state with
  | nil => cases state <;> rfl
  | cons c text ih =>
    cases state with
    | plain =>
      by_cases hquote : c = quotationMark
      · subst hquote
        rfl
      by_cases hescape : c = escape
      · subst hescape
        have hread : ∀ text, readChars .plain (escape :: text) =
            (readChars .escaped text).map fun (units, rest) => (id units, rest) := by
          intro text
          rw [readChars, if_neg escape_ne_quotationMark, if_pos rfl]
          simp
        have hscan : scanString (isEscaped .plain) (escape :: text) =
            (scanString true text).map fun (token, rest) => (escape :: token, rest) := rfl
        rw [hread, hscan, finish_cons hread, ih]
        rfl
      by_cases hcontrol : c < 0x20
      · rw [readChars, if_neg hquote, if_neg hescape, if_pos hcontrol, scanString,
          if_neg (by decide), if_neg hescape, if_neg hquote, if_pos hcontrol]
        rfl
      · have hread : ∀ text, readChars .plain (c :: text) =
            (readChars .plain text).map fun (units, rest) => (unitsOf c ++ units, rest) := by
          intro text
          rw [readChars, if_neg hquote, if_neg hescape, if_neg hcontrol]
        rw [hread, isEscaped_plain, scanString_plain hescape hquote hcontrol, finish_cons hread, ih]
        rfl
    | escaped =>
      rw [isEscaped, scanString_escaped]
      by_cases hu : c = 0x75
      · have hread : ∀ text, readChars .escaped (c :: text) =
            (readChars (.unit 3 0) text).map fun (units, rest) => (id units, rest) := by
          intro text
          rw [readChars, if_pos hu]
          simp
        rw [hread, finish_cons hread, ih]
        rfl
      · cases hunit : shortEscape? c with
        | none =>
          have hread : ∀ text, readChars .escaped (c :: text) = none := by
            intro text
            rw [readChars, if_neg hu, hunit]
            rfl
          rw [hread, ← scanString_escaped, finish_none hread]
        | some unit =>
          have hread : ∀ text, readChars .escaped (c :: text) =
              (readChars .plain text).map fun (units, rest) => (unit :: units, rest) := by
            intro text
            rw [readChars, if_neg hu, hunit]
            rfl
          rw [hread, finish_cons hread, ih]
          rfl
    | unit left value =>
      cases hdigit : hexValue? c with
      | none =>
        have hread : ∀ text, readChars (.unit left value) (c :: text) = none := by
          intro text
          rw [readChars, hdigit]
          rfl
        rw [hread, finish_none hread]
      | some digit =>
        have hrange : 0x30 ≤ c ∧ c ≠ 0x5c := by
          unfold hexValue? at hdigit
          split_ifs at hdigit <;> omega
        rw [isEscaped_unit, scanString_plain hrange.2 (by unfold quotationMark; omega) (by omega)]
        cases left with
        | zero =>
          have hread : ∀ text, readChars (.unit 0 value) (c :: text) =
              (readChars .plain text).map fun (units, rest) =>
                ((16 * value + digit) :: units, rest) := by
            intro text
            rw [readChars, hdigit]
            rfl
          rw [hread, finish_cons hread, ih]
          rfl
        | succ left =>
          have hread : ∀ text, readChars (.unit (left + 1) value) (c :: text) =
              (readChars (.unit left (16 * value + digit)) text).map fun (units, rest) =>
                (id units, rest) := by
            intro text
            rw [readChars, hdigit]
            simp
          rw [hread, finish_cons hread, ih]
          rfl

/-- `parseString` on the units of a text gives the string at the beginning of the text. -/
theorem parseString_inUnits (text : List Nat) : (parseString (inUnits text)).toOption =
    (readChars .plain text).map fun (units, rest) => (units, inUnits rest) := by
  rw [← readChars_inUnits, readChars_scan, isEscaped_plain, parseString]
  rcases scanString false (inUnits text) with - | ⟨token, rest⟩
  · rfl
  · have htoken : parseToken token = readAll .plain token := rfl
    have hfinish : finish .plain (some (token, rest)) =
        (readAll .plain token).map fun units => (units, rest) := rfl
    simp only [htoken, hfinish]
    cases readAll .plain token <;> rfl

/-! ### Values -/

theorem parseScalar_inUnits (levels : Nat) (text : List Nat) :
    (parseScalar (inUnits text)).toOption = (readScalar text).bind fun (doc, rest) =>
      (profile (levels + 1) doc).map fun value => (value, inUnits rest) := by
  have htrue : codes "true".toList = [0x74, 0x72, 0x75, 0x65] := rfl
  have hfalse : codes "false".toList = [0x66, 0x61, 0x6c, 0x73, 0x65] := rfl
  have hnull : codes "null".toList = [0x6e, 0x75, 0x6c, 0x6c] := rfl
  unfold parseScalar readScalar
  rw [htrue, hfalse, hnull, isPrefixOf?_inUnits (by decide), isPrefixOf?_inUnits (by decide),
    isPrefixOf?_inUnits (by decide), matchNumber_inUnits]
  rcases List.isPrefixOf? [0x74, 0x72, 0x75, 0x65] text with - | rest
  · rcases List.isPrefixOf? [0x66, 0x61, 0x6c, 0x73, 0x65] text with - | rest
    · rcases List.isPrefixOf? [0x6e, 0x75, 0x6c, 0x6c] text with - | rest
      · rcases hnumber : Rfc8259.matchNumber text with - | ⟨n, rest⟩
        · rfl
        · have hparse := parseInteger_eq (matchNumber_sound hnumber).1 (inUnits rest)
          simp only [Option.map_none, Option.map_some, hparse, Option.bind_some, profile,
            Option.map_map]
          rfl
      · rfl
    · rfl
  · rfl

theorem skipWhitespace_eq (text : List Nat) : skipWhitespace text = skipSpace text := by
  induction text with
  | nil => rfl
  | cons c text ih =>
    have hspace : c ∈ [0x20, 0x09, 0x0a, 0x0d] ↔ Rfc8259.isSpace c := by
      simp [isSpace_iff]
    rw [skipWhitespace, skipSpace, List.dropWhile_cons]
    simp only [hspace]
    split
    · exact ih
    · rfl

theorem skipWhitespace_inUnits (text : List Nat) :
    skipWhitespace (inUnits text) = inUnits (skipSpace text) := by
  rw [skipWhitespace_eq, skipSpace_inUnits]

theorem toOption_bind {α β : Type} (x : Except Thrown α) (f : α → Except Thrown β) :
    (x.bind f).toOption = x.toOption.bind fun a => (f a).toOption := by
  cases x <;> rfl

theorem toOption_map {α β : Type} (x : Except Thrown α) (f : α → β) :
    (x.map f).toOption = x.toOption.map f := by
  cases x <;> rfl

/-- The parser gives, on the units of a text, what the profile makes of the document that the reader
finds in the text. -/
structure Agrees (fuel : Nat) : Prop where
  value : ∀ depth text, (parseValue fuel depth (inUnits text)).toOption =
    (readValue fuel (skipSpace text)).bind fun (doc, rest) =>
      (profile (maxDepth + 1 - depth) doc).map fun value => (value, inUnits rest)
  items : ∀ depth text, (parseItems fuel depth (inUnits text)).toOption =
    (readItems fuel text).bind fun (docs, rest) =>
      (profileItems (maxDepth - depth) docs).map fun items => (items, inUnits rest)
  members : ∀ depth names text, (parseMembers fuel depth names (inUnits text)).toOption =
    (readMembers fuel text).bind fun (docs, rest) =>
      (profileMembers (maxDepth - depth) names docs).map fun members => (members, inUnits rest)

theorem agrees_value {fuel : Nat} (ih : Agrees fuel) (depth : Nat) (text : List Nat) :
    (parseValue (fuel + 1) depth (inUnits text)).toOption =
      (readValue (fuel + 1) (skipSpace text)).bind fun (doc, rest) =>
        (profile (maxDepth + 1 - depth) doc).map fun value => (value, inUnits rest) := by
  rw [parseValue]
  by_cases hdepth : maxDepth < depth
  · have hlevels : maxDepth + 1 - depth = 0 := by omega
    rw [if_pos hdepth, hlevels]
    cases readValue (fuel + 1) (skipSpace text) <;> simp [Except.toOption]
  rw [if_neg hdepth, skipWhitespace_inUnits]
  obtain ⟨levels, hlevels, hless⟩ : ∃ levels, maxDepth + 1 - depth = levels + 1 ∧
      maxDepth - depth = levels := ⟨maxDepth - depth, by omega, rfl⟩
  rw [hlevels]
  split
  case h_1 rest heq =>
    obtain ⟨after, hskip, rfl⟩ := (inUnits_eq_cons (by decide)).mp heq
    rw [hskip, readValue, toOption_map, parseString_inUnits]
    cases readChars .plain after <;> rfl
  case h_2 rest heq =>
    obtain ⟨after, hskip, rfl⟩ := (inUnits_eq_cons (by decide)).mp heq
    rw [hskip, readValue, parseArray, skipWhitespace_inUnits]
    split
    case h_1 rest hend =>
      obtain ⟨after', hskip', rfl⟩ := (inUnits_eq_cons (by decide)).mp hend
      rw [hskip']
      rfl
    case h_2 hend =>
      have hitems := ih.items depth (skipSpace after)
      rw [hless] at hitems
      split
      case h_1 rest hend' =>
        rw [hend'] at hend
        exact absurd (inUnits_cons_small (by decide) rest) (hend _)
      case h_2 =>
        rw [toOption_map, hitems]
        rcases readItems fuel (skipSpace after) with - | ⟨docs, rest⟩
        · rfl
        · simp only [Option.bind_some, Option.map_some, profile, Option.map_map]
          rfl
  case h_3 rest heq =>
    obtain ⟨after, hskip, rfl⟩ := (inUnits_eq_cons (by decide)).mp heq
    rw [hskip, readValue, parseObject, skipWhitespace_inUnits]
    split
    case h_1 rest hend =>
      obtain ⟨after', hskip', rfl⟩ := (inUnits_eq_cons (by decide)).mp hend
      rw [hskip']
      rfl
    case h_2 hend =>
      have hmembers := ih.members depth [] (skipSpace after)
      rw [hless] at hmembers
      split
      case h_1 rest hend' =>
        rw [hend'] at hend
        exact absurd (inUnits_cons_small (by decide) rest) (hend _)
      case h_2 =>
        rw [toOption_map, hmembers]
        rcases readMembers fuel (skipSpace after) with - | ⟨docs, rest⟩
        · rfl
        · simp only [Option.bind_some, Option.map_some, profile, Option.map_map]
          rfl
  case h_4 hquote harray hobject =>
    rw [parseScalar_inUnits levels, readValue]
    · rintro rest hskip
      rw [hskip] at hquote
      exact hquote _ (inUnits_cons_small (by decide) rest)
    · rintro rest hskip
      rw [hskip] at harray
      exact harray _ (inUnits_cons_small (by decide) rest)
    · rintro rest hskip
      rw [hskip] at hobject
      exact hobject _ (inUnits_cons_small (by decide) rest)

theorem agrees_items {fuel : Nat} (ih : Agrees fuel) (depth : Nat) (text : List Nat) :
    (parseItems (fuel + 1) depth (inUnits text)).toOption =
      (readItems (fuel + 1) text).bind fun (docs, rest) =>
        (profileItems (maxDepth - depth) docs).map fun items => (items, inUnits rest) := by
  have hvalue := ih.value (depth + 1) text
  have hlevels : maxDepth + 1 - (depth + 1) = maxDepth - depth := by omega
  rw [hlevels] at hvalue
  rw [parseItems, readItems, toOption_bind, hvalue]
  rcases readValue fuel (skipSpace text) with - | ⟨doc, rest⟩
  · rfl
  simp only [Option.bind_some]
  rcases hprofile : profile (maxDepth - depth) doc with - | value
  · rw [Option.map_none, Option.bind_none]
    split
    · simp [profileItems, hprofile]
    · rcases readItems fuel _ with - | ⟨docs, rest'⟩ <;> simp [profileItems, hprofile]
    · rfl
  rw [Option.map_some, Option.bind_some, skipWhitespace_inUnits]
  split
  case h_1 rest' hend =>
    obtain ⟨after, hskip, rfl⟩ := (inUnits_eq_cons (by decide)).mp hend
    rw [hskip]
    simp [profileItems, hprofile, Except.toOption]
  case h_2 rest' hcomma =>
    obtain ⟨after, hskip, rfl⟩ := (inUnits_eq_cons (by decide)).mp hcomma
    rw [hskip, toOption_map, ih.items]
    rcases hread : readItems fuel after with - | ⟨docs, rest'⟩
    · simp [hread]
    · simp only [hread, Option.bind_some, Option.map_some, profileItems, hprofile, Option.map_map]
      rfl
  case h_3 hend hcomma =>
    split
    case h_1 rest' hskip =>
      rw [hskip] at hend
      exact absurd (inUnits_cons_small (by decide) rest') (hend _)
    case h_2 rest' hskip =>
      rw [hskip] at hcomma
      exact absurd (inUnits_cons_small (by decide) rest') (hcomma _)
    case h_3 => rfl

theorem agrees_members {fuel : Nat} (ih : Agrees fuel) (depth : Nat) (names : List (List Nat))
    (text : List Nat) :
    (parseMembers (fuel + 1) depth names (inUnits text)).toOption =
      (readMembers (fuel + 1) text).bind fun (docs, rest) =>
        (profileMembers (maxDepth - depth) names docs).map fun members =>
          (members, inUnits rest) := by
  rw [parseMembers, readMembers, skipWhitespace_inUnits]
  split
  case h_2 hquote =>
    split
    case h_1 rest hskip =>
      rw [hskip] at hquote
      exact absurd (inUnits_cons_small (by decide) rest) (hquote _)
    case h_2 => rfl
  case h_1 rest heq =>
  obtain ⟨chars, hskip, rfl⟩ := (inUnits_eq_cons (by decide)).mp heq
  rw [hskip, toOption_bind, parseString_inUnits]
  rcases hchars : readChars .plain chars with - | ⟨name, rest⟩
  · simp [hchars]
  simp only [hchars, Option.map_some, Option.bind_some, skipWhitespace_inUnits]
  have hlevels : maxDepth + 1 - (depth + 1) = maxDepth - depth := by omega
  by_cases hname : name ∈ names
  · -- The parser stops at the name, the reader may still stop elsewhere or go on.
    have hnone : ∀ value docs, profileMembers (maxDepth - depth) names ((name, value) :: docs) = none :=
      fun value docs => by rw [profileMembers, if_pos hname]
    rw [if_pos hname]
    split
    case h_2 => rfl
    case h_1 =>
      rcases readValue fuel _ with - | ⟨doc, rest⟩
      · rfl
      · simp only [Option.bind_some]
        split
        · simp [hnone, Except.toOption]
        · rcases readMembers fuel _ with - | ⟨docs, rest'⟩ <;> simp [hnone, Except.toOption]
        · rfl
  rw [if_neg hname]
  split
  case h_2 hcolon =>
    split
    case h_1 rest' hskip' =>
      rw [hskip'] at hcolon
      exact absurd (inUnits_cons_small (by decide) rest') (hcolon _)
    case h_2 => rfl
  case h_1 rest' hcolon =>
  obtain ⟨after, hskip', rfl⟩ := (inUnits_eq_cons (by decide)).mp hcolon
  have hvalue := ih.value (depth + 1) after
  rw [hlevels] at hvalue
  rw [hskip', toOption_bind, hvalue]
  rcases hread : readValue fuel (skipSpace after) with - | ⟨doc, rest⟩
  · simp [hread]
  simp only [hread, Option.bind_some]
  rcases hprofile : profile (maxDepth - depth) doc with - | value
  · have hnone : ∀ docs, profileMembers (maxDepth - depth) names ((name, doc) :: docs) = none :=
      fun docs => by rw [profileMembers, if_neg hname, hprofile]; rfl
    rw [Option.map_none, Option.bind_none]
    split
    · simp [hnone]
    · rcases readMembers fuel _ with - | ⟨docs, rest'⟩ <;> simp [hnone]
    · rfl
  rw [Option.map_some, Option.bind_some, skipWhitespace_inUnits]
  split
  case h_1 rest' hend =>
    obtain ⟨after', hskip'', rfl⟩ := (inUnits_eq_cons (by decide)).mp hend
    rw [hskip'']
    simp [profileMembers, hname, hprofile, Except.toOption]
  case h_2 rest' hcomma =>
    obtain ⟨after', hskip'', rfl⟩ := (inUnits_eq_cons (by decide)).mp hcomma
    rw [hskip'', toOption_map, ih.members]
    rcases hmore : readMembers fuel after' with - | ⟨docs, rest'⟩
    · simp [hmore]
    · simp only [hmore, Option.bind_some, Option.map_some, profileMembers, if_neg hname, hprofile,
        Option.map_map]
      rfl
  case h_3 hend hcomma =>
    split
    case h_1 rest' hskip'' =>
      rw [hskip''] at hend
      exact absurd (inUnits_cons_small (by decide) rest') (hend _)
    case h_2 rest' hskip'' =>
      rw [hskip''] at hcomma
      exact absurd (inUnits_cons_small (by decide) rest') (hcomma _)
    case h_3 => rfl

theorem agrees (fuel : Nat) : Agrees fuel := by
  induction fuel with
  | zero =>
    refine ⟨fun _ _ => ?_, fun _ _ => ?_, fun _ _ _ => ?_⟩
    · rw [parseValue, readValue]
      rfl
    · rw [parseItems, readItems]
      rfl
    · rw [parseMembers, readMembers]
      rfl
  | succ fuel ih => exact ⟨agrees_value ih, agrees_items ih, agrees_members ih⟩

/-! ### Termination -/

/-- A parse from `n` units ends with fewer units left, and does not run out of fuel where there is
enough. -/
def Ends {α : Type} (n : Nat) (fueled : Prop) : Parsed α → Prop
  | .ok (_, rest) => rest.length < n
  | .error thrown => fueled → thrown ≠ .outOfFuel

section Ends

variable {α β : Type} {m n : Nat} {fueled fueled' : Prop}

theorem Ends.mono {x : Parsed α} (h : Ends m fueled x) (hle : m ≤ n) (hf : fueled' → fueled) :
    Ends n fueled' x := by
  cases x with
  | ok parsed => exact Nat.lt_of_lt_of_le h hle
  | error thrown => exact fun hfueled => h (hf hfueled)

theorem Ends.map {x : Parsed α} (h : Ends n fueled x) (f : α → β) :
    Ends n fueled (x.map fun (value, rest) => (f value, rest)) := by
  cases x with
  | ok parsed => exact h
  | error thrown => exact h

theorem Ends.bind {x : Parsed α} {f : α × List Nat → Parsed β} (h : Ends m fueled x)
    (hf : ∀ value rest, rest.length < m → Ends n fueled' (f (value, rest)))
    (himp : fueled' → fueled) : Ends n fueled' (x.bind f) := by
  cases x with
  | ok parsed => exact hf parsed.1 parsed.2 h
  | error thrown => exact fun hfueled => h (himp hfueled)

theorem ends_syntaxError (message : String) :
    Ends n fueled (.error (.syntaxError message) : Parsed α) := by
  intro _ h
  cases h

end Ends

theorem length_skipWhitespace_le (text : List Nat) :
    (skipWhitespace text).length ≤ text.length := by
  rw [skipWhitespace_eq]
  exact (List.dropWhile_sublist _).length_le

theorem length_of_skipWhitespace {text rest : List Nat} {c : Nat}
    (h : skipWhitespace text = c :: rest) : rest.length < text.length := by
  have hle := length_skipWhitespace_le text
  rw [h, List.length_cons] at hle
  omega

theorem length_scanString {escaped : Bool} {text token rest : List Nat}
    (h : scanString escaped text = some (token, rest)) : rest.length < text.length := by
  induction text generalizing escaped token with
  | nil => cases h
  | cons c text ih =>
    have hmap : ∀ escaped', (scanString escaped' text).map (fun (token, rest) => (c :: token, rest)) =
        some (token, rest) → rest.length < (c :: text).length := by
      intro escaped' h
      obtain ⟨⟨token', rest'⟩, hscan, heq⟩ := Option.map_eq_some_iff.mp h
      cases heq
      exact Nat.lt_succ_of_lt (ih hscan)
    rw [scanString] at h
    split_ifs at h
    · exact hmap _ h
    · exact hmap _ h
    · cases h
      exact Nat.lt_succ_self _
    · exact hmap _ h

theorem ends_parseString (text : List Nat) : Ends text.length True (parseString text) := by
  unfold parseString
  split
  · exact ends_syntaxError _
  · rename_i token rest hscan
    split
    · exact length_scanString hscan
    · exact ends_syntaxError _

theorem length_of_prefix {token text rest : List Nat} (h : List.isPrefixOf? token text = some rest)
    (htoken : token ≠ []) : rest.length < text.length := by
  rw [← List.isPrefixOf?_eq_some_iff_append_eq.mp h, List.length_append]
  have := List.length_pos_of_ne_nil htoken
  omega

theorem ends_parseScalar (text : List Nat) : Ends text.length True (parseScalar text) := by
  unfold parseScalar
  split
  · rename_i rest h
    exact length_of_prefix h (by decide)
  split
  · rename_i rest h
    exact length_of_prefix h (by decide)
  split
  · rename_i rest h
    exact length_of_prefix h (by decide)
  split
  · exact ends_syntaxError _
  · rename_i n rest hnumber
    obtain ⟨hn, rfl⟩ := matchNumber_sound hnumber
    obtain ⟨c, digits, hc, -⟩ := hn.whole.exists_digit
    unfold parseInteger
    split_ifs
    · exact ends_syntaxError _
    · exact ends_syntaxError _
    · show rest.length < (n.text ++ rest).length
      simp only [Number.text, hc, List.length_append, List.length_cons]
      omega

/-- The three loops end, given twice as much fuel as there are units. -/
structure AllEnd (fuel : Nat) : Prop where
  value : ∀ depth text,
    Ends text.length (2 * text.length < fuel) (parseValue fuel depth text)
  items : ∀ depth text,
    Ends text.length (2 * text.length + 1 < fuel) (parseItems fuel depth text)
  members : ∀ depth names text,
    Ends text.length (2 * text.length + 1 < fuel) (parseMembers fuel depth names text)

theorem ends_parseArray {n : Nat} {fueled : Prop} {loop : List Nat → Parsed (List JsonValue)}
    {text : List Nat} (htext : text.length < n)
    (h : Ends text.length fueled (loop (skipWhitespace text))) :
    Ends n fueled (parseArray loop text) := by
  unfold parseArray
  split
  · rename_i rest hend
    exact (length_of_skipWhitespace hend).trans htext
  · exact (h.mono (Nat.le_of_lt htext) id).map _

theorem ends_parseObject {n : Nat} {fueled : Prop}
    {loop : List Nat → Parsed (List (List Nat × JsonValue))} {text : List Nat}
    (htext : text.length < n) (h : Ends text.length fueled (loop (skipWhitespace text))) :
    Ends n fueled (parseObject loop text) := by
  unfold parseObject
  split
  · rename_i rest hend
    exact (length_of_skipWhitespace hend).trans htext
  · exact (h.mono (Nat.le_of_lt htext) id).map _

theorem ends_parseValue {fuel : Nat} (ih : AllEnd fuel) (depth : Nat) (text : List Nat) :
    Ends text.length (2 * text.length < fuel + 1) (parseValue (fuel + 1) depth text) := by
  rw [parseValue]
  split
  · exact ends_syntaxError _
  split
  · rename_i rest hskip
    have hrest := length_of_skipWhitespace hskip
    exact ((ends_parseString rest).mono (Nat.le_of_lt hrest) fun _ => trivial).map _
  · rename_i rest hskip
    have hrest := length_of_skipWhitespace hskip
    have hle := length_skipWhitespace_le rest
    exact ends_parseArray hrest ((ih.items depth _).mono hle fun h => by omega)
  · rename_i rest hskip
    have hrest := length_of_skipWhitespace hskip
    have hle := length_skipWhitespace_le rest
    exact ends_parseObject hrest ((ih.members depth [] _).mono hle fun h => by omega)
  · exact (ends_parseScalar _).mono (length_skipWhitespace_le text) fun _ => trivial

theorem ends_parseItems {fuel : Nat} (ih : AllEnd fuel) (depth : Nat) (text : List Nat) :
    Ends text.length (2 * text.length + 1 < fuel + 1) (parseItems (fuel + 1) depth text) := by
  rw [parseItems]
  refine (ih.value (depth + 1) text).bind (fun item rest hrest => ?_) fun h => by omega
  dsimp only
  split
  · rename_i rest' hend
    exact (length_of_skipWhitespace hend).trans hrest
  · rename_i rest' hcomma
    have hrest' := length_of_skipWhitespace hcomma
    exact ((ih.items depth rest').mono (by omega) fun h => by omega).map _
  · exact ends_syntaxError _

theorem ends_parseMembers {fuel : Nat} (ih : AllEnd fuel) (depth : Nat) (names : List (List Nat))
    (text : List Nat) :
    Ends text.length (2 * text.length + 1 < fuel + 1) (parseMembers (fuel + 1) depth names text) := by
  rw [parseMembers]
  split
  case h_2 => exact ends_syntaxError _
  case h_1 _ chars hquote =>
  have hchars := length_of_skipWhitespace hquote
  refine (ends_parseString chars).bind (fun name rest hrest => ?_) fun _ => trivial
  dsimp only
  split
  · exact ends_syntaxError _
  split
  case h_2 => exact ends_syntaxError _
  case h_1 _ after hcolon =>
  have hafter := length_of_skipWhitespace hcolon
  refine (ih.value (depth + 1) after).bind (fun value rest' hrest' => ?_) fun h => by omega
  dsimp only
  split
  · rename_i last hend
    have hlast := length_of_skipWhitespace hend
    show last.length < text.length
    omega
  · rename_i last hcomma
    have hlast := length_of_skipWhitespace hcomma
    exact ((ih.members depth _ last).mono (by omega) fun h => by omega).map _
  · exact ends_syntaxError _

theorem allEnd (fuel : Nat) : AllEnd fuel := by
  induction fuel with
  | zero =>
    refine ⟨fun _ text h => ?_, fun _ text h => ?_, fun _ _ text h => ?_⟩ <;>
    exact absurd h (by omega)
  | succ fuel ih => exact ⟨ends_parseValue ih, ends_parseItems ih, ends_parseMembers ih⟩

/-- The parser returns a value or throws a `SyntaxError`. -/
theorem parseStrictJson_ends (text : List Nat) :
    (∃ value, parseStrictJson text = .ok value) ∨
      ∃ message, parseStrictJson text = .error (.syntaxError message) := by
  have hends := (allEnd (2 * text.length + 2)).value 0 text
  unfold parseStrictJson parseWith
  split
  · exact Or.inr ⟨_, rfl⟩
  rcases hparse : parseValue (2 * text.length + 2) 0 text with thrown | ⟨value, rest⟩
  · rw [hparse] at hends
    cases thrown with
    | syntaxError message => exact Or.inr ⟨message, rfl⟩
    | outOfFuel => exact absurd rfl (hends (by omega))
  · by_cases hrest : skipWhitespace rest = []
    · exact Or.inl ⟨value, by simp [Except.bind, hrest]⟩
    · exact Or.inr ⟨_, by simp [Except.bind, hrest]; rfl⟩

end Ucf.Typescript
