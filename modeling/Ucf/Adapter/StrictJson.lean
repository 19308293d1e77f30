import Ucf.Typescript.StrictReading

/-! The strict JSON of the TypeScript adapter and of the core: both take exactly the objects of the
grammar that are within the profile, and give the same value. -/

namespace Ucf

open Rfc8259 Typescript

namespace Core

/-! ### Strings -/

theorem unitsOf_pair {high low : Nat} (hhigh : 0xd800 ≤ high ∧ high < 0xdc00)
    (hlow : 0xdc00 ≤ low ∧ low < 0xe000) :
    unitsOf (0x10000 + (high - 0xd800) * 0x400 + (low - 0xdc00)) = [high, low] := by
  have hfirst : 0xd800 + (0x10000 + (high - 0xd800) * 0x400 + (low - 0xdc00) - 0x10000) / 0x400 %
      0x400 = high := by omega
  have hsecond : 0xdc00 + (0x10000 + (high - 0xd800) * 0x400 + (low - 0xdc00) - 0x10000) % 0x400 =
      low := by omega
  rw [unitsOf, if_neg (by omega), hfirst, hsecond]

/-- A Python string of units has these units in UTF-16. -/
theorem inUnits_joinSurrogates {units : List Nat} (h : ∀ unit ∈ units, unit < 0x10000) :
    inUnits (joinSurrogates units) = units := by
  induction units using joinSurrogates.induct with
  | case1 => rfl
  | case2 unit => exact inUnits_cons_small (h unit List.mem_cons_self) []
  | case3 high low rest hpair ih =>
    rw [joinSurrogates, if_pos hpair, inUnits_cons,
      unitsOf_pair ⟨hpair.1, hpair.2.1⟩ ⟨hpair.2.2.1, hpair.2.2.2⟩,
      ih fun unit hunit => h unit (List.mem_cons_of_mem _ (List.mem_cons_of_mem _ hunit))]
    rfl
  | case4 high low rest hpair ih =>
    rw [joinSurrogates, if_neg hpair, inUnits_cons_small (h high List.mem_cons_self),
      ih fun unit hunit => h unit (List.mem_cons_of_mem _ hunit)]

/-! ### Values -/

mutual

/-- The TypeScript value that represents a Python one: its strings in UTF-16. A `float` has none. -/
def represented : PyValue → Option JsonValue
  | .none => some .null
  | .bool value => some (.boolean value)
  | .int value => some (.number value)
  | .float _ => .none
  | .str codePoints => some (.string (inUnits codePoints))
  | .list items => (representedItems items).map .array
  | .dict items => (representedFields items).map .object

def representedItems : List PyValue → Option (List JsonValue)
  | [] => some []
  | item :: items =>
    (represented item).bind fun item => (representedItems items).map fun items => item :: items

def representedFields : List (List Nat × PyValue) → Option (List (List Nat × JsonValue))
  | [] => some []
  | (name, value) :: items =>
    (represented value).bind fun value =>
      (representedFields items).map fun items => (inUnits name, value) :: items

end

mutual

/-- Whether a value passes `_validate_number_profile` with this many levels left. -/
def fits : Nat → PyValue → Bool
  | 0, _ => false
  | _ + 1, .float _ => false
  | levels + 1, .list items => fitsItems levels items
  | levels + 1, .dict items => fitsFields levels items
  | _ + 1, _ => true

def fitsItems (levels : Nat) : List PyValue → Bool
  | [] => true
  | item :: items => fits levels item && fitsItems levels items

def fitsFields (levels : Nat) : List (List Nat × PyValue) → Bool
  | [] => true
  | (_, value) :: items => fits levels value && fitsFields levels items

end

theorem fits_zero (value : PyValue) : fits 0 value = false := by
  cases value <;> rfl

theorem fitsItems_iff {levels : Nat} {items : List PyValue} :
    fitsItems levels items = true ↔ ∀ item ∈ items, fits levels item = true := by
  induction items with
  | nil => simp [fitsItems]
  | cons item items ih => simp [fitsItems, ih]

theorem fitsFields_iff {levels : Nat} {items : List (List Nat × PyValue)} :
    fitsFields levels items = true ↔ ∀ item ∈ items, fits levels item.2 = true := by
  induction items with
  | nil => simp [fitsFields]
  | cons item items ih => simp [fitsFields, ih]

/-- The parts of a value fit at their depth exactly if the value does at its own. -/
theorem fits_nested {current : PyValue} {depth : Nat} (hdepth : ¬maxJsonNesting < depth)
    (hfloat : ∀ token, current ≠ .float token) :
    (∀ p ∈ nested depth current, fits (maxJsonNesting + 1 - p.2) p.1 = true) ↔
      fits (maxJsonNesting + 1 - depth) current = true := by
  have hlevels : maxJsonNesting + 1 - depth = (maxJsonNesting - depth) + 1 := by omega
  have hnext : maxJsonNesting + 1 - (depth + 1) = maxJsonNesting - depth := by omega
  rw [hlevels]
  cases current with
  | float token => exact absurd rfl (hfloat token)
  | dict items =>
    rw [fits, fitsFields_iff, nested, List.forall_mem_map]
    simp only [hnext]
  | list items =>
    rw [fits, fitsItems_iff, nested, List.forall_mem_map]
    simp only [hnext]
  | _ => simp [nested, fits]

/-- The loop passes exactly if every pending value fits at its depth. -/
theorem validateNumberProfile_iff {pending : List (PyValue × Nat)} :
    validateNumberProfile pending = true ↔
      ∀ p ∈ pending, fits (maxJsonNesting + 1 - p.2) p.1 = true := by
  induction pending using validateNumberProfile.induct with
  | case1 => simp [validateNumberProfile]
  | case2 current depth pending hdepth =>
    have hzero : maxJsonNesting + 1 - depth = 0 := by omega
    rw [validateNumberProfile.eq_def]
    simp [hdepth, hzero, fits_zero]
  | case3 depth pending hdepth token =>
    have hlevels : maxJsonNesting + 1 - depth = (maxJsonNesting - depth) + 1 := by omega
    rw [validateNumberProfile.eq_def]
    simp only [if_neg hdepth]
    constructor
    · intro h
      cases h
    · intro h
      have hfits := h _ List.mem_cons_self
      rw [hlevels, fits] at hfits
      cases hfits
  | case4 depth pending hdepth current hfloat ih =>
    rw [List.forall_mem_cons, ← fits_nested hdepth hfloat, ← List.forall_mem_append, ← ih,
      validateNumberProfile.eq_def]
    simp only [if_neg hdepth]

/-! ### Documents -/

/-- The TypeScript value of a Python value that passes `_validate_number_profile`. -/
def typed (levels : Nat) (value : PyValue) : Option JsonValue :=
  if fits levels value then represented value else .none

def typedItems (levels : Nat) (items : List PyValue) : Option (List JsonValue) :=
  if fitsItems levels items then representedItems items else .none

def typedFields (levels : Nat) (items : List (List Nat × PyValue)) :
    Option (List (List Nat × JsonValue)) :=
  if fitsFields levels items then representedFields items else .none

theorem typed_zero (value : PyValue) : typed 0 value = .none := by
  rw [typed, fits_zero]
  rfl

theorem typed_list (levels : Nat) (items : List PyValue) :
    typed (levels + 1) (.list items) = (typedItems levels items).map .array := by
  rw [typed, fits, represented, typedItems]
  split <;> rfl

theorem typed_dict (levels : Nat) (items : List (List Nat × PyValue)) :
    typed (levels + 1) (.dict items) = (typedFields levels items).map .object := by
  rw [typed, fits, represented, typedFields]
  split <;> rfl

theorem typedItems_cons (levels : Nat) (item : PyValue) (items : List PyValue) :
    typedItems levels (item :: items) =
      (typed levels item).bind fun item =>
        (typedItems levels items).map fun items => item :: items := by
  unfold typedItems typed
  rw [fitsItems, representedItems]
  cases fits levels item
  · rfl
  · cases fitsItems levels items
    · simp
    · rfl

theorem typedFields_cons (levels : Nat) (name : List Nat) (value : PyValue)
    (items : List (List Nat × PyValue)) :
    typedFields levels ((name, value) :: items) =
      (typed levels value).bind fun value =>
        (typedFields levels items).map fun items => (inUnits name, value) :: items := by
  unfold typedFields typed
  rw [fitsFields, representedFields]
  cases fits levels value
  · rfl
  · cases fitsFields levels items
    · simp
    · rfl

theorem uniqueObject_eq (pairs : List (List Nat × PyValue)) :
    uniqueObject pairs = if (pairs.map Prod.fst).Nodup then some pairs else .none := by
  have hloop : ∀ result : List (List Nat × PyValue),
      pairs.foldlM (fun result pair =>
        if pair.1 ∈ result.map Prod.fst then .none else some (result ++ [pair])) result =
      if (pairs.map Prod.fst).Nodup ∧ ∀ name ∈ pairs.map Prod.fst, name ∉ result.map Prod.fst then
        some (result ++ pairs) else .none := by
    induction pairs with
    | nil => simp
    | cons pair pairs ih =>
      intro result
      rw [List.foldlM_cons]
      by_cases hname : pair.1 ∈ result.map Prod.fst
      · rw [if_pos hname, if_neg]
        · rfl
        · rintro ⟨-, hall⟩
          exact hall pair.1 List.mem_cons_self hname
      · rw [if_neg hname]
        refine (ih (result ++ [pair])).trans ?_
        have hiff : ((pairs.map Prod.fst).Nodup ∧
            ∀ name ∈ pairs.map Prod.fst, name ∉ (result ++ [pair]).map Prod.fst) ↔
            ((pair :: pairs).map Prod.fst).Nodup ∧
              ∀ name ∈ (pair :: pairs).map Prod.fst, name ∉ result.map Prod.fst := by
          rw [List.map_append, List.map_cons, List.map_nil, List.map_cons, List.nodup_cons,
            List.forall_mem_cons]
          simp only [List.mem_append, List.mem_singleton, not_or]
          constructor
          · rintro ⟨hnodup, hall⟩
            exact ⟨⟨fun hmem => (hall _ hmem).2 rfl, hnodup⟩, hname, fun name hmem =>
              (hall name hmem).1⟩
          · rintro ⟨⟨hmem, hnodup⟩, -, hall⟩
            exact ⟨hnodup, fun name hin => ⟨hall name hin, fun heq => hmem (heq ▸ hin)⟩⟩
        rw [if_congr hiff rfl rfl, List.append_assoc, List.singleton_append]
  rw [uniqueObject, hloop]
  simp

theorem names_constructMembers {members : List (List Nat × Doc)}
    {pairs : List (List Nat × PyValue)} (h : constructMembers members = some pairs) :
    pairs.map Prod.fst = (members.map Prod.fst).map joinSurrogates := by
  induction members generalizing pairs with
  | nil =>
    cases h
    rfl
  | cons member members ih =>
    obtain ⟨name, value⟩ := member
    rw [constructMembers] at h
    obtain ⟨value, -, h⟩ := Option.bind_eq_some_iff.mp h
    obtain ⟨rest, hrest, heq⟩ := Option.map_eq_some_iff.mp h
    cases heq
    simp [ih hrest]

theorem nodup_joinSurrogates {names : List (List Nat)}
    (h : ∀ name ∈ names, ∀ unit ∈ name, unit < 0x10000) :
    (names.map joinSurrogates).Nodup ↔ names.Nodup := by
  constructor
  · exact List.Nodup.of_map _
  · intro hnodup
    refine hnodup.map_on fun name hname other hother heq => ?_
    rw [← inUnits_joinSurrogates (h name hname), heq, inUnits_joinSurrogates (h other hother)]

theorem units_of_membersWellFormed {members : List (List Nat × Doc)}
    (h : MembersWellFormed members) :
    ∀ name ∈ members.map Prod.fst, ∀ unit ∈ name, unit < 0x10000 := by
  induction members with
  | nil => simp
  | cons member members ih =>
    obtain ⟨hname, -, hmembers⟩ := h
    rw [List.map_cons, List.forall_mem_cons]
    exact ⟨hname, ih hmembers⟩

mutual

/-- The hooks and the number profile leave of a document what the profile has. -/
theorem profile_construct {doc : Doc} (h : doc.WellFormed) (levels : Nat) :
    profile levels doc = (construct doc).bind (typed levels) := by
  cases levels with
  | zero =>
    rw [profile_zero]
    cases construct doc <;> simp [typed_zero]
  | succ levels =>
    cases doc with
    | null => rfl
    | bool value => rfl
    | number n =>
      rw [profile, construct]
      by_cases hparts : n.fraction = [] ∧ n.exponent = []
      · rw [if_pos hparts, parseInteger_eq h hparts]
        cases exactInteger? n <;> rfl
      · have hnone : exactInteger? n = .none := if_neg fun hall => hparts ⟨hall.1, hall.2.1⟩
        rw [if_neg hparts, hnone]
        rfl
    | string units =>
      have htyped : typed (levels + 1) (.str (joinSurrogates units)) =
          some (.string (inUnits (joinSurrogates units))) := rfl
      rw [profile, construct, Option.bind_some, htyped, inUnits_joinSurrogates h]
    | array items =>
      rw [profile, construct, profileItems_construct h levels]
      cases constructItems items with
      | none => rfl
      | some items => exact (typed_list levels items).symm
    | object members =>
      rw [profile, construct, profileMembers_eq, profileValues_construct h levels]
      rcases hpairs : constructMembers members with - | pairs
      · split <;> rfl
      · simp only [List.not_mem_nil, not_false_eq_true, implies_true, and_true, Option.bind_some,
          uniqueObject_eq, names_constructMembers hpairs,
          nodup_joinSurrogates (units_of_membersWellFormed h)]
        split
        · exact (typed_dict levels pairs).symm
        · rfl

theorem profileItems_construct {items : List Doc} (h : ItemsWellFormed items) (levels : Nat) :
    profileItems levels items = (constructItems items).bind (typedItems levels) := by
  cases items with
  | nil => rfl
  | cons item items =>
    rw [profileItems, constructItems, profile_construct h.1, profileItems_construct h.2]
    cases construct item with
    | none => rfl
    | some item =>
      cases constructItems items with
      | none => cases typed levels item <;> simp [*]
      | some items => simp [typedItems_cons]

theorem profileValues_construct {members : List (List Nat × Doc)} (h : MembersWellFormed members)
    (levels : Nat) :
    profileValues levels members = (constructMembers members).bind (typedFields levels) := by
  cases members with
  | nil => rfl
  | cons member members =>
    obtain ⟨name, value⟩ := member
    rw [profileValues, constructMembers, profile_construct h.2.1, profileValues_construct h.2.2]
    cases construct value with
    | none => rfl
    | some value =>
      cases constructMembers members with
      | none => cases typed levels value <;> simp [*]
      | some pairs => simp [typedFields_cons, inUnits_joinSurrogates h.1]

end

mutual

/-- A value that fits has a TypeScript value. -/
theorem exists_represented {value : PyValue} {levels : Nat} (h : fits levels value = true) :
    ∃ typed, represented value = some typed := by
  cases levels with
  | zero =>
    rw [fits_zero] at h
    cases h
  | succ levels =>
    cases value with
    | none => exact ⟨_, rfl⟩
    | bool value => exact ⟨_, rfl⟩
    | int value => exact ⟨_, rfl⟩
    | float token => cases h
    | str codePoints => exact ⟨_, rfl⟩
    | list items =>
      obtain ⟨typed, htyped⟩ := exists_representedItems h
      exact ⟨.array typed, by rw [represented, htyped]; rfl⟩
    | dict items =>
      obtain ⟨typed, htyped⟩ := exists_representedFields h
      exact ⟨.object typed, by rw [represented, htyped]; rfl⟩

theorem exists_representedItems {items : List PyValue} {levels : Nat}
    (h : fitsItems levels items = true) : ∃ typed, representedItems items = some typed := by
  cases items with
  | nil => exact ⟨[], rfl⟩
  | cons item items =>
    rw [fitsItems, Bool.and_eq_true] at h
    obtain ⟨first, hfirst⟩ := exists_represented h.1
    obtain ⟨rest, hrest⟩ := exists_representedItems h.2
    exact ⟨first :: rest, by rw [representedItems, hfirst, hrest]; rfl⟩

theorem exists_representedFields {items : List (List Nat × PyValue)} {levels : Nat}
    (h : fitsFields levels items = true) : ∃ typed, representedFields items = some typed := by
  cases items with
  | nil => exact ⟨[], rfl⟩
  | cons item items =>
    obtain ⟨name, value⟩ := item
    rw [fitsFields, Bool.and_eq_true] at h
    obtain ⟨first, hfirst⟩ := exists_represented h.1
    obtain ⟨rest, hrest⟩ := exists_representedFields h.2
    exact ⟨(inUnits name, first) :: rest, by rw [representedFields, hfirst, hrest]; rfl⟩

end

theorem decodeStrictJsonObject_eq_some {text : List Char} {items : List (List Nat × PyValue)} :
    decodeStrictJsonObject text = some items ↔ text.head? ≠ some (Char.ofNat 0xfeff) ∧
      ∃ doc, read (codes text) = some doc ∧ construct doc = some (.dict items) ∧
        fits (maxJsonNesting + 1) (.dict items) = true := by
  have hloop : ∀ value, validateNumberProfile [(value, 0)] = true ↔
      fits (maxJsonNesting + 1) value = true := by
    intro value
    rw [validateNumberProfile_iff]
    simp
  unfold decodeStrictJsonObject loads
  split
  · rename_i hbom
    simp [hbom]
  · rename_i hbom
    cases hread : read (codes text) with
    | none => simp
    | some doc =>
      rcases hconstruct : construct doc with - | value
      · simp [hconstruct]
      · cases value with
        | dict fields =>
          simp only [Option.bind_some, hconstruct, hloop]
          constructor
          · intro h
            split at h
            · cases h
              exact ⟨hbom, doc, rfl, hconstruct, by assumption⟩
            · cases h
          · rintro ⟨-, doc', hdoc, hdict, hfits⟩
            cases hdoc
            rw [hconstruct] at hdict
            cases hdict
            rw [if_pos hfits]
        | _ => simp [hbom, hconstruct]

end Core

namespace Typescript

theorem length_le_inUnits (text : List Nat) : text.length ≤ (inUnits text).length := by
  induction text with
  | nil => exact Nat.le_refl 0
  | cons c text ih =>
    rw [inUnits_cons, List.length_append, List.length_cons]
    have := List.length_pos_of_ne_nil (unitsOf_ne_nil c)
    omega

theorem head?_utf16 (text : List Char) : (inUnits (codes text)).head? = some 0xfeff ↔
    text.head? = some (Char.ofNat 0xfeff) := by
  cases text with
  | nil => simp [codes]
  | cons c text =>
    have hcode : c = Char.ofNat 0xfeff ↔ c.toNat = 0xfeff :=
      ⟨fun h => h ▸ rfl, fun h => char_toNat_injective h⟩
    rw [codes, List.map_cons, inUnits_cons, List.head?_cons, Option.some.injEq, hcode]
    rcases unitsOf_cases c.toNat with ⟨hc, heq⟩ | ⟨hc, high, low, heq, hhigh, hhigh', -⟩
    · rw [heq]
      simp
    · rw [heq, List.cons_append, List.head?_cons, Option.some.injEq]
      omega

/-- The parser gives what the profile makes of the document that the reader finds. -/
theorem toOption_parseStrictJson (text : List Char) :
    (parseStrictJson (inUnits (codes text))).toOption =
      if text.head? = some (Char.ofNat 0xfeff) then none
      else (read (codes text)).bind (profile (maxDepth + 1)) := by
  have hfuel : (codes text).length < 2 * (inUnits (codes text)).length + 2 := by
    have := length_le_inUnits (codes text)
    omega
  have hread : read (codes text) =
      readWith (2 * (inUnits (codes text)).length + 2) (codes text) :=
    Option.ext fun doc => by
      rw [read_eq_some, readWith_eq_some hfuel]
  rw [parseStrictJson, parseWith, hread]
  simp only [head?_utf16]
  split
  · rfl
  · rw [toOption_bind, (agrees _).value, readWith]
    rcases readValue _ (skipSpace (codes text)) with - | ⟨doc, rest⟩
    · rfl
    · have hend : skipWhitespace (inUnits rest) = [] ↔ skipSpace rest = [] := by
        rw [skipWhitespace_inUnits, inUnits_eq_nil]
      simp only [Option.bind_some, Nat.sub_zero]
      rcases hprofile : profile (maxDepth + 1) doc with - | value
      · split <;> simp [hprofile]
      · simp only [Option.map_some, Option.bind_some, hend]
        split
        · simp [hprofile, Except.toOption]
        · rfl

theorem parseStrictJson_eq_ok {text : List Char} {value : JsonValue} :
    parseStrictJson (inUnits (codes text)) = .ok value ↔
      text.head? ≠ some (Char.ofNat 0xfeff) ∧
        ∃ doc, read (codes text) = some doc ∧ profile (maxDepth + 1) doc = some value := by
  have hoption : parseStrictJson (inUnits (codes text)) = .ok value ↔
      (parseStrictJson (inUnits (codes text))).toOption = some value := by
    cases parseStrictJson (inUnits (codes text)) <;> simp [Except.toOption]
  rw [hoption, toOption_parseStrictJson]
  split
  · rename_i hbom
    simp [hbom]
  · rename_i hbom
    simp [hbom, Option.bind_eq_some_iff]

end Typescript

/-- A document within the profile is one that both sides give a value. -/
theorem profile_eq_some {text : List Char} {doc : Doc} (hread : read (codes text) = some doc)
    {value : JsonValue} : profile (maxDepth + 1) doc = some value ↔
      ∃ built, Core.construct doc = some built ∧ Core.fits (maxJsonNesting + 1) built = true ∧
        Core.represented built = some value := by
  have hdepth : maxDepth + 1 = maxJsonNesting + 1 := rfl
  rw [hdepth, Core.profile_construct (read_eq_some.mp hread).wellFormed, Option.bind_eq_some_iff]
  simp only [Core.typed, Option.ite_none_right_eq_some]

/-- For every text of Unicode scalar values, the TypeScript parser returns a value or throws a
`SyntaxError`. It returns an object exactly if the core's decoder returns, and then both have the
same value. They take exactly the objects of the grammar that do not begin with a byte order mark
and are within the profile: no name twice in an object, no number with a fraction or an exponent,
no negative zero, no integer out of the safe range, and no value deeper than 128. -/
theorem strictJson_agrees (text : List Char) :
    ((∃ value, parseStrictJson (text.flatMap utf16) = .ok value) ∨
      ∃ message, parseStrictJson (text.flatMap utf16) = .error (.syntaxError message)) ∧
    ((∃ members, parseStrictJson (text.flatMap utf16) = .ok (.object members)) ↔
      ∃ items, Core.decodeStrictJsonObject text = some items) ∧
    (∀ members items, parseStrictJson (text.flatMap utf16) = .ok (.object members) →
      Core.decodeStrictJsonObject text = some items →
      Core.represented (.dict items) = some (.object members)) ∧
    ((∃ items, Core.decodeStrictJsonObject text = some items) ↔
      text.head? ≠ some (Char.ofNat 0xfeff) ∧
        ∃ members, Element (codes text) (.object members) ∧ Within 129 (.object members)) := by
  rw [← inUnits_codes]
  refine ⟨parseStrictJson_ends _, ?together, ?same, ?exact⟩
  case together =>
    constructor
    · rintro ⟨members, hparse⟩
      obtain ⟨hbom, doc, hread, hprofile⟩ := parseStrictJson_eq_ok.mp hparse
      obtain ⟨built, hbuilt, hfits, hvalue⟩ := (profile_eq_some hread).mp hprofile
      cases built with
      | dict items =>
        exact ⟨items, Core.decodeStrictJsonObject_eq_some.mpr ⟨hbom, doc, hread, hbuilt, hfits⟩⟩
      | list items =>
        obtain ⟨_, -, heq⟩ := Option.map_eq_some_iff.mp hvalue
        cases heq
      | float token => cases hvalue
      | _ => cases hvalue
    · rintro ⟨items, hdecode⟩
      obtain ⟨hbom, doc, hread, hbuilt, hfits⟩ := Core.decodeStrictJsonObject_eq_some.mp hdecode
      obtain ⟨value, hvalue⟩ := Core.exists_represented hfits
      obtain ⟨members, -, hmembers⟩ := Option.map_eq_some_iff.mp hvalue
      rw [← hmembers] at hvalue
      exact ⟨members, parseStrictJson_eq_ok.mpr
        ⟨hbom, doc, hread, (profile_eq_some hread).mpr ⟨_, hbuilt, hfits, hvalue⟩⟩⟩
  case same =>
    intro members items hparse hdecode
    obtain ⟨-, doc, hread, hprofile⟩ := parseStrictJson_eq_ok.mp hparse
    obtain ⟨built, hbuilt, -, hvalue⟩ := (profile_eq_some hread).mp hprofile
    obtain ⟨-, doc', hread', hdict, -⟩ := Core.decodeStrictJsonObject_eq_some.mp hdecode
    rw [hread] at hread'
    cases hread'
    rw [hbuilt] at hdict
    cases hdict
    exact hvalue
  case exact =>
    constructor
    · rintro ⟨items, hdecode⟩
      obtain ⟨hbom, doc, hread, hbuilt, hfits⟩ := Core.decodeStrictJsonObject_eq_some.mp hdecode
      obtain ⟨value, hvalue⟩ := Core.exists_represented hfits
      have hprofile := (profile_eq_some hread).mpr ⟨_, hbuilt, hfits, hvalue⟩
      have hwithin := isSome_profile.mp (Option.isSome_iff_exists.mpr ⟨_, hprofile⟩)
      cases doc with
      | object members => exact ⟨hbom, members, read_eq_some.mp hread, hwithin⟩
      | number n =>
        rw [Core.construct] at hbuilt
        split at hbuilt
        · obtain ⟨_, -, heq⟩ := Option.map_eq_some_iff.mp hbuilt
          cases heq
        · cases hbuilt
      | array items =>
        obtain ⟨_, -, heq⟩ := Option.map_eq_some_iff.mp hbuilt
        cases heq
      | _ => cases hbuilt
    · rintro ⟨hbom, members, helement, hwithin⟩
      have hread := read_eq_some.mpr helement
      obtain ⟨value, hprofile⟩ := Option.isSome_iff_exists.mp (isSome_profile.mpr hwithin)
      obtain ⟨built, hbuilt, hfits, -⟩ := (profile_eq_some hread).mp hprofile
      have hdict : ∃ items, built = .dict items := by
        obtain ⟨pairs, -, hpairs⟩ := Option.bind_eq_some_iff.mp hbuilt
        obtain ⟨items, -, heq⟩ := Option.map_eq_some_iff.mp hpairs
        exact ⟨items, heq.symm⟩
      obtain ⟨items, rfl⟩ := hdict
      exact ⟨items, Core.decodeStrictJsonObject_eq_some.mpr ⟨hbom, _, hread, hbuilt, hfits⟩⟩

end Ucf
