import Ucf.Generator.Rendering

/-! What the arguments of a generated call mean, against what the specification refers to. -/

namespace Ucf.Spec

/-! ### Meanings -/

/-- What a binding stands for: a read of the inputs, of the result of a step or of a component, or a
value made of such parts. -/
inductive Meaning where
  | inputs (keys : List String)
  | step (id : String) (path : List String)
  | component (name : String) (path : List String)
  | identifier (text : String)
  | scalar (value : Json)
  | list (items : List Meaning)
  | dict (items : List (String × Meaning))

/-- The text of a number is one of a Python literal: those of the infinities and of `nan` are names. -/
def isFinite (token : String) : Bool := token ∉ ["inf", "-inf", "nan"]

mutual

/-- The meaning of a literal. -/
def literalMeaning : Json → Meaning
  | .arr items => .list (literalItems items)
  | .obj fields => .dict (literalFields fields)
  | .float token => if isFinite token then .scalar (.float token) else .identifier token
  | value => .scalar value

def literalItems : List Json → List Meaning
  | [] => []
  | item :: items => literalMeaning item :: literalItems items

def literalFields : List (String × Json) → List (String × Meaning)
  | [] => []
  | (key, value) :: fields => (key, literalMeaning value) :: literalFields fields

end

mutual

/-- What an expression of a generated call means. -/
def PyExpr.meaning : PyExpr → Meaning
  | .inputs keys => .inputs keys
  | .step id path => .step id path
  | .component name path => .component name path
  | .identifier text => .identifier text
  | .literal value => literalMeaning value
  | .chunks parts => .scalar (.str (String.join parts))
  | .dict items => .dict (itemMeanings items)

def PyExpr.itemMeanings : List (String × PyExpr) → List (String × Meaning)
  | [] => []
  | (key, value) :: items => (key, value.meaning) :: itemMeanings items

end

/-- The reference of parts `$inputs.p`, `$steps.X.p`, `$requires.A.p` or `$A.p`, with a path `p` that is
not empty and a required alias `A`. -/
def partsMeaning (aliases : List String) : List String → Option Meaning
  | "inputs" :: key :: keys => some (.inputs (key :: keys))
  | "steps" :: id :: field :: fields => some (.step id (field :: fields))
  | first :: second :: rest =>
    if first = "requires" ∧ second ∈ aliases ∧ rest ≠ [] then some (.component second rest)
    else if first ∈ aliases then some (.component first (second :: rest))
    else none
  | _ => none

/-- The reference that a text is. -/
def reference (aliases : List String) (text : String) : Option Meaning :=
  if isReference text then partsMeaning aliases (referenceParts text) else none

mutual

/-- What a binding of the specification means. -/
def bindingMeaning (aliases : List String) : Json → Meaning
  | .str text => (reference aliases text).getD (.scalar (.str text))
  | .arr items => .list (itemsMeaning aliases items)
  | .obj fields => .dict (fieldsMeaning aliases fields)
  | value => .scalar value

def itemsMeaning (aliases : List String) : List Json → List Meaning
  | [] => []
  | item :: items => bindingMeaning aliases item :: itemsMeaning aliases items

def fieldsMeaning (aliases : List String) : List (String × Json) → List (String × Meaning)
  | [] => []
  | (key, value) :: fields => (key, bindingMeaning aliases value) :: fieldsMeaning aliases fields

end

mutual

/-- The ids of the steps that are read. -/
def Meaning.stepIds : Meaning → List String
  | .step id _ => [id]
  | .list items => stepIdsOfItems items
  | .dict items => stepIdsOfFields items
  | _ => []

def Meaning.stepIdsOfItems : List Meaning → List String
  | [] => []
  | item :: items => item.stepIds ++ stepIdsOfItems items

def Meaning.stepIdsOfFields : List (String × Meaning) → List String
  | [] => []
  | (_, value) :: fields => value.stepIds ++ stepIdsOfFields fields

end

/-! ### Texts -/

/-- The text of a leaf. -/
def leafText : Json → Option String
  | .str text => some text
  | _ => none

/-- The texts in a value, at any depth. -/
def texts (value : Json) : List String := value.leaves.filterMap leafText

mutual

/-- The texts in a value outside of its lists. -/
def boundTexts : Json → List String
  | .str text => [text]
  | .obj fields => boundTextsOfFields fields
  | _ => []

def boundTextsOfFields : List (String × Json) → List String
  | [] => []
  | (_, value) :: fields => boundTexts value ++ boundTextsOfFields fields

end

mutual

/-- The texts in the lists of a value. -/
def listedTexts : Json → List String
  | .arr items => items.flatMap texts
  | .obj fields => listedTextsOfFields fields
  | _ => []

def listedTextsOfFields : List (String × Json) → List String
  | [] => []
  | (_, value) :: fields => listedTexts value ++ listedTextsOfFields fields

end

/-- The numbers in a value are finite. -/
def FiniteNumbers (value : Json) : Prop :=
  ∀ token, Json.float token ∈ value.leaves → isFinite token = true

variable {aliases : List String}

theorem finiteNumbers_arr (items : List Json) :
    FiniteNumbers (.arr items) ↔ ∀ item ∈ items, FiniteNumbers item := by
  simp only [FiniteNumbers, Json.leaves_arr, List.mem_flatMap]
  constructor
  · intro h item hitem token htoken
    exact h token ⟨item, hitem, htoken⟩
  · intro h token ⟨item, hitem, htoken⟩
    exact h item hitem token htoken

theorem finiteNumbers_obj (fields : List (String × Json)) :
    FiniteNumbers (.obj fields) ↔ ∀ field ∈ fields, FiniteNumbers field.2 := by
  simp only [FiniteNumbers, Json.leaves_obj, List.mem_flatMap]
  constructor
  · intro h field hfield token htoken
    exact h token ⟨field, hfield, htoken⟩
  · intro h token ⟨field, hfield, htoken⟩
    exact h field hfield token htoken

theorem finiteNumbers_str (text : String) : FiniteNumbers (.str text) := by
  intro token htoken
  simp at htoken

theorem texts_arr (items : List Json) : texts (.arr items) = items.flatMap texts := by
  rw [texts, Json.leaves_arr, List.filterMap_flatMap]
  rfl

theorem texts_obj (fields : List (String × Json)) :
    texts (.obj fields) = fields.flatMap fun field => texts field.2 := by
  rw [texts, Json.leaves_obj, List.filterMap_flatMap]
  rfl

theorem texts_str (text : String) : texts (.str text) = [text] := by
  rw [texts, Json.leaves_str]
  rfl

/-! ### Chunks -/

/-- The chunks of a text make up the text. -/
theorem flatten_splitStringLiteral (text : List Char) : (splitStringLiteral text).flatten = text := by
  induction text using splitStringLiteral.induct with
  | case1 text hlong ih =>
    rw [splitStringLiteral, if_pos hlong, List.flatten_cons, ih, List.take_append_drop]
  | case2 text hshort =>
    rw [splitStringLiteral, if_neg hshort]
    simp

theorem join_splitStringLiteral (text : String) :
    String.join ((splitStringLiteral text.toList).map String.ofList) = text := by
  apply String.toList_inj.mp
  rw [String.toList_join, List.flatMap_map]
  simp only [String.toList_ofList]
  rw [List.flatMap_id', flatten_splitStringLiteral]

/-! ### Parts of a meaning -/

theorem literalItems_eq_map (items : List Json) : literalItems items = items.map literalMeaning := by
  induction items with
  | nil => rfl
  | cons item items ih => rw [literalItems, ih, List.map_cons]

theorem literalFields_eq_map (fields : List (String × Json)) :
    literalFields fields = fields.map fun field => (field.1, literalMeaning field.2) := by
  induction fields with
  | nil => rfl
  | cons field fields ih => rw [literalFields, ih, List.map_cons]

theorem itemsMeaning_eq_map (items : List Json) :
    itemsMeaning aliases items = items.map (bindingMeaning aliases) := by
  induction items with
  | nil => rfl
  | cons item items ih => rw [itemsMeaning, ih, List.map_cons]

theorem fieldsMeaning_eq_map (fields : List (String × Json)) : fieldsMeaning aliases fields =
    fields.map fun field => (field.1, bindingMeaning aliases field.2) := by
  induction fields with
  | nil => rfl
  | cons field fields ih => rw [fieldsMeaning, ih, List.map_cons]

theorem itemMeanings_eq_map (items : List (String × PyExpr)) : PyExpr.itemMeanings items =
    items.map fun item => (item.1, item.2.meaning) := by
  induction items with
  | nil => rfl
  | cons item items ih => rw [PyExpr.itemMeanings, ih, List.map_cons]

theorem buildDictLiteral_eq_map [ReprText] (indent : Nat) (fields : List (String × Json)) :
    buildDictLiteral indent fields =
      fields.map fun field => (field.1, dictValue indent field.1 field.2) := by
  induction fields with
  | nil => rfl
  | cons field fields ih => rw [buildDictLiteral, ih, List.map_cons]

theorem boundTexts_obj (fields : List (String × Json)) :
    boundTexts (.obj fields) = fields.flatMap fun field => boundTexts field.2 := by
  rw [boundTexts]
  induction fields with
  | nil => rfl
  | cons field fields ih => rw [boundTextsOfFields, ih, List.flatMap_cons]

theorem listedTexts_obj (fields : List (String × Json)) :
    listedTexts (.obj fields) = fields.flatMap fun field => listedTexts field.2 := by
  rw [listedTexts]
  induction fields with
  | nil => rfl
  | cons field fields ih => rw [listedTextsOfFields, ih, List.flatMap_cons]

/-- A text in a value is outside of its lists or in one of them. -/
theorem mem_texts {value : Json} {text : String} :
    text ∈ texts value ↔ text ∈ boundTexts value ∨ text ∈ listedTexts value := by
  induction value using Json.induction with
  | null | bool | int | float => simp [texts, Json.leaves, leafText, boundTexts, listedTexts]
  | str s => simp [texts_str, boundTexts, listedTexts]
  | arr items => simp [texts_arr, boundTexts, listedTexts]
  | obj fields ih =>
    rw [texts_obj, boundTexts_obj, listedTexts_obj]
    simp only [List.mem_flatMap]
    constructor
    · rintro ⟨field, hfield, htext⟩
      rcases (ih field hfield).mp htext with h | h
      · exact Or.inl ⟨field, hfield, h⟩
      · exact Or.inr ⟨field, hfield, h⟩
    · rintro (⟨field, hfield, h⟩ | ⟨field, hfield, h⟩)
      · exact ⟨field, hfield, (ih field hfield).mpr (Or.inl h)⟩
      · exact ⟨field, hfield, (ih field hfield).mpr (Or.inr h)⟩

/-! ### References -/

/-- The branches of `_resolve_binding`, for two parts and more. -/
theorem resolveParts_cons {text first second : String} {rest : List String} :
    resolveParts text (first :: second :: rest) =
      if first = "inputs" then .inputs (second :: rest)
      else if first = "steps" ∧ rest ≠ [] then .step second rest
      else if first = "requires" then .component second rest
      else .component first [second] := by
  by_cases hinputs : first = "inputs"
  · subst hinputs
    rfl
  · by_cases hsteps : first = "steps"
    · subst hsteps
      cases rest with
      | nil => simp [resolveParts]
      | cons field fields => simp [resolveParts]
    · by_cases hrequires : first = "requires"
      · subst hrequires
        simp [resolveParts]
      · simp [resolveParts, hinputs, hsteps, hrequires]

theorem resolveParts_requires {text name : String} {path : List String} :
    resolveParts text ("requires" :: name :: path) = .component name path := by
  simp [resolveParts_cons]

theorem partsMeaning_cons {first second : String} {rest : List String} :
    partsMeaning aliases (first :: second :: rest) =
      if first = "inputs" then some (.inputs (second :: rest))
      else if first = "steps" ∧ rest ≠ [] then some (.step second rest)
      else if first = "requires" ∧ second ∈ aliases ∧ rest ≠ [] then some (.component second rest)
      else if first ∈ aliases then some (.component first (second :: rest))
      else none := by
  by_cases hinputs : first = "inputs"
  · subst hinputs
    rfl
  · by_cases hsteps : first = "steps"
    · subst hsteps
      cases rest with
      | nil => simp [partsMeaning]
      | cons field fields => simp [partsMeaning]
    · simp [partsMeaning, hinputs, hsteps]

/-- A reference is a read of the inputs, of a step or of a component. -/
theorem reference_cases (aliases : List String) (text : String) :
    reference aliases text = none ∨ (∃ keys, reference aliases text = some (.inputs keys)) ∨
      (∃ id path, reference aliases text = some (.step id path)) ∨
      ∃ name path, reference aliases text = some (.component name path) := by
  rw [reference]
  split
  · match h : referenceParts text with
    | [] => simp [partsMeaning]
    | [_] => simp [partsMeaning]
    | first :: second :: rest =>
      rw [partsMeaning_cons]
      split_ifs <;> simp
  · simp

theorem reference_ne_scalar {text : String} {value : Json} :
    reference aliases text ≠ some (.scalar value) := by
  rcases reference_cases aliases text with h | ⟨_, h⟩ | ⟨_, _, h⟩ | ⟨_, _, h⟩ <;> simp [h]

/-- A text is a literal of the specification when it is no reference. -/
theorem scalar_eq_iff {text : String} :
    Meaning.scalar (.str text) = bindingMeaning aliases (.str text) ↔
      reference aliases text = none := by
  rw [bindingMeaning]
  cases h : reference aliases text with
  | none => simp
  | some meaning =>
    simp only [Option.getD_some, reduceCtorEq, iff_false]
    rintro rfl
    exact reference_ne_scalar h

/-- A literal means what the specification does when it has no references in it and its numbers are
finite; by induction on the value. -/
theorem literalMeaning_eq_iff {value : Json} :
    literalMeaning value = bindingMeaning aliases value ↔
      (∀ text ∈ texts value, reference aliases text = none) ∧ FiniteNumbers value := by
  induction value using Json.induction with
  | null | bool | int =>
    simp [literalMeaning, bindingMeaning, texts, Json.leaves, leafText, FiniteNumbers]
  | float token =>
    by_cases hfinite : isFinite token = true
    · simp [literalMeaning, hfinite, bindingMeaning, texts, Json.leaves, leafText, FiniteNumbers]
    · simp [literalMeaning, hfinite, bindingMeaning, Json.leaves, FiniteNumbers]
  | str text =>
    rw [texts_str, literalMeaning, scalar_eq_iff]
    · simp [finiteNumbers_str]
    all_goals simp
  | arr items ih =>
    rw [literalMeaning, bindingMeaning, Meaning.list.injEq, literalItems_eq_map,
      itemsMeaning_eq_map, List.map_inj_left, texts_arr, finiteNumbers_arr]
    simp only [List.mem_flatMap, forall_exists_index, and_imp]
    constructor
    · intro h
      refine ⟨fun text item hitem => ?_, fun item hitem => ?_⟩
      · exact ((ih item hitem).mp (h item hitem)).1 text
      · exact ((ih item hitem).mp (h item hitem)).2
    · rintro ⟨htexts, hfinite⟩ item hitem
      exact (ih item hitem).mpr ⟨fun text => htexts text item hitem, hfinite item hitem⟩
  | obj fields ih =>
    rw [literalMeaning, bindingMeaning, Meaning.dict.injEq, literalFields_eq_map,
      fieldsMeaning_eq_map, List.map_inj_left, texts_obj, finiteNumbers_obj]
    simp only [List.mem_flatMap, forall_exists_index, and_imp, Prod.mk.injEq, true_and]
    constructor
    · intro h
      refine ⟨fun text field hfield => ?_, fun field hfield => ?_⟩
      · exact ((ih field hfield).mp (h field hfield)).1 text
      · exact ((ih field hfield).mp (h field hfield)).2
    · rintro ⟨htexts, hfinite⟩ field hfield
      exact (ih field hfield).mpr ⟨fun text => htexts text field hfield, hfinite field hfield⟩

/-- The expression for a text that starts with a dollar sign means what the text does. -/
def Resolved (aliases : List String) (text : String) : Prop :=
  (resolveBinding text).meaning = bindingMeaning aliases (.str text)

/-- The references of a value are read, and the rest of it can be written as a literal. -/
structure Rendered (aliases : List String) (value : Json) : Prop where
  bound : ∀ text ∈ boundTexts value, isReference text = true → Resolved aliases text
  listed : ∀ text ∈ listedTexts value, reference aliases text = none
  finite : FiniteNumbers value

theorem rendered_arr (items : List Json) : Rendered aliases (.arr items) ↔
    (∀ text ∈ texts (.arr items), reference aliases text = none) ∧ FiniteNumbers (.arr items) := by
  constructor
  · intro h
    refine ⟨fun text htext => h.listed text ?_, h.finite⟩
    rwa [listedTexts, ← texts_arr]
  · intro ⟨htexts, hfinite⟩
    refine ⟨by simp [boundTexts], fun text htext => htexts text ?_, hfinite⟩
    rwa [texts_arr]

theorem rendered_obj (fields : List (String × Json)) :
    Rendered aliases (.obj fields) ↔ ∀ field ∈ fields, Rendered aliases field.2 := by
  constructor
  · intro h field hfield
    refine ⟨fun text htext => h.bound text ?_, fun text htext => h.listed text ?_, ?_⟩
    · rw [boundTexts_obj]
      exact List.mem_flatMap.mpr ⟨field, hfield, htext⟩
    · rw [listedTexts_obj]
      exact List.mem_flatMap.mpr ⟨field, hfield, htext⟩
    · exact (finiteNumbers_obj fields).mp h.finite field hfield
  · intro h
    refine ⟨fun text htext => ?_, fun text htext => ?_, ?_⟩
    · rw [boundTexts_obj] at htext
      obtain ⟨field, hfield, htext⟩ := List.mem_flatMap.mp htext
      exact (h field hfield).bound text htext
    · rw [listedTexts_obj] at htext
      obtain ⟨field, hfield, htext⟩ := List.mem_flatMap.mp htext
      exact (h field hfield).listed text htext
    · exact (finiteNumbers_obj fields).mpr fun field hfield => (h field hfield).finite

theorem rendered_str (text : String) :
    Rendered aliases (.str text) ↔ (isReference text = true → Resolved aliases text) := by
  constructor
  · intro h
    exact h.bound text (by simp [boundTexts])
  · intro h
    exact ⟨by simpa [boundTexts] using h, by simp [listedTexts], finiteNumbers_str text⟩

theorem rendered_of_leaf {value : Json} (hbound : boundTexts value = [])
    (hlisted : listedTexts value = []) : Rendered aliases value ↔ FiniteNumbers value :=
  ⟨fun h => h.finite, fun h => ⟨by simp [hbound], by simp [hlisted], h⟩⟩

/-- A text that is no reference means what the specification does. -/
theorem scalar_of_not_isReference {text : String} (h : isReference text = false) :
    Meaning.scalar (.str text) = bindingMeaning aliases (.str text) :=
  scalar_eq_iff.mpr (by simp [reference, h])

/-- A literal that is no text and no dict means what the specification does when it is rendered. -/
theorem literal_eq_iff {value : Json} (htext : ∀ text, value ≠ .str text)
    (hobj : ∀ fields, value ≠ .obj fields) :
    (PyExpr.literal value).meaning = bindingMeaning aliases value ↔ Rendered aliases value := by
  rw [PyExpr.meaning, literalMeaning_eq_iff]
  cases value with
  | null | bool | int | float =>
    rw [rendered_of_leaf (by simp [boundTexts]) (by simp [listedTexts])]
    simp [texts, Json.leaves, leafText]
  | str text => exact absurd rfl (htext text)
  | arr items => exact (rendered_arr items).symm
  | obj fields => exact absurd rfl (hobj fields)

section Expressions

variable [ReprText]

/-- A dict means what the specification does when the values of its keys do. -/
theorem itemMeanings_eq_iff {fields : List (String × Json)} {indent : Nat}
    (hfields : ∀ field ∈ fields, (dictValue indent field.1 field.2).meaning =
      bindingMeaning aliases field.2 ↔ Rendered aliases field.2) :
    PyExpr.itemMeanings (buildDictLiteral indent fields) = fieldsMeaning aliases fields ↔
      Rendered aliases (.obj fields) := by
  rw [itemMeanings_eq_map, buildDictLiteral_eq_map, List.map_map, fieldsMeaning_eq_map,
    List.map_inj_left, rendered_obj]
  simp only [Function.comp_apply, Prod.mk.injEq, true_and]
  constructor
  · intro h field hfield
    exact (hfields field hfield).mp (h field hfield)
  · intro h field hfield
    exact (hfields field hfield).mpr (h field hfield)

/-- The value of a key means what the specification does when it is rendered; by induction on the
value. -/
theorem dictValue_eq_iff {value : Json} {indent : Nat} {key : String} :
    (dictValue indent key value).meaning = bindingMeaning aliases value ↔
      Rendered aliases value := by
  induction value using Json.induction generalizing indent key with
  | null | bool | int | float | arr =>
    rw [dictValue, literal_eq_iff]
    all_goals simp
  | str text =>
    rw [rendered_str]
    by_cases hreference : isReference text = true
    · simp only [dictValue, hreference, if_true, true_imp_iff]
      rfl
    · have hscalar := @scalar_of_not_isReference aliases _ (by simpa using hreference)
      simp only [dictValue, hreference, if_false, false_imp_iff, iff_true, Bool.false_eq_true]
      split
      · rw [PyExpr.meaning, join_splitStringLiteral]
        exact hscalar
      · rw [PyExpr.meaning, literalMeaning]
        · exact hscalar
        all_goals simp
  | obj fields ih =>
    rw [dictValue, PyExpr.meaning, bindingMeaning, Meaning.dict.injEq]
    exact itemMeanings_eq_iff fun field hfield => ih field hfield

/-- An argument means what the specification does when it is rendered. -/
theorem argument_eq_iff {value : Json} :
    (argument value).meaning = bindingMeaning aliases value ↔ Rendered aliases value := by
  cases value with
  | null | bool | int | float | arr =>
    rw [argument, literal_eq_iff]
    all_goals simp
  | str text =>
    rw [rendered_str]
    by_cases hreference : isReference text = true
    · simp only [argument, hreference, if_true, true_imp_iff]
      rfl
    · have hscalar := @scalar_of_not_isReference aliases _ (by simpa using hreference)
      simpa [argument, hreference, PyExpr.meaning, literalMeaning] using hscalar
  | obj fields =>
    rw [argument, PyExpr.meaning, bindingMeaning, Meaning.dict.injEq]
    exact itemMeanings_eq_iff fun field _ => dictValue_eq_iff

end Expressions

/-! ### The condition -/

/-- What follows the dollar sign is a required alias with a path. -/
def NamesAlias (aliases : List String) (rest : String) : Prop :=
  ∃ name ∈ aliases, ∃ field fields, referenceParts ("$" ++ rest) = name :: field :: fields

/-- The two spellings of a text that refers to a required alias give the same expression. -/
def SpellingsAgree (aliases : List String) (text : String) : Prop :=
  ∀ rest, text = "$requires." ++ rest ∨ text = "$" ++ rest → NamesAlias aliases rest →
    resolveBinding ("$requires." ++ rest) = resolveBinding ("$" ++ rest)

/-- A text is a reference to the inputs or to a step, or one to a single field of a required alias;
and no alias has a name that gives the text a second reading. -/
def ReadInFull (aliases : List String) : List String → Prop
  | first :: second :: rest =>
    if first = "inputs" then "inputs" ∉ aliases
    else if first = "steps" ∧ rest ≠ [] then "steps" ∉ aliases
    else if first = "requires" then
      "requires" ∉ aliases ∧ second ∈ aliases ∧ second ≠ "inputs" ∧ rest.length = 1
    else first ∈ aliases ∧ rest = []
  | _ => False

theorem meaning_resolveParts_ne_scalar {text : String} {parts : List String} {value : Json} :
    (resolveParts text parts).meaning ≠ .scalar value := by
  match parts with
  | [] => simp [resolveParts, PyExpr.meaning]
  | [_] => simp [resolveParts, PyExpr.meaning]
  | first :: second :: rest =>
    rw [resolveParts_cons]
    split_ifs <;> simp [PyExpr.meaning]

theorem resolved_iff {text : String} (h : isReference text = true) :
    Resolved aliases text ↔ partsMeaning aliases (referenceParts text) =
      some (resolveParts text (referenceParts text)).meaning := by
  rw [Resolved, resolveBinding, if_pos h, bindingMeaning, reference, if_pos h]
  cases partsMeaning aliases (referenceParts text) with
  | none => simp [meaning_resolveParts_ne_scalar]
  | some meaning => simp [eq_comm]

theorem isReference_dollar (rest : String) : isReference ("$" ++ rest) = true := by
  simp [isReference]

theorem isReference_requires (rest : String) : isReference ("$requires." ++ rest) = true := by
  simp [isReference]

theorem exists_of_isReference {text : String} (h : isReference text = true) :
    ∃ rest, text = "$" ++ rest := by
  refine ⟨String.ofList text.toList.tail, String.toList_inj.mp ?_⟩
  have hhead : text.toList.head? = some '$' := by simpa [isReference] using h
  obtain ⟨cs, hcs⟩ := List.head?_eq_some_iff.mp hhead
  simp [hcs]

theorem referenceParts_requires (rest : String) :
    referenceParts ("$requires." ++ rest) = "requires" :: referenceParts ("$" ++ rest) := by
  have hrequires : '.' ∉ "requires".toList := by decide
  have htail : ("$requires." ++ rest).toList.tail = "requires".toList ++ '.' :: rest.toList := by
    simp
  rw [referenceParts, htail, List.splitOn_append_cons_self_of_not_mem hrequires, List.map_cons,
    String.ofList_toList, referenceParts]
  simp

/-- A text of the long spelling. -/
theorem exists_of_referenceParts_requires {text second : String} {rest : List String}
    (h : isReference text = true) (hparts : referenceParts text = "requires" :: second :: rest) :
    ∃ short, text = "$requires." ++ short ∧ referenceParts ("$" ++ short) = second :: rest := by
  obtain ⟨tail, rfl⟩ := exists_of_isReference h
  have hsplit : (tail.toList.splitOn '.').map String.ofList = "requires" :: second :: rest := by
    simpa [referenceParts] using hparts
  obtain ⟨first, parts, hcons, hfirst, hmap⟩ := List.map_eq_cons_iff.mp hsplit
  obtain ⟨next, parts, rfl, rfl, rfl⟩ := List.map_eq_cons_iff.mp hmap
  have htail : tail.toList = first ++ '.' :: ['.'].intercalate (next :: parts) := by
    calc
      tail.toList = ['.'].intercalate (tail.toList.splitOn '.') :=
        (List.intercalate_splitOn '.').symm
      _ = first ++ '.' :: ['.'].intercalate (next :: parts) := by
        rw [hcons]
        simp
  have htext : "$" ++ tail = "$requires." ++ String.ofList (['.'].intercalate (next :: parts)) := by
    apply String.toList_inj.mp
    have hrequires : first = "requires".toList := by rw [← hfirst, String.toList_ofList]
    simp [htail, hrequires]
  refine ⟨_, htext, ?_⟩
  rw [htext, referenceParts_requires] at hparts
  exact (List.cons.inj hparts).2

theorem spellingsAgree_iff {text first second : String} {rest : List String}
    (h : isReference text = true) (hparts : referenceParts text = first :: second :: rest) :
    SpellingsAgree aliases text ↔
      (first ∈ aliases →
        resolveParts text (first :: second :: rest) = .component first (second :: rest)) ∧
      (first = "requires" → second ∈ aliases → rest ≠ [] →
        resolveParts text (second :: rest) = .component second rest) := by
  constructor
  · intro hagree
    constructor
    · intro hfirst
      obtain ⟨short, rfl⟩ := exists_of_isReference h
      have hsame := hagree short (Or.inr rfl) ⟨first, hfirst, second, rest, hparts⟩
      rw [resolveBinding, if_pos (isReference_requires short), resolveBinding, if_pos h,
        referenceParts_requires, hparts] at hsame
      exact hsame.symm
    · rintro rfl hsecond hrest
      obtain ⟨field, fields, rfl⟩ := List.exists_cons_of_ne_nil hrest
      obtain ⟨short, rfl, hshort⟩ := exists_of_referenceParts_requires h hparts
      have hsame := hagree short (Or.inl rfl) ⟨second, hsecond, field, fields, hshort⟩
      rw [resolveBinding, if_pos h, resolveBinding, if_pos (isReference_dollar short), hparts,
        hshort] at hsame
      rw [resolveParts_requires, resolveParts_cons] at hsame
      rw [resolveParts_cons]
      exact hsame.symm
  · intro ⟨hshort, hlong⟩ other hother ⟨name, hname, field, fields, hnames⟩
    rw [resolveBinding, if_pos (isReference_requires other), resolveBinding,
      if_pos (isReference_dollar other), referenceParts_requires, hnames]
    rcases hother with rfl | rfl
    · obtain ⟨rfl, rfl, rfl⟩ : first = "requires" ∧ second = name ∧ rest = field :: fields := by
        simpa [referenceParts_requires, hnames, eq_comm] using hparts
      have hsame := hlong rfl hname (by simp)
      rw [resolveParts_cons] at hsame
      rw [resolveParts_requires, resolveParts_cons]
      exact hsame.symm
    · obtain ⟨rfl, rfl, rfl⟩ : first = name ∧ second = field ∧ rest = fields := by
        simpa [hnames, eq_comm] using hparts
      exact (hshort hname).symm

/-- The short spelling is rendered as a read of the alias when a single field is read. -/
theorem resolveParts_eq_component_iff {text name field : String} {fields : List String} :
    resolveParts text (name :: field :: fields) = .component name (field :: fields) ↔
      name ≠ "inputs" ∧ name ≠ "requires" ∧ fields = [] := by
  rw [resolveParts_cons]
  by_cases hinputs : name = "inputs"
  · simp [hinputs]
  by_cases hsteps : name = "steps"
  · by_cases hfields : fields = []
    · simp [hsteps, hfields]
    · simp [hsteps, hfields]
  by_cases hrequires : name = "requires"
  · simp [hrequires]
  · simp [hinputs, hsteps, hrequires, eq_comm]

/-- A text that starts with a dollar sign is rendered as the specification reads it, in both
spellings, when it is read in full. -/
theorem resolved_and_agree_iff {text : String} (h : isReference text = true) :
    Resolved aliases text ∧ SpellingsAgree aliases text ↔
      ReadInFull aliases (referenceParts text) := by
  rw [resolved_iff h]
  match hparts : referenceParts text with
  | [] => simp [partsMeaning, ReadInFull]
  | [_] => simp [partsMeaning, ReadInFull]
  | first :: second :: rest =>
    rw [spellingsAgree_iff h hparts, resolveParts_cons, partsMeaning_cons, ReadInFull]
    by_cases hinputs : first = "inputs"
    · subst hinputs
      simp [PyExpr.meaning]
    by_cases hsteps : first = "steps" ∧ rest ≠ []
    · obtain ⟨rfl, hrest⟩ := hsteps
      simp [PyExpr.meaning, hrest]
    by_cases hrequires : first = "requires"
    · subst hrequires
      simp only [String.reduceEq, false_and, if_false, if_true, true_and, true_imp_iff,
        PyExpr.meaning]
      match rest with
      | [] => simp
      | field :: fields =>
        rw [resolveParts_eq_component_iff]
        by_cases hsecond : second ∈ aliases
        · have hrest : (field :: fields).length = 1 ↔ fields = [] := by simp
          simp only [hsecond, hrest, ne_eq, reduceCtorEq, not_false_eq_true, and_self, if_true,
            true_imp_iff, true_and]
          grind
        · simp [hsecond]
    · simp only [hinputs, hsteps, hrequires, if_false, false_and, PyExpr.meaning]
      by_cases hfirst : first ∈ aliases
      · simp [hfirst]
      · simp [hfirst]

/-- A text that is read in full has the two spellings alike, also where it is no reference. -/
theorem spellingsAgree_of_reference_eq_none {text : String} (h : reference aliases text = none) :
    SpellingsAgree aliases text := by
  rintro short (rfl | rfl) ⟨name, hname, field, fields, hnames⟩
  · rw [reference, if_pos (isReference_requires short), referenceParts_requires, hnames,
      partsMeaning_cons] at h
    simp [hname] at h
  · rw [reference, if_pos (isReference_dollar short), hnames, partsMeaning_cons] at h
    simp only [hname, if_true] at h
    split_ifs at h

theorem spellingsAgree_of_not_isReference {text : String} (h : isReference text = false) :
    SpellingsAgree aliases text := by
  rintro short (rfl | rfl) _
  · simp [isReference_requires] at h
  · simp [isReference_dollar] at h

/-! ### Step references -/

/-- The step that a reference reads. -/
def referencedSteps : Option Meaning → List String
  | some (.step id _) => [id]
  | _ => []

/-- The references to steps in a value are whole texts. -/
def WholeReferences (aliases : List String) (value : Json) : Prop :=
  ∀ text ∈ texts value, findStepRefs text.toList = referencedSteps (reference aliases text)

theorem stepIdsOfItems_eq_flatMap (items : List Meaning) :
    Meaning.stepIdsOfItems items = items.flatMap Meaning.stepIds := by
  induction items with
  | nil => rfl
  | cons item items ih => rw [Meaning.stepIdsOfItems, ih, List.flatMap_cons]

theorem stepIdsOfFields_eq_flatMap (fields : List (String × Meaning)) :
    Meaning.stepIdsOfFields fields = fields.flatMap fun field => field.2.stepIds := by
  induction fields with
  | nil => rfl
  | cons field fields ih => rw [Meaning.stepIdsOfFields, ih, List.flatMap_cons]

theorem collectStepRefs_arr (items : List Json) :
    collectStepRefs (.arr items) = items.flatMap collectStepRefs := by
  rw [collectStepRefs, Json.leaves_arr, List.flatMap_assoc]
  rfl

theorem collectStepRefs_obj (fields : List (String × Json)) :
    collectStepRefs (.obj fields) = fields.flatMap fun field => collectStepRefs field.2 := by
  rw [collectStepRefs, Json.leaves_obj, List.flatMap_assoc]
  rfl

/-- The steps that a text reads. -/
theorem stepIds_reference (text : String) :
    (bindingMeaning aliases (.str text)).stepIds = referencedSteps (reference aliases text) := by
  rw [bindingMeaning]
  rcases reference_cases aliases text with h | ⟨keys, h⟩ | ⟨id, path, h⟩ | ⟨name, path, h⟩
  all_goals simp [h, Meaning.stepIds, referencedSteps]

/-- The steps that are read are the ones that are collected; by induction on the value. -/
theorem stepIds_bindingMeaning {value : Json} (hwhole : WholeReferences aliases value) :
    (bindingMeaning aliases value).stepIds = collectStepRefs value := by
  induction value using Json.induction with
  | null | bool | int | float =>
    simp [bindingMeaning, Meaning.stepIds, collectStepRefs, Json.leaves]
  | str text =>
    rw [stepIds_reference, ← hwhole text (by simp [texts_str]), collectStepRefs, Json.leaves_str]
    simp
  | arr items ih =>
    rw [bindingMeaning, Meaning.stepIds, itemsMeaning_eq_map, stepIdsOfItems_eq_flatMap,
      List.flatMap_map, collectStepRefs_arr]
    refine List.flatMap_congr fun item hitem => ih item hitem fun text htext => hwhole text ?_
    rw [texts_arr]
    exact List.mem_flatMap.mpr ⟨item, hitem, htext⟩
  | obj fields ih =>
    rw [bindingMeaning, Meaning.stepIds, fieldsMeaning_eq_map, stepIdsOfFields_eq_flatMap,
      List.flatMap_map, collectStepRefs_obj]
    refine List.flatMap_congr fun field hfield => ih field hfield fun text htext => hwhole text ?_
    rw [texts_obj]
    exact List.mem_flatMap.mpr ⟨field, hfield, htext⟩

/-! ### Generated calls -/

section Calls

variable [ReprText]

/-- The generated call reads what the input mapping refers to, and has the rest of it as literals. -/
structure RendersReferences (aliases : List String) (input : Dict String Json) : Prop where
  values : ((buildStepArgs input).map fun arg => (arg.1, arg.2.meaning)) =
    input.items.map fun item => (toSnake item.1, bindingMeaning aliases item.2)
  spellings : ∀ item ∈ input.items, ∀ text ∈ texts item.2, SpellingsAgree aliases text
  stepIds : (∀ item ∈ input.items, WholeReferences aliases item.2) →
    ∀ id, id ∈ (buildStepArgs input).flatMap (fun arg => arg.2.meaning.stepIds) ↔
      id ∈ collectStepRefs (.obj input.items)

/-- Outside of lists every text that starts with a dollar sign is read in full, the lists have no
references, and the numbers are finite. -/
structure ReadsInFull (aliases : List String) (input : Dict String Json) : Prop where
  bound : ∀ item ∈ input.items, ∀ text ∈ boundTexts item.2, isReference text = true →
    ReadInFull aliases (referenceParts text)
  listed : ∀ item ∈ input.items, ∀ text ∈ listedTexts item.2, reference aliases text = none
  finite : ∀ item ∈ input.items, FiniteNumbers item.2

theorem values_iff {input : Dict String Json} :
    ((buildStepArgs input).map fun arg => (arg.1, arg.2.meaning)) =
        input.items.map (fun item => (toSnake item.1, bindingMeaning aliases item.2)) ↔
      ∀ item ∈ input.items, Rendered aliases item.2 := by
  rw [buildStepArgs, List.map_map, List.map_inj_left]
  simp only [Function.comp_apply, Prod.mk.injEq, true_and, argument_eq_iff]

end Calls

namespace Sample

scoped instance reprText : ReprText := ⟨fun text => "'" ++ text ++ "'"⟩

/-- The input of a step that reads a field of a field of a component. -/
def sessionInput : Dict String Json := .ofList [("user", .str "$auth.session.user_id")]

end Sample

end Ucf.Spec
