import Ucf.Generation.StagedTree

/-! The text of a receipt and its reading, and the staged tree of a result as the tree that is read as
this result. -/

namespace Ucf

/-! ### Nesting -/

theorem exists_encodeValue_of_items {depth : Nat} {items : List Json} {values : List IRValue}
    (h : encodeItems depth items = .ok values) :
    ∀ item ∈ items, ∃ value, encodeValue depth item = .ok value := by
  induction items generalizing values with
  | nil => simp
  | cons item items ih =>
    simp only [encodeItems, bind_eq_ok] at h
    obtain ⟨value, hvalue, rest, hrest, -⟩ := h
    exact List.forall_mem_cons.mpr ⟨⟨value, hvalue⟩, ih hrest⟩

theorem exists_value_of_recordEntries {fields : List (String × Except ProfileValueError IRValue)}
    {entries : List (Identifier × IRValue)} (h : recordEntries fields = .ok entries) :
    ∀ field ∈ fields, ∃ value, field.2 = .ok value := by
  induction fields generalizing entries with
  | nil => simp
  | cons field fields ih =>
    simp only [recordEntries, bind_eq_ok, recordEntry_eq_ok] at h
    obtain ⟨entry, ⟨-, hvalue⟩, rest, hrest, -⟩ := h
    exact List.forall_mem_cons.mpr ⟨⟨_, hvalue⟩, ih hrest⟩

/-- What can be encoded nests no deeper than a profile value; by induction on the JSON value. -/
theorem height_of_encodeValue {j : Json} {depth : Nat} {value : IRValue}
    (h : encodeValue depth j = .ok value) : depth + j.height ≤ maxProfileValueDepth + 1 := by
  induction j using Json.induction generalizing depth value with
  | null | bool | int | float | str =>
    simp only [encodeValue, bind_eq_ok, checkDepth_eq_ok] at h
    obtain ⟨_, hdepth, -⟩ := h
    rw [Json.height]
    all_goals first | omega | simp
  | arr items ih =>
    simp only [encodeValue, bind_eq_ok, checkDepth_eq_ok] at h
    obtain ⟨_, hdepth, values, hvalues, -⟩ := h
    have hitems : Json.heightItems items ≤ maxProfileValueDepth - depth := by
      refine Json.heightItems_le.mpr fun item hitem => ?_
      obtain ⟨value, hvalue⟩ := exists_encodeValue_of_items hvalues item hitem
      have hheight := ih item hitem hvalue
      omega
    rw [Json.height]
    omega
  | obj fields ih =>
    simp only [encodeValue, bind_eq_ok, checkDepth_eq_ok] at h
    obtain ⟨_, hdepth, entries, hentries, -⟩ := h
    have hfields : Json.heightFields fields ≤ maxProfileValueDepth - depth := by
      refine Json.heightFields_le.mpr fun field hfield => ?_
      have hmem : (field.1, encodeValue (depth + 1) field.2) ∈
          sortedBy Prod.fst (encodeFields (depth + 1) fields) := by
        rw [mem_sortedBy, encodeFields_eq_map]
        exact List.mem_map.mpr ⟨field, hfield, rfl⟩
      obtain ⟨value, hvalue⟩ := exists_value_of_recordEntries hentries _ hmem
      have hheight := ih field hfield hvalue
      omega
    rw [Json.height]
    omega

end Ucf

namespace Ucf.Generation

section Documents

variable [Hashlib] {result : GenerationResult}

/-! ### Receipts -/

/-- The document of an accepted result nests no deeper than the strict decoder reads. -/
theorem height_of_validate (h : validateGenerationResultStructure result = .ok ()) :
    (modelDump result).height ≤ maxJsonNesting + 1 := by
  simp only [validateGenerationResultStructure, validateResultBudget, adapterPayload,
    jsonProfileToIrValue, bind_eq_ok, mapError_eq_ok] at h
  obtain ⟨_, -, _, -, _, ⟨_, ⟨_, hencode, -⟩, -⟩, -⟩ := h
  have hheight := height_of_encodeValue hencode
  rw [Nat.zero_add] at hheight
  exact hheight

theorem exists_canonical_eq_obj (result : GenerationResult) :
    ∃ fields, (modelDump result).canonical = .obj fields := by
  obtain ⟨fields, hfields⟩ : ∃ fields, modelDump result = .obj fields := ⟨_, rfl⟩
  rw [hfields]
  exact ⟨_, Json.canonical_obj fields⟩

omit [Hashlib] in
theorem modelValidate_canonical {α : Type} [Model α] (a : α) :
    modelValidate (modelDump a).canonical = .ok a := Model.schema.load_canonical_dump a

omit [Hashlib] in
/-- A text of the canonical form of a document that does not nest too deep is decoded as this form. -/
theorem decodeStrictJsonObject_of_canonical {j : Json} (hexact : j.Exact)
    (hobj : ∃ fields, j.canonical = .obj fields) (hheight : j.height ≤ maxJsonNesting + 1)
    {text : List Char} (hhead : text.head? ≠ some (Char.ofNat 0xfeff))
    (hloads : Json.loads text = .ok j.canonical) :
    decodeStrictJsonObject text = .ok j.canonical := by
  obtain ⟨fields, hfields⟩ := hobj
  have hcanonical := hexact.canonical
  rw [← Json.height_canonical] at hheight
  rw [hfields] at hloads hcanonical hheight ⊢
  exact (decodeStrictJsonObject_of_loads hhead hloads hcanonical).mpr ⟨hheight, rfl⟩

/-- A text that is read as the canonical document of an accepted result is parsed as the result. -/
theorem parseGenerationResultJson_of_loads (h : validateGenerationResultStructure result = .ok ())
    {text : List Char} (hhead : text.head? ≠ some (Char.ofNat 0xfeff))
    (hloads : Json.loads text = .ok (modelDump result).canonical) :
    parseGenerationResultJson (utf8Encode text) = .ok result := by
  have hdecode := decodeStrictJsonObject_of_canonical (exact_modelDump result)
    (exists_canonical_eq_obj result) (height_of_validate h) hhead hloads
  have hload := modelValidate_canonical result
  simp only [parseGenerationResultJson, bind_eq_ok, orRaise_eq_ok, mapError_eq_ok, pure_eq_ok,
    Except.ok.injEq]
  exact ⟨text, utf8Decode_utf8Encode text, _, hdecode, result, hload, (), h, rfl⟩

theorem head?_write_ne (rest : List Char) :
    ((modelDump result).canonical.write ++ rest).head? ≠ some (Char.ofNat 0xfeff) := by
  obtain ⟨fields, hfields⟩ := exists_canonical_eq_obj result
  rw [hfields, Json.write]
  exact fun h => absurd (Option.some.inj h) (by decide)

/-- The canonical text of an accepted result is parsed as the result. -/
theorem parseGenerationResultJson_canonical {receipt : List UInt8}
    (h : canonicalGenerationJson result = .ok receipt) :
    parseGenerationResultJson receipt = .ok result := by
  simp only [canonicalGenerationJson, bind_eq_ok, pure_eq_ok, Except.ok.injEq] at h
  obtain ⟨_, hvalid, rfl⟩ := h
  exact parseGenerationResultJson_of_loads hvalid (head?_write_ne ['\n'])
    (Json.loads_canonicalLine (exact_modelDump result))

/-- So is this text without its line feed. -/
theorem parseGenerationResultJson_write (h : validateGenerationResultStructure result = .ok ()) :
    parseGenerationResultJson (utf8Encode (modelDump result).canonical.write) = .ok result := by
  have hhead := @head?_write_ne _ result []
  have hloads := @Json.loads_write_append _ (exact_modelDump result).canonical [] nofun rfl
  rw [List.append_nil] at hhead hloads
  exact parseGenerationResultJson_of_loads h hhead hloads

/-- The bytes are canonical JSON text. -/
def IsCanonicalText (bytes : List UInt8) : Prop :=
  ∃ j : Json, j.Exact ∧ bytes = utf8Encode j.canonicalLine

/-- A text that is parsed as a result is the canonical text of the result when it is canonical
JSON. -/
theorem canonical_iff_of_parse {receipt : List UInt8}
    (h : parseGenerationResultJson receipt = .ok result) :
    canonicalGenerationJson result = .ok receipt ↔ IsCanonicalText receipt := by
  simp only [parseGenerationResultJson, bind_eq_ok, orRaise_eq_ok, mapError_eq_ok, pure_eq_ok,
    Except.ok.injEq] at h
  obtain ⟨text, htext, decoded, hdecoded, parsed, hparsed, _, hvalid, rfl⟩ := h
  rw [canonicalGenerationJson, hvalid]
  simp only [ok_bind, pure_eq_ok, Except.ok.injEq]
  constructor
  · rintro rfl
    exact ⟨_, exact_modelDump parsed, rfl⟩
  · rintro ⟨j, hexact, rfl⟩
    rw [utf8Decode_utf8Encode, Option.some.injEq] at htext
    subst htext
    have hobj : decoded = j.canonical := by
      simp only [decodeStrictJsonObject, bind_eq_ok, mapError_eq_ok, Json.loads_canonicalLine hexact,
        Except.ok.injEq] at hdecoded
      obtain ⟨_, -, _, rfl, hrest⟩ := hdecoded
      split at hrest
      · simp only [bind_eq_ok, pure_eq_ok, Except.ok.injEq] at hrest
        obtain ⟨_, -, hrest⟩ := hrest
        exact hrest.symm
      · simp at hrest
    rw [hobj, modelValidate_eq_ok] at hparsed
    have hsame : j.Same (modelDump parsed) := (Json.same_canonical j).symm.trans hparsed
    rw [(Json.canonicalLine_inj hexact (exact_modelDump parsed)).mpr hsame]

/-! ### Trees -/

/-- The tree is exactly the set of the files of a result, of its receipt and of the directories above
them. -/
def IsTreeOf (t : GeneratedTree) (result : GenerationResult) : Prop :=
  ∃ receipt, canonicalGenerationJson result = .ok receipt ∧ t.Holds (places result receipt)

omit [Hashlib] in
/-- The receipt of a tree is canonical JSON text. -/
def HasCanonicalReceipt (t : GeneratedTree) : Prop :=
  ∃ bytes, t.node [generationReceiptName] = some (.file (.regular 1 bytes)) ∧ IsCanonicalText bytes

variable {t t' : GeneratedTree}

theorem node_receipt {receipt : List UInt8} (h : t.Holds (places result receipt)) :
    t.node [generationReceiptName] = some (.file (.regular 1 receipt)) :=
  (h.file _ _).mpr (mem_places.mpr (Or.inr rfl))

theorem isTreeOf_iff (h : readExistingTree t = .ok result) :
    IsTreeOf t result ↔ HasCanonicalReceipt t := by
  obtain ⟨bytes, hparse, hholds⟩ := readExistingTree_eq_ok.mp h
  have hcanonical := canonical_iff_of_parse hparse
  constructor
  · rintro ⟨receipt, hreceipt, hholds'⟩
    have heq : bytes = receipt := by
      have hnode := node_receipt hholds
      rw [node_receipt hholds'] at hnode
      simpa [eq_comm] using hnode
    rw [← heq] at hreceipt
    exact ⟨bytes, node_receipt hholds, hcanonical.mp hreceipt⟩
  · rintro ⟨receipt, hreceipt, htext⟩
    have heq : bytes = receipt := by
      have hnode := node_receipt hholds
      rw [hreceipt] at hnode
      simpa [eq_comm] using hnode
    rw [← heq] at htext
    exact ⟨bytes, hcanonical.mpr htext, hholds⟩

/-- The staged tree of an accepted result is read as the result. An accepted tree is exactly the tree
of the result that it is read as when its receipt is canonical; two accepted trees of one result are
equal when both receipts are canonical. -/
structure TreesRoundTrip : Prop where
  staged : ∀ result, validateGenerationResultStructure result = .ok () →
    ∃ t, writeStagedTree result = .ok t ∧ readExistingTree t = .ok result ∧ IsTreeOf t result
  exact_iff : ∀ t result, readExistingTree t = .ok result →
    (IsTreeOf t result ↔ HasCanonicalReceipt t)
  unique_iff : ∀ t t' result, readExistingTree t = .ok result → readExistingTree t' = .ok result →
    HasCanonicalReceipt t → (t = t' ↔ HasCanonicalReceipt t')

theorem trees_roundTrip : TreesRoundTrip where
  staged := by
    intro result hvalid
    have hreceipt : canonicalGenerationJson result =
        .ok (utf8Encode (modelDump result).canonicalLine) := by
      rw [canonicalGenerationJson, hvalid]
      rfl
    obtain ⟨t, hwrite, hholds⟩ := exists_writeStagedTree hreceipt
    exact ⟨t, hwrite,
      readExistingTree_eq_ok.mpr ⟨_, parseGenerationResultJson_canonical hreceipt, hholds⟩,
      _, hreceipt, hholds⟩
  exact_iff := fun _ _ h => isTreeOf_iff h
  unique_iff := by
    intro t t' result h h' hcanonical
    constructor
    · rintro rfl
      exact hcanonical
    · intro hcanonical'
      obtain ⟨receipt, hreceipt, hholds⟩ := (isTreeOf_iff h).mpr hcanonical
      obtain ⟨receipt', hreceipt', hholds'⟩ := (isTreeOf_iff h').mpr hcanonical'
      rw [hreceipt, Except.ok.injEq] at hreceipt'
      rw [← hreceipt'] at hholds'
      exact hholds.unique hholds'

end Documents

/-! ### A sample

The result of generating one empty file for an action with one output, under a hash function that
gives the same digest to everything. -/

namespace Sample

open Ucf.Sample

def action : Action where
  id := ⟨"act", by decide⟩
  inputPorts := []
  outputPorts := [⟨⟨"out", by decide⟩, .null, false⟩]
  effects := []
  requires := []
  provenance := provenanceRef

def actionBehavior : BehaviorIR where
  documentId := ⟨"sample", Ucf.Sample.sample_valid⟩
  roots := []
  entities := [.action action, .provenance irProvenance]

def subject : BehaviorEntityRef := ⟨actionBehavior.documentId, digest, .action, action.id⟩

def capability : CapabilitySelection :=
  ⟨⟨"org.ucf.adapter.generation", by decide⟩, ⟨"1.0.0", Ucf.Sample.version_valid⟩⟩

def profileCapability : CapabilitySelection :=
  ⟨⟨"org.ucf.sample", Ucf.Sample.sampleName_valid⟩, ⟨"1.0.0", Ucf.Sample.version_valid⟩⟩

def procedureUri : VersionedURN := ⟨"urn:ucf:sample:1.0.0", by decide⟩

def outputValue : GenerationPortValue where
  port := ⟨⟨.action, action.id⟩, .output, ⟨"out", by decide⟩⟩
  value := .scalar (.null ⟨⟩)
  valid := by decide

def request : GenerationRequest where
  id := ⟨digestValue⟩
  capability := capability
  profileCapability := profileCapability
  adapterProcedureUri := procedureUri
  behavior := actionBehavior
  subject := subject
  inputs := ⟨[], by decide, by decide⟩
  expectedOutputs := ⟨[outputValue], by decide, by decide⟩
  environment := ⟨procedureUri, digest⟩
  profileConfiguration := ⟨.record [], rfl⟩
  valid := by decide +kernel

def file : GeneratedFile where
  path := ⟨"tests/test_act.py", by decide +kernel⟩
  mediaType := ⟨"text/x-python", by decide +kernel⟩
  byteSize := ⟨0, by decide, by decide⟩
  contentDigest := digest
  content := ⟨"", by decide⟩
  valid := by decide +kernel

def generated : GenerationResult where
  id := ⟨digestValue⟩
  request := request
  producer := producer
  capability := capability
  profileCapability := profileCapability
  procedureUri := procedureUri
  files := ⟨[file], by decide, by decide⟩
  verification := ⟨procedureUri, ⟨⟨[⟨"pytest", by decide⟩], by decide, by decide⟩, by decide⟩⟩
  valid := by decide +kernel

end Sample

end Ucf.Generation
