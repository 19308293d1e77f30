import Ucf.Ir.Equivalence
import Ucf.Library.JsonRoundTrip

/-! Canonical text and the documents it is read as. The text of a document determines its canonical
form, and reading the text of a valid document gives that form back. -/

namespace Ucf

/-! ### The JSON profile -/

/-- A value without fractional numbers passes when it does not nest too deep. -/
theorem validateNumberProfile_eq_ok {fuel depth : Nat} {location : String} {j : Json}
    (hexact : j.Exact) (hfuel : j.height ≤ fuel) :
    validateNumberProfile fuel depth location j = .ok () ↔
      depth + j.height ≤ maxJsonNesting + 1 := by
  induction hexact generalizing fuel depth location with
  | null | bool | int | str =>
    obtain ⟨fuel, rfl⟩ : ∃ k, fuel = k + 1 := ⟨fuel - 1, by rw [Json.height] at hfuel <;> grind⟩
    simp only [validateNumberProfile, Json.height]
    split
    · simp only [reduceCtorEq, false_iff]
      omega
    · simp only [true_iff]
      omega
  | @arr items hitems ih =>
    rw [Json.height] at hfuel ⊢
    obtain ⟨fuel, rfl⟩ : ∃ k, fuel = k + 1 := ⟨fuel - 1, by omega⟩
    have hfuels := Json.heightItems_le.mp (Nat.le_of_succ_le_succ hfuel)
    have hall : checkEach (fun index item =>
        validateNumberProfile fuel (depth + 1) (at_ location index) item) items = .ok () ↔
          ∀ item ∈ items, depth + 1 + item.height ≤ maxJsonNesting + 1 :=
      checkEach_eq_ok_of_mem fun _ item hitem => ih item hitem (hfuels item hitem)
    have hheight : (∀ item ∈ items, item.height ≤ maxJsonNesting - depth) ↔
        Json.heightItems items ≤ maxJsonNesting - depth := Json.heightItems_le.symm
    simp only [validateNumberProfile]
    split
    · simp only [reduceCtorEq, false_iff]
      omega
    · rw [hall]
      grind
  | @obj fields hnodup hfields ih =>
    rw [Json.height] at hfuel ⊢
    obtain ⟨fuel, rfl⟩ : ∃ k, fuel = k + 1 := ⟨fuel - 1, by omega⟩
    have hfuels := Json.heightFields_le.mp (Nat.le_of_succ_le_succ hfuel)
    have hall : checkEach (fun _ field =>
        validateNumberProfile fuel (depth + 1) (location ++ "." ++ field.1) field.2) fields =
          .ok () ↔ ∀ field ∈ fields, depth + 1 + field.2.height ≤ maxJsonNesting + 1 :=
      checkEach_eq_ok_of_mem fun _ field hfield => ih field hfield (hfuels field hfield)
    have hheight : (∀ field ∈ fields, field.2.height ≤ maxJsonNesting - depth) ↔
        Json.heightFields fields ≤ maxJsonNesting - depth := Json.heightFields_le.symm
    simp only [validateNumberProfile]
    split
    · simp only [reduceCtorEq, false_iff]
      omega
    · rw [hall]
      grind

/-- A text of an object passes when the object does not nest too deep. -/
theorem decodeStrictJsonObject_of_loads {text : List Char} {fields : List (String × Json)}
    (hhead : text.head? ≠ some (Char.ofNat 0xfeff)) (hloads : Json.loads text = .ok (.obj fields))
    (hexact : (Json.obj fields).Exact) {k : Json} : decodeStrictJsonObject text = .ok k ↔
      (Json.obj fields).height ≤ maxJsonNesting + 1 ∧ k = .obj fields := by
  have hprofile := @validateNumberProfile_eq_ok ((Json.obj fields).height + 1) 0 "$" _
    hexact (Nat.le_succ _)
  rw [Nat.zero_add] at hprofile
  simp only [decodeStrictJsonObject, require, if_pos hhead, ok_bind, hloads, Except.mapError,
    pure_eq_ok, bind_eq_ok]
  constructor
  · rintro ⟨_, hvalid, heq⟩
    exact ⟨hprofile.mp hvalid, (Except.ok.inj heq).symm⟩
  · rintro ⟨hheight, rfl⟩
    exact ⟨(), hprofile.mpr hheight, rfl⟩

theorem decodeStrictJsonObject_canonicalLine {fields : List (String × Json)}
    (hexact : (Json.obj fields).Exact) {k : Json} :
    decodeStrictJsonObject (Json.obj fields).canonicalLine = .ok k ↔
      (Json.obj fields).height ≤ maxJsonNesting + 1 ∧ k = (Json.obj fields).canonical := by
  have hhead : (Json.obj fields).canonicalLine.head? ≠ some (Char.ofNat 0xfeff) := by
    rw [Json.canonicalLine, Json.canonical_obj, Json.write]
    exact fun h => absurd (Option.some.inj h) (by decide)
  obtain ⟨sorted, hsorted⟩ : ∃ sorted, (Json.obj fields).canonical = .obj sorted :=
    ⟨_, Json.canonical_obj fields⟩
  have hloads := Json.loads_canonicalLine hexact
  rw [hsorted] at hloads
  rw [decodeStrictJsonObject_of_loads hhead hloads (hsorted ▸ hexact.canonical), ← hsorted,
    Json.height_canonical]

/-- Sorting the fields of an object moves no string to another field. -/
theorem get?_canonical_str {fields : List (String × Json)} (hexact : (Json.obj fields).Exact)
    {name text : String} (hget : (Json.obj fields).get? name = some (.str text)) :
    (Json.obj fields).canonical.get? name = some (.str text) := by
  cases hexact with
  | obj hnodup _ =>
    obtain ⟨value, hvalue, hstr⟩ := (Json.same_canonical (.obj fields)).get? rfl hnodup hget
    rw [hvalue, Json.same_str.mp hstr]

/-! ### Documents -/

/-- The canonical text of the document nests no deeper than the codec reads. -/
def BehaviorIR.WithinNesting (document : BehaviorIR) : Prop :=
  (canonicalIrValue document).height ≤ maxJsonNesting + 1

theorem Json.Within.height_le {n : Nat} {j : Json} (h : j.Within n) : j.height ≤ n + 1 := by
  induction h with
  | arr _ ih =>
    rw [Json.height]
    exact Nat.succ_le_succ (Json.heightItems_le.mpr fun item hitem => ih item hitem)
  | obj _ ih =>
    rw [Json.height]
    exact Nat.succ_le_succ (Json.heightFields_le.mpr fun field hfield => ih field hfield)
  | _ => simp [Json.height]

/-- Only an entity can nest too deep. -/
theorem BehaviorIR.withinNesting_iff {document : BehaviorIR} : document.WithinNesting ↔
    ∀ entity ∈ document.entities, (modelDump entity.canonical).height < maxJsonNesting := by
  have hdump : canonicalIrValue document = .obj [("kind", .str "behavior_ir"),
      ("ir_version", .str currentIrVersion), ("document_id", .str document.documentId.val),
      ("roots", modelDump document.canonical.roots),
      ("entities", .arr (document.canonical.entities.map modelDump))] := canonicalIrValue_eq document
  have hroots : (modelDump document.canonical.roots).height ≤ 3 :=
    (Model.schema.within 2 rfl document.canonical.roots).height_le
  have hmem : ∀ entity, entity ∈ document.canonical.entities ↔
      ∃ original ∈ document.entities, original.canonical = entity := by
    intro entity
    rw [BehaviorIR.canonical, mem_sortedBy, List.mem_map]
  rw [BehaviorIR.WithinNesting, hdump, Json.height, Nat.succ_le_succ_iff, Json.heightFields_le]
  simp only [List.forall_mem_cons, Json.height, List.not_mem_nil, false_imp_iff, implies_true,
    and_true, maxJsonNesting]
  constructor
  · rintro ⟨_, _, _, _, hentities⟩ entity hentity
    have hheight := Json.heightItems_le.mp (Nat.le_sub_of_add_le hentities) (modelDump entity.canonical)
      (List.mem_map_of_mem ((hmem _).mpr ⟨entity, hentity, rfl⟩))
    omega
  · intro h
    refine ⟨by omega, by omega, by omega, by omega, ?_⟩
    refine Nat.succ_le_succ (Json.heightItems_le.mpr fun item hitem => ?_)
    obtain ⟨entity, hentity, rfl⟩ := List.mem_map.mp hitem
    obtain ⟨original, horiginal, rfl⟩ := (hmem entity).mp hentity
    have := h original horiginal
    omega

theorem exact_modelDump {α : Type} [Model α] (a : α) : (modelDump a).Exact := Model.schema.exact a

theorem canonicalIrJson_eq (document : BehaviorIR) :
    canonicalIrJson document = (modelDump document.canonical).canonicalLine := by
  rw [canonicalIrJson, canonicalIrValue_eq]

theorem canonicalIrJson_eq_iff {d e : BehaviorIR} :
    canonicalIrJson d = canonicalIrJson e ↔ d.canonical = e.canonical := by
  rw [canonicalIrJson_eq, canonicalIrJson_eq,
    Json.canonicalLine_inj (exact_modelDump _) (exact_modelDump _)]
  exact ⟨modelDump_injective, fun h => by rw [h]⟩

/-- The text of a document is read back as its canonical form, when it is valid and not too deep. -/
theorem parseIrJson_canonicalIrJson {d e : BehaviorIR} :
    parseIrJson (canonicalIrJson d) = .ok e ↔
      d.WithinNesting ∧ d.WellFormed ∧ e = d.canonical := by
  have hdump : ∀ b : BehaviorIR, modelDump b = .obj [("kind", .str "behavior_ir"),
      ("ir_version", .str currentIrVersion), ("document_id", .str b.documentId.val),
      ("roots", modelDump b.roots), ("entities", .arr (b.entities.map modelDump))] :=
    fun _ => rfl
  have hdecode : ∀ k, decodeStrictJsonObject (canonicalIrJson d) = .ok k ↔
      d.WithinNesting ∧ k = (modelDump d.canonical).canonical := by
    intro k
    rw [canonicalIrJson_eq, BehaviorIR.WithinNesting, canonicalIrValue_eq]
    have hexact := exact_modelDump d.canonical
    rw [hdump] at hexact ⊢
    exact decodeStrictJsonObject_canonicalLine hexact
  have hversion : (modelDump d.canonical).canonical.get? "ir_version" =
      some (.str currentIrVersion) := by
    have hexact := exact_modelDump d.canonical
    rw [hdump] at hexact ⊢
    exact get?_canonical_str hexact rfl
  have hload : (modelValidate (modelDump d.canonical).canonical : Except (List Issue) BehaviorIR) =
      .ok d.canonical := Model.schema.load_canonical_dump d.canonical
  have hvalid : validateIrSemantics d.canonical = .ok () ↔ d.WellFormed := by
    rw [validateIrSemantics_eq_ok]
    exact ⟨d.equiv_canonical.symm.wellFormed, BehaviorIR.WellFormed.canonical⟩
  have hdecoded : ∀ k, decodeIrJson (canonicalIrJson d) = .ok k ↔
      d.WithinNesting ∧ k = (modelDump d.canonical).canonical := by
    intro k
    simp only [decodeIrJson, bind_eq_ok, hdecode]
    constructor
    · rintro ⟨_, ⟨hnesting, rfl⟩, hrest⟩
      simp only [hversion, bind_eq_ok, require_eq_ok, pure_eq_ok, Except.ok.injEq] at hrest
      obtain ⟨_, _, _, _, rfl⟩ := hrest
      exact ⟨hnesting, rfl⟩
    · rintro ⟨hnesting, rfl⟩
      refine ⟨_, ⟨hnesting, rfl⟩, ?_⟩
      simp only [hversion, bind_eq_ok, require_eq_ok, pure_eq_ok]
      exact ⟨(), by decide, (), trivial, trivial⟩
  simp only [parseIrJson, bind_eq_ok, hdecoded]
  constructor
  · rintro ⟨_, ⟨hnesting, rfl⟩, document, hdocument, _, hsemantics, hresult⟩
    rw [hload] at hdocument
    obtain rfl : d.canonical = document := Except.ok.inj hdocument
    exact ⟨hnesting, hvalid.mp hsemantics, (Except.ok.inj hresult).symm⟩
  · rintro ⟨hnesting, hwf, rfl⟩
    exact ⟨_, ⟨hnesting, rfl⟩, d.canonical, by rw [hload]; rfl, (), hvalid.mpr hwf, rfl⟩

/-- The canonical text is a complete invariant of valid documents up to the order of their sets,
and a normal form: it is read back as a document with the same text. -/
theorem canonicalIrJson_complete {d e : BehaviorIR} (hd : validateIrSemantics d = .ok ())
    (he : validateIrSemantics e = .ok ()) (hdNesting : d.WithinNesting)
    (heNesting : e.WithinNesting) :
    (canonicalIrJson d = canonicalIrJson e ↔ d.Equiv e) ∧
      (∃ parsed, parseIrJson (canonicalIrJson d) = .ok parsed ∧ d.Equiv parsed ∧
        canonicalIrJson parsed = canonicalIrJson d) ∧
      (∃ parsed, parseIrJson (canonicalIrJson e) = .ok parsed ∧ e.Equiv parsed ∧
        canonicalIrJson parsed = canonicalIrJson e) ∧
      canonicalize none "" (canonicalIrValue d) = canonicalIrValue d := by
  have hread : ∀ b : BehaviorIR, validateIrSemantics b = .ok () → b.WithinNesting →
      ∃ parsed, parseIrJson (canonicalIrJson b) = .ok parsed ∧ b.Equiv parsed ∧
        canonicalIrJson parsed = canonicalIrJson b := by
    intro b hb hnesting
    have hwf := validateIrSemantics_eq_ok.mp hb
    refine ⟨b.canonical, parseIrJson_canonicalIrJson.mpr ⟨hnesting, hwf, rfl⟩,
      b.equiv_canonical, ?_⟩
    rw [canonicalIrJson_eq_iff, BehaviorIR.canonical_canonical hwf]
  have hwf := validateIrSemantics_eq_ok.mp hd
  refine ⟨?_, hread d hd hdNesting, hread e he heNesting, ?_⟩
  · rw [canonicalIrJson_eq_iff, BehaviorIR.canonical_eq_iff hwf]
  · have hcanonical := canonicalIrValue_eq d.canonical
    rw [BehaviorIR.canonical_canonical hwf] at hcanonical
    rw [canonicalIrValue_eq d]
    exact hcanonical

end Ucf

/-! ### A sample

An effect whose value is a record, what it requires, the check that it passed and where it comes
from; and the same document in another order. Its digest is zero under every hash function that
gives it that digest. -/

namespace Ucf.Sample

/-- The digest of every sample document. -/
def digestValue : DigestValue := ⟨0, lt_digestBound.mpr (by norm_num)⟩

def digest : Digest := ⟨digestValue⟩

scoped instance hashlib : Hashlib := ⟨fun _ => digestValue⟩

theorem version_valid : stringConstraints 0 none matchVersion "1.0.0" = none := by decide

theorem timestamp_valid : andThen (stringConstraints 0 none matchTimestamp) isUtcTimestamp
    "2024-01-01T00:00:00Z" = none := by decide

theorem sampleUri_valid : uriConstraints "urn:ucf:sample" = none := by decide

def producer : Producer := ⟨⟨"org.ucf", by decide⟩, ⟨"1.0.0", version_valid⟩⟩

def irProvenance : Provenance where
  id := ⟨"source", by decide⟩
  source := ⟨⟨"urn:ucf:sample", sampleUri_valid⟩, digest⟩
  producer := producer
  capturedAt := ⟨"2024-01-01T00:00:00Z", timestamp_valid⟩

def provenanceRef : EntityRef := ⟨.provenance, irProvenance.id⟩

theorem sampleName_valid : (stringConstraints 3 (some 255) fun cs =>
    let parts := splitOn '.' cs
    2 ≤ parts.length && parts.all (matchName fun c => c = '-')) "org.ucf.sample" = none := by decide

def capability : CapabilityRequirement where
  id := ⟨"capability", by decide⟩
  name := ⟨"org.ucf.sample", sampleName_valid⟩
  minimumVersion := ⟨"1.0.0", version_valid⟩
  required := true
  provenance := provenanceRef

/-- A record of two entries. -/
def recordValue : IRValue :=
  .record [(⟨"a", by decide⟩, .scalar (.null ⟨⟩)), (⟨"b", by decide⟩, .scalar (.null ⟨⟩))]

/-- The same record in the other order. -/
def recordValue' : IRValue :=
  .record [(⟨"b", by decide⟩, .scalar (.null ⟨⟩)), (⟨"a", by decide⟩, .scalar (.null ⟨⟩))]

theorem order_valid : stringConstraints 1 (some 255) (matchName fun c => c ∈ ['.', '_', '-'])
    "order" = none := by decide

theorem sample_valid : stringConstraints 1 (some 255) (matchName fun c => c ∈ ['.', '_', '-'])
    "sample" = none := by decide

def effect : Effect where
  id := ⟨"effect", by decide⟩
  operation := ⟨"set", by decide⟩
  target := ⟨⟨"order", order_valid⟩, []⟩
  value := recordValue
  requires := ⟨[⟨.capabilityRequirement, capability.id⟩], by decide⟩
  provenance := provenanceRef

def check : Check :=
  ⟨⟨"check", by decide⟩, ⟨"1.0.0", version_valid⟩, ⟨"urn:ucf:check", by decide⟩⟩

def evidence : VerificationEvidence where
  id := ⟨"evidence", by decide⟩
  subjects := [⟨.effect, effect.id⟩]
  check := check
  outcome := .passed
  executedAt := ⟨"2024-01-01T00:00:00Z", timestamp_valid⟩
  sourceRevision := digest
  environment := digest
  provenance := provenanceRef

def behavior : BehaviorIR where
  documentId := ⟨"sample", sample_valid⟩
  roots := []
  entities := [.provenance irProvenance, .capabilityRequirement capability, .effect effect,
    .verificationEvidence evidence]

def behavior' : BehaviorIR where
  documentId := ⟨"sample", sample_valid⟩
  roots := []
  entities := [.effect { effect with value := recordValue' }, .verificationEvidence evidence,
    .provenance irProvenance, .capabilityRequirement capability]

end Ucf.Sample

namespace Ucf

open Ucf.Sample

theorem canonicalIrJson_complete_sample : behavior ≠ behavior' ∧
    canonicalIrJson behavior = canonicalIrJson behavior' ∧ behavior.Equiv behavior' := by
  have hsame : canonicalIrJson behavior = canonicalIrJson behavior' := by
    rw [canonicalIrJson_eq_iff]
    decide +kernel
  have hcomplete := @canonicalIrJson_complete behavior behavior' (by decide +kernel)
    (by decide +kernel) (by unfold BehaviorIR.WithinNesting; decide +kernel)
    (by unfold BehaviorIR.WithinNesting; decide +kernel)
  exact ⟨by decide +kernel, hsame, hcomplete.1.mp hsame⟩

end Ucf
