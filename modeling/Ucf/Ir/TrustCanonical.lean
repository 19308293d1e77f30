import Ucf.Ir.TrustClaims
import Ucf.Ir.TrustCodec

/-! The canonical form of a Trust IR document, and what validation against Behavior IR makes of it.
Reading back the canonical texts of an accepted pair gives the pair of canonical forms. Validation
compares the values of a mapping entry by entry in their order, so the canonical pair is accepted
with the same dispositions exactly when no compared values differ in the order of entries alone. -/

namespace Ucf

/-! ### Canonical forms -/

/-- The key by which references to records are sorted. -/
def recordRefKey (ref : RecordRef) : String ×ₗ String :=
  toLex (ref.targetKind.value, ref.targetId.val)

/-- The key by which records are sorted. -/
def TrustRecord.key (record : TrustRecord) : String ×ₗ String :=
  toLex (record.kind.value, record.id.val)

def CandidateSubjects.canonical (subjects : CandidateSubjects) : CandidateSubjects :=
  ⟨sortedBy recordRefKey subjects.val, by rw [length_sortedBy]; exact subjects.property⟩

namespace TrustRecord

/-- The record with its sets in order. -/
def canonical : TrustRecord → TrustRecord
  | observedFact r => .observedFact
      { r with assertion := { r.assertion with value := r.assertion.value.canonical } }
  | behaviorCandidate r => .behaviorCandidate { r with subjects := r.subjects.canonical }
  | record => record

@[simp] theorem id_canonical (record : TrustRecord) : record.canonical.id = record.id := by
  cases record <;> rfl

@[simp] theorem kind_canonical (record : TrustRecord) : record.canonical.kind = record.kind := by
  cases record <;> rfl

@[simp] theorem trace?_canonical (record : TrustRecord) :
    record.canonical.trace? = record.trace? := by
  cases record <;> rfl

@[simp] theorem subject?_canonical (record : TrustRecord) :
    record.canonical.subject? = record.subject? := by
  cases record <;> rfl

end TrustRecord

/-- The document with its sets in order. -/
def TrustIR.canonical (document : TrustIR) : TrustIR where
  documentId := document.documentId
  subjectDocument := document.subjectDocument
  records := sortedBy TrustRecord.key (document.records.map TrustRecord.canonical)

/-! ### The JSON of a canonical form -/

section Dump

variable (kind : Option Json) (field : String)

theorem canonicalize_recordRef (ref : RecordRef) :
    canonicalize kind field (modelDump ref) = modelDump ref := by
  have hdump : modelDump ref = .obj [("kind", .str "record_ref"),
      ("target_kind", .str ref.targetKind.value), ("target_id", .str ref.targetId.val)] := rfl
  simp only [hdump, canonicalize_obj, canonicalizeFields_cons, canonicalizeFields_nil,
    canonicalize_str]

theorem canonicalize_behaviorEntityRef (ref : BehaviorEntityRef) :
    canonicalize kind field (modelDump ref) = modelDump ref := by
  have hdump : modelDump ref = .obj [("kind", .str "behavior_entity_ref"),
      ("document_id", .str ref.documentId.val), ("ir_version", .str currentIrVersion),
      ("canonical_digest", modelDump ref.canonicalDigest),
      ("target_kind", .str ref.targetKind.value), ("target_id", .str ref.targetId.val)] := rfl
  simp only [hdump, canonicalize_obj, canonicalizeFields_cons, canonicalizeFields_nil,
    canonicalize_str, canonicalize_digest]

theorem canonicalize_behaviorDocumentRef (ref : BehaviorDocumentRef) :
    canonicalize kind field (modelDump ref) = modelDump ref := by
  have hdump : modelDump ref = .obj [("kind", .str "behavior_document_ref"),
      ("document_id", .str ref.documentId.val), ("ir_version", .str currentIrVersion),
      ("canonical_digest", modelDump ref.canonicalDigest)] := rfl
  simp only [hdump, canonicalize_obj, canonicalizeFields_cons, canonicalizeFields_nil,
    canonicalize_str, canonicalize_digest]

theorem canonicalize_claimBasis (basis : ClaimBasis) :
    canonicalize kind field (modelDump basis) = modelDump basis := by
  cases basis with
  | observed b =>
    have hdump : modelDump (ClaimBasis.observed b) =
        .obj [("kind", .str "observed_claim_basis"), ("fact", modelDump b.fact)] := rfl
    simp only [hdump, canonicalize_obj, canonicalizeFields_cons, canonicalizeFields_nil,
      canonicalize_str, canonicalize_recordRef]
  | declared b =>
    have hdump : modelDump (ClaimBasis.declared b) =
        .obj [("kind", .str "declared_claim_basis"), ("declaration", modelDump b.declaration)] :=
      rfl
    simp only [hdump, canonicalize_obj, canonicalizeFields_cons, canonicalizeFields_nil,
      canonicalize_str, canonicalize_recordRef]
  | mapped b =>
    have hdump : modelDump (ClaimBasis.mapped b) =
        .obj [("kind", .str "mapped_claim_basis"), ("mapping", modelDump b.mapping)] := rfl
    simp only [hdump, canonicalize_obj, canonicalizeFields_cons, canonicalizeFields_nil,
      canonicalize_str, canonicalize_recordRef]
  | tested b =>
    have hdump : modelDump (ClaimBasis.tested b) =
        .obj [("kind", .str "tested_claim_basis"), ("evidence", modelDump b.evidence),
          ("artifact", modelDump b.artifact), ("check", modelDump b.check),
          ("environment", modelDump b.environment), ("producer", modelDump b.producer)] := rfl
    have hevidence : ∀ kind field, canonicalize kind field (modelDump b.evidence) =
        modelDump b.evidence := by
      intro kind field
      cases b.evidence with
      | behavior reference => exact canonicalize_behaviorEntityRef kind field reference
      | record reference => exact canonicalize_recordRef kind field reference
    simp only [hdump, canonicalize_obj, canonicalizeFields_cons, canonicalizeFields_nil,
      canonicalize_str, canonicalize_recordRef, canonicalize_check, canonicalize_digest,
      canonicalize_producer, hevidence]
  | verified b =>
    have hdump : modelDump (ClaimBasis.verified b) =
        .obj [("kind", .str "verified_claim_basis")] := rfl
    simp only [hdump, canonicalize_obj, canonicalizeFields_cons, canonicalizeFields_nil,
      canonicalize_str]

theorem canonicalize_subjects (refs : List RecordRef) :
    canonicalize kind "subjects" (modelDump refs) = modelDump (sortedBy recordRefKey refs) := by
  have hdump : ∀ refs : List RecordRef, modelDump refs = .arr (refs.map modelDump) := fun _ => rfl
  have hitems : ∀ ref ∈ refs, (canonicalize kind "subjects" ∘ modelDump) ref = modelDump ref :=
    fun ref _ => canonicalize_recordRef kind "subjects" ref
  rw [hdump, hdump, canonicalize_arr, List.map_map, List.map_congr_left hitems]
  simp only [orderItems, portSetFields, referenceSetFields, sortedBy_map]
  rfl

theorem TrustRecord.canonicalize_dump (record : TrustRecord) :
    canonicalize kind field (modelDump record) = modelDump record.canonical := by
  cases record with
  | sourceRecord r =>
    have hdump : modelDump (TrustRecord.sourceRecord r) = .obj [("kind", .str "source_record"),
        ("id", .str r.id.val), ("source_uri", .str r.sourceUri.val),
        ("source_revision", modelDump r.sourceRevision), ("producer", modelDump r.producer),
        ("captured_at", .str r.capturedAt.val)] := rfl
    simp only [canonical, hdump, canonicalize_obj, canonicalizeFields_cons,
      canonicalizeFields_nil, canonicalize_str, canonicalize_digest, canonicalize_producer]
  | declaration r =>
    have hdump : modelDump (TrustRecord.declaration r) = .obj [("kind", .str "declaration"),
        ("id", .str r.id.val), ("subject", modelDump r.subject), ("trace", modelDump r.trace)] :=
      rfl
    simp only [canonical, hdump, canonicalize_obj, canonicalizeFields_cons,
      canonicalizeFields_nil, canonicalize_str, canonicalize_behaviorEntityRef,
      canonicalize_recordRef]
  | observedFact r =>
    have hdump : ∀ r : ObservedFact, modelDump (TrustRecord.observedFact r) =
        .obj [("kind", .str "observed_fact"), ("id", .str r.id.val),
          ("subject", modelDump r.subject),
          ("assertion", .obj [("kind", .str "fact_assertion"),
            ("target", modelDump r.assertion.target), ("value", r.assertion.value.dump)]),
          ("trace", modelDump r.trace)] := fun _ => rfl
    simp only [canonical, hdump, canonicalize_obj, canonicalizeFields_cons,
      canonicalizeFields_nil, canonicalize_str, canonicalize_behaviorEntityRef,
      canonicalize_recordRef, canonicalize_domainTarget, IRValue.canonicalize_dump]
  | behaviorCandidate r =>
    have hdump : ∀ r : BehaviorCandidate, modelDump (TrustRecord.behaviorCandidate r) =
        .obj [("kind", .str "behavior_candidate"), ("id", .str r.id.val),
          ("candidate_type", .str "mapping"), ("subjects", modelDump r.subjects.val),
          ("confidence", .obj [("kind", .str "confidence"), ("scale", .str "decimal-0-to-1"),
            ("value", .str r.confidence.value.val)]),
          ("trace", modelDump r.trace)] := fun _ => rfl
    simp only [canonical, hdump, canonicalize_obj, canonicalizeFields_cons,
      canonicalizeFields_nil, canonicalize_str, canonicalize_recordRef, canonicalize_subjects]
    rfl
  | mapping r =>
    have hdump : modelDump (TrustRecord.mapping r) = .obj [("kind", .str "mapping"),
        ("id", .str r.id.val), ("declaration", modelDump r.declaration),
        ("observation", modelDump r.observation), ("relationship", .str "same-behavior-slot"),
        ("disposition", .str r.disposition.value), ("trace", modelDump r.trace)] := rfl
    simp only [canonical, hdump, canonicalize_obj, canonicalizeFields_cons,
      canonicalizeFields_nil, canonicalize_str, canonicalize_recordRef]
  | claim r =>
    have hdump : modelDump (TrustRecord.claim r) = .obj [("kind", .str "claim"),
        ("id", .str r.id.val), ("level", .str r.level.value), ("subject", modelDump r.subject),
        ("basis", modelDump r.basis), ("trace", modelDump r.trace)] := rfl
    simp only [canonical, hdump, canonicalize_obj, canonicalizeFields_cons,
      canonicalizeFields_nil, canonicalize_str, canonicalize_behaviorEntityRef,
      canonicalize_claimBasis, canonicalize_recordRef]

end Dump

theorem TrustIR.canonical_records (document : TrustIR) :
    document.canonical.records =
      (sortedBy TrustRecord.key document.records).map TrustRecord.canonical := by
  have hkeys : sortedBy (fun record => record.canonical.key) document.records =
      sortedBy TrustRecord.key document.records :=
    sortedBy_congr fun record _ => by simp [TrustRecord.key]
  rw [← hkeys]
  exact sortedBy_map _ _ _

/-- The JSON that `canonical_trust_ir_json` writes is that of the canonical form. -/
theorem canonicalTrustIrValue_eq (document : TrustIR) :
    canonicalTrustIrValue document = modelDump document.canonical := by
  have hdump : ∀ t : TrustIR, modelDump t = .obj [("kind", .str "trust_ir"),
      ("trust_ir_version", .str currentTrustIrVersion), ("document_id", .str t.documentId.val),
      ("subject_document", modelDump t.subjectDocument),
      ("records", .arr (t.records.map modelDump))] := fun _ => rfl
  have hsort : sortedBy (fun item => toLex (stringMember "kind" item, stringMember "id" item))
      (document.records.map modelDump) =
        (sortedBy TrustRecord.key document.records).map modelDump := by
    rw [sortedBy_map]
    congr 1
    refine sortedBy_congr fun record _ => ?_
    cases record <;> rfl
  have hsorted : sortRecords (modelDump document) = .obj [("kind", .str "trust_ir"),
      ("trust_ir_version", .str currentTrustIrVersion),
      ("document_id", .str document.documentId.val),
      ("subject_document", modelDump document.subjectDocument),
      ("records", .arr ((sortedBy TrustRecord.key document.records).map modelDump))] := by
    rw [← hsort]
    rfl
  have hitems : ∀ kind, ∀ record ∈ sortedBy TrustRecord.key document.records,
      (canonicalize kind "records" ∘ modelDump) record =
        (modelDump ∘ TrustRecord.canonical) record :=
    fun kind record _ => record.canonicalize_dump kind "records"
  rw [canonicalTrustIrValue, hsorted, hdump, document.canonical_records]
  simp only [TrustIR.canonical, canonicalize_obj, canonicalizeFields_cons,
    canonicalizeFields_nil, canonicalize_str, canonicalize_arr, List.map_map,
    canonicalize_behaviorDocumentRef]
  rw [orderItems_of_list _ _ (by decide) (by decide) (by decide) (by decide),
    List.map_congr_left (hitems _)]

/-! ### Reading back -/

/-- The canonical text of the document nests no deeper than the codec reads. -/
def TrustIR.WithinNesting (document : TrustIR) : Prop :=
  (canonicalTrustIrValue document).height ≤ maxJsonNesting + 1

theorem canonicalTrustIrJson_eq (document : TrustIR) :
    canonicalTrustIrJson document = (modelDump document.canonical).canonicalLine := by
  rw [canonicalTrustIrJson, canonicalTrustIrValue_eq]

/-- The text of a document is read back as its canonical form, when that is valid and not too
deep. -/
theorem parseTrustIrJson_canonicalTrustIrJson {d e : TrustIR} :
    parseTrustIrJson (canonicalTrustIrJson d) = .ok e ↔
      d.WithinNesting ∧ d.canonical.WellFormed ∧ e = d.canonical := by
  have hdump : ∀ t : TrustIR, modelDump t = .obj [("kind", .str "trust_ir"),
      ("trust_ir_version", .str currentTrustIrVersion), ("document_id", .str t.documentId.val),
      ("subject_document", modelDump t.subjectDocument),
      ("records", .arr (t.records.map modelDump))] := fun _ => rfl
  have hdecode : ∀ k, decodeStrictJsonObject (canonicalTrustIrJson d) = .ok k ↔
      d.WithinNesting ∧ k = (modelDump d.canonical).canonical := by
    intro k
    rw [canonicalTrustIrJson_eq, TrustIR.WithinNesting, canonicalTrustIrValue_eq]
    have hexact := exact_modelDump d.canonical
    rw [hdump] at hexact ⊢
    exact decodeStrictJsonObject_canonicalLine hexact
  have hversion : (modelDump d.canonical).canonical.get? "trust_ir_version" =
      some (.str currentTrustIrVersion) := by
    have hexact := exact_modelDump d.canonical
    rw [hdump] at hexact ⊢
    exact get?_canonical_str hexact rfl
  have hload : (modelValidate (modelDump d.canonical).canonical : Except (List Issue) TrustIR) =
      .ok d.canonical := Model.schema.load_canonical_dump d.canonical
  have hdecoded : ∀ k, decodeTrustIrJson (canonicalTrustIrJson d) = .ok k ↔
      d.WithinNesting ∧ k = (modelDump d.canonical).canonical := by
    intro k
    simp only [decodeTrustIrJson, bind_eq_ok, hdecode]
    constructor
    · rintro ⟨_, ⟨hnesting, rfl⟩, hrest⟩
      simp only [hversion, bind_eq_ok, require_eq_ok, pure_eq_ok, Except.ok.injEq] at hrest
      obtain ⟨_, _, _, _, rfl⟩ := hrest
      exact ⟨hnesting, rfl⟩
    · rintro ⟨hnesting, rfl⟩
      refine ⟨_, ⟨hnesting, rfl⟩, ?_⟩
      simp only [hversion, bind_eq_ok, require_eq_ok, pure_eq_ok]
      exact ⟨(), by decide, (), trivial, trivial⟩
  simp only [parseTrustIrJson, bind_eq_ok, hdecoded, validateTrustSemantics_eq_ok]
  constructor
  · rintro ⟨_, ⟨hnesting, rfl⟩, document, hdocument, _, hsemantics, hresult⟩
    rw [hload] at hdocument
    obtain rfl : d.canonical = document := Except.ok.inj hdocument
    exact ⟨hnesting, hsemantics, (Except.ok.inj hresult).symm⟩
  · rintro ⟨hnesting, hwf, rfl⟩
    exact ⟨_, ⟨hnesting, rfl⟩, d.canonical, by rw [hload]; rfl, (), hwf, rfl⟩

/-! ### Validation of the canonical forms -/

section Transfer

variable {t : TrustIR} {b : BehaviorIR}

theorem recordResolves_canonical {ref : RecordRef} {target : TrustRecord} :
    RecordResolves t.canonical.records ref target ↔
      ∃ record, RecordResolves t.records ref record ∧ target = record.canonical := by
  constructor
  · rintro ⟨hmem, hid, hkind⟩
    obtain ⟨record, hrecord, rfl⟩ := List.mem_map.mp (mem_sortedBy.mp hmem)
    exact ⟨record, ⟨hrecord, by simpa using hid, by simpa using hkind⟩, rfl⟩
  · rintro ⟨record, h, rfl⟩
    exact ⟨mem_sortedBy.mpr (List.mem_map_of_mem h.mem), by simpa using h.id_eq,
      by simpa using h.kind_eq⟩

theorem recordTo_canonical {kinds : List TrustRecordKind} {ref : RecordRef} :
    RecordTo t.canonical.records kinds ref ↔ RecordTo t.records kinds ref := by
  simp only [RecordTo, recordResolves_canonical]
  refine and_congr_right fun _ => ?_
  constructor
  · rintro ⟨_, record, h, rfl⟩
    exact ⟨record, h⟩
  · rintro ⟨record, h⟩
    exact ⟨_, record, h, rfl⟩

theorem resolves_canonical {ref : EntityRef} {target : Entity} :
    Resolves b.canonical.entities ref target ↔
      ∃ entity, Resolves b.entities ref entity ∧ target = entity.canonical := by
  constructor
  · rintro ⟨hmem, hid, hkind⟩
    obtain ⟨entity, hentity, rfl⟩ := List.mem_map.mp (mem_sortedBy.mp hmem)
    exact ⟨entity, ⟨hentity, by simpa using hid, by simpa using hkind⟩, rfl⟩
  · rintro ⟨entity, h, rfl⟩
    exact ⟨mem_sortedBy.mpr (List.mem_map_of_mem h.mem), by simpa using h.id_eq,
      by simpa using h.kind_eq⟩

theorem basisFits_canonical {document : BehaviorDocumentRef} {level : ClaimLevel}
    {basis : ClaimBasis} : BasisFits t.canonical.records document level basis ↔
      BasisFits t.records document level basis := by
  constructor
  · intro h
    cases h with
    | observed h => exact .observed (recordTo_canonical.mp h)
    | declared h => exact .declared (recordTo_canonical.mp h)
    | mapped h => exact .mapped (recordTo_canonical.mp h)
    | tested hartifact hevidence hbinds =>
      exact .tested (recordTo_canonical.mp hartifact) hevidence hbinds
    | verified basis => exact .verified basis
  · intro h
    cases h with
    | observed h => exact .observed (recordTo_canonical.mpr h)
    | declared h => exact .declared (recordTo_canonical.mpr h)
    | mapped h => exact .mapped (recordTo_canonical.mpr h)
    | tested hartifact hevidence hbinds =>
      exact .tested (recordTo_canonical.mpr hartifact) hevidence hbinds
    | verified basis => exact .verified basis

theorem candidateFits_canonical {subjects : CandidateSubjects} :
    CandidateFits t.canonical.records subjects.canonical.val ↔
      CandidateFits t.records subjects.val := by
  have hperm : subjects.canonical.val.Perm subjects.val := sortedBy_perm _ _
  have hkinds := hperm.map RecordRef.targetKind
  constructor
  · intro h
    exact ⟨hperm.nodup_iff.mp h.nodup,
      fun ref href => recordTo_canonical.mp (h.refs_to ref (hperm.mem_iff.mpr href)),
      hkinds.mem_iff.mp h.declaration, hkinds.mem_iff.mp h.observedFact,
      hperm.length_eq ▸ h.length_eq⟩
  · intro h
    exact ⟨hperm.nodup_iff.mpr h.nodup,
      fun ref href => recordTo_canonical.mpr (h.refs_to ref (hperm.mem_iff.mp href)),
      hkinds.mem_iff.mpr h.declaration, hkinds.mem_iff.mpr h.observedFact,
      hperm.length_eq.trans h.length_eq⟩

theorem partsFit_canonical {document : BehaviorDocumentRef} {record : TrustRecord} :
    record.canonical.PartsFit t.canonical.records document ↔
      record.PartsFit t.records document := by
  cases record with
  | sourceRecord r => rfl
  | declaration r => rfl
  | observedFact r => rfl
  | behaviorCandidate r => exact candidateFits_canonical
  | mapping r => exact and_congr recordTo_canonical recordTo_canonical
  | claim r => exact and_congr Iff.rfl basisFits_canonical

theorem forall_mem_canonical {P : TrustRecord → Prop} :
    (∀ record ∈ t.canonical.records, P record) ↔
      ∀ record ∈ t.records, P record.canonical := by
  simp only [TrustIR.canonical, mem_sortedBy, List.forall_mem_map]

/-- A document and its canonical form are valid together. -/
theorem TrustIR.wellFormed_canonical : t.canonical.WellFormed ↔ t.WellFormed := by
  have hids : (t.canonical.records.map TrustRecord.id).Nodup ↔
      (t.records.map TrustRecord.id).Nodup := by
    have hperm := (sortedBy_perm TrustRecord.key
      (t.records.map TrustRecord.canonical)).map TrustRecord.id
    rw [TrustIR.canonical, hperm.nodup_iff, List.map_map,
      List.map_congr_left fun record _ => record.id_canonical]
  constructor
  · rintro ⟨hnodup, htraces, hrecords⟩
    rw [forall_mem_canonical] at htraces hrecords
    exact ⟨hids.mp hnodup, fun record hrecord ref href => recordTo_canonical.mp
      (htraces record hrecord ref (record.trace?_canonical.trans href)),
      fun record hrecord => partsFit_canonical.mp (hrecords record hrecord)⟩
  · rintro ⟨hnodup, htraces, hrecords⟩
    refine ⟨hids.mpr hnodup, forall_mem_canonical.mpr fun record hrecord ref href => ?_,
      forall_mem_canonical.mpr fun record hrecord =>
        partsFit_canonical.mpr (hrecords record hrecord)⟩
    exact recordTo_canonical.mpr
      (htraces record hrecord ref (record.trace?_canonical.symm.trans href))

/-- The canonical forms of a compared pair are the pair compared in the canonical documents. -/
theorem compares_canonical {mapping : TrustMapping} {declaration : Declaration}
    {observation' : ObservedFact} {effect' : Effect} :
    Compares t.canonical.records b.canonical.entities mapping declaration observation' effect' ↔
      ∃ observation effect, Compares t.records b.entities mapping declaration observation effect ∧
        .observedFact observation' = (TrustRecord.observedFact observation).canonical ∧
        .effect effect' = (Entity.effect effect).canonical := by
  constructor
  · intro h
    obtain ⟨record, hdeclaration, hdeclared⟩ := recordResolves_canonical.mp h.declared
    obtain ⟨record', hobservation, hobserved⟩ := recordResolves_canonical.mp h.observed
    obtain ⟨entity, heffect, hresolves⟩ := resolves_canonical.mp h.resolves
    cases record with
    | declaration d =>
      cases record' with
      | observedFact o =>
        cases entity with
        | effect e =>
          cases hdeclared
          cases hobserved
          cases hresolves
          exact ⟨o, e, ⟨hdeclaration, hobservation, h.subject_eq, heffect, h.target_eq⟩, rfl, rfl⟩
        | _ => cases hresolves
      | _ => cases hobserved
    | _ => cases hdeclared
  · rintro ⟨observation, effect, h, hobserved, hresolves⟩
    cases hobserved
    cases hresolves
    exact ⟨recordResolves_canonical.mpr ⟨_, h.declared, rfl⟩,
      recordResolves_canonical.mpr ⟨_, h.observed, rfl⟩, h.subject_eq,
      resolves_canonical.mpr ⟨_, h.resolves, rfl⟩, h.target_eq⟩

theorem testedBy_canonical {subject : BehaviorEntityRef} {basis : TestedClaimBasis} :
    (∃ evidence, TestedBy t.canonical.records b.canonical.entities subject basis evidence) ↔
      ∃ evidence, TestedBy t.records b.entities subject basis evidence := by
  constructor
  · rintro ⟨evidence', h⟩
    obtain ⟨ref, href, hevidence⟩ := h.resolves
    obtain ⟨source', hsource, hrevision⟩ := h.artifact
    obtain ⟨provenance', hprovenance, hproducer⟩ := h.producer
    obtain ⟨entity, hentity, hentityEq⟩ := resolves_canonical.mp hevidence
    obtain ⟨record, hrecord, hrecordEq⟩ := recordResolves_canonical.mp hsource
    obtain ⟨origin, horigin, horiginEq⟩ := resolves_canonical.mp hprovenance
    cases entity with
    | verificationEvidence evidence =>
      cases record with
      | sourceRecord source =>
        cases origin with
        | provenance provenance =>
          cases hentityEq
          cases hrecordEq
          cases horiginEq
          exact ⟨evidence, ⟨ref, href, hentity⟩, h.passed, ⟨_, hrecord, hrevision⟩,
            mem_sortedBy.mp h.covers, h.check_eq, h.environment_eq, _, horigin, hproducer⟩
        | _ => cases horiginEq
      | _ => cases hrecordEq
    | _ => cases hentityEq
  · rintro ⟨evidence, h⟩
    obtain ⟨ref, href, hevidence⟩ := h.resolves
    obtain ⟨source, hsource, hrevision⟩ := h.artifact
    obtain ⟨provenance, hprovenance, hproducer⟩ := h.producer
    exact ⟨_, ⟨ref, href, resolves_canonical.mpr ⟨_, hevidence, rfl⟩⟩, h.passed,
      ⟨source, recordResolves_canonical.mpr ⟨_, hsource, rfl⟩, hrevision⟩,
      mem_sortedBy.mpr h.covers, h.check_eq, h.environment_eq, provenance,
      resolves_canonical.mpr ⟨_, hprovenance, rfl⟩, hproducer⟩

theorem claimFits_canonical {subject : BehaviorEntityRef} {basis : ClaimBasis} :
    ClaimFits t.canonical.records b.canonical.entities subject basis ↔
      ClaimFits t.records b.entities subject basis := by
  constructor
  · intro h
    cases h with
    | observed hfact hsubject =>
      obtain ⟨record, hrecord, heq⟩ := recordResolves_canonical.mp hfact
      cases record with
      | observedFact fact =>
        cases heq
        exact .observed hrecord hsubject
      | _ => cases heq
    | declared hdeclaration hsubject =>
      obtain ⟨record, hrecord, heq⟩ := recordResolves_canonical.mp hdeclaration
      cases record with
      | declaration declaration =>
        cases heq
        exact .declared hrecord hsubject
      | _ => cases heq
    | mapped hmapping hdeclaration hobservation hsubject hsubject' =>
      obtain ⟨record, hrecord, heq⟩ := recordResolves_canonical.mp hmapping
      obtain ⟨first, hfirst, hfirstEq⟩ := recordResolves_canonical.mp hdeclaration
      obtain ⟨second, hsecond, hsecondEq⟩ := recordResolves_canonical.mp hobservation
      cases record with
      | mapping mapping =>
        cases first with
        | declaration declaration =>
          cases second with
          | observedFact observation =>
            cases heq
            cases hfirstEq
            cases hsecondEq
            exact .mapped hrecord hfirst hsecond hsubject hsubject'
          | _ => cases hsecondEq
        | _ => cases hfirstEq
      | _ => cases heq
    | tested h =>
      obtain ⟨evidence, h⟩ := testedBy_canonical.mp ⟨_, h⟩
      exact .tested h
  · intro h
    cases h with
    | observed hfact hsubject =>
      exact .observed (recordResolves_canonical.mpr ⟨_, hfact, rfl⟩) hsubject
    | declared hdeclaration hsubject =>
      exact .declared (recordResolves_canonical.mpr ⟨_, hdeclaration, rfl⟩) hsubject
    | mapped hmapping hdeclaration hobservation hsubject hsubject' =>
      exact .mapped (recordResolves_canonical.mpr ⟨_, hmapping, rfl⟩)
        (recordResolves_canonical.mpr ⟨_, hdeclaration, rfl⟩)
        (recordResolves_canonical.mpr ⟨_, hobservation, rfl⟩) hsubject hsubject'
    | tested h =>
      obtain ⟨evidence, h⟩ := testedBy_canonical.mpr ⟨_, h⟩
      exact .tested h

/-- Values that differ do so in more than the order of the entries of records. -/
def InOrder (declared observed : IRValue) : Prop :=
  declared.canonical = observed.canonical → declared = observed

theorem dispositionOf_canonical {declared observed : IRValue} :
    dispositionOf declared.canonical observed.canonical = dispositionOf declared observed ↔
      InOrder declared observed := by
  unfold dispositionOf InOrder
  by_cases h : declared = observed
  · simp [h]
  · simp [h]

/-- The disposition is that of the canonical forms exactly when the values are in order. -/
theorem dispositionOf_match_iff {declared observed : IRValue} :
    (dispositionOf declared observed = .match_ ↔ declared.canonical = observed.canonical) ↔
      InOrder declared observed := by
  unfold dispositionOf InOrder
  by_cases h : declared = observed
  · simp [h]
  · simp [h]

theorem mappingFits_canonical {mapping : TrustMapping}
    (horder : ∀ declaration observation effect,
      Compares t.records b.entities mapping declaration observation effect →
        InOrder effect.value observation.assertion.value) :
    MappingFits t.canonical.records b.canonical.entities mapping ↔
      MappingFits t.records b.entities mapping := by
  constructor
  · rintro ⟨declaration, observation', effect', h, hdisposition⟩
    obtain ⟨observation, effect, hcompares, hobserved, hresolves⟩ := compares_canonical.mp h
    cases hobserved
    cases hresolves
    refine ⟨declaration, observation, effect, hcompares, ?_⟩
    rw [hdisposition]
    exact dispositionOf_canonical.mpr (horder _ _ _ hcompares)
  · rintro ⟨declaration, observation, effect, h, hdisposition⟩
    refine ⟨declaration, _, _, compares_canonical.mpr ⟨observation, effect, h, rfl, rfl⟩, ?_⟩
    rw [hdisposition]
    exact (dispositionOf_canonical.mpr (horder _ _ _ h)).symm

end Transfer

/-! ### Validation and canonical text -/

variable [Hashlib] {t : TrustIR} {b : BehaviorIR}

theorem canonicalIrDigest_canonical (hb : b.WellFormed) :
    canonicalIrDigest b.canonical = canonicalIrDigest b := by
  rw [canonicalIrDigest, canonicalIrDigest, canonicalIrValue_eq, canonicalIrValue_eq,
    BehaviorIR.canonical_canonical hb]

/-- A pair and its canonical forms are accepted together, when the compared values are in order. -/
theorem supportedBy_canonical
    (horder : ∀ mapping, .mapping mapping ∈ t.records → ∀ declaration observation effect,
      Compares t.records b.entities mapping declaration observation effect →
        InOrder effect.value observation.assertion.value) :
    t.canonical.SupportedBy b.canonical ↔ t.SupportedBy b := by
  have hany : ∀ ref, RefToAny b.canonical.entities ref ↔ RefToAny b.entities ref := by
    intro ref
    simp only [RefToAny, resolves_canonical]
    constructor
    · rintro ⟨_, entity, h, _⟩
      exact ⟨entity, h⟩
    · rintro ⟨entity, h⟩
      exact ⟨_, entity, h, rfl⟩
  have hmapping : ∀ mapping, .mapping mapping ∈ t.canonical.records ↔
      .mapping mapping ∈ t.records := by
    intro mapping
    rw [TrustIR.canonical, mem_sortedBy, List.mem_map]
    constructor
    · rintro ⟨record, hrecord, heq⟩
      cases record with
      | mapping m => exact heq ▸ hrecord
      | _ => cases heq
    · exact fun h => ⟨_, h, rfl⟩
  have hclaim : ∀ claim, .claim claim ∈ t.canonical.records ↔ .claim claim ∈ t.records := by
    intro claim
    rw [TrustIR.canonical, mem_sortedBy, List.mem_map]
    constructor
    · rintro ⟨record, hrecord, heq⟩
      cases record with
      | claim c => exact heq ▸ hrecord
      | _ => cases heq
    · exact fun h => ⟨_, h, rfl⟩
  have hbehavior : b.canonical.WellFormed ↔ b.WellFormed :=
    ⟨b.equiv_canonical.symm.wellFormed, BehaviorIR.WellFormed.canonical⟩
  constructor
  · intro h
    have hb := hbehavior.mp h.behavior_wellFormed
    refine ⟨TrustIR.wellFormed_canonical.mp h.wellFormed, hb, h.documentId_eq,
      h.digest_eq.trans (canonicalIrDigest_canonical hb), fun record hrecord ref href => ?_,
      fun mapping hmem => ?_, fun claim hmem => ?_⟩
    · have hsubjects := forall_mem_canonical.mp h.subjects record hrecord ref
      exact (hany _).mp (hsubjects (record.subject?_canonical.trans href))
    · exact (mappingFits_canonical (horder mapping hmem)).mp
        (h.mappings mapping ((hmapping mapping).mpr hmem))
    · exact claimFits_canonical.mp (h.claims claim ((hclaim claim).mpr hmem))
  · intro h
    have hb := h.behavior_wellFormed
    refine ⟨TrustIR.wellFormed_canonical.mpr h.wellFormed, hb.canonical, h.documentId_eq,
      h.digest_eq.trans (canonicalIrDigest_canonical hb).symm,
      forall_mem_canonical.mpr fun record hrecord ref href => ?_,
      fun mapping hmem => ?_, fun claim hmem => ?_⟩
    · have hsubjects := h.subjects record hrecord ref
      exact (hany _).mpr (hsubjects (record.subject?_canonical.symm.trans href))
    · have hmem' := (hmapping mapping).mp hmem
      exact (mappingFits_canonical (horder mapping hmem')).mpr (h.mappings mapping hmem')
    · exact claimFits_canonical.mpr (h.claims claim ((hclaim claim).mp hmem))

/-- What `_derive_mapping_disposition` compares: the value of the effect that the declaration names
and the value observed in its slot. -/
structure ComparedIn (b : BehaviorIR) (declaration : Declaration) (observation : ObservedFact)
    (effect : Effect) : Prop where
  subject_eq : declaration.subject = observation.subject
  resolves : ∀ location, resolveBehaviorRef declaration.subject
    (Dict.index Entity.id b.entities) location none = .ok (.effect effect)
  target_eq : effect.target = observation.assertion.target

omit [Hashlib] in
theorem deriveMappingDisposition_iff {declaration : Declaration} {observation : ObservedFact}
    {location : String} {disposition : MappingDisposition} :
    deriveMappingDisposition declaration observation (Dict.index Entity.id b.entities) location =
      .ok disposition ↔ ∃ effect, ComparedIn b declaration observation effect ∧
        disposition = dispositionOf effect.value observation.assertion.value := by
  have hlocation : ∀ (location location' : String) (target : Entity),
      resolveBehaviorRef declaration.subject (Dict.index Entity.id b.entities) location none =
        .ok target → resolveBehaviorRef declaration.subject (Dict.index Entity.id b.entities)
          location' none = .ok target := by
    intro location location' target h
    simpa only [resolveBehaviorRef, bind_eq_ok, orRaise_eq_ok, require_eq_ok, exists_const,
      pure_eq_ok] using h
  simp only [deriveMappingDisposition, bind_eq_ok, require_eq_ok, exists_const]
  constructor
  · rintro ⟨hsubject, declared, hdeclared, hmatch⟩
    cases declared with
    | effect effect =>
      simp only [bind_eq_ok, require_eq_ok, exists_const, pure_eq_ok, Except.ok.injEq] at hmatch
      exact ⟨effect, ⟨hsubject, fun location => hlocation _ _ _ hdeclared, hmatch.1⟩,
        hmatch.2.symm⟩
    | _ => cases hmatch
  · rintro ⟨effect, h, rfl⟩
    refine ⟨h.subject_eq, _, h.resolves _, ?_⟩
    simp only [bind_eq_ok, require_eq_ok, exists_const, pure_eq_ok]
    exact ⟨h.target_eq, rfl⟩

/-- The values that the mappings of the document compare are in order. -/
def TrustIR.MappingsInOrder (t : TrustIR) (b : BehaviorIR) : Prop :=
  ∀ mapping, .mapping mapping ∈ t.records → ∀ location declaration observation effect,
    resolveMapping mapping (Dict.index TrustRecord.id t.records) location =
      .ok (declaration, observation) →
    ComparedIn b declaration observation effect →
      InOrder effect.value observation.assertion.value

omit [Hashlib] in
theorem TrustIR.MappingsInOrder.compares (h : t.MappingsInOrder b) (ht : t.WellFormed)
    (hb : b.WellFormed) {mapping : TrustMapping} (hmapping : .mapping mapping ∈ t.records)
    {declaration : Declaration} {observation : ObservedFact} {effect : Effect}
    (hcompares : Compares t.records b.entities mapping declaration observation effect) :
    InOrder effect.value observation.assertion.value := by
  refine h mapping hmapping "" declaration observation effect
    ((resolveMapping_eq_ok ht.ids_nodup).mpr ⟨hcompares.declared, hcompares.observed⟩)
    ⟨hcompares.subject_eq, fun location => ?_, hcompares.target_eq⟩
  exact (resolveBehaviorRef_eq_ok hb.ids_nodup).mpr ⟨hcompares.resolves, nofun⟩

/-- What a reconciliation returns has the disposition of the pair that it compares. -/
theorem reconcileMapping_disposition {mappingId declarationId observationId : Identifier}
    {trace : RecordRef} {mapping : TrustMapping}
    (h : reconcileMapping t b mappingId declarationId observationId trace = .ok mapping)
    {declaration : Declaration} {observation : ObservedFact} {effect : Effect}
    {location location' : String}
    (hdeclaration : resolveTrustRecord ⟨.declaration, declarationId⟩
      (Dict.index TrustRecord.id t.records) location (some [.declaration]) =
        .ok (.declaration declaration))
    (hobservation : resolveTrustRecord ⟨.observedFact, observationId⟩
      (Dict.index TrustRecord.id t.records) location' (some [.observedFact]) =
        .ok (.observedFact observation))
    (hcompared : ComparedIn b declaration observation effect) :
    mapping.disposition = dispositionOf effect.value observation.assertion.value := by
  simp only [reconcileMapping, bind_eq_ok, require_eq_ok, exists_const, buildTrustIndex_eq_ok]
    at h
  obtain ⟨_, _, index, ⟨hids, rfl⟩, _, first, hfirst, second, hsecond, _, _, hmatch⟩ := h
  rw [resolveTrustRecord_eq_ok hids] at hdeclaration hobservation hfirst hsecond
  obtain rfl := hfirst.1.unique hids hdeclaration.1
  obtain rfl := hsecond.1.unique hids hobservation.1
  simp only [bind_eq_ok, deriveMappingDisposition_iff, pure_eq_ok, Except.ok.injEq] at hmatch
  obtain ⟨_, ⟨effect', hcompared', rfl⟩, rfl⟩ := hmatch
  have heffect := hcompared'.resolves ""
  rw [hcompared.resolves "", Except.ok.injEq, Entity.effect.injEq] at heffect
  rw [heffect]

/-- Validation does not see the difference between documents and what is read back from their
canonical texts, and dispositions follow the canonical forms, exactly when the mappings of the
document compare values in order. A reconciliation follows them exactly when its own pair is in
order. -/
theorem trust_canonical_iff (t : TrustIR) (b : BehaviorIR) :
    (((∀ t' b', parseTrustIrJson (canonicalTrustIrJson t) = .ok t' →
        parseIrJson (canonicalIrJson b) = .ok b' →
        (validateTrustAgainstBehavior t b = .ok () ↔
          validateTrustAgainstBehavior t' b' = .ok ())) ∧
      ∀ mapping, .mapping mapping ∈ t.records → ∀ location declaration observation effect,
        resolveMapping mapping (Dict.index TrustRecord.id t.records) location =
          .ok (declaration, observation) →
        ComparedIn b declaration observation effect → ∀ location' disposition,
          deriveMappingDisposition declaration observation (Dict.index Entity.id b.entities)
            location' = .ok disposition →
          (disposition = .match_ ↔
            effect.value.canonical = observation.assertion.value.canonical)) ↔
      t.MappingsInOrder b) ∧
    (∀ mappingId declarationId observationId trace mapping,
      reconcileMapping t b mappingId declarationId observationId trace = .ok mapping →
      ∀ location location' declaration observation effect,
        resolveTrustRecord ⟨.declaration, declarationId⟩ (Dict.index TrustRecord.id t.records)
          location (some [.declaration]) = .ok (.declaration declaration) →
        resolveTrustRecord ⟨.observedFact, observationId⟩ (Dict.index TrustRecord.id t.records)
          location' (some [.observedFact]) = .ok (.observedFact observation) →
        ComparedIn b declaration observation effect →
        ((mapping.disposition = .match_ ↔
            effect.value.canonical = observation.assertion.value.canonical) ↔
          InOrder effect.value observation.assertion.value)) ∧
    (validateTrustAgainstBehavior t b = .ok () → t.WithinNesting → b.WithinNesting →
      parseTrustIrJson (canonicalTrustIrJson t) = .ok t.canonical ∧
        parseIrJson (canonicalIrJson b) = .ok b.canonical) := by
  refine ⟨⟨?_, fun horder => ⟨?_, ?_⟩⟩, ?_, ?_⟩
  · rintro ⟨_, hdispositions⟩ mapping hmapping location declaration observation effect hresolve
      hcompared
    rw [← dispositionOf_match_iff]
    exact hdispositions mapping hmapping location declaration observation effect hresolve
      hcompared "" _ (deriveMappingDisposition_iff.mpr ⟨effect, hcompared, rfl⟩)
  · intro t' b' ht' hb'
    obtain ⟨_, ht, rfl⟩ := parseTrustIrJson_canonicalTrustIrJson.mp ht'
    obtain ⟨_, hb, rfl⟩ := parseIrJson_canonicalIrJson.mp hb'
    rw [validateTrustAgainstBehavior_eq_ok, validateTrustAgainstBehavior_eq_ok,
      supportedBy_canonical fun mapping hmapping declaration observation effect =>
        horder.compares (TrustIR.wellFormed_canonical.mp ht) hb hmapping]
  · intro mapping hmapping location declaration observation effect hresolve hcompared location'
      disposition hdisposition
    obtain ⟨effect', hcompared', rfl⟩ := deriveMappingDisposition_iff.mp hdisposition
    have heffect := hcompared'.resolves ""
    rw [hcompared.resolves "", Except.ok.injEq, Entity.effect.injEq] at heffect
    subst heffect
    exact dispositionOf_match_iff.mpr
      (horder mapping hmapping location declaration observation effect hresolve hcompared)
  · intro mappingId declarationId observationId trace mapping h location location' declaration
      observation effect hdeclaration hobservation hcompared
    rw [reconcileMapping_disposition h hdeclaration hobservation hcompared]
    exact dispositionOf_match_iff
  · intro haccepted ht hb
    have h := validateTrustAgainstBehavior_eq_ok.mp haccepted
    exact ⟨parseTrustIrJson_canonicalTrustIrJson.mpr
        ⟨ht, TrustIR.wellFormed_canonical.mpr h.wellFormed, rfl⟩,
      parseIrJson_canonicalIrJson.mpr ⟨hb, h.behavior_wellFormed, rfl⟩⟩

end Ucf

namespace Ucf

open Ucf.Sample

/-- The effect of the sample and the observation have one record in two orders. The pair is
accepted as a conflict, and its canonical forms are refused, for they would be a match. -/
theorem trust_canonical_conflict :
    validateTrustAgainstBehavior (trust recordValue' .conflict) behavior = .ok () ∧
      recordValue.canonical = recordValue'.canonical ∧
      ∃ t' b', parseTrustIrJson (canonicalTrustIrJson (trust recordValue' .conflict)) = .ok t' ∧
        parseIrJson (canonicalIrJson behavior) = .ok b' ∧
        validateTrustAgainstBehavior t' b' ≠ .ok () := by
  have haccepted : validateTrustAgainstBehavior (trust recordValue' .conflict) behavior =
      .ok () := by decide +kernel
  have hvalues : recordValue.canonical = recordValue'.canonical := by decide +kernel
  have h := validateTrustAgainstBehavior_eq_ok.mp haccepted
  refine ⟨haccepted, hvalues, _, _, parseTrustIrJson_canonicalTrustIrJson.mpr
    ⟨by unfold TrustIR.WithinNesting; decide +kernel,
      TrustIR.wellFormed_canonical.mpr h.wellFormed, rfl⟩,
    parseIrJson_canonicalIrJson.mpr
      ⟨by unfold BehaviorIR.WithinNesting; decide +kernel, h.behavior_wellFormed, rfl⟩, ?_⟩
  decide +kernel

end Ucf
