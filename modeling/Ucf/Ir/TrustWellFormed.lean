import Ucf.Ir.TrustValidation
import Ucf.Ir.WellFormed

/-! What `validate_trust_semantics` and `validate_trust_against_behavior` accept, as propositions.
A Trust IR document is well formed when its records refer to one another rightly, and a behavior
document supports it when what its records say of the behavior is so. -/

namespace Ucf

/-! ### References between records -/

/-- What a reference names among the records. -/
structure RecordResolves (records : List TrustRecord) (ref : RecordRef) (target : TrustRecord) :
    Prop where
  mem : target ∈ records
  id_eq : target.id = ref.targetId
  kind_eq : target.kind = ref.targetKind

/-- A reference names a record of one of the kinds. -/
def RecordTo (records : List TrustRecord) (kinds : List TrustRecordKind) (ref : RecordRef) : Prop :=
  ref.targetKind ∈ kinds ∧ ∃ target, RecordResolves records ref target

/-- A reference to a behavior entity names the document that the records are about. -/
def BindsTo (document : BehaviorDocumentRef) (ref : BehaviorEntityRef) : Prop :=
  ref.documentId = document.documentId ∧ ref.canonicalDigest = document.canonicalDigest

/-- The basis of a claim is of the claim's level and its references resolve. -/
inductive BasisFits (records : List TrustRecord) (document : BehaviorDocumentRef) :
    ClaimLevel → ClaimBasis → Prop
  | observed {basis : ObservedClaimBasis} (h : RecordTo records [.observedFact] basis.fact) :
      BasisFits records document .observed (.observed basis)
  | declared {basis : DeclaredClaimBasis} (h : RecordTo records [.declaration] basis.declaration) :
      BasisFits records document .declared (.declared basis)
  | mapped {basis : MappedClaimBasis} (h : RecordTo records [.mapping] basis.mapping) :
      BasisFits records document .mapped (.mapped basis)
  | tested {basis : TestedClaimBasis} {ref : BehaviorEntityRef}
      (hartifact : RecordTo records [.sourceRecord] basis.artifact)
      (hevidence : basis.evidence = .behavior ref) (hbinds : BindsTo document ref) :
      BasisFits records document .tested (.tested basis)
  | verified (basis : VerifiedClaimBasis) : BasisFits records document .verified (.verified basis)

/-- The subjects of a candidate: one declaration and one observed fact. -/
structure CandidateFits (records : List TrustRecord) (subjects : List RecordRef) : Prop where
  nodup : subjects.Nodup
  refs_to : ∀ ref ∈ subjects, RecordTo records [.declaration, .observedFact] ref
  declaration : .declaration ∈ subjects.map RecordRef.targetKind
  observedFact : .observedFact ∈ subjects.map RecordRef.targetKind
  length_eq : subjects.length = 2

/-- What is asked of one record, its trace apart. -/
def TrustRecord.PartsFit (records : List TrustRecord) (document : BehaviorDocumentRef) :
    TrustRecord → Prop
  | .sourceRecord _ => True
  | .declaration r => BindsTo document r.subject
  | .observedFact r => BindsTo document r.subject
  | .behaviorCandidate r => CandidateFits records r.subjects.val
  | .mapping r => RecordTo records [.declaration] r.declaration ∧
      RecordTo records [.observedFact] r.observation
  | .claim r => BindsTo document r.subject ∧ BasisFits records document r.level r.basis

/-- What is asked of a Trust IR document on its own. -/
structure TrustIR.WellFormed (document : TrustIR) : Prop where
  ids_nodup : (document.records.map TrustRecord.id).Nodup
  traces : ∀ record ∈ document.records, ∀ ref, record.trace? = some ref →
    RecordTo document.records [.sourceRecord] ref
  records : ∀ record ∈ document.records,
    record.PartsFit document.records document.subjectDocument

/-! ### The behavior document -/

/-- The entity reference of a reference to a behavior entity. -/
def BehaviorEntityRef.entityRef (ref : BehaviorEntityRef) : EntityRef :=
  ⟨ref.targetKind, ref.targetId⟩

/-- The pair that a mapping compares: a declared effect and an observation of its slot. -/
structure Compares (records : List TrustRecord) (entities : List Entity) (mapping : TrustMapping)
    (declaration : Declaration) (observation : ObservedFact) (effect : Effect) : Prop where
  declared : RecordResolves records mapping.declaration (.declaration declaration)
  observed : RecordResolves records mapping.observation (.observedFact observation)
  subject_eq : declaration.subject = observation.subject
  resolves : Resolves entities declaration.subject.entityRef (.effect effect)
  target_eq : effect.target = observation.assertion.target

/-- The disposition of two values, compared entry by entry in their order. -/
def dispositionOf (declared observed : IRValue) : MappingDisposition :=
  if declared = observed then .match_ else .conflict

/-- A mapping has the disposition of the pair that it compares. -/
def MappingFits (records : List TrustRecord) (entities : List Entity) (mapping : TrustMapping) :
    Prop :=
  ∃ declaration observation effect,
    Compares records entities mapping declaration observation effect ∧
      mapping.disposition = dispositionOf effect.value observation.assertion.value

/-- The evidence of a tested claim: a passed check of the claim's subject, of the artifact's
revision, under the check, the environment and the producer that the basis names. -/
structure TestedBy (records : List TrustRecord) (entities : List Entity)
    (subject : BehaviorEntityRef) (basis : TestedClaimBasis) (evidence : VerificationEvidence) :
    Prop where
  resolves : ∃ ref, basis.evidence = .behavior ref ∧
    Resolves entities ref.entityRef (.verificationEvidence evidence)
  passed : evidence.outcome = .passed
  artifact : ∃ artifact, RecordResolves records basis.artifact (.sourceRecord artifact) ∧
    evidence.sourceRevision = artifact.sourceRevision
  covers : subject.entityRef ∈ evidence.subjects
  check_eq : evidence.check = basis.check
  environment_eq : evidence.environment = basis.environment
  producer : ∃ provenance, Resolves entities evidence.provenance (.provenance provenance) ∧
    provenance.producer = basis.producer

/-- The basis of a claim supports what the claim says of its subject. -/
inductive ClaimFits (records : List TrustRecord) (entities : List Entity)
    (subject : BehaviorEntityRef) : ClaimBasis → Prop
  | observed {basis : ObservedClaimBasis} {fact : ObservedFact}
      (hfact : RecordResolves records basis.fact (.observedFact fact))
      (hsubject : fact.subject = subject) : ClaimFits records entities subject (.observed basis)
  | declared {basis : DeclaredClaimBasis} {declaration : Declaration}
      (hdeclaration : RecordResolves records basis.declaration (.declaration declaration))
      (hsubject : declaration.subject = subject) :
      ClaimFits records entities subject (.declared basis)
  | mapped {basis : MappedClaimBasis} {mapping : TrustMapping} {declaration : Declaration}
      {observation : ObservedFact}
      (hmapping : RecordResolves records basis.mapping (.mapping mapping))
      (hdeclaration : RecordResolves records mapping.declaration (.declaration declaration))
      (hobservation : RecordResolves records mapping.observation (.observedFact observation))
      (hsubject : declaration.subject = subject) (hsubject' : observation.subject = subject) :
      ClaimFits records entities subject (.mapped basis)
  | tested {basis : TestedClaimBasis} {evidence : VerificationEvidence}
      (h : TestedBy records entities subject basis evidence) :
      ClaimFits records entities subject (.tested basis)

/-- A behavior document supports a Trust IR document. -/
structure TrustIR.SupportedBy [Hashlib] (document : TrustIR) (behavior : BehaviorIR) : Prop where
  wellFormed : document.WellFormed
  behavior_wellFormed : behavior.WellFormed
  documentId_eq : document.subjectDocument.documentId = behavior.documentId
  digest_eq : document.subjectDocument.canonicalDigest.value = canonicalIrDigest behavior
  subjects : ∀ record ∈ document.records, ∀ ref, record.subject? = some ref →
    RefToAny behavior.entities ref.entityRef
  mappings : ∀ mapping, .mapping mapping ∈ document.records →
    MappingFits document.records behavior.entities mapping
  claims : ∀ claim, .claim claim ∈ document.records →
    ClaimFits document.records behavior.entities claim.subject claim.basis

/-! ### Resolving references -/

section Resolve

variable {records : List TrustRecord}

/-- A reference names at most one record. -/
theorem RecordResolves.unique (hids : (records.map TrustRecord.id).Nodup) {ref : RecordRef}
    {first second : TrustRecord} (h : RecordResolves records ref first)
    (h' : RecordResolves records ref second) : first = second := by
  have hget := (Dict.get?_index hids).mpr ⟨h.mem, h.id_eq⟩
  have hget' := (Dict.get?_index hids).mpr ⟨h'.mem, h'.id_eq⟩
  rw [hget, Option.some.injEq] at hget'
  exact hget'

theorem resolveTrustRecord_eq_ok (hids : (records.map TrustRecord.id).Nodup) {ref : RecordRef}
    {location : String} {kinds : List TrustRecordKind} {target : TrustRecord} :
    resolveTrustRecord ref (Dict.index TrustRecord.id records) location (some kinds) =
      .ok target ↔ RecordResolves records ref target ∧ ref.targetKind ∈ kinds := by
  simp only [resolveTrustRecord, bind_eq_ok, orRaise_eq_ok, require_eq_ok, exists_const,
    Dict.get?_index hids, pure_eq_ok, Except.ok.injEq]
  constructor
  · rintro ⟨found, ⟨hmem, hid⟩, hkind, hkinds, rfl⟩
    exact ⟨⟨hmem, hid, hkind⟩, hkind ▸ hkinds⟩
  · rintro ⟨h, hkinds⟩
    exact ⟨target, ⟨h.mem, h.id_eq⟩, h.kind_eq, h.kind_eq ▸ hkinds, rfl⟩

theorem exists_resolveTrustRecord (hids : (records.map TrustRecord.id).Nodup) {ref : RecordRef}
    {location : String} {kinds : List TrustRecordKind} :
    (∃ target, resolveTrustRecord ref (Dict.index TrustRecord.id records) location (some kinds) =
      .ok target) ↔ RecordTo records kinds ref := by
  simp only [resolveTrustRecord_eq_ok hids, exists_and_right, RecordTo]
  exact and_comm

theorem validateTrace_eq_ok (hids : (records.map TrustRecord.id).Nodup) {ref : RecordRef}
    {location : String} {u : Unit} :
    validateTrace ref (Dict.index TrustRecord.id records) location = .ok u ↔
      RecordTo records [.sourceRecord] ref := by
  simp only [validateTrace, bind_eq_ok, pure_eq_ok, and_true, exists_resolveTrustRecord hids]

theorem validateRecordRefs_eq_ok (hids : (records.map TrustRecord.id).Nodup)
    {refs : List RecordRef} {location : String} {kinds : List TrustRecordKind} {u : Unit} :
    validateRecordRefs refs (Dict.index TrustRecord.id records) location kinds = .ok u ↔
      refs.Nodup ∧ ∀ ref ∈ refs, RecordTo records kinds ref := by
  have hnodup : refs.Nodup ↔ ∀ i (h : i < refs.length), refs[i] ∉ refs.take i := by
    have := @nodup_map_iff _ _ id refs
    simpa only [List.map_id, id_eq] using this
  simp only [validateRecordRefs, checkEach_eq_ok, bind_eq_ok, require_eq_ok, exists_const,
    pure_eq_ok, and_true, exists_resolveTrustRecord hids]
  constructor
  · intro h
    refine ⟨hnodup.mpr fun i hi => (h i hi).1, fun ref href => ?_⟩
    obtain ⟨i, hi, rfl⟩ := List.mem_iff_getElem.mp href
    exact (h i hi).2
  · rintro ⟨hunique, hrefs⟩ i hi
    exact ⟨hnodup.mp hunique i hi, hrefs _ (List.getElem_mem hi)⟩

end Resolve

theorem validateBehaviorRef_eq_ok {ref : BehaviorEntityRef} {document : TrustIR}
    {location : String} {u : Unit} : validateBehaviorRef ref document location = .ok u ↔
      BindsTo document.subjectDocument ref := by
  simp only [validateBehaviorRef, bind_eq_ok, require_eq_ok, exists_const, BindsTo]

/-! ### A document on its own -/

theorem buildTrustIndex_eq_ok {document : TrustIR} {index : TrustRecordIndex} :
    buildTrustIndex document = .ok index ↔ (document.records.map TrustRecord.id).Nodup ∧
      index = Dict.index TrustRecord.id document.records := by
  simp only [buildTrustIndex, bind_eq_ok, exists_const, pure_eq_ok, Except.ok.injEq,
    checkEach_eq_ok]
  rw [nodup_map_iff]
  refine and_congr (forall₂_congr fun position hposition => ?_) eq_comm
  have hid : (Dict.index TrustRecord.id (document.records.take position)).get?
      document.records[position].id = none ↔
        document.records[position].id ∉ (document.records.take position).map TrustRecord.id := by
    rw [Dict.get?_index_eq_none, List.mem_map, not_exists]
    exact forall_congr' fun _ => not_and.symm
  rw [← hid]
  cases (Dict.index TrustRecord.id (document.records.take position)).get?
    document.records[position].id <;> simp

/-- A claim whose evidence is no trust record has the basis that its level asks for. -/
theorem validateClaimBasis_eq_ok {document : TrustIR}
    (hids : (document.records.map TrustRecord.id).Nodup) {claim : Claim} {location : String}
    {u : Unit} (hrecord : claim.evidenceRecord? = none) :
    validateClaimBasis claim (Dict.index TrustRecord.id document.records) document location =
      .ok u ↔ BasisFits document.records document.subjectDocument claim.level claim.basis := by
  obtain ⟨id, level, subject, basis, trace⟩ := claim
  simp only [validateClaimBasis, bind_eq_ok, require_eq_ok, exists_const]
  cases basis with
  | observed basis =>
    simp only [ClaimBasis.level, bind_eq_ok, pure_eq_ok, and_true, exists_resolveTrustRecord hids]
    constructor
    · rintro ⟨rfl, h⟩
      exact .observed h
    · intro h
      cases h with
      | observed h => exact ⟨rfl, h⟩
  | declared basis =>
    simp only [ClaimBasis.level, bind_eq_ok, pure_eq_ok, and_true, exists_resolveTrustRecord hids]
    constructor
    · rintro ⟨rfl, h⟩
      exact .declared h
    · intro h
      cases h with
      | declared h => exact ⟨rfl, h⟩
  | mapped basis =>
    simp only [ClaimBasis.level, bind_eq_ok, pure_eq_ok, and_true, exists_resolveTrustRecord hids]
    constructor
    · rintro ⟨rfl, h⟩
      exact .mapped h
    · intro h
      cases h with
      | mapped h => exact ⟨rfl, h⟩
  | tested basis =>
    obtain ⟨evidence, artifact, check, environment, producer⟩ := basis
    cases evidence with
    | record reference => cases hrecord
    | behavior reference =>
      simp only [ClaimBasis.level, bind_eq_ok, exists_and_right, exists_resolveTrustRecord hids,
        validateBehaviorRef_eq_ok]
      constructor
      · rintro ⟨rfl, hartifact, hbinds⟩
        exact .tested hartifact rfl hbinds
      · intro h
        cases h with
        | tested hartifact hevidence hbinds =>
          cases hevidence
          exact ⟨rfl, hartifact, hbinds⟩
  | verified basis =>
    constructor
    · rintro ⟨rfl, -⟩
      exact .verified basis
    · rintro ⟨⟩
      exact ⟨rfl, rfl⟩

/-- The reference of a well-formed basis is to behavior, where it is to evidence. -/
theorem BasisFits.evidenceRecord? {records : List TrustRecord} {document : BehaviorDocumentRef}
    {claim : Claim} (h : BasisFits records document claim.level claim.basis) :
    claim.evidenceRecord? = none := by
  obtain ⟨id, level, subject, basis, trace⟩ := claim
  cases h with
  | tested hartifact hevidence hbinds => simp only [Claim.evidenceRecord?, hevidence]
  | _ => rfl

/-- Without edges a visit leaves the claim that it enters. -/
theorem visitClaim_of_no_edges {locations : Dict Identifier String} {fuel : Nat}
    {state : Dict Identifier VisitState} (hleft : ∀ item ∈ state.items, item.2 = .left)
    (id : Identifier) : ∃ state', visitClaim (Dict.ofList []) locations (fuel + 1) state id =
      .ok state' ∧ ∀ item ∈ state'.items, item.2 = .left := by
  have hedge : (Dict.ofList [] : Dict Identifier Identifier).get? id = none := rfl
  rw [visitClaim, hedge]
  cases hget : state.get? id with
  | none =>
    refine ⟨(state.insert id .entered).insert id .left, rfl, fun item hitem => ?_⟩
    simp only [Dict.mem_items_insert] at hitem
    rcases hitem with rfl | ⟨hne, rfl | ⟨_, hmem⟩⟩
    · rfl
    · exact absurd rfl hne
    · exact hleft item hmem
  | some seen =>
    obtain rfl : seen = .left := hleft _ (Dict.get?_eq_some.mp hget)
    exact ⟨state, rfl, hleft⟩

/-- Without a trust record as evidence there is no edge between claims, and no cycle. -/
theorem validateClaimCycles_eq_ok {claims : List Claim} {locations : Dict Identifier String}
    (hrecords : ∀ claim ∈ claims, claim.evidenceRecord? = none) :
    validateClaimCycles claims locations = .ok () := by
  have hedges : claimEdges claims = Dict.ofList [] := by
    rw [claimEdges, List.filterMap_eq_nil_iff.mpr fun claim hclaim => by
      rw [hrecords claim hclaim]
      rfl]
  have hfold : ∀ (visited : List Claim) (state : Dict Identifier VisitState),
      (∀ item ∈ state.items, item.2 = .left) → ∃ state', visited.foldlM (fun state claim =>
        visitClaim (Dict.ofList []) locations 2 state claim.id) state = .ok state' := by
    intro visited
    induction visited with
    | nil => exact fun state _ => ⟨state, rfl⟩
    | cons claim visited ih =>
      intro state hleft
      obtain ⟨state', hvisit, hleft'⟩ :=
        @visitClaim_of_no_edges locations 1 state hleft claim.id
      rw [List.foldlM_cons, hvisit, ok_bind]
      exact ih state' hleft'
  obtain ⟨state, hstate⟩ := hfold claims (Dict.ofList []) (by simp [Dict.ofList, Dict.update, Dict.empty])
  rw [validateClaimCycles, hedges]
  exact bind_eq_ok.mpr ⟨state, hstate, rfl⟩

theorem validateTrustRecord_eq_ok {document : TrustIR}
    (hids : (document.records.map TrustRecord.id).Nodup) {position : Nat} {record : TrustRecord}
    (hrecord : ∀ claim, record = .claim claim → claim.evidenceRecord? = none) :
    validateTrustRecord document (Dict.index TrustRecord.id document.records) position record =
      .ok () ↔ (∀ ref, record.trace? = some ref → RecordTo document.records [.sourceRecord] ref) ∧
        record.PartsFit document.records document.subjectDocument := by
  have hcandidate : ∀ subjects : CandidateSubjects,
      (subjects.val.Nodup ∧
        ∀ ref ∈ subjects.val, RecordTo document.records [.declaration, .observedFact] ref) ∧
      ((∀ kind ∈ subjects.val.map RecordRef.targetKind,
          kind = .declaration ∨ kind = .observedFact) ∧
        .declaration ∈ subjects.val.map RecordRef.targetKind ∧
        .observedFact ∈ subjects.val.map RecordRef.targetKind ∧ subjects.val.length = 2) ↔
      CandidateFits document.records subjects.val := by
    intro subjects
    constructor
    · rintro ⟨⟨hnodup, hrefs⟩, _, hdeclaration, hobserved, hlength⟩
      exact ⟨hnodup, hrefs, hdeclaration, hobserved, hlength⟩
    · intro h
      refine ⟨⟨h.nodup, h.refs_to⟩, fun kind hkind => ?_, h.declaration, h.observedFact,
        h.length_eq⟩
      obtain ⟨ref, href, rfl⟩ := List.mem_map.mp hkind
      simpa using (h.refs_to ref href).1
  cases record with
  | sourceRecord r => exact iff_of_true rfl ⟨nofun, trivial⟩
  | declaration r =>
    simp only [validateTrustRecord, TrustRecord.trace?, bind_eq_ok, validateTrace_eq_ok hids,
      exists_const, Option.some.injEq, forall_eq', validateBehaviorRef_eq_ok,
      TrustRecord.PartsFit]
  | observedFact r =>
    simp only [validateTrustRecord, TrustRecord.trace?, bind_eq_ok, validateTrace_eq_ok hids,
      exists_const, Option.some.injEq, forall_eq', validateBehaviorRef_eq_ok,
      TrustRecord.PartsFit]
  | behaviorCandidate r =>
    simp only [validateTrustRecord, TrustRecord.trace?, bind_eq_ok, validateTrace_eq_ok hids,
      exists_const, Option.some.injEq, forall_eq', validateRecordRefs_eq_ok hids, require_eq_ok,
      TrustRecord.PartsFit, ← hcandidate]
  | mapping r =>
    simp only [validateTrustRecord, TrustRecord.trace?, bind_eq_ok, validateTrace_eq_ok hids,
      exists_const, Option.some.injEq, forall_eq', pure_eq_ok, and_true, exists_and_right,
      exists_resolveTrustRecord hids, TrustRecord.PartsFit]
  | claim r =>
    simp only [validateTrustRecord, TrustRecord.trace?, bind_eq_ok, validateTrace_eq_ok hids,
      exists_const, Option.some.injEq, forall_eq', validateBehaviorRef_eq_ok,
      validateClaimBasis_eq_ok hids (hrecord r rfl), TrustRecord.PartsFit]

/-- The evidence of a claim that the last loop accepts is no trust record. -/
theorem claimEvidence_eq_ok {claims : List Claim} {locations : Dict Identifier String} {u : Unit} :
    checkEach (fun _ (claim : Claim) =>
      (match claim.evidenceRecord? with
      | none => pure ()
      | some evidence => do
        let location ← orRaise (locations.get? claim.id) .keyError
        require (evidence.targetKind ≠ .behaviorCandidate) (.ir .candidateIsNotEvidence
          "behavior candidates are review metadata, not test evidence" location)
        throw (.ir .missingClaimBasis
          "tested claim requires verification_evidence from behavior IR" location) :
        Except PyError Unit)) claims =
      .ok u ↔ ∀ claim ∈ claims, claim.evidenceRecord? = none := by
  refine checkEach_eq_ok_of_iff fun _ claim => ?_
  cases claim.evidenceRecord? <;> simp

/-- The validator accepts exactly the well-formed documents. -/
theorem validateTrustSemantics_eq_ok {document : TrustIR} {u : Unit} :
    validateTrustSemantics document = .ok u ↔ document.WellFormed := by
  have hclaims : ∀ claim, claim ∈ document.records.filterMap TrustRecord.claim? ↔
      .claim claim ∈ document.records := by
    intro claim
    rw [List.mem_filterMap]
    constructor
    · rintro ⟨record, hrecord, hclaim⟩
      cases record with
      | claim r => exact Option.some.inj hclaim ▸ hrecord
      | _ => cases hclaim
    · exact fun h => ⟨_, h, rfl⟩
  simp only [validateTrustSemantics, bind_eq_ok, buildTrustIndex_eq_ok]
  constructor
  · rintro ⟨_, ⟨hids, rfl⟩, _, hrecords, _, _, hloop⟩
    have hevidence : ∀ claim, .claim claim ∈ document.records → claim.evidenceRecord? = none :=
      fun claim hclaim => claimEvidence_eq_ok.mp hloop claim ((hclaims claim).mpr hclaim)
    have hvalid : ∀ record ∈ document.records,
        (∀ ref, record.trace? = some ref → RecordTo document.records [.sourceRecord] ref) ∧
          record.PartsFit document.records document.subjectDocument := by
      refine (checkEach_eq_ok_of_mem fun position record hrecord => ?_).mp hrecords
      exact validateTrustRecord_eq_ok hids fun claim hclaim => hevidence claim (hclaim ▸ hrecord)
    exact ⟨hids, fun record hrecord => (hvalid record hrecord).1,
      fun record hrecord => (hvalid record hrecord).2⟩
  · intro h
    have hevidence : ∀ claim ∈ document.records.filterMap TrustRecord.claim?,
        claim.evidenceRecord? = none :=
      fun claim hclaim => (h.records _ ((hclaims claim).mp hclaim)).2.evidenceRecord?
    have hrecords : checkEach (validateTrustRecord document
        (Dict.index TrustRecord.id document.records)) document.records = .ok () := by
      refine checkEach_eq_ok.mpr fun position hposition => ?_
      have hrecord := List.getElem_mem hposition
      exact (validateTrustRecord_eq_ok h.ids_nodup fun claim hclaim =>
        hevidence claim ((hclaims claim).mpr (hclaim ▸ hrecord))).mpr
          ⟨h.traces _ hrecord, h.records _ hrecord⟩
    exact ⟨_, ⟨h.ids_nodup, rfl⟩, (), hrecords, (), validateClaimCycles_eq_ok hevidence,
      claimEvidence_eq_ok.mpr hevidence⟩

/-! ### A document and the behavior it is about -/

section Support

variable {records : List TrustRecord} {entities : List Entity}

theorem resolveBehaviorRef_eq_ok (hentities : (entities.map Entity.id).Nodup)
    {ref : BehaviorEntityRef} {location : String} {expected : Option (List EntityKind)}
    {target : Entity} :
    resolveBehaviorRef ref (Dict.index Entity.id entities) location expected = .ok target ↔
      Resolves entities ref.entityRef target ∧
        ∀ kinds, expected = some kinds → ref.targetKind ∈ kinds := by
  refine Iff.trans ?_
    (@resolveEntity_eq_ok entities hentities ref.entityRef location expected target)
  simp only [resolveBehaviorRef, resolveEntity, bind_eq_ok, orRaise_eq_ok, require_eq_ok]
  cases expected with
  | none => rfl
  | some kinds =>
    simp only [bind_eq_ok, require_eq_ok]
    rfl

theorem resolveMapping_eq_ok (hids : (records.map TrustRecord.id).Nodup) {mapping : TrustMapping}
    {location : String} {declaration : Declaration} {observation : ObservedFact} :
    resolveMapping mapping (Dict.index TrustRecord.id records) location =
      .ok (declaration, observation) ↔
        RecordResolves records mapping.declaration (.declaration declaration) ∧
          RecordResolves records mapping.observation (.observedFact observation) := by
  simp only [resolveMapping, bind_eq_ok, resolveTrustRecord_eq_ok hids, List.mem_singleton]
  constructor
  · rintro ⟨first, ⟨hfirst, _⟩, second, ⟨hsecond, _⟩, hmatch⟩
    cases first with
    | declaration d =>
      cases second with
      | observedFact o =>
        cases hmatch
        exact ⟨hfirst, hsecond⟩
      | _ => cases hmatch
    | _ => cases hmatch
  · rintro ⟨hdeclaration, hobservation⟩
    exact ⟨_, ⟨hdeclaration, hdeclaration.kind_eq.symm⟩, _,
      ⟨hobservation, hobservation.kind_eq.symm⟩, rfl⟩

theorem deriveMappingDisposition_eq_ok (hentities : (entities.map Entity.id).Nodup)
    {declaration : Declaration} {observation : ObservedFact} {location : String}
    {disposition : MappingDisposition} :
    deriveMappingDisposition declaration observation (Dict.index Entity.id entities) location =
      .ok disposition ↔ declaration.subject = observation.subject ∧
        ∃ effect, Resolves entities declaration.subject.entityRef (.effect effect) ∧
          effect.target = observation.assertion.target ∧
          disposition = dispositionOf effect.value observation.assertion.value := by
  simp only [deriveMappingDisposition, bind_eq_ok, require_eq_ok, exists_const,
    resolveBehaviorRef_eq_ok hentities, reduceCtorEq, false_imp_iff, implies_true, and_true]
  refine and_congr_right fun _ => ?_
  constructor
  · rintro ⟨declared, hdeclared, hmatch⟩
    cases declared with
    | effect effect =>
      simp only [bind_eq_ok, require_eq_ok, exists_const, pure_eq_ok, Except.ok.injEq] at hmatch
      exact ⟨effect, hdeclared, hmatch.1, hmatch.2.symm⟩
    | _ => cases hmatch
  · rintro ⟨effect, hdeclared, htarget, rfl⟩
    refine ⟨_, hdeclared, ?_⟩
    simp only [bind_eq_ok, require_eq_ok, exists_const, pure_eq_ok]
    exact ⟨htarget, rfl⟩

theorem mappingFits_iff (hids : (records.map TrustRecord.id).Nodup)
    (hentities : (entities.map Entity.id).Nodup) {mapping : TrustMapping} {location : String} :
    (do
      let (declaration, observation) ←
        resolveMapping mapping (Dict.index TrustRecord.id records) location
      validateMappingDisposition mapping declaration observation (Dict.index Entity.id entities)
        location) = .ok () ↔ MappingFits records entities mapping := by
  simp only [bind_eq_ok, Prod.exists, resolveMapping_eq_ok hids, validateMappingDisposition,
    deriveMappingDisposition_eq_ok hentities, require_eq_ok, MappingFits]
  constructor
  · rintro ⟨declaration, observation, ⟨hdeclaration, hobservation⟩, _,
      ⟨hsubject, effect, heffect, htarget, rfl⟩, hdisposition⟩
    exact ⟨declaration, observation, effect,
      ⟨hdeclaration, hobservation, hsubject, heffect, htarget⟩, hdisposition⟩
  · rintro ⟨declaration, observation, effect, h, hdisposition⟩
    exact ⟨declaration, observation, ⟨h.declared, h.observed⟩, _,
      ⟨h.subject_eq, effect, h.resolves, h.target_eq, rfl⟩, hdisposition⟩

theorem evaluateTestedClaim_eq_ok (hids : (records.map TrustRecord.id).Nodup)
    (hentities : (entities.map Entity.id).Nodup) {claim : Claim} {basis : TestedClaimBasis}
    {location : String} :
    evaluateTestedClaim claim basis (Dict.index TrustRecord.id records)
      (Dict.index Entity.id entities) location = .ok () ↔
        ∃ evidence, TestedBy records entities claim.subject basis evidence := by
  obtain ⟨evidenceRef, artifact, check, environment, producer⟩ := basis
  cases evidenceRef with
  | record reference =>
    refine iff_of_false (fun h => by cases h) ?_
    rintro ⟨evidence, ⟨ref, href, _⟩, _⟩
    cases href
  | behavior reference =>
    simp only [evaluateTestedClaim, pure_eq_ok, ok_bind, bind_eq_ok,
      resolveBehaviorRef_eq_ok hentities, Option.some.injEq, forall_eq', List.mem_singleton]
    constructor
    · rintro ⟨found, ⟨hfound, _⟩, hmatch⟩
      cases found with
      | verificationEvidence evidence =>
        simp only [bind_eq_ok, require_eq_ok, exists_const, resolveTrustRecord_eq_ok hids,
          List.mem_singleton] at hmatch
        obtain ⟨hpassed, record, ⟨hrecord, _⟩, hmatch⟩ := hmatch
        cases record with
        | sourceRecord source =>
          simp only [bind_eq_ok, require_eq_ok, exists_const, resolveBehaviorRef_eq_ok hentities,
            Option.some.injEq, forall_eq', List.mem_singleton] at hmatch
          obtain ⟨hrevision, ⟨subject, hsubject, hkind, hid⟩, hcheck, henvironment, origin,
            ⟨horigin, _⟩, hmatch⟩ := hmatch
          cases origin with
          | provenance provenance =>
            have hcovers : claim.subject.entityRef = subject := by
              rw [BehaviorEntityRef.entityRef, ← hkind, ← hid]
            exact ⟨evidence, ⟨_, rfl, hfound⟩, hpassed, ⟨source, hrecord, hrevision⟩,
              hcovers ▸ hsubject, hcheck, henvironment, provenance, horigin,
              require_eq_ok.mp hmatch⟩
          | _ => cases hmatch
        | _ => cases hmatch
      | _ => cases hmatch
    · rintro ⟨evidence, h⟩
      obtain ⟨ref, href, hresolves⟩ := h.resolves
      obtain ⟨source, hsource, hrevision⟩ := h.artifact
      obtain ⟨provenance, hprovenance, hproducer⟩ := h.producer
      cases href
      refine ⟨_, ⟨hresolves, hresolves.kind_eq.symm⟩, ?_⟩
      simp only [bind_eq_ok, require_eq_ok, exists_const, resolveTrustRecord_eq_ok hids,
        List.mem_singleton]
      refine ⟨h.passed, _, ⟨hsource, hsource.kind_eq.symm⟩, ?_⟩
      simp only [bind_eq_ok, require_eq_ok, exists_const, resolveBehaviorRef_eq_ok hentities,
        Option.some.injEq, forall_eq', List.mem_singleton]
      exact ⟨hrevision, ⟨_, h.covers, rfl, rfl⟩, h.check_eq, h.environment_eq, _,
        ⟨hprovenance, hprovenance.kind_eq.symm⟩, require_eq_ok.mpr hproducer⟩

/-- A claim whose basis is of its level is supported exactly when its evaluation passes. -/
theorem evaluateClaim_eq_ok (hids : (records.map TrustRecord.id).Nodup)
    (hentities : (entities.map Entity.id).Nodup) {claim : Claim}
    {document : BehaviorDocumentRef} (hbasis : BasisFits records document claim.level claim.basis)
    {location : String} :
    (∃ level, evaluateClaim claim (Dict.index TrustRecord.id records)
      (Dict.index Entity.id entities) location = .ok level) ↔
        ClaimFits records entities claim.subject claim.basis := by
  obtain ⟨id, level, subject, basis, trace⟩ := claim
  cases hbasis with
  | @observed basis hfact =>
    simp only [evaluateClaim, bind_eq_ok, require_eq_ok, exists_const,
      resolveTrustRecord_eq_ok hids, List.mem_singleton, pure_eq_ok]
    constructor
    · rintro ⟨level, _, record, ⟨hrecord, _⟩, hmatch⟩
      cases record with
      | observedFact fact =>
        simp only [bind_eq_ok, require_eq_ok, exists_const] at hmatch
        exact .observed hrecord hmatch.1
      | _ => cases hmatch
    · intro h
      cases h with
      | observed hrecord hsubject =>
        refine ⟨.observed, by decide, _, ⟨hrecord, hrecord.kind_eq.symm⟩, ?_⟩
        simp only [bind_eq_ok, require_eq_ok, exists_const, and_true]
        exact hsubject
  | @declared basis hdeclaration =>
    simp only [evaluateClaim, bind_eq_ok, require_eq_ok, exists_const,
      resolveTrustRecord_eq_ok hids, List.mem_singleton, pure_eq_ok]
    constructor
    · rintro ⟨level, _, record, ⟨hrecord, _⟩, hmatch⟩
      cases record with
      | declaration declaration =>
        simp only [bind_eq_ok, require_eq_ok, exists_const] at hmatch
        exact .declared hrecord hmatch.1
      | _ => cases hmatch
    · intro h
      cases h with
      | declared hrecord hsubject =>
        refine ⟨.declared, by decide, _, ⟨hrecord, hrecord.kind_eq.symm⟩, ?_⟩
        simp only [bind_eq_ok, require_eq_ok, exists_const, and_true]
        exact hsubject
  | @mapped basis hmapping =>
    simp only [evaluateClaim, bind_eq_ok, require_eq_ok, exists_const,
      resolveTrustRecord_eq_ok hids, List.mem_singleton, pure_eq_ok]
    constructor
    · rintro ⟨level, _, record, ⟨hrecord, _⟩, hmatch⟩
      cases record with
      | mapping mapping =>
        simp only [bind_eq_ok, Prod.exists, resolveMapping_eq_ok hids, require_eq_ok,
          exists_const] at hmatch
        obtain ⟨declaration, observation, ⟨hdeclaration, hobservation⟩, hsubjects, _⟩ := hmatch
        exact .mapped hrecord hdeclaration hobservation hsubjects.1 hsubjects.2
      | _ => cases hmatch
    · intro h
      cases h with
      | mapped hrecord hdeclaration hobservation hsubject hsubject' =>
        refine ⟨.mapped, by decide, _, ⟨hrecord, hrecord.kind_eq.symm⟩, ?_⟩
        simp only [bind_eq_ok, Prod.exists, resolveMapping_eq_ok hids, require_eq_ok, exists_const,
          and_true]
        exact ⟨_, _, ⟨hdeclaration, hobservation⟩, hsubject, hsubject'⟩
  | @tested basis ref hartifact hevidence hbinds =>
    simp only [evaluateClaim, bind_eq_ok, require_eq_ok, exists_const,
      evaluateTestedClaim_eq_ok hids hentities, pure_eq_ok]
    constructor
    · rintro ⟨level, _, ⟨evidence, h⟩, _⟩
      exact .tested h
    · intro h
      cases h with
      | tested h => exact ⟨.tested, by decide, ⟨_, h⟩, rfl⟩
  | verified basis =>
    refine iff_of_false ?_ ?_
    · rintro ⟨level, hlevel⟩
      simp only [evaluateClaim, bind_eq_ok, require_eq_ok, exists_const] at hlevel
      exact hlevel.1 rfl
    · rintro ⟨⟩

theorem exists_resolveBehaviorRef (hentities : (entities.map Entity.id).Nodup)
    {ref : BehaviorEntityRef} {location : String} :
    (∃ target, resolveBehaviorRef ref (Dict.index Entity.id entities) location none =
      .ok target) ↔ RefToAny entities ref.entityRef := by
  simp [resolveBehaviorRef_eq_ok hentities, RefToAny]

/-- The evidence of a supported claim is verification evidence. -/
theorem ClaimFits.evidence_refTo {claim : Claim}
    (h : ClaimFits records entities claim.subject claim.basis) {ref : BehaviorEntityRef}
    (href : claim.evidenceEntity? = some ref) :
    RefTo entities [.verificationEvidence] ref.entityRef := by
  obtain ⟨id, level, subject, basis, trace⟩ := claim
  cases h with
  | tested h =>
    obtain ⟨ref', hevidence, hresolves⟩ := h.resolves
    simp only [Claim.evidenceEntity?, hevidence, Option.some.injEq] at href
    subst href
    exact ⟨List.mem_singleton.mpr hresolves.kind_eq.symm, _, hresolves⟩
  | _ => cases href

/-- The references to behavior resolve, those to evidence as verification evidence. -/
theorem validateExternalRefs_eq_ok {document : TrustIR}
    (hentities : (entities.map Entity.id).Nodup) {u : Unit} :
    validateExternalRefs document (Dict.index Entity.id entities) = .ok u ↔
      ∀ record ∈ document.records,
        (∀ ref, record.subject? = some ref → RefToAny entities ref.entityRef) ∧
          ∀ ref, record.claim?.bind Claim.evidenceEntity? = some ref →
            RefTo entities [.verificationEvidence] ref.entityRef := by
  refine checkEach_eq_ok_of_iff fun position record => ?_
  cases hsubject : record.subject? with
  | none =>
    cases hevidence : record.claim?.bind Claim.evidenceEntity? with
    | none => simp
    | some evidence =>
      have hresolves := @resolveBehaviorRef_eq_ok entities hentities evidence
        (at_ "$.records" position ++ ".basis.evidence") (some [.verificationEvidence])
      simp only [bind_eq_ok, pure_eq_ok, hresolves, reduceCtorEq, false_imp_iff, implies_true,
        true_and, Option.some.injEq, forall_eq', and_true, RefTo, RefToAny, exists_and_right]
      exact and_comm
  | some subject =>
    have hsubjects := @exists_resolveBehaviorRef entities hentities subject
      (at_ "$.records" position ++ ".subject")
    cases hevidence : record.claim?.bind Claim.evidenceEntity? with
    | none =>
      simp only [bind_eq_ok, pure_eq_ok, and_true, hsubjects, reduceCtorEq, false_imp_iff,
        implies_true, Option.some.injEq, forall_eq']
    | some evidence =>
      have hresolves := @resolveBehaviorRef_eq_ok entities hentities evidence
        (at_ "$.records" position ++ ".basis.evidence") (some [.verificationEvidence])
      simp only [bind_eq_ok, pure_eq_ok, and_true, hsubjects, hresolves, Option.some.injEq,
        forall_eq', RefTo, RefToAny, exists_and_right]
      exact and_congr_right fun _ => and_comm

theorem validateTrustBasis_eq_ok {document : TrustIR} (hdocument : document.WellFormed)
    (hentities : (entities.map Entity.id).Nodup) {u : Unit} :
    validateTrustBasis document (Dict.index TrustRecord.id document.records)
      (Dict.index Entity.id entities) = .ok u ↔
        (∀ mapping, .mapping mapping ∈ document.records →
          MappingFits document.records entities mapping) ∧
        ∀ claim, .claim claim ∈ document.records →
          ClaimFits document.records entities claim.subject claim.basis := by
  have hids := hdocument.ids_nodup
  rw [validateTrustBasis, bind_eq_ok]
  refine Iff.trans (exists_congr fun _ => and_congr
    (checkEach_eq_ok_of_mem (P := fun record => ∀ mapping, record = .mapping mapping →
      MappingFits document.records entities mapping) ?_)
    (checkEach_eq_ok_of_mem (P := fun record => ∀ claim, record = .claim claim →
      ClaimFits document.records entities claim.subject claim.basis) ?_)) ?_
  · intro position record _
    cases record with
    | mapping mapping =>
      simp only [TrustRecord.mapping.injEq, forall_eq']
      exact mappingFits_iff hids hentities
    | _ => simp
  · intro position record hrecord
    cases record with
    | claim claim =>
      have hclaim := @evaluateClaim_eq_ok _ _ hids hentities claim _
        (hdocument.records _ hrecord).2 (at_ "$.records" position)
      simp only [bind_eq_ok, pure_eq_ok, and_true, hclaim, TrustRecord.claim.injEq, forall_eq']
    | _ => simp
  constructor
  · rintro ⟨_, hmappings, hclaims⟩
    exact ⟨fun mapping hmem => hmappings _ hmem mapping rfl,
      fun claim hmem => hclaims _ hmem claim rfl⟩
  · rintro ⟨hmappings, hclaims⟩
    exact ⟨(), fun record hmem mapping heq => hmappings mapping (heq ▸ hmem),
      fun record hmem claim heq => hclaims claim (heq ▸ hmem)⟩

end Support

variable [Hashlib]

theorem validateDocumentBinding_eq_ok {ref : BehaviorDocumentRef} {behavior : BehaviorIR}
    {location : String} {u : Unit} : validateDocumentBinding ref behavior location = .ok u ↔
      ref.documentId = behavior.documentId ∧
        ref.canonicalDigest.value = canonicalIrDigest behavior := by
  simp only [validateDocumentBinding, bind_eq_ok, require_eq_ok, exists_const]

/-- The validator accepts exactly the documents that the behavior supports. -/
theorem validateTrustAgainstBehavior_eq_ok {document : TrustIR} {behavior : BehaviorIR}
    {u : Unit} : validateTrustAgainstBehavior document behavior = .ok u ↔
      document.SupportedBy behavior := by
  simp only [validateTrustAgainstBehavior, bind_eq_ok, validateTrustSemantics_eq_ok,
    validateIrSemantics_eq_ok, validateDocumentBinding_eq_ok, exists_const, buildTrustIndex_eq_ok]
  constructor
  · rintro ⟨hdocument, hbehavior, ⟨hid, hdigest⟩, _, hexternal, _, ⟨_, rfl⟩, hbasis⟩
    have hentities := hbehavior.ids_nodup
    obtain ⟨hmappings, hclaims⟩ := (validateTrustBasis_eq_ok hdocument hentities).mp hbasis
    exact ⟨hdocument, hbehavior, hid, hdigest, fun record hrecord =>
      ((validateExternalRefs_eq_ok hentities).mp hexternal record hrecord).1, hmappings, hclaims⟩
  · intro h
    have hentities := h.behavior_wellFormed.ids_nodup
    have hevidence : ∀ record ∈ document.records, ∀ ref,
        record.claim?.bind Claim.evidenceEntity? = some ref →
          RefTo behavior.entities [.verificationEvidence] ref.entityRef := by
      intro record hrecord ref href
      cases record with
      | claim claim => exact (h.claims claim hrecord).evidence_refTo href
      | _ => cases href
    exact ⟨h.wellFormed, h.behavior_wellFormed, ⟨h.documentId_eq, h.digest_eq⟩, (),
      (validateExternalRefs_eq_ok hentities).mpr fun record hrecord =>
        ⟨h.subjects record hrecord, hevidence record hrecord⟩,
      _, ⟨h.wellFormed.ids_nodup, rfl⟩,
      (validateTrustBasis_eq_ok h.wellFormed hentities).mpr ⟨h.mappings, h.claims⟩⟩

end Ucf
