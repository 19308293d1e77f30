import Ucf.Ir.RoundTrip
import Ucf.Ir.TrustWellFormed

/-! What an accepted Trust IR document says is supported: no claim is verified, a tested claim has
passed evidence for its own coordinates, a mapped claim has a reconciled mapping of its subject,
and every reference names what it says it names. -/

namespace Ucf

/-! ### The references of a record -/

def ClaimBasis.recordRefs : ClaimBasis → List RecordRef
  | .observed basis => [basis.fact]
  | .declared basis => [basis.declaration]
  | .mapped basis => [basis.mapping]
  | .tested basis =>
    match basis.evidence with
    | .behavior _ => [basis.artifact]
    | .record reference => [basis.artifact, reference]
  | .verified _ => []

def ClaimBasis.behaviorRefs : ClaimBasis → List BehaviorEntityRef
  | .tested basis =>
    match basis.evidence with
    | .behavior reference => [reference]
    | .record _ => []
  | _ => []

/-- The references of a record to other records. -/
def TrustRecord.recordRefs (record : TrustRecord) : List RecordRef :=
  record.trace?.toList ++
    match record with
    | .behaviorCandidate r => r.subjects.val
    | .mapping r => [r.declaration, r.observation]
    | .claim r => r.basis.recordRefs
    | _ => []

/-- The references of a record to behavior entities. -/
def TrustRecord.behaviorRefs (record : TrustRecord) : List BehaviorEntityRef :=
  record.subject?.toList ++
    match record with
    | .claim r => r.basis.behaviorRefs
    | _ => []

theorem BasisFits.recordRefs {records : List TrustRecord} {document : BehaviorDocumentRef}
    {level : ClaimLevel} {basis : ClaimBasis} (h : BasisFits records document level basis) :
    ∀ ref ∈ basis.recordRefs, ∃ target, RecordResolves records ref target := by
  cases h with
  | observed h => exact List.forall_mem_singleton.mpr h.2
  | declared h => exact List.forall_mem_singleton.mpr h.2
  | mapped h => exact List.forall_mem_singleton.mpr h.2
  | tested hartifact hevidence _ =>
    simp only [ClaimBasis.recordRefs, hevidence]
    exact List.forall_mem_singleton.mpr hartifact.2
  | verified basis => exact List.forall_mem_nil _

theorem BasisFits.behaviorRefs {records : List TrustRecord} {document : BehaviorDocumentRef}
    {level : ClaimLevel} {basis : ClaimBasis} (h : BasisFits records document level basis) :
    ∀ ref ∈ basis.behaviorRefs, BindsTo document ref := by
  cases h with
  | tested _ hevidence hbinds =>
    simp only [ClaimBasis.behaviorRefs, hevidence]
    exact List.forall_mem_singleton.mpr hbinds
  | _ => exact List.forall_mem_nil _

theorem ClaimFits.behaviorRefs {records : List TrustRecord} {entities : List Entity}
    {subject : BehaviorEntityRef} {basis : ClaimBasis}
    (h : ClaimFits records entities subject basis) :
    ∀ ref ∈ basis.behaviorRefs, RefToAny entities ref.entityRef := by
  cases h with
  | tested h =>
    obtain ⟨ref, hevidence, hresolves⟩ := h.resolves
    simp only [ClaimBasis.behaviorRefs, hevidence]
    exact List.forall_mem_singleton.mpr ⟨_, hresolves⟩
  | _ => exact List.forall_mem_nil _

/-- Every reference of a well-formed document to a record resolves. -/
theorem TrustIR.WellFormed.recordRefs {document : TrustIR} (h : document.WellFormed)
    {record : TrustRecord} (hrecord : record ∈ document.records) :
    ∀ ref ∈ record.recordRefs, ∃ target, RecordResolves document.records ref target := by
  have hparts := h.records record hrecord
  unfold TrustRecord.recordRefs
  rw [List.forall_mem_append]
  constructor
  · intro ref href
    exact (h.traces record hrecord ref (Option.mem_toList.mp href)).2
  · cases record with
    | behaviorCandidate r => exact fun ref href => (hparts.refs_to ref href).2
    | mapping r => simpa using ⟨hparts.1.2, hparts.2.2⟩
    | claim r => exact hparts.2.recordRefs
    | _ => exact List.forall_mem_nil _

theorem TrustIR.WellFormed.bindsTo {document : TrustIR} (h : document.WellFormed)
    {record : TrustRecord} (hrecord : record ∈ document.records) :
    ∀ ref ∈ record.behaviorRefs, BindsTo document.subjectDocument ref := by
  have hparts := h.records record hrecord
  unfold TrustRecord.behaviorRefs
  rw [List.forall_mem_append]
  constructor
  · cases record with
    | declaration r => exact List.forall_mem_singleton.mpr hparts
    | observedFact r => exact List.forall_mem_singleton.mpr hparts
    | claim r => exact List.forall_mem_singleton.mpr hparts.1
    | _ => exact List.forall_mem_nil _
  · cases record with
    | claim r => exact hparts.2.behaviorRefs
    | _ => exact List.forall_mem_nil _

section Support

variable [Hashlib] {document : TrustIR} {behavior : BehaviorIR}

theorem TrustIR.SupportedBy.behaviorRefs (h : document.SupportedBy behavior)
    {record : TrustRecord} (hrecord : record ∈ document.records) :
    ∀ ref ∈ record.behaviorRefs, RefToAny behavior.entities ref.entityRef := by
  unfold TrustRecord.behaviorRefs
  rw [List.forall_mem_append]
  constructor
  · intro ref href
    exact h.subjects record hrecord ref (Option.mem_toList.mp href)
  · cases record with
    | claim r => exact (h.claims r hrecord).behaviorRefs
    | _ => exact List.forall_mem_nil _

/-- The mapping of a supported mapped claim is reconciled for the claim's subject. -/
theorem TrustIR.SupportedBy.mapped (h : document.SupportedBy behavior) {claim : Claim}
    (hclaim : .claim claim ∈ document.records) (hlevel : claim.level = .mapped) :
    ∃ basis mapping declaration observation effect, claim.basis = .mapped basis ∧
      RecordResolves document.records basis.mapping (.mapping mapping) ∧
      Compares document.records behavior.entities mapping declaration observation effect ∧
      mapping.disposition = dispositionOf effect.value observation.assertion.value ∧
      declaration.subject = claim.subject ∧ observation.subject = claim.subject := by
  have hids := h.wellFormed.ids_nodup
  obtain ⟨_, hbasis⟩ := h.wellFormed.records _ hclaim
  have hfits := h.claims claim hclaim
  obtain ⟨id, level, subject, basis, trace⟩ := claim
  obtain rfl : level = .mapped := hlevel
  cases hbasis with
  | @mapped basis _ =>
    cases hfits with
    | mapped hmapping hdeclaration hobservation hsubject hsubject' =>
      rename_i mapping declaration observation
      obtain ⟨declaration', observation', effect, hcompares, hdisposition⟩ :=
        h.mappings mapping hmapping.mem
      cases hcompares.declared.unique hids hdeclaration
      cases hcompares.observed.unique hids hobservation
      exact ⟨basis, mapping, declaration, observation, effect, rfl, hmapping, hcompares,
        hdisposition, hsubject, hsubject'⟩

theorem TrustIR.SupportedBy.tested (h : document.SupportedBy behavior) {claim : Claim}
    (hclaim : .claim claim ∈ document.records) (hlevel : claim.level = .tested) :
    ∃ basis evidence, claim.basis = .tested basis ∧
      TestedBy document.records behavior.entities claim.subject basis evidence := by
  obtain ⟨_, hbasis⟩ := h.wellFormed.records _ hclaim
  have hfits := h.claims claim hclaim
  obtain ⟨id, level, subject, basis, trace⟩ := claim
  obtain rfl : level = .tested := hlevel
  cases hbasis with
  | tested _ _ _ =>
    cases hfits with
    | tested htested => exact ⟨_, _, rfl, htested⟩

theorem TrustIR.SupportedBy.not_verified (h : document.SupportedBy behavior) {claim : Claim}
    (hclaim : .claim claim ∈ document.records) :
    claim.level ≠ .verified ∧ ∀ basis, claim.basis ≠ .verified basis := by
  obtain ⟨_, hbasis⟩ := h.wellFormed.records _ hclaim
  have hfits := h.claims claim hclaim
  obtain ⟨id, level, subject, basis, trace⟩ := claim
  cases hbasis with
  | verified basis => cases hfits
  | _ => simp

/-- No claim of an accepted document goes beyond its support. -/
theorem claims_supported (haccepted : validateTrustAgainstBehavior document behavior = .ok ()) :
    (∀ claim, .claim claim ∈ document.records →
      claim.level ≠ .verified ∧ ∀ basis, claim.basis ≠ .verified basis) ∧
    (∀ claim, .claim claim ∈ document.records → claim.level = .tested →
      ∃ basis evidence, claim.basis = .tested basis ∧
        TestedBy document.records behavior.entities claim.subject basis evidence) ∧
    (∀ claim, .claim claim ∈ document.records → claim.level = .mapped →
      ∃ basis mapping declaration observation, claim.basis = .mapped basis ∧
        RecordResolves document.records basis.mapping (.mapping mapping) ∧
        RecordResolves document.records mapping.declaration (.declaration declaration) ∧
        RecordResolves document.records mapping.observation (.observedFact observation) ∧
        declaration.subject = claim.subject ∧ observation.subject = claim.subject ∧
        ∀ location, deriveMappingDisposition declaration observation
          (Dict.index Entity.id behavior.entities) location = .ok mapping.disposition) ∧
    (∀ record ∈ document.records, ∀ ref ∈ record.recordRefs,
      ∃ target, RecordResolves document.records ref target) ∧
    (document.subjectDocument.documentId = behavior.documentId ∧
      document.subjectDocument.canonicalDigest.value = canonicalIrDigest behavior) ∧
    ∀ record ∈ document.records, ∀ ref ∈ record.behaviorRefs,
      ref.documentId = behavior.documentId ∧
        ref.canonicalDigest.value = canonicalIrDigest behavior ∧
        ∃ target, Resolves behavior.entities ref.entityRef target := by
  have h := validateTrustAgainstBehavior_eq_ok.mp haccepted
  refine ⟨fun claim hclaim => h.not_verified hclaim, fun claim hclaim => h.tested hclaim,
    fun claim hclaim hlevel => ?_, fun record hrecord => h.wellFormed.recordRefs hrecord,
    ⟨h.documentId_eq, h.digest_eq⟩, fun record hrecord ref href => ?_⟩
  · obtain ⟨basis, mapping, declaration, observation, effect, hbasis, hmapping, hcompares,
      hdisposition, hsubject, hsubject'⟩ := h.mapped hclaim hlevel
    refine ⟨basis, mapping, declaration, observation, hbasis, hmapping, hcompares.declared,
      hcompares.observed, hsubject, hsubject', fun location => ?_⟩
    rw [deriveMappingDisposition_eq_ok h.behavior_wellFormed.ids_nodup]
    exact ⟨hcompares.subject_eq, effect, hcompares.resolves, hcompares.target_eq, hdisposition⟩
  · obtain ⟨hid, hdigest⟩ := h.wellFormed.bindsTo hrecord ref href
    exact ⟨hid.trans h.documentId_eq, by rw [hdigest, h.digest_eq],
      h.behaviorRefs hrecord ref href⟩

end Support

end Ucf

/-! ### A sample

A declaration and an observation of the sample effect, their mapping, and two claims about the
effect: one by the mapping, one by the check. -/

namespace Ucf.Sample

def behaviorRef (kind : EntityKind) (id : Identifier) : BehaviorEntityRef :=
  ⟨behavior.documentId, digest, kind, id⟩

def artifact : SourceRecord where
  id := ⟨"artifact", by decide⟩
  sourceUri := ⟨"urn:ucf:sample", sampleUri_valid⟩
  sourceRevision := digest
  producer := producer
  capturedAt := ⟨"2024-01-01T00:00:00Z", timestamp_valid⟩

def trace : RecordRef := ⟨.sourceRecord, artifact.id⟩

def declaration : Declaration :=
  ⟨⟨"declared", by decide⟩, behaviorRef .effect effect.id, trace⟩

/-- An observation of a value in the slot of the effect. -/
def observation (value : IRValue) : ObservedFact :=
  ⟨⟨"observed", by decide⟩, behaviorRef .effect effect.id, ⟨effect.target, value⟩, trace⟩

def mapping (disposition : MappingDisposition) : TrustMapping where
  id := ⟨"mapping", by decide⟩
  declaration := ⟨.declaration, ⟨"declared", by decide⟩⟩
  observation := ⟨.observedFact, ⟨"observed", by decide⟩⟩
  disposition := disposition
  trace := trace

def mappedClaim : Claim where
  id := ⟨"mapped", by decide⟩
  level := .mapped
  subject := behaviorRef .effect effect.id
  basis := .mapped ⟨⟨.mapping, ⟨"mapping", by decide⟩⟩⟩
  trace := trace

def testedClaim : Claim where
  id := ⟨"tested", by decide⟩
  level := .tested
  subject := behaviorRef .effect effect.id
  basis := .tested ⟨.behavior (behaviorRef .verificationEvidence evidence.id), trace, check, digest,
    producer⟩
  trace := trace

/-- The trust document of an observed value and a disposition. -/
def trust (value : IRValue) (disposition : MappingDisposition) : TrustIR where
  documentId := ⟨"trust", by decide⟩
  subjectDocument := ⟨behavior.documentId, digest⟩
  records := [.sourceRecord artifact, .declaration declaration, .observedFact (observation value),
    .mapping (mapping disposition), .claim mappedClaim, .claim testedClaim]

end Ucf.Sample

namespace Ucf

open Ucf.Sample

theorem claims_supported_sample :
    validateTrustAgainstBehavior (trust recordValue .match_) behavior = .ok () ∧
      ∃ basis evidence, testedClaim.basis = .tested basis ∧
        TestedBy (trust recordValue .match_).records behavior.entities testedClaim.subject basis
          evidence := by
  have haccepted : validateTrustAgainstBehavior (trust recordValue .match_) behavior = .ok () := by
    decide +kernel
  have hsupported := claims_supported haccepted
  exact ⟨haccepted, hsupported.2.1 testedClaim (by simp [trust]) rfl⟩

end Ucf
