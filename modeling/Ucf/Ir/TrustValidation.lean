import Ucf.Ir.Trust

/-! The semantic validation of Trust IR, alone and against the Behavior IR that it is about, and the
reconciliation of a declaration with an observation. -/

namespace Ucf

/-- `TrustRecordIndex` -/
abbrev TrustRecordIndex : Type := Dict Identifier TrustRecord

namespace TrustRecord

def id : TrustRecord → Identifier
  | sourceRecord r => r.id
  | declaration r => r.id
  | observedFact r => r.id
  | behaviorCandidate r => r.id
  | mapping r => r.id
  | claim r => r.id

def kind : TrustRecord → TrustRecordKind
  | sourceRecord _ => .sourceRecord
  | declaration _ => .declaration
  | observedFact _ => .observedFact
  | behaviorCandidate _ => .behaviorCandidate
  | mapping _ => .mapping
  | claim _ => .claim

/-- The trace of a record; a source record has none. -/
def trace? : TrustRecord → Option RecordRef
  | sourceRecord _ => none
  | declaration r => some r.trace
  | observedFact r => some r.trace
  | behaviorCandidate r => some r.trace
  | mapping r => some r.trace
  | claim r => some r.trace

/-- The behavior entity that a record is about. -/
def subject? : TrustRecord → Option BehaviorEntityRef
  | declaration r => some r.subject
  | observedFact r => some r.subject
  | claim r => some r.subject
  | _ => none

def claim? : TrustRecord → Option Claim
  | claim r => some r
  | _ => none

end TrustRecord

/-! ### References -/

/-- `_build_index` of Trust IR -/
def buildTrustIndex (document : TrustIR) : Except PyError TrustRecordIndex := do
  checkEach (fun position record =>
    match (Dict.index TrustRecord.id (document.records.take position)).get? record.id with
    | some previous => throw (.ir .duplicateIdentity
        ("trust record id " ++ quoted record.id.val ++ " is used by both " ++
          quoted previous.kind.value ++ " and " ++ quoted record.kind.value)
        (at_ "$.records" position ++ ".id"))
    | none => pure ()) document.records
  pure (Dict.index TrustRecord.id document.records)

/-- `_resolve_record`; where any kind is expected, `expected` is `none`. -/
def resolveTrustRecord (ref : RecordRef) (index : TrustRecordIndex) (location : String)
    (expected : Option (List TrustRecordKind)) : Except PyError TrustRecord := do
  let target ← orRaise (index.get? ref.targetId) (.ir .brokenReference
    ("trust record target " ++ quoted ref.targetId.val ++ " does not exist") location)
  require (target.kind = ref.targetKind) (.ir .wrongTargetKind
    ("reference declares " ++ quoted ref.targetKind.value ++ ", but " ++
      quoted ref.targetId.val ++ " is " ++ quoted target.kind.value) (location ++ ".target_kind"))
  match expected with
  | none => pure target
  | some kinds => do
    require (target.kind ∈ kinds) (.ir .wrongTargetKind
      (quoted ref.targetId.val ++ " has kind " ++ quoted target.kind.value ++
        "; expected one of: " ++ ", ".intercalate (sortedBy id (kinds.map TrustRecordKind.value)))
      (location ++ ".target_kind"))
    pure target

/-- `_validate_record_refs` -/
def validateRecordRefs (refs : List RecordRef) (index : TrustRecordIndex) (location : String)
    (expected : List TrustRecordKind) : Except PyError Unit :=
  checkEach (fun position ref => do
    require (ref ∉ refs.take position) (.ir .duplicateReference
      ("reference to " ++ quoted ref.targetKind.value ++ " " ++ quoted ref.targetId.val ++
        " is duplicated") (at_ location position))
    let _ ← resolveTrustRecord ref index (at_ location position) (some expected)
    pure ()) refs

/-- `_validate_behavior_ref`; both references name the only version of Behavior IR there is. -/
def validateBehaviorRef (ref : BehaviorEntityRef) (document : TrustIR) (location : String) :
    Except PyError Unit := do
  let mismatch (field : String) : PyError := .ir .documentIdentityMismatch
    ("behavior reference " ++ field ++ " does not match subject_document") (location ++ "." ++ field)
  let subject := document.subjectDocument
  require (ref.documentId = subject.documentId) (mismatch "document_id")
  require (ref.canonicalDigest = subject.canonicalDigest) (mismatch "canonical_digest")

/-- `_validate_trace` -/
def validateTrace (ref : RecordRef) (index : TrustRecordIndex) (location : String) :
    Except PyError Unit := do
  let _ ← resolveTrustRecord ref index location (some [.sourceRecord])
  pure ()

/-! ### Claims -/

/-- `_CLAIM_BASIS_TYPES`, the level whose claims have a basis of this type -/
def ClaimBasis.level : ClaimBasis → ClaimLevel
  | .observed _ => .observed
  | .declared _ => .declared
  | .mapped _ => .mapped
  | .tested _ => .tested
  | .verified _ => .verified

/-- `expected_type.__name__` -/
def basisTypeName : ClaimLevel → String
  | .observed => "ObservedClaimBasis"
  | .declared => "DeclaredClaimBasis"
  | .mapped => "MappedClaimBasis"
  | .tested => "TestedClaimBasis"
  | .verified => "VerifiedClaimBasis"

/-- `_validate_claim_basis` -/
def validateClaimBasis (claim : Claim) (index : TrustRecordIndex) (document : TrustIR)
    (location : String) : Except PyError Unit := do
  require (claim.basis.level = claim.level) (.ir .missingClaimBasis
    (quoted claim.level.value ++ " claim requires " ++ basisTypeName claim.level)
    (location ++ ".basis"))
  match claim.basis with
  | .observed basis =>
    let _ ← resolveTrustRecord basis.fact index (location ++ ".basis.fact") (some [.observedFact])
    pure ()
  | .declared basis =>
    let _ ← resolveTrustRecord basis.declaration index (location ++ ".basis.declaration")
      (some [.declaration])
    pure ()
  | .mapped basis =>
    let _ ← resolveTrustRecord basis.mapping index (location ++ ".basis.mapping") (some [.mapping])
    pure ()
  | .tested basis =>
    let _ ← resolveTrustRecord basis.artifact index (location ++ ".basis.artifact")
      (some [.sourceRecord])
    match basis.evidence with
    | .behavior evidence => validateBehaviorRef evidence document (location ++ ".basis.evidence")
    | .record evidence =>
      let _ ← resolveTrustRecord evidence index (location ++ ".basis.evidence") none
      pure ()
  | .verified _ => pure ()

/-- The record that the evidence of a tested claim names. -/
def Claim.evidenceRecord? (claim : Claim) : Option RecordRef :=
  match claim.basis with
  | .tested basis =>
    match basis.evidence with
    | .record reference => some reference
    | .behavior _ => none
  | _ => none

/-- `edges`, from a claim to the claim that is its evidence -/
def claimEdges (claims : List Claim) : Dict Identifier Identifier :=
  Dict.ofList (claims.filterMap fun claim => do
    let reference ← claim.evidenceRecord?
    if reference.targetKind = .claim then some (claim.id, reference.targetId) else none)

/-- What `visit` has seen of a claim: entered, or left. -/
inductive VisitState where
  | entered
  | left
deriving DecidableEq, Repr

/-- `visit`. The first argument bounds the depth of the recursion; one more than the number of edges
is enough, for every call below the first follows another edge. -/
def visitClaim (edges : Dict Identifier Identifier) (locationById : Dict Identifier String) :
    Nat → Dict Identifier VisitState → Identifier → Except PyError (Dict Identifier VisitState)
  | 0, _, _ => .error .recursionError
  | fuel + 1, state, claimId =>
    match state.get? claimId with
    | some .entered => do
      let location ← orRaise (locationById.get? claimId) .keyError
      throw (.ir .circularClaimBasis
        ("claim basis contains a cycle through " ++ quoted claimId.val) location)
    | some .left => .ok state
    | none => do
      let entered := state.insert claimId .entered
      let below ← match edges.get? claimId with
        | some target => visitClaim edges locationById fuel entered target
        | none => pure entered
      pure (below.insert claimId .left)

/-- `_validate_claim_cycles` -/
def validateClaimCycles (claims : List Claim) (locationById : Dict Identifier String) :
    Except PyError Unit := do
  let edges := claimEdges claims
  let _ ← claims.foldlM (fun state claim =>
    visitClaim edges locationById (edges.items.length + 2) state claim.id) (Dict.ofList [])
  pure ()

/-- The body of the first loop of `validate_trust_semantics` -/
def validateTrustRecord (document : TrustIR) (index : TrustRecordIndex) (position : Nat)
    (record : TrustRecord) : Except PyError Unit := do
  let location := at_ "$.records" position
  match record.trace? with
  | none => pure ()
  | some trace => validateTrace trace index (location ++ ".trace")
  match record with
  | .sourceRecord _ => pure ()
  | .declaration r => validateBehaviorRef r.subject document (location ++ ".subject")
  | .observedFact r => validateBehaviorRef r.subject document (location ++ ".subject")
  | .behaviorCandidate r => do
    validateRecordRefs r.subjects.val index (location ++ ".subjects") [.declaration, .observedFact]
    let kinds := r.subjects.val.map RecordRef.targetKind
    require ((∀ kind ∈ kinds, kind = .declaration ∨ kind = .observedFact) ∧
        .declaration ∈ kinds ∧ .observedFact ∈ kinds ∧ r.subjects.val.length = 2)
      (.ir .invalidStructure
        "mapping candidate requires exactly one declaration and one observed_fact"
        (location ++ ".subjects"))
  | .mapping r => do
    let _ ← resolveTrustRecord r.declaration index (location ++ ".declaration")
      (some [.declaration])
    let _ ← resolveTrustRecord r.observation index (location ++ ".observation")
      (some [.observedFact])
    pure ()
  | .claim r => do
    validateBehaviorRef r.subject document (location ++ ".subject")
    validateClaimBasis r index document location

/-- `location_by_claim_id` -/
def locationByClaimId (records : List TrustRecord) : Dict Identifier String :=
  Dict.ofList (records.zipIdx.filterMap fun item =>
    item.1.claim?.map fun claim => (claim.id, at_ "$.records" item.2 ++ ".basis.evidence"))

/-- `validate_trust_semantics` -/
def validateTrustSemantics (document : TrustIR) : Except PyError Unit := do
  let index ← buildTrustIndex document
  checkEach (validateTrustRecord document index) document.records
  let claims := document.records.filterMap TrustRecord.claim?
  let locations := locationByClaimId document.records
  validateClaimCycles claims locations
  checkEach (fun _ (claim : Claim) =>
    match claim.evidenceRecord? with
    | none => pure ()
    | some evidence => do
      let location ← orRaise (locations.get? claim.id) .keyError
      require (evidence.targetKind ≠ .behaviorCandidate) (.ir .candidateIsNotEvidence
        "behavior candidates are review metadata, not test evidence" location)
      throw (.ir .missingClaimBasis
        "tested claim requires verification_evidence from behavior IR" location)) claims

/-! ### Against Behavior IR -/

/-- `_resolve_behavior_ref`; where any kind is expected, `expected` is `none`. -/
def resolveBehaviorRef (ref : BehaviorEntityRef) (index : EntityIndex) (location : String)
    (expected : Option (List EntityKind)) : Except PyError Entity := do
  let target ← orRaise (index.get? ref.targetId) (.ir .brokenReference
    ("behavior entity target " ++ quoted ref.targetId.val ++ " does not exist") location)
  require (target.kind = ref.targetKind) (.ir .wrongTargetKind
    ("reference declares " ++ quoted ref.targetKind.value ++ ", but " ++
      quoted ref.targetId.val ++ " is " ++ quoted target.kind.value) (location ++ ".target_kind"))
  match expected with
  | none => pure target
  | some kinds => do
    require (target.kind ∈ kinds) (.ir .wrongTargetKind
      (quoted ref.targetId.val ++ " has kind " ++ quoted target.kind.value ++
        "; expected one of: " ++ ", ".intercalate (sortedBy id (kinds.map EntityKind.value)))
      (location ++ ".target_kind"))
    pure target

/-- The behavior entity that the evidence of a tested claim names. -/
def Claim.evidenceEntity? (claim : Claim) : Option BehaviorEntityRef :=
  match claim.basis with
  | .tested basis =>
    match basis.evidence with
    | .behavior reference => some reference
    | .record _ => none
  | _ => none

/-- `_validate_external_refs` -/
def validateExternalRefs (document : TrustIR) (index : EntityIndex) : Except PyError Unit :=
  checkEach (fun position record => do
    let location := at_ "$.records" position
    match TrustRecord.subject? record with
    | none => pure ()
    | some subject =>
      let _ ← resolveBehaviorRef subject index (location ++ ".subject") none
      pure ()
    match (TrustRecord.claim? record).bind Claim.evidenceEntity? with
    | none => pure ()
    | some evidence =>
      let _ ← resolveBehaviorRef evidence index (location ++ ".basis.evidence")
        (some [.verificationEvidence])
      pure ()) document.records

/-- `_derive_mapping_disposition` -/
def deriveMappingDisposition (declaration : Declaration) (observation : ObservedFact)
    (index : EntityIndex) (location : String) : Except PyError MappingDisposition := do
  require (declaration.subject = observation.subject) (.ir .mappingBasisMismatch
    "mapping declaration and observation subjects differ" (location ++ ".observation"))
  let declared ← resolveBehaviorRef declaration.subject index (location ++ ".declaration") none
  match declared with
  | .effect effect => do
    require (effect.target = observation.assertion.target) (.ir .mappingBasisMismatch
      "observed assertion targets a different behavior slot" (location ++ ".observation"))
    pure (if effect.value = observation.assertion.value then .match_ else .conflict)
  | _ => throw (.ir .mappingBasisMismatch
      "same-behavior-slot requires a declaration that references an effect"
      (location ++ ".declaration"))

/-- `_validate_mapping_disposition` -/
def validateMappingDisposition (mapping : TrustMapping) (declaration : Declaration)
    (observation : ObservedFact) (index : EntityIndex) (location : String) :
    Except PyError Unit := do
  let expected ← deriveMappingDisposition declaration observation index location
  require (mapping.disposition = expected) (.ir .mappingBasisMismatch
    ("mapping disposition " ++ quoted mapping.disposition.value ++
      " does not match the immutable inputs; expected " ++ quoted expected.value)
    (location ++ ".disposition"))

/-- The declaration and the observation of a mapping. -/
def resolveMapping (mapping : TrustMapping) (index : TrustRecordIndex) (location : String) :
    Except PyError (Declaration × ObservedFact) := do
  let declaration ← resolveTrustRecord mapping.declaration index (location ++ ".declaration")
    (some [.declaration])
  let observation ← resolveTrustRecord mapping.observation index (location ++ ".observation")
    (some [.observedFact])
  match declaration, observation with
  | .declaration declaration, .observedFact observation => pure (declaration, observation)
  | _, _ => throw .assertionError

/-- `_claim_basis_mismatch` -/
def claimBasisMismatch (field location : String) : PyError :=
  .ir .claimBasisMismatch ("claim " ++ field ++ " does not match its exact basis")
    (location ++ "." ++ field)

/-- `_evaluate_tested_claim` -/
def evaluateTestedClaim (claim : Claim) (basis : TestedClaimBasis) (trustIndex : TrustRecordIndex)
    (behaviorIndex : EntityIndex) (location : String) : Except PyError Unit := do
  let reference ← match basis.evidence with
    | .behavior reference => pure reference
    | .record _ => throw .assertionError
  match ← resolveBehaviorRef reference behaviorIndex (location ++ ".basis.evidence")
      (some [.verificationEvidence]) with
  | .verificationEvidence evidence => do
    require (evidence.outcome = .passed) (.ir .evidenceNotPassed
      ("verification evidence outcome is " ++ quoted evidence.outcome.value)
      (location ++ ".basis.evidence.outcome"))
    match ← resolveTrustRecord basis.artifact trustIndex (location ++ ".basis.artifact")
        (some [.sourceRecord]) with
    | .sourceRecord artifact => do
      require (evidence.sourceRevision = artifact.sourceRevision) (.ir .staleEvidence
        "evidence source revision differs from the current artifact revision"
        (location ++ ".basis.artifact.source_revision"))
      require (∃ subject ∈ evidence.subjects, subject.targetKind = claim.subject.targetKind ∧
          subject.targetId = claim.subject.targetId)
        (claimBasisMismatch "subject" (location ++ ".basis"))
      require (evidence.check = basis.check) (claimBasisMismatch "check" (location ++ ".basis"))
      require (evidence.environment = basis.environment)
        (claimBasisMismatch "environment" (location ++ ".basis"))
      match ← resolveBehaviorRef ⟨claim.subject.documentId, claim.subject.canonicalDigest,
          evidence.provenance.targetKind, evidence.provenance.targetId⟩ behaviorIndex
          (location ++ ".basis.evidence.provenance") (some [.provenance]) with
      | .provenance provenance =>
        require (provenance.producer = basis.producer)
          (claimBasisMismatch "producer" (location ++ ".basis"))
      | _ => throw .assertionError
    | _ => throw .assertionError
  | _ => throw .assertionError

/-- `_evaluate_claim` -/
def evaluateClaim (claim : Claim) (trustIndex : TrustRecordIndex) (behaviorIndex : EntityIndex)
    (location : String) : Except PyError ClaimLevel := do
  require (claim.level ≠ .verified) (.ir .verifiedUnavailable
    ("verified claims are unavailable until a versioned property, assumptions, and proof or " ++
      "exhaustive procedure are represented") (location ++ ".level"))
  match claim.basis with
  | .observed basis =>
    match ← resolveTrustRecord basis.fact trustIndex (location ++ ".basis.fact")
        (some [.observedFact]) with
    | .observedFact fact =>
      require (fact.subject = claim.subject)
        (claimBasisMismatch "subject" (location ++ ".basis"))
    | _ => throw .assertionError
  | .declared basis =>
    match ← resolveTrustRecord basis.declaration trustIndex (location ++ ".basis.declaration")
        (some [.declaration]) with
    | .declaration declaration =>
      require (declaration.subject = claim.subject)
        (claimBasisMismatch "subject" (location ++ ".basis"))
    | _ => throw .assertionError
  | .mapped basis =>
    match ← resolveTrustRecord basis.mapping trustIndex (location ++ ".basis.mapping")
        (some [.mapping]) with
    | .mapping mapping => do
      let (declaration, observation) ← resolveMapping mapping trustIndex
        (location ++ ".basis.mapping")
      require (declaration.subject = claim.subject ∧ observation.subject = claim.subject)
        (claimBasisMismatch "mapping_pair" (location ++ ".basis"))
    | _ => throw .assertionError
  | .tested basis => evaluateTestedClaim claim basis trustIndex behaviorIndex location
  | .verified _ => throw .assertionError
  pure claim.level

variable [Hashlib]

/-- `_validate_document_binding`; both documents have the only version of Behavior IR there is. -/
def validateDocumentBinding (ref : BehaviorDocumentRef) (behavior : BehaviorIR)
    (location : String) : Except PyError Unit := do
  let mismatch (field : String) : PyError := .ir .documentIdentityMismatch
    ("subject_document " ++ field ++ " does not match supplied behavior IR")
    (location ++ "." ++ field)
  require (ref.documentId = behavior.documentId) (mismatch "document_id")
  require (ref.canonicalDigest.value = canonicalIrDigest behavior) (mismatch "canonical_digest")

/-- The last two loops of `validate_trust_against_behavior` -/
def validateTrustBasis (document : TrustIR) (trustIndex : TrustRecordIndex)
    (behaviorIndex : EntityIndex) : Except PyError Unit := do
  checkEach (fun position record =>
    match record with
    | .mapping mapping => do
      let location := at_ "$.records" position
      let (declaration, observation) ← resolveMapping mapping trustIndex location
      validateMappingDisposition mapping declaration observation behaviorIndex location
    | _ => pure ()) document.records
  checkEach (fun position record =>
    match record with
    | .claim claim => do
      let _ ← evaluateClaim claim trustIndex behaviorIndex (at_ "$.records" position)
      pure ()
    | _ => pure ()) document.records

/-- `validate_trust_against_behavior` -/
def validateTrustAgainstBehavior (document : TrustIR) (behavior : BehaviorIR) :
    Except PyError Unit := do
  validateTrustSemantics document
  validateIrSemantics behavior
  validateDocumentBinding document.subjectDocument behavior "$.subject_document"
  let behaviorIndex := Dict.index Entity.id behavior.entities
  validateExternalRefs document behaviorIndex
  let trustIndex ← buildTrustIndex document
  validateTrustBasis document trustIndex behaviorIndex

/-- `supported_claim_levels` -/
def supportedClaimLevels (document : TrustIR) (behavior : BehaviorIR) :
    Except PyError (List ClaimLevel) := do
  validateTrustAgainstBehavior document behavior
  pure ((document.records.filterMap TrustRecord.claim?).map fun claim => claim.level).dedup

/-- `reconcile_mapping` -/
def reconcileMapping (document : TrustIR) (behavior : BehaviorIR)
    (mappingId declarationId observationId : Identifier) (trace : RecordRef) :
    Except PyError TrustMapping := do
  validateTrustAgainstBehavior document behavior
  let trustIndex ← buildTrustIndex document
  require (mappingId ∉ trustIndex.keys) (.ir .duplicateIdentity
    ("trust record id " ++ quoted mappingId.val ++ " already exists") "$.mapping_id")
  let declaration ← resolveTrustRecord ⟨.declaration, declarationId⟩ trustIndex
    "$.declaration_id" (some [.declaration])
  let observation ← resolveTrustRecord ⟨.observedFact, observationId⟩ trustIndex
    "$.observation_id" (some [.observedFact])
  validateTrace trace trustIndex "$.trace"
  match declaration, observation with
  | .declaration declared, .observedFact observed => do
    let behaviorIndex := Dict.index Entity.id behavior.entities
    let disposition ← deriveMappingDisposition declared observed behaviorIndex "$"
    pure ⟨mappingId, ⟨.declaration, declarationId⟩, ⟨.observedFact, observationId⟩, disposition,
      trace⟩
  | _, _ => throw .assertionError

end Ucf
