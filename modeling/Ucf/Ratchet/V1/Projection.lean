import Ucf.Ratchet.V1.Models

/-! The identifiers of profile 1.0.0, and what it takes from an onboarding bundle: its behavior
subjects with their fingerprints. -/

namespace Ucf.V1

section Identity

variable [Hashlib]

/-- `derive_policy_id` -/
def derivePolicyId (policy : RatchetPolicy) : PolicyId :=
  ⟨identityDigest ((modelDump policy).exclude ["id"])⟩

/-- `derive_assessment_id` -/
def deriveAssessmentId (assessment : RatchetAssessment) : AssessmentId :=
  ⟨identityDigest ((modelDump assessment).exclude ["id"])⟩

/-- `derive_behavior_subject_id` -/
def deriveBehaviorSubjectId (key : BehaviorSubjectKey) : BehaviorSubjectId :=
  ⟨identityDigest (modelDump key)⟩

/-- `derive_violation_id` -/
def deriveViolationId (key : ViolationKey) : ViolationId := ⟨identityDigest (modelDump key)⟩

/-- `derive_baseline_id` -/
def deriveBaselineId (baseline : RatchetBaseline) : BaselineId :=
  ⟨identityDigest ((modelDump baseline).exclude ["id"])⟩

/-- `derive_evaluation_id` -/
def deriveEvaluationId (report : RatchetEvaluationReport) : EvaluationId :=
  ⟨identityDigest ((modelDump report).exclude ["id"])⟩

/-- `derive_projection_digest`, as a digest -/
def projectionDigest (value : Json) : Digest := ⟨identityDigest value⟩

/-- `_model_digest` -/
def modelDigest {α : Type} [Model α] (document : α) : Digest :=
  projectionDigest (modelDump document)

/-- `policy_ref` -/
def policyRef (policy : RatchetPolicy) : RatchetPolicyRef := ⟨policy.id, modelDigest policy⟩

/-- `assessment_ref` -/
def assessmentRef (assessment : RatchetAssessment) : RatchetAssessmentRef :=
  ⟨assessment.id, modelDigest assessment⟩

/-- `baseline_ref` -/
def baselineRef (baseline : RatchetBaseline) : RatchetBaselineRef :=
  ⟨baseline.id, modelDigest baseline, baseline.generation⟩

/-- `evaluation_ref` -/
def evaluationRef (report : RatchetEvaluationReport) : RatchetEvaluationReportRef :=
  ⟨report.id, modelDigest report⟩

end Identity

section Records

variable [Unicodedata]

/-- `_resolve_inventory_record` -/
def resolveInventoryRecord (identifier : InventoryRecordId)
    (records : Dict InventoryRecordId InventoryRecord) : Except PyError InventoryRecord :=
  orRaise (records.get? identifier)
    (.ratchetV1 .brokenReference "candidate evidence does not exist" "$.inventory.records")

/-- The normalized form of a provenance record. -/
def normalizeProvenance (provenance : InventoryProvenance) : Json :=
  .obj [("kind", .str "inventory_provenance"),
    ("content_digest", dumpOrNull provenance.contentDigest)]

/-- `_normalized_provenance` -/
def normalizedProvenance (identifier : InventoryRecordId)
    (records : Dict InventoryRecordId InventoryRecord) : Except PyError Json := do
  let record ← resolveInventoryRecord identifier records
  match record with
  | .inventoryProvenance provenance => pure (normalizeProvenance provenance)
  | _ => throw (.ratchetV1 .wrongTargetKind
      "inventory fact provenance has the wrong target kind" "$.inventory.records")

/-- `payload[name] = value` -/
def withMember (payload : Json) (name : String) (value : Json) : Json :=
  match payload with
  | .obj fields => .obj (fields ++ [(name, value)])
  | j => j

/-- `_normalize_inventory_record`. A chain of entry references without end is a recursion error;
`fuel` is the length of the longest chain without repetition. -/
def normalizeInventoryRecord (records : Dict InventoryRecordId InventoryRecord) :
    Nat → InventoryRecord → Except PyError Json
  | 0, _ => .error .recursionError
  | fuel + 1, record =>
    match record, record.entryRef?, record.provenanceRef? with
    | .inventoryProvenance provenance, _, _ => .ok (normalizeProvenance provenance)
    | .repositoryEntry entry, _, _ => do
      let content ← normalizedProvenance entry.provenance.targetId records
      pure (withMember ((modelDump entry).exclude ["id", "level", "path", "provenance"])
        "provenance_content" content)
    | .inventoryDiagnostic _, _, _ => .error .attributeError
    | fact, some entry, some provenance => do
      let target ← resolveInventoryRecord entry.targetId records
      let normalized ← normalizeInventoryRecord records fuel target
      let content ← normalizedProvenance provenance.targetId records
      pure (withMember (withMember ((modelDump fact).exclude ["entry", "id", "level", "provenance"])
        "entry" normalized) "provenance_content" content)
    | _, _, _ => .error (.ratchetV1 .wrongTargetKind
        "candidate evidence has an unsupported inventory record kind" "$.inventory.records")

/-- `_observed_projection` -/
def observedProjection (candidate : DiscoveryCandidate)
    (records : Dict InventoryRecordId InventoryRecord) : Except PyError Json := do
  let normalize (identifier : InventoryRecordId) : Except PyError Json := do
    let record ← resolveInventoryRecord identifier records
    normalizeInventoryRecord records (records.items.length + 1) record
  let evidence ← collect (fun reference : InventoryRecordRef => normalize reference.targetId)
    candidate.evidence.items
  let subject ← normalize candidate.subject.targetId
  pure (.obj [
    ("confidence", modelDump candidate.confidence),
    ("evidence", .arr evidence),
    ("subject", subject)])

end Records

/-- The loop of `_semantic_projection` -/
def projectEntities (entities : Dict Identifier Entity) :
    List BehaviorEntityRef → Except PyError (List Json)
  | [] => .ok []
  | reference :: references => do
    let entity ← orRaise (entities.get? reference.targetId)
      (.ratchetV1 .brokenReference "materialized behavior entity does not exist"
        "$.behavior.entities")
    require (entity.kind = reference.targetKind) (.ratchetV1 .wrongTargetKind
      "materialized behavior reference has the wrong target kind" "$.baseline.materializations")
    let projected ← projectEntities entities references
    pure (if entity.kind = .provenance then projected
      else (modelDump entity).exclude ["provenance"] :: projected)

/-- `_semantic_projection` -/
def semanticProjection (references : List BehaviorEntityRef)
    (entities : Dict Identifier Entity) : Except PyError Json := do
  let projected ← projectEntities entities references
  pure (.obj [("entities", .arr (sortedBy
    (fun value => toLex (stringMember "kind" value, stringMember "id" value)) projected))])

variable [Unicodedata] [Hashlib]

/-- The snapshot of one materialization. -/
def subjectSnapshot (bundle : OnboardingBundle) (materialization : BehaviorMaterialization) :
    Except PyError BehaviorSubjectSnapshot := do
  let behaviorEntities := Dict.index Entity.id bundle.behavior.entities
  let inventoryRecords := Dict.index InventoryRecord.id bundle.inventory.records.items
  let candidates := Dict.index DiscoveryCandidate.id bundle.discovery.candidates.items
  let candidate ← orRaise (candidates.get? materialization.candidate.candidateId)
    (.ratchetV1 .brokenReference "materialization candidate does not exist"
      "$.baseline.materializations")
  let key : BehaviorSubjectKey := ⟨bundle.inventory.subjectUri.toUri,
    materialization.root.targetKind, materialization.root.targetId⟩
  let semantic ← semanticProjection materialization.entities.items behaviorEntities
  let observed ← observedProjection candidate inventoryRecords
  pure {
    id := deriveBehaviorSubjectId key
    key := key
    semantic := ⟨projectionDigest semantic⟩
    observed := ⟨projectionDigest observed⟩
    trace := {
      onboardingBundle := ⟨canonicalOnboardingDigest bundle⟩
      behavior := materialization.root
      inventorySourceRevision := bundle.inventory.sourceRevision
      candidate := materialization.candidate
      decisionId := materialization.decisionId } }

/-- `derive_subject_snapshots` -/
def deriveSubjectSnapshots (bundle : OnboardingBundle) :
    Except PyError (List BehaviorSubjectSnapshot) := do
  validateOnboardingBundle bundle
  let snapshots ← collect (subjectSnapshot bundle) bundle.baseline.materializations.items
  pure (sortedBy (fun snapshot => behaviorSubjectOrder snapshot.key) snapshots)

end Ucf.V1
