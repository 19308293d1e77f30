import Ucf.Change.Exchange

/-! The delta of a change: which entities of the base behavior the final one adds, modifies and
removes. Entities are compared in the canonical form of their documents. -/

namespace Ucf

def behaviorDeltaSchemaUri : String := "urn:ucf:change-lifecycle:behavior-delta:1.0.0"

/-- What deriving a document raises: an error of the lifecycle, or the model's own. -/
inductive ChangeError where
  | lifecycle (error : ChangeLifecycleError)
  | validation (issues : List Issue)

/-- `_raise` -/
def raising {α : Type} (x : Except ChangeLifecycleError α) : Except ChangeError α :=
  x.mapError .lifecycle

@[simp] theorem raising_eq_ok {α : Type} {x : Except ChangeLifecycleError α} {a : α} :
    raising x = .ok a ↔ x = .ok a := by
  rw [raising, mapError_eq_ok]

/-- What an after-validator of a model raises. -/
def valueError : ChangeError := .validation [⟨"value_error", []⟩]

/-! ### Models -/

structure ChangeProposalRef where
  changeId : OpenSpecChangeId
  canonicalDigest : Digest
deriving DecidableEq

instance : Model ChangeProposalRef :=
  .record (.lit "kind" "change_proposal_ref" <|
      .lit "change_lifecycle_version" changeLifecycleVersion <|
      .lit "schema_uri" changeProposalSchemaUri <| .required "change_id" <|
      .required "canonical_digest" .nil)
    (fun r => (r.changeId, r.canonicalDigest, ())) (fun (id, digest, ()) => ⟨id, digest⟩)

inductive BehaviorChangeAspect where
  | definition
  | rootMembership
deriving DecidableEq, Repr

def BehaviorChangeAspect.value : BehaviorChangeAspect → String
  | definition => "definition"
  | rootMembership => "root_membership"

instance : Model BehaviorChangeAspect :=
  .enum [.definition, .rootMembership] BehaviorChangeAspect.value

structure AddedBehavior where
  finalSubject : BehaviorEntityRef
  finalIsRoot : Bool
deriving DecidableEq

instance : Model AddedBehavior :=
  .record (.lit "kind" "added_behavior" <| .required "final_subject" <|
      .required "final_is_root" .nil)
    (fun e => (e.finalSubject, e.finalIsRoot, ())) (fun (subject, root, ()) => ⟨subject, root⟩)

/-- `ModifiedBehavior.validate_subject_pair` -/
def validateSubjectPair (baseSubject finalSubject : BehaviorEntityRef)
    (aspects : List BehaviorChangeAspect) (baseIsRoot finalIsRoot : Bool) :
    Except String Unit := do
  require (baseSubject.targetKind = finalSubject.targetKind ∧
      baseSubject.targetId = finalSubject.targetId)
    "modified behavior must retain its subject kind and ID"
  require (aspects = [BehaviorChangeAspect.definition, .rootMembership].filter fun aspect =>
      aspect ∈ aspects) "modified behavior aspects are not in canonical order"
  require (.definition ∈ aspects ∨ .rootMembership ∈ aspects)
    "modified behavior must name a changed aspect"
  require (.rootMembership ∈ aspects ↔ baseIsRoot ≠ finalIsRoot)
    "root membership aspect does not match the root flags"

structure ModifiedBehavior where
  baseSubject : BehaviorEntityRef
  finalSubject : BehaviorEntityRef
  aspects : Tuple 1 2 BehaviorChangeAspect
  baseIsRoot : Bool
  finalIsRoot : Bool
  valid : validateSubjectPair baseSubject finalSubject aspects.items baseIsRoot finalIsRoot = .ok ()
deriving DecidableEq

instance : Model ModifiedBehavior :=
  .recordWhere (.lit "kind" "modified_behavior" <| .required "base_subject" <|
      .required "final_subject" <| .required "aspects" <| .required "base_is_root" <|
      .required "final_is_root" .nil)
    (fun (base, final, aspects, baseRoot, finalRoot, ()) =>
      validateSubjectPair base final aspects.items baseRoot finalRoot = .ok ())
    (fun e => ⟨(e.baseSubject, e.finalSubject, e.aspects, e.baseIsRoot, e.finalIsRoot, ()),
      e.valid⟩)
    (fun ⟨(base, final, aspects, baseRoot, finalRoot, ()), h⟩ =>
      ⟨base, final, aspects, baseRoot, finalRoot, h⟩)

/-- `ModifiedBehavior(...)` -/
def ModifiedBehavior.make (baseSubject finalSubject : BehaviorEntityRef)
    (aspects : List BehaviorChangeAspect) (baseIsRoot finalIsRoot : Bool) :
    Except ChangeError ModifiedBehavior := do
  let aspects ← (Tuple.ofList aspects).mapError .validation
  if h : validateSubjectPair baseSubject finalSubject aspects.items baseIsRoot finalIsRoot = .ok ()
  then pure ⟨baseSubject, finalSubject, aspects, baseIsRoot, finalIsRoot, h⟩
  else throw valueError

structure RemovedBehavior where
  baseSubject : BehaviorEntityRef
  baseIsRoot : Bool
deriving DecidableEq

instance : Model RemovedBehavior :=
  .record (.lit "kind" "removed_behavior" <| .required "base_subject" <|
      .required "base_is_root" .nil)
    (fun e => (e.baseSubject, e.baseIsRoot, ())) (fun (subject, root, ()) => ⟨subject, root⟩)

inductive BehaviorDeltaEntry where
  | added (entry : AddedBehavior)
  | modified (entry : ModifiedBehavior)
  | removed (entry : RemovedBehavior)
deriving DecidableEq

instance : Model BehaviorDeltaEntry :=
  .oneOf (.variant "added_behavior" <| .variant "modified_behavior" <|
      .variant "removed_behavior" .nil)
    (fun
      | .added e => .inl e
      | .modified e => .inr (.inl e)
      | .removed e => .inr (.inr (.inl e)))
    (fun
      | .inl e => .added e
      | .inr (.inl e) => .modified e
      | .inr (.inr (.inl e)) => .removed e)

namespace BehaviorDeltaEntry

/-- `entry.kind` -/
def kind : BehaviorDeltaEntry → String
  | added _ => "added_behavior"
  | modified _ => "modified_behavior"
  | removed _ => "removed_behavior"

/-- The kind and id of the entity that the entry is about. -/
def subjectKey : BehaviorDeltaEntry → EntityRef
  | added e => ⟨e.finalSubject.targetKind, e.finalSubject.targetId⟩
  | modified e => ⟨e.baseSubject.targetKind, e.baseSubject.targetId⟩
  | removed e => ⟨e.baseSubject.targetKind, e.baseSubject.targetId⟩

/-- `_delta_entry_key` -/
def key (entry : BehaviorDeltaEntry) : String ×ₗ String ×ₗ String :=
  toLex (entry.kind, refKey entry.subjectKey)

/-- `_delta_entry_document_subjects` -/
def documentSubjects (base final : BehaviorDocumentRef) :
    BehaviorDeltaEntry → List (String × BehaviorEntityRef × BehaviorDocumentRef)
  | added e => [("final_subject", e.finalSubject, final)]
  | modified e => [("base_subject", e.baseSubject, base), ("final_subject", e.finalSubject, final)]
  | removed e => [("base_subject", e.baseSubject, base)]

end BehaviorDeltaEntry

/-- `_subject_binds_document` -/
def subjectBindsDocument (subject : BehaviorEntityRef) (document : BehaviorDocumentRef) : Prop :=
  subject.documentId = document.documentId ∧ subject.canonicalDigest = document.canonicalDigest

instance (subject : BehaviorEntityRef) (document : BehaviorDocumentRef) :
    Decidable (subjectBindsDocument subject document) := inferInstanceAs (Decidable (_ ∧ _))

/-- `BehaviorDelta.validate_shape` -/
def validateDeltaShape (changeId : OpenSpecChangeId) (proposal : ChangeProposalRef)
    (baseBehavior finalBehavior : BehaviorDocumentRef) (entries : List BehaviorDeltaEntry) :
    Except String Unit := do
  require (proposal.changeId = changeId) "delta change ID differs from its proposal"
  require (baseBehavior.documentId = finalBehavior.documentId)
    "behavior delta must retain document identity and IR version"
  require (baseBehavior.canonicalDigest ≠ finalBehavior.canonicalDigest)
    "behavior delta base and final behavior digests must differ"
  checkEach (fun index entry =>
    checkEach (fun _ (field, subject, document) =>
      require (subjectBindsDocument subject document)
        ("behavior delta entry " ++ toString index ++ " " ++ field ++
          " does not bind its top-level behavior document"))
      (entry.documentSubjects baseBehavior finalBehavior)) entries
  require (entries.map fun entry => refKey entry.subjectKey).Nodup
    "behavior delta contains duplicate subjects"
  let keys := entries.map BehaviorDeltaEntry.key
  require (keys = sortedBy id keys) "behavior delta entries are not in canonical order"

/-- `tuple[BehaviorDeltaEntry, ...]` with at least one element. -/
abbrev BehaviorDeltaEntries : Type := { entries : List BehaviorDeltaEntry // 1 ≤ entries.length }

instance : Model BehaviorDeltaEntries :=
  .refine "too_short" fun entries : List BehaviorDeltaEntry => 1 ≤ entries.length

structure BehaviorDelta where
  changeId : OpenSpecChangeId
  proposal : ChangeProposalRef
  baseBehavior : BehaviorDocumentRef
  finalBehavior : BehaviorDocumentRef
  entries : BehaviorDeltaEntries
  valid : validateDeltaShape changeId proposal baseBehavior finalBehavior entries.val = .ok ()
deriving DecidableEq

instance : Model BehaviorDelta :=
  .recordWhere (.lit "kind" "behavior_delta" <|
      .lit "change_lifecycle_version" changeLifecycleVersion <|
      .lit "schema_uri" behaviorDeltaSchemaUri <| .required "change_id" <|
      .required "proposal" <| .required "base_behavior" <| .required "final_behavior" <|
      .required "entries" .nil)
    (fun (changeId, proposal, base, final, entries, ()) =>
      validateDeltaShape changeId proposal base final entries.val = .ok ())
    (fun d => ⟨(d.changeId, d.proposal, d.baseBehavior, d.finalBehavior, d.entries, ()), d.valid⟩)
    (fun ⟨(changeId, proposal, base, final, entries, ()), h⟩ =>
      ⟨changeId, proposal, base, final, entries, h⟩)

/-- `BehaviorDelta(...)` -/
def BehaviorDelta.make (changeId : OpenSpecChangeId) (proposal : ChangeProposalRef)
    (baseBehavior finalBehavior : BehaviorDocumentRef) (entries : List BehaviorDeltaEntry) :
    Except ChangeError BehaviorDelta :=
  if h : 1 ≤ entries.length then
    if hvalid : validateDeltaShape changeId proposal baseBehavior finalBehavior entries = .ok () then
      .ok ⟨changeId, proposal, baseBehavior, finalBehavior, ⟨entries, h⟩, hvalid⟩
    else .error valueError
  else .error (.validation [⟨"too_short", [.name "entries"]⟩])

/-! ### Documents of the lifecycle -/

/-- `canonical_change_lifecycle_json` of a document without an embedded behavior -/
def canonicalLifecycleJson {α : Type} [Model α] (document : α) :
    Except ChangeLifecycleError (List Char) := do
  let encoded := (modelDump document).canonicalLine
  let _ ← (parseChangeDocument encoded : Except ChangeLifecycleError α)
  pure encoded

section Derive

variable [Hashlib]

/-- `canonical_change_lifecycle_digest` -/
def canonicalLifecycleDigest {α : Type} [Model α] (document : α) :
    Except ChangeLifecycleError Digest := do
  let _ ← canonicalLifecycleJson document
  pure ⟨identityDigest (modelDump document)⟩

/-- `change_proposal_ref` -/
def changeProposalRef [PyYaml] [HashlibBytes] (proposal : ChangeProposal) :
    Except ChangeLifecycleError ChangeProposalRef := do
  pure ⟨proposal.changeId, ← canonicalLifecycleDigest proposal⟩

/-! ### Deriving and validating a delta -/

/-- `_validate_document_pair` -/
def validateDocumentPair (baseBehavior finalBehavior : BehaviorIR) :
    Except ChangeLifecycleError Unit := do
  validateBehaviorDocument baseBehavior "$.base_behavior"
  validateBehaviorDocument finalBehavior "$.final_behavior"
  require (baseBehavior.documentId = finalBehavior.documentId)
    ⟨.documentIdentityMismatch, "base and final behavior must retain document identity and version",
      "$.final_behavior"⟩

/-- The kind and the id of an entity. -/
def Entity.ref (entity : Entity) : EntityRef := ⟨entity.kind, entity.id⟩

omit [Hashlib] in
/-- `_canonical_entities_and_roots`: the definitions in the canonical JSON under their kind and id,
and the kinds and ids of the roots -/
def canonicalEntitiesAndRoots (document : BehaviorIR) : Dict EntityRef Json × List EntityRef :=
  let canonical := document.canonical
  (Dict.ofList (canonical.entities.map fun entity => (entity.ref, modelDump entity)),
    canonical.roots)

/-- `_entity_ref` -/
def entityRefIn (document : BehaviorDocumentRef) (key : EntityRef) : BehaviorEntityRef :=
  ⟨document.documentId, document.canonicalDigest, key.targetKind, key.targetId⟩

/-- The aspects that changed, in order. -/
def changedAspects (definitionChanged rootChanged : Bool) : List BehaviorChangeAspect :=
  (if definitionChanged then [.definition] else []) ++
    (if rootChanged then [.rootMembership] else [])

omit [Hashlib] in
/-- The body of the loop of `_derive_entries` over the common keys. -/
def modifiedEntry (baseRef finalRef : BehaviorDocumentRef) (key : EntityRef)
    (definitionChanged baseIsRoot finalIsRoot : Bool) :
    Except ChangeError (List BehaviorDeltaEntry) :=
  let rootChanged := baseIsRoot != finalIsRoot
  if ¬definitionChanged ∧ ¬rootChanged then .ok []
  else do
    let entry ← ModifiedBehavior.make (entityRefIn baseRef key) (entityRefIn finalRef key)
      (changedAspects definitionChanged rootChanged) baseIsRoot finalIsRoot
    pure [.modified entry]

/-- `_derive_entries` -/
def deriveEntries (base final : BehaviorIR) : Except ChangeError (List BehaviorDeltaEntry) := do
  let (baseEntities, baseRoots) := canonicalEntitiesAndRoots base
  let (finalEntities, finalRoots) := canonicalEntitiesAndRoots final
  let baseRef := behaviorDocumentRef base
  let finalRef := behaviorDocumentRef final
  let added := (sortedBy refKey (finalEntities.keys.filter fun key =>
    key ∉ baseEntities.keys)).map fun key =>
      BehaviorDeltaEntry.added ⟨entityRefIn finalRef key, key ∈ finalRoots⟩
  let modified ← collect (fun key => modifiedEntry baseRef finalRef key
      (baseEntities.get? key ≠ finalEntities.get? key) (key ∈ baseRoots) (key ∈ finalRoots))
    (sortedBy refKey (baseEntities.keys.filter fun key => key ∈ finalEntities.keys))
  let removed := (sortedBy refKey (baseEntities.keys.filter fun key =>
    key ∉ finalEntities.keys)).map fun key =>
      BehaviorDeltaEntry.removed ⟨entityRefIn baseRef key, key ∈ baseRoots⟩
  pure (sortedBy BehaviorDeltaEntry.key (added ++ modified.flatten ++ removed))

variable [PyYaml] [HashlibBytes]

/-- `derive_behavior_delta` -/
def deriveBehaviorDelta (proposal : ChangeProposal) (baseBehavior finalBehavior : BehaviorIR) :
    Except ChangeError BehaviorDelta := do
  raising (validateChangeProposal proposal baseBehavior)
  raising (validateDocumentPair baseBehavior finalBehavior)
  let entries ← deriveEntries baseBehavior finalBehavior
  raising (require (entries ≠ []) ⟨.incompleteDelta,
    "base and final behavior contain no semantic difference", "$.entries"⟩)
  let proposalRef ← raising (changeProposalRef proposal)
  BehaviorDelta.make proposal.changeId proposalRef (behaviorDocumentRef baseBehavior)
    (behaviorDocumentRef finalBehavior) entries

/-- `validate_behavior_delta` -/
def validateBehaviorDelta (delta : BehaviorDelta) (proposal : ChangeProposal)
    (baseBehavior finalBehavior : BehaviorIR) : Except ChangeError Unit := do
  raising (validateChangeProposal proposal baseBehavior)
  let _ ← raising (canonicalLifecycleJson delta)
  raising (validateDocumentPair baseBehavior finalBehavior)
  raising (require (delta.changeId = proposal.changeId)
    ⟨.brokenReference, "delta change ID differs from the proposal", "$.change_id"⟩)
  let proposalRef ← raising (changeProposalRef proposal)
  raising (require (delta.proposal = proposalRef) ⟨.contentIdentityMismatch,
    "delta proposal reference is stale or fabricated", "$.proposal"⟩)
  raising (require (delta.baseBehavior = behaviorDocumentRef baseBehavior)
    ⟨.documentIdentityMismatch, "delta base behavior does not match the supplied document",
      "$.base_behavior"⟩)
  raising (require (delta.finalBehavior = behaviorDocumentRef finalBehavior)
    ⟨.documentIdentityMismatch, "delta final behavior does not match the supplied document",
      "$.final_behavior"⟩)
  let expected ← deriveEntries baseBehavior finalBehavior
  raising (require (expected ≠ [] ∧ delta.entries.val = expected) ⟨.incompleteDelta,
    "delta membership is not the exact exhaustive behavior difference", "$.entries"⟩)

end Derive

end Ucf
