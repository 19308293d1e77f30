import Ucf.Ir.TrustWellFormed
import Ucf.RuntimeEvidence.Projection

/-! What runtime evidence projects to: for every accepted result that validates against a well-formed
behavior, a Trust IR document that the behavior supports, with the rules' subjects and assertions. -/

namespace Ucf

open RuntimeEvidenceError (evidence)

section Evidence

variable [Hashlib]

/-! ### Requests -/

/-- The rule asserts what the behavior declares of its subject. -/
structure RuleFits (behavior : BehaviorIR) (bound : BehaviorDocumentRef)
    (rule : RuntimeObservationRule) (slot : Observation) : Prop where
  document_eq : rule.document = bound
  found : (Dict.index Entity.id behavior.entities).get? rule.subject.targetId =
    some (.observation slot)
  target_eq : rule.assertion.target = slot.target
  value_eq : rule.assertion.value = slot.value

omit [Hashlib] in
theorem validateRequestRule_eq_ok {request : RuntimeEvidenceImportRequest} {behavior : BehaviorIR}
    {position : Nat} {rule : RuntimeObservationRule} {u : Unit} :
    validateRequestRule request (Dict.index Entity.id behavior.entities) position rule = .ok u ↔
      ∃ slot, RuleFits behavior request.behavior rule slot := by
  simp only [validateRequestRule, bind_eq_ok, require_eq_ok, exists_const, orRaise_eq_ok]
  constructor
  · rintro ⟨hdocument, target, hfound, hslot⟩
    cases target with
    | observation slot =>
      rw [require_eq_ok] at hslot
      exact ⟨slot, hdocument, hfound, hslot.1, hslot.2⟩
    | _ => cases hslot
  · rintro ⟨slot, h⟩
    exact ⟨h.document_eq, .observation slot, h.found, by simp [h.target_eq, h.value_eq]⟩

/-- What is asked of a request. -/
structure RequestFits (request : RuntimeEvidenceImportRequest) (behavior : BehaviorIR) : Prop where
  documentId_eq : request.behavior.documentId = behavior.documentId
  digest_eq : request.behavior.canonicalDigest.value = canonicalIrDigest behavior
  rules : ∀ rule ∈ request.policy.rules.items,
    ∃ slot, RuleFits behavior request.behavior rule slot

theorem RequestFits.of_valid {request : RuntimeEvidenceImportRequest} {behavior : BehaviorIR}
    {environment : RuntimeEnvironment} {u : Unit}
    (h : validateRuntimeEvidenceRequest request behavior environment = .ok u) :
    RequestFits request behavior := by
  simp only [validateRuntimeEvidenceRequest, validateBehaviorBinding, bind_eq_ok, require_eq_ok,
    exists_const] at h
  obtain ⟨⟨hid, hdigest⟩, _, -, hrules⟩ := h
  refine ⟨hid, hdigest, (checkEach_eq_ok_of_iff fun position rule => ?_).mp hrules⟩
  exact validateRequestRule_eq_ok

omit [Hashlib] in
/-- Rules about one subject have one projection. -/
theorem RuleFits.projection_eq {behavior : BehaviorIR} {bound : BehaviorDocumentRef}
    {rule rule' : RuntimeObservationRule} {slot slot' : Observation}
    (h : RuleFits behavior bound rule slot) (h' : RuleFits behavior bound rule' slot')
    (hsubject : rule.subject = rule'.subject) : rule.projection = rule'.projection := by
  have hfound := h.found
  rw [hsubject, h'.found, Option.some.injEq, Entity.observation.injEq] at hfound
  subst hfound
  have hassertion : rule.assertion = rule'.assertion := by
    have htarget := h.target_eq.trans h'.target_eq.symm
    have hvalue := h.value_eq.trans h'.value_eq.symm
    cases hrule : rule.assertion
    cases hrule' : rule'.assertion
    simp_all
  rw [RuntimeObservationRule.projection, RuntimeObservationRule.projection, hsubject, hassertion]

/-! ### Policies -/

omit [Hashlib] in
theorem rule_targetKind (rule : RuntimeObservationRule) :
    rule.subject.targetKind = .observation := by
  have h := rule.valid
  simp only [validateRuntimeRule, bind_eq_ok, require_eq_ok, exists_const] at h
  exact h.1

omit [Hashlib] in
theorem nodup_of_policy (policy : RuntimeEvidencePolicy) :
    (policy.rules.items.map RuntimeObservationRule.id).Nodup ∧
      (policy.rules.items.map RuntimeObservationRule.projection).Nodup := by
  have h := policy.valid
  simp only [validateRuntimePolicy, bind_eq_ok, requireCanonical_eq_ok, require_eq_ok,
    exists_const] at h
  obtain ⟨hids, -, hprojections, -⟩ := h
  refine ⟨?_, hprojections⟩
  have hnodup : (policy.rules.items.map fun rule => rule.id.val).Nodup := hids.imp ne_of_lt
  have hmap : policy.rules.items.map (fun rule => rule.id.val) =
      (policy.rules.items.map RuntimeObservationRule.id).map Subtype.val := by
    rw [List.map_map]
    rfl
  rw [hmap] at hnodup
  exact hnodup.of_map

/-! ### Results -/

/-- What is asked of an accepted result alone. -/
theorem accepted_structure {result : RuntimeEvidenceAcceptedResult} {u : Unit}
    (h : validateRuntimeEvidenceResultStructure (.accepted result) = .ok u) :
    (result.observations.items.map fun observation => observation.rule.targetId).Nodup := by
  simp only [validateRuntimeEvidenceResultStructure, validateCanonicalTuple, bind_eq_ok,
    require_eq_ok, exists_const] at h
  have hnodup := h.1.1
  have hmap : result.observations.items.map (fun observation => observation.rule.targetId.val) =
      (result.observations.items.map fun observation => observation.rule.targetId).map
        Subtype.val := by
    rw [List.map_map]
    rfl
  rw [hmap] at hnodup
  exact hnodup.of_map

omit [Hashlib] in
theorem validateRuntimeObservationRefs_eq_ok {result : RuntimeEvidenceAcceptedResult} {u : Unit} :
    validateRuntimeObservationRefs result = .ok u ↔ ∀ observation ∈ result.observations.items,
      ∃ rule ∈ result.request.policy.rules.items, rule.id = observation.rule.targetId := by
  simp only [validateRuntimeObservationRefs, checkEach_require_eq_ok, List.mem_map]

/-- What is hashed for the identity of an observation of one of the rules. -/
def observationPayloads (result : RuntimeEvidenceAcceptedResult) : Set Payload :=
  { payload | ∃ rule ∈ result.request.policy.rules.items,
    payload = .canonical (observationIdentity result.digest.value rule.id) }

/-- The fact of a rule. -/
def factOf (result : RuntimeEvidenceAcceptedResult) (rule : RuntimeObservationRule) :
    ObservedFact :=
  projectObservation result.digest.value (runtimeSourceId result.digest.value) rule

theorem factOf_id_injective {result : RuntimeEvidenceAcceptedResult}
    (hsha : Set.InjOn Hashlib.sha256 (observationPayloads result))
    {rule rule' : RuntimeObservationRule} (hrule : rule ∈ result.request.policy.rules.items)
    (hrule' : rule' ∈ result.request.policy.rules.items)
    (h : (factOf result rule).id = (factOf result rule').id) : rule.id = rule'.id := by
  have hdigest := digestIdentifier_injective (by decide) h
  have hpayload := hsha ⟨rule, hrule, rfl⟩ ⟨rule', hrule', rfl⟩ hdigest
  simp only [Payload.canonical.injEq, observationIdentity, Json.obj.injEq, List.cons.injEq,
    Prod.mk.injEq, Json.str.injEq] at hpayload
  exact Subtype.ext hpayload.2.1.2

theorem factOf_id_ne_source {result : RuntimeEvidenceAcceptedResult}
    {rule : RuntimeObservationRule} : (factOf result rule).id ≠ (projectSource result).id := by
  intro h
  have htext := congrArg (fun id : Identifier => id.val.toList.head?) h
  simp [factOf, projectObservation, projectSource, runtimeSourceId, digestIdentifier] at htext

/-- An observation, the rule that it names and what the behavior declares of the rule's subject. -/
structure Observes (result : RuntimeEvidenceAcceptedResult) (behavior : BehaviorIR)
    (observation : RuntimeObservation) (fact : ObservedFact) : Prop where
  rule : ∃ rule ∈ result.request.policy.rules.items, rule.id = observation.rule.targetId ∧
    fact.subject = rule.subject ∧ fact.assertion = rule.assertion
  slot : ∃ slot : Observation, .observation slot ∈ behavior.entities ∧
    slot.id = fact.subject.targetId ∧ fact.assertion = ⟨slot.target, slot.value⟩
  trace : fact.trace = ⟨.sourceRecord, (projectSource result).id⟩

/-! ### The projection -/

omit [Hashlib] in
/-- Two lists with the same keys correspond item by item. -/
theorem forall₂_of_map_eq {α β γ : Type} {f : α → γ} {g : β → γ} {r : α → β → Prop} {as : List α}
    {bs : List β} (h : as.map f = bs.map g) (hr : ∀ a, ∀ b ∈ bs, f a = g b → r a b) :
    List.Forall₂ (fun a b => r a b) as bs := by
  induction bs generalizing as with
  | nil =>
    rw [List.map_nil, List.map_eq_nil_iff] at h
    rw [h]
    exact .nil
  | cons b bs ih =>
    cases as with
    | nil => cases h
    | cons a as =>
      rw [List.map_cons, List.map_cons, List.cons.injEq] at h
      exact .cons (hr a b List.mem_cons_self h.1)
        (ih h.2 fun a b hb => hr a b (List.mem_cons_of_mem _ hb))

variable {result : RuntimeEvidenceAcceptedResult} {behavior : BehaviorIR} {facts : List ObservedFact}

/-- The rules that the observations name, and their facts. -/
theorem exists_facts {error : RuntimeEvidenceError}
    (hrefs : validateRuntimeObservationRefs result = .ok ()) :
    ∃ rules : List RuntimeObservationRule,
      (∀ rule ∈ rules, rule ∈ result.request.policy.rules.items) ∧
      rules.map RuntimeObservationRule.id =
        result.observations.items.map (fun observation => observation.rule.targetId) ∧
      collect (fun (observation : RuntimeObservation) => do
        let rule ← orRaise ((Dict.index RuntimeObservationRule.id
          result.request.policy.rules.items).get? observation.rule.targetId) error
        pure (projectObservation result.digest.value (runtimeSourceId result.digest.value) rule))
        result.observations.items = .ok (rules.map (factOf result)) := by
  rw [validateRuntimeObservationRefs_eq_ok] at hrefs
  have hnodup := (nodup_of_policy result.request.policy).1
  generalize result.observations.items = observations at hrefs
  induction observations with
  | nil => exact ⟨[], by simp, rfl, rfl⟩
  | cons observation observations ih =>
    rw [List.forall_mem_cons] at hrefs
    obtain ⟨⟨rule, hrule, hid⟩, hrest⟩ := hrefs
    obtain ⟨rules, hmem, hids, hcollect⟩ := ih hrest
    refine ⟨rule :: rules, ?_, ?_, ?_⟩
    · exact List.forall_mem_cons.mpr ⟨hrule, hmem⟩
    · rw [List.map_cons, List.map_cons, hids, hid]
    · rw [collect_cons, (Dict.get?_index hnodup).mpr ⟨hrule, hid⟩, hcollect]
      rfl

theorem wellFormed_runtimeTrust (hbinds : ∀ fact ∈ facts, BindsTo result.request.behavior fact.subject)
    (htrace : ∀ fact ∈ facts, fact.trace = ⟨.sourceRecord, (projectSource result).id⟩)
    (hids : (facts.map ObservedFact.id).Nodup)
    (hsource : (projectSource result).id ∉ facts.map ObservedFact.id) :
    (runtimeTrust result facts).WellFormed := by
  have hmap : (facts.map TrustRecord.observedFact).map TrustRecord.id = facts.map ObservedFact.id := by
    rw [List.map_map]
    rfl
  constructor
  case ids_nodup =>
    show (((TrustRecord.sourceRecord (projectSource result)) :: facts.map .observedFact).map
      TrustRecord.id).Nodup
    rw [List.map_cons, hmap, List.nodup_cons]
    exact ⟨hsource, hids⟩
  case traces =>
    intro record hrecord ref href
    rcases List.mem_cons.mp hrecord with rfl | hfact
    · cases href
    · obtain ⟨fact, hmem, rfl⟩ := List.mem_map.mp hfact
      have hsome : fact.trace = ref := Option.some.inj href
      rw [htrace fact hmem] at hsome
      subst hsome
      exact ⟨by simp, .sourceRecord (projectSource result), List.mem_cons_self, rfl, rfl⟩
  case records =>
    intro record hrecord
    rcases List.mem_cons.mp hrecord with rfl | hfact
    · trivial
    · obtain ⟨fact, hmem, rfl⟩ := List.mem_map.mp hfact
      exact hbinds fact hmem

theorem supportedBy_runtimeTrust (hwell : (runtimeTrust result facts).WellFormed)
    (hbehavior : behavior.WellFormed) (hrequest : RequestFits result.request behavior)
    (hslots : ∀ fact ∈ facts, RefToAny behavior.entities fact.subject.entityRef) :
    (runtimeTrust result facts).SupportedBy behavior := by
  refine ⟨hwell, hbehavior, hrequest.documentId_eq, hrequest.digest_eq, ?_, ?_, ?_⟩
  · intro record hrecord ref href
    rcases List.mem_cons.mp hrecord with rfl | hfact
    · cases href
    · obtain ⟨fact, hmem, rfl⟩ := List.mem_map.mp hfact
      rw [← Option.some.inj href]
      exact hslots fact hmem
  · intro mapping hmapping
    rcases List.mem_cons.mp hmapping with heq | hfact
    · cases heq
    · obtain ⟨fact, -, heq⟩ := List.mem_map.mp hfact
      cases heq
  · intro claim hclaim
    rcases List.mem_cons.mp hclaim with heq | hfact
    · cases heq
    · obtain ⟨fact, -, heq⟩ := List.mem_map.mp hfact
      cases heq

/-- Every accepted result that validates against a valid behavior projects to a Trust IR document
that the behavior supports: a source record of the result and one observed fact for each
observation, about subjects of their own. A rejected result is refused. -/
theorem projectRuntimeEvidenceToTrust_exact {request : RuntimeEvidenceImportRequest}
    {environment : RuntimeEnvironment} {initializedAdapter : Producer}
    {negotiatedCapabilities : Dict String String} {sourceRevision : Digest}
    (hvalid : validateRuntimeEvidenceResult (.accepted result) request behavior environment
      initializedAdapter negotiatedCapabilities sourceRevision = .ok ())
    (hbehavior : validateIrSemantics behavior = .ok ())
    (hsha : Set.InjOn Hashlib.sha256 (observationPayloads result)) :
    (∃ facts,
      projectRuntimeEvidenceToTrust (.accepted result) behavior environment =
        .ok (runtimeTrust result facts) ∧
      validateTrustAgainstBehavior (runtimeTrust result facts) behavior = .ok () ∧
      (runtimeTrust result facts).records =
        .sourceRecord (projectSource result) :: facts.map .observedFact ∧
      (projectSource result).sourceRevision = canonicalRuntimeEvidenceDigest (modelDump result) ∧
      List.Forall₂ (Observes result behavior) result.observations.items facts ∧
      ((runtimeTrust result facts).records.map TrustRecord.id).Nodup ∧
      (facts.map ObservedFact.subject).Nodup) ∧
    ∀ rejected trust,
      projectRuntimeEvidenceToTrust (.rejected rejected) behavior environment ≠ .ok trust := by
  constructor
  swap
  · intro rejected trust h
    simp [projectRuntimeEvidenceToTrust] at h
  simp only [validateRuntimeEvidenceResult, bind_eq_ok, require_eq_ok, exists_const] at hvalid
  obtain ⟨_, hstructure, hsame, _, hrequest, -, -, -, hrefs⟩ := hvalid
  change result.request = request at hsame
  subst hsame
  have hfits := RequestFits.of_valid hrequest
  obtain ⟨rules, hmem, hruleIds, hcollect⟩ :=
    @exists_facts _ result (.embedded .keyError) hrefs
  obtain ⟨hids, hprojections⟩ := nodup_of_policy result.request.policy
  have hdistinct : rules.Nodup := by
    have hnodup := accepted_structure hstructure
    rw [← hruleIds] at hnodup
    exact hnodup.of_map
  -- the facts have different identifiers and different subjects
  have hfactIds : ((rules.map (factOf result)).map ObservedFact.id).Nodup := by
    rw [List.map_map]
    refine hdistinct.map_on fun rule hrule rule' hrule' heq => ?_
    have hid := factOf_id_injective hsha (hmem rule hrule) (hmem rule' hrule') heq
    exact List.inj_on_of_nodup_map hids (hmem rule hrule) (hmem rule' hrule') hid
  have hsubjects : ((rules.map (factOf result)).map ObservedFact.subject).Nodup := by
    rw [List.map_map]
    refine hdistinct.map_on fun rule hrule rule' hrule' heq => ?_
    obtain ⟨slot, hslot⟩ := hfits.rules rule (hmem rule hrule)
    obtain ⟨slot', hslot'⟩ := hfits.rules rule' (hmem rule' hrule')
    exact List.inj_on_of_nodup_map hprojections (hmem rule hrule) (hmem rule' hrule')
      (hslot.projection_eq hslot' heq)
  have hwell : (runtimeTrust result (rules.map (factOf result))).WellFormed := by
    refine wellFormed_runtimeTrust ?_ ?_ hfactIds ?_
    · intro fact hfact
      obtain ⟨rule, hrule, rfl⟩ := List.mem_map.mp hfact
      obtain ⟨slot, hslot⟩ := hfits.rules rule (hmem rule hrule)
      have hdocument := hslot.document_eq
      rw [← hdocument]
      exact ⟨rfl, rfl⟩
    · intro fact hfact
      obtain ⟨rule, -, rfl⟩ := List.mem_map.mp hfact
      rfl
    · intro hsource
      rw [List.map_map] at hsource
      obtain ⟨rule, -, heq⟩ := List.mem_map.mp hsource
      exact factOf_id_ne_source heq
  have hsupported : (runtimeTrust result (rules.map (factOf result))).SupportedBy behavior := by
    refine supportedBy_runtimeTrust hwell (validateIrSemantics_eq_ok.mp hbehavior) hfits ?_
    intro fact hfact
    obtain ⟨rule, hrule, rfl⟩ := List.mem_map.mp hfact
    obtain ⟨slot, hslot⟩ := hfits.rules rule (hmem rule hrule)
    obtain ⟨hentity, hid⟩ := Dict.mem_of_get?_index hslot.found
    exact ⟨.observation slot, hentity, hid, (rule_targetKind rule).symm⟩
  have hobserves : List.Forall₂ (Observes result behavior) result.observations.items
      (rules.map (factOf result)) := by
    rw [List.forall₂_map_right_iff]
    refine forall₂_of_map_eq hruleIds.symm fun observation rule hrule hid => ?_
    obtain ⟨slot, hslot⟩ := hfits.rules rule (hmem rule hrule)
    obtain ⟨hentity, hid'⟩ := Dict.mem_of_get?_index hslot.found
    refine ⟨⟨rule, hmem rule hrule, hid.symm, rfl, rfl⟩, ⟨slot, hentity, hid', ?_⟩, rfl⟩
    rw [← hslot.target_eq, ← hslot.value_eq]
    rfl
  refine ⟨rules.map (factOf result), ?_, validateTrustAgainstBehavior_eq_ok.mpr hsupported, rfl,
    rfl, hobserves, hwell.ids_nodup, hsubjects⟩
  simp only [projectRuntimeEvidenceToTrust, bind_eq_ok]
  exact ⟨(), hstructure, (), hrequest, (), hrefs, _, hcollect, (),
    mapError_eq_ok.mpr (validateTrustAgainstBehavior_eq_ok.mpr hsupported), rfl⟩

end Evidence

end Ucf

/-! ### A sample

Two observations of a behavior under two rules, and the same result for a behavior that lacks the
provenance of what is observed. -/

namespace Ucf.RuntimeSample

open Ucf.Sample (digest digestValue producer irProvenance provenanceRef)

/-- A digest that counts the characters of a rule's identifier in the identity of an observation. -/
scoped instance hashlib : Hashlib where
  sha256
    | .canonical (.obj [_, (_, .str ruleId)]) =>
      ⟨ruleId.toList.length % 16, lt_digestBound.mpr
        ((Nat.mod_lt _ (by norm_num)).trans_le (by norm_num))⟩
    | _ => digestValue

def pay : Action where
  id := ⟨"pay", by decide⟩
  inputPorts := []
  outputPorts := []
  effects := []
  requires := []
  provenance := provenanceRef

def slot (id : Identifier) (value : Bool) : Observation where
  id := id
  subject := ⟨.action, pay.id⟩
  target := ⟨⟨"order", Sample.order_valid⟩, [⟨"state", by decide⟩]⟩
  value := .scalar (.boolean ⟨value⟩)
  provenance := provenanceRef

def paid : Observation := slot ⟨"paid", by decide⟩ true

def shipped : Observation := slot ⟨"shipped", by decide⟩ false

def behavior : BehaviorIR where
  documentId := ⟨"orders", by decide⟩
  roots := []
  entities := [.provenance irProvenance, .action pay, .observation paid, .observation shipped]

/-- The behavior without the provenance that its entities name. -/
def untraced : BehaviorIR :=
  { behavior with entities := [.action pay, .observation paid, .observation shipped] }

def capability : CapabilitySelection :=
  ⟨⟨runtimeEvidenceCapability, by decide⟩, ⟨runtimeEvidenceVersion, by decide⟩⟩

def ruleOf (slot : Observation) (selector : VersionedURN) (h : isRuntimeValue slot.value = true)
    (h' : slot.target.path.length = 1) : RuntimeObservationRule where
  id := slot.id
  selectorUri := selector
  subject := ⟨behavior.documentId, digest, .observation, slot.id⟩
  assertion := ⟨slot.target, slot.value⟩
  valid := by
    have hpath : 1 ≤ slot.target.path.length ∧ slot.target.path.length ≤ maxRuntimeTargetPath := by
      rw [h']
      decide
    simp [validateRuntimeRule, h, hpath]

def policy : RuntimeEvidencePolicy where
  policyUri := ⟨"urn:shop:policy:1.0.0", by decide⟩
  rules := ⟨[ruleOf paid ⟨"urn:shop:paid:1.0.0", by decide⟩ rfl rfl,
    ruleOf shipped ⟨"urn:shop:shipped:1.0.0", by decide⟩ rfl rfl], by decide, by decide⟩
  valid := by decide +kernel

def environment : RuntimeEnvironment := ⟨⟨"urn:shop:production:1.0.0", by decide⟩, digest⟩

def request : RuntimeEvidenceImportRequest where
  capability := capability
  behavior := ⟨behavior.documentId, digest⟩
  source := ⟨⟨"urn:shop:log", by decide⟩, digest, ⟨"2024-01-01T00:00:00Z", Sample.timestamp_valid⟩⟩
  environment := ⟨environment.environmentUri, environment.revision, digest⟩
  sampling := ⟨⟨"urn:shop:sampling:1.0.0", by decide⟩, ⟨false, rfl⟩⟩
  policy := policy
  adapterProcedureUri := ⟨"urn:shop:import:1.0.0", by decide⟩
  valid := by decide +kernel

def result : RuntimeEvidenceAcceptedResult where
  id := ⟨digestValue⟩
  request := request
  producer := producer
  capability := capability
  procedureUri := request.adapterProcedureUri
  sanitization := ⟨⟨2, by decide⟩, ⟨⟨0, by decide⟩, rfl⟩, ⟨false, rfl⟩⟩
  observations := ⟨[⟨⟨paid.id⟩⟩, ⟨⟨shipped.id⟩⟩], by decide, by decide⟩
  valid := by decide +kernel

/-- What the adapter offers. -/
def negotiated : Dict String String :=
  Dict.ofList [("org.ucf.adapter.verification", "1.2.0"),
    ("org.ucf.adapter.runtime-evidence", "1.0.0")]

end Ucf.RuntimeSample

namespace Ucf

open Ucf.RuntimeSample

theorem projectRuntimeEvidenceToTrust_exact_sample :
    validateRuntimeEvidenceResult (.accepted result) request behavior environment result.producer
        negotiated request.source.sourceRevision = .ok () ∧
      ∃ trust, projectRuntimeEvidenceToTrust (.accepted result) behavior environment = .ok trust := by
  have hvalid : validateRuntimeEvidenceResult (.accepted result) request behavior environment
      result.producer negotiated request.source.sourceRevision = .ok () := by
    decide +kernel
  have hsha : Set.InjOn Hashlib.sha256 (observationPayloads result) := by
    rintro _ ⟨rule, hrule, rfl⟩ _ ⟨rule', hrule', rfl⟩ heq
    have hcases : ∀ rule ∈ result.request.policy.rules.items, rule.id = paid.id ∨
        rule.id = shipped.id := by decide +kernel
    rcases hcases rule hrule with h | h <;> rcases hcases rule' hrule' with h' | h' <;>
      rw [h, h'] at heq ⊢
    · exact absurd heq (by decide +kernel)
    · exact absurd heq (by decide +kernel)
  obtain ⟨⟨facts, hproject, -⟩, -⟩ :=
    projectRuntimeEvidenceToTrust_exact hvalid (by decide +kernel) hsha
  exact ⟨hvalid, _, hproject⟩

/-- A result that validates against a behavior which is not valid itself is not projected. -/
theorem untraced_not_projected :
    validateRuntimeEvidenceResult (.accepted result) request untraced environment result.producer
        negotiated request.source.sourceRevision = .ok () ∧
      ∀ trust, projectRuntimeEvidenceToTrust (.accepted result) untraced environment ≠ .ok trust := by
  constructor
  · decide +kernel
  · intro trust h
    have hrefused : (projectRuntimeEvidenceToTrust (.accepted result) untraced environment).isOk =
        false := by
      decide +kernel
    rw [h] at hrefused
    cases hrefused

end Ucf
