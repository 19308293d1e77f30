import Ucf.Change.Archive
import Ucf.Change.TaskPlan

/-! What an accepted archive says: the change is the difference of its two behaviors, its tasks are
done, and for each of its subjects there is one execution that passed on the final behavior. -/

namespace Ucf

/-! ### Binding evidence -/

theorem BehaviorDeltaEntry.subjectKey_eq (entry : BehaviorDeltaEntry) :
    entry.subjectKey = ⟨entry.subjectRef.targetKind, entry.subjectRef.targetId⟩ := by
  cases entry with
  | added entry => rfl
  | modified entry =>
    obtain ⟨⟨hkind, hid⟩, -⟩ := validateSubjectPair_eq_ok.mp entry.valid
    simp only [subjectKey, subjectRef, hkind, hid]
  | removed entry => rfl

/-- No two entries of a delta have one subject. -/
theorem BehaviorDelta.subjectRefs_nodup (delta : BehaviorDelta) :
    (delta.entries.val.map BehaviorDeltaEntry.subjectRef).Nodup := by
  have h := delta.valid
  simp only [validateDeltaShape, bind_eq_ok, require_eq_ok, exists_const] at h
  obtain ⟨-, -, -, -, -, hnodup, -⟩ := h
  refine List.Nodup.of_map (fun ref : DeltaSubjectRef => refKey ⟨ref.targetKind, ref.targetId⟩) ?_
  rw [List.map_map]
  convert hnodup using 2
  funext entry
  rw [entry.subjectKey_eq]
  rfl

section Bind

variable [Unicodedata] [Hashlib]

/-- A binding of the expected subject that the result of a context is about. -/
structure BindsContext (expected : ExpectedSubjects) (context : ExecutionEvidenceContext)
    (binding : ImplementationEvidenceBinding) : Prop where
  subject : (binding.subject, context.result.request.subject) ∈ expected.items
  document : context.result.request.baseBehavior =
    ⟨context.result.request.subject.documentId, context.result.request.subject.canonicalDigest⟩
  valid : context.validate = .ok ()
  result : binding.result = context.result
  receipt : contextValidationReceipt context = .ok binding.validation

theorem bindsContext_of_bindContext {expected : ExpectedSubjects} {used : List DeltaSubjectRef}
    {index : Nat} {context : ExecutionEvidenceContext} {binding : ImplementationEvidenceBinding}
    (h : bindContext expected used index context = .ok binding) :
    BindsContext expected context binding ∧ binding.subject ∉ used := by
  simp only [bindContext, bind_eq_ok, mapError_eq_ok] at h
  obtain ⟨_, hvalid, h⟩ := h
  split at h
  · rename_i subjectRef behaviorSubject hmatching
    have hmem : (subjectRef, behaviorSubject) ∈ expected.items.filter fun item =>
        decide (context.result.request.subject = item.2) := by
      rw [hmatching]
      exact List.mem_singleton_self _
    rw [List.mem_filter, decide_eq_true_eq] at hmem
    obtain ⟨hmem, hsubject⟩ := hmem
    simp only [bind_eq_ok, staged_eq_ok, raising_eq_ok, require_eq_ok, exists_const,
      ImplementationEvidenceBinding.make] at h
    obtain ⟨hdocument, hunused, receipt, hreceipt, hmake⟩ := h
    split at hmake
    · cases hmake
      simp only at hsubject
      subst hsubject
      exact ⟨⟨hmem, hdocument, hvalid, rfl, hreceipt⟩, hunused⟩
    · cases hmake
  · cases h

/-- One binding for each context, no two of one subject. -/
theorem bindContexts_eq_ok {expected : ExpectedSubjects} {contexts : List ExecutionEvidenceContext}
    {bindings result : List ImplementationEvidenceBinding} {index : Nat}
    (hnodup : (bindings.map ImplementationEvidenceBinding.subject).Nodup)
    (h : bindContexts expected bindings index contexts = .ok result) :
    ∃ new, result = bindings ++ new ∧ List.Forall₂ (BindsContext expected) contexts new ∧
      (result.map ImplementationEvidenceBinding.subject).Nodup := by
  induction contexts generalizing bindings index with
  | nil =>
    cases h
    exact ⟨[], (List.append_nil _).symm, .nil, hnodup⟩
  | cons context contexts ih =>
    simp only [bindContexts, bind_eq_ok] at h
    obtain ⟨binding, hbind, hrest⟩ := h
    obtain ⟨hbinds, hunused⟩ := bindsContext_of_bindContext hbind
    have hnodup' : ((bindings ++ [binding]).map ImplementationEvidenceBinding.subject).Nodup := by
      rw [List.map_append, List.map_singleton, List.nodup_append]
      refine ⟨hnodup, List.nodup_singleton _, fun a ha b hb => ?_⟩
      rw [List.mem_singleton.mp hb]
      rintro rfl
      exact hunused ha
    obtain ⟨new, hresult, hall, hresultNodup⟩ := ih hnodup' hrest
    refine ⟨binding :: new, ?_, .cons hbinds hall, hresultNodup⟩
    rw [hresult, List.append_assoc, List.singleton_append]

/-- What the expected subjects are of a delta without removals. -/
theorem bindImplementationEvidence_eq_ok {delta : BehaviorDelta}
    {contexts : List ExecutionEvidenceContext} {bindings : List ImplementationEvidenceBinding}
    (h : bindImplementationEvidence delta contexts = .ok bindings) :
    (∀ entry ∈ delta.entries.val, entry.evidenceSubject?.isSome) ∧
    (bindings.map ImplementationEvidenceBinding.subject).Perm
      (delta.entries.val.map BehaviorDeltaEntry.subjectRef) ∧
    ∃ (expected : ExpectedSubjects) (new : List ImplementationEvidenceBinding),
      new.Perm bindings ∧ List.Forall₂ (BindsContext expected) contexts new ∧
      ∀ ref subject, (ref, subject) ∈ expected.items ↔ ∃ entry ∈ delta.entries.val,
        entry.subjectRef = ref ∧ entry.evidenceSubject? = some subject := by
  simp only [bindImplementationEvidence, bind_eq_ok, staged_eq_ok, raising_eq_ok,
    checkEach_require_eq_ok, require_eq_ok, exists_const, pure_eq_ok, Except.ok.injEq] at h
  obtain ⟨hsome, new, hbind, ⟨hused, hcovered⟩, rfl⟩ := h
  obtain ⟨_, rfl, hall, hnodup⟩ := bindContexts_eq_ok (by simp) hbind
  set pairs := delta.entries.val.filterMap fun entry =>
    entry.evidenceSubject?.map fun subject => (entry.subjectRef, subject) with hpairs
  have hkeys : pairs.map Prod.fst = delta.entries.val.map BehaviorDeltaEntry.subjectRef := by
    rw [hpairs, List.map_filterMap, ← List.filterMap_eq_map]
    refine List.filterMap_congr fun entry hentry => ?_
    obtain ⟨subject, hsubject⟩ := Option.isSome_iff_exists.mp (hsome entry hentry)
    rw [hsubject]
    rfl
  have hpairsNodup : (pairs.map Prod.fst).Nodup := by
    rw [hkeys]
    exact delta.subjectRefs_nodup
  refine ⟨hsome, ?_, Dict.ofList pairs, _, (sortedBy_perm _ _).symm, hall, fun ref subject => ?_⟩
  · refine ((sortedBy_perm _ _).map _).trans ?_
    refine (List.perm_ext_iff_of_nodup hnodup delta.subjectRefs_nodup).mpr fun ref => ?_
    rw [← hkeys, ← Dict.mem_keys_ofList]
    exact ⟨fun hmem => hused hmem, fun hmem => hcovered hmem⟩
  · rw [Dict.items_ofList hpairsNodup, hpairs, List.mem_filterMap]
    refine exists_congr fun entry => and_congr_right fun _ => ?_
    simp only [Option.map_eq_some_iff, Prod.mk.injEq]
    constructor
    · rintro ⟨_, hsubject, rfl, rfl⟩
      exact ⟨rfl, hsubject⟩
    · rintro ⟨rfl, hsubject⟩
      exact ⟨subject, hsubject, rfl, rfl⟩

end Bind

/-! ### References -/

section References

variable [Hashlib]

/-- The reference to a task graph. -/
def TaskGraph.ref (graph : TaskGraph) : TaskGraphRef :=
  ⟨graph.changeId, ⟨identityDigest (modelDump graph)⟩⟩

/-- The reference to an implementation record. -/
def ImplementationRecord.ref (record : ImplementationRecord) : ImplementationRecordRef :=
  ⟨record.changeId, ⟨identityDigest (modelDump record)⟩⟩

/-- The reference to a verification record. -/
def VerificationRecord.ref (record : VerificationRecord) : VerificationRecordRef :=
  ⟨record.changeId, ⟨identityDigest (modelDump record)⟩⟩

theorem taskGraphRef_eq_ok (graph : TaskGraph) : taskGraphRef graph = .ok graph.ref := by
  rw [taskGraphRef, canonicalLifecycleDigest, canonicalLifecycleJson_eq_ok rfl rfl (by decide)]
  rfl

omit [Hashlib] in
theorem canonicalLifecycleJson_verification (record : VerificationRecord) :
    canonicalLifecycleJson record = .ok (modelDump record).canonicalLine :=
  canonicalLifecycleJson_eq_ok rfl rfl (by decide)

theorem verificationRecordRef_eq_ok (record : VerificationRecord) :
    verificationRecordRef record = .ok record.ref := by
  rw [verificationRecordRef, canonicalLifecycleDigest, canonicalLifecycleJson_verification]
  rfl

theorem implementationRecordRef_eq_ok {record : ImplementationRecord}
    {reference : ImplementationRecordRef} : implementationRecordRef record = .ok reference ↔
      (∃ text, canonicalRecordJson record = .ok text) ∧ reference = record.ref := by
  simp only [implementationRecordRef, bind_eq_ok, pure_eq_ok, Except.ok.injEq]
  constructor
  · rintro ⟨text, htext, rfl⟩
    exact ⟨⟨text, htext⟩, rfl⟩
  · rintro ⟨⟨text, htext⟩, rfl⟩
    exact ⟨text, htext, rfl⟩

end References

/-! ### What is accepted -/

section Archived

variable [Unicodedata] [Hashlib]

/-- The context shows an execution of the subject of the binding that passed on the document. -/
structure Evidences (final : BehaviorIR) (context : ExecutionEvidenceContext)
    (binding : ImplementationEvidenceBinding) : Prop where
  result : binding.result = context.result
  valid : context.validate = .ok ()
  passed : binding.result.outcome = .passed
  subject : binding.result.request.subject =
    final.subject ⟨binding.subject.targetKind, binding.subject.targetId⟩
  baseBehavior : binding.result.request.baseBehavior = behaviorDocumentRef final
  executed : behaviorDocumentRef context.bundle.behavior = behaviorDocumentRef final
  receipt : contextValidationReceipt context = .ok binding.validation

variable [HashlibBytes] [PyYaml]

/-- What the documents of an archived change say. -/
structure Archives (archive : ArchiveRecord) (proposal : ChangeProposal) (delta : BehaviorDelta)
    (graph : TaskGraph) (implementation : ImplementationRecord)
    (verification : VerificationRecord) (base final : BehaviorIR)
    (contexts : List ExecutionEvidenceContext) : Prop where
  difference : IsDifference base final delta.entries.val
  noRemoval : ∀ entry, .removed entry ∉ delta.entries.val
  completed : ∀ task ∈ graph.tasks.items, task.status = .completed
  taskSubjects : ∀ subject, (∃ task ∈ graph.tasks.items, subject ∈ task.subjects.val) ↔
    subject ∈ delta.entries.val.map BehaviorDeltaEntry.subjectRef
  subjects_nodup : (delta.entries.val.map BehaviorDeltaEntry.subjectRef).Nodup
  bindings : (implementation.bindings.items.map ImplementationEvidenceBinding.subject).Perm
    (delta.entries.val.map BehaviorDeltaEntry.subjectRef)
  evidence : ∀ binding ∈ implementation.bindings.items,
    ∃ context ∈ contexts, Evidences final context binding
  contexts_used : ∀ context ∈ contexts,
    ∃ binding ∈ implementation.bindings.items, Evidences final context binding
  verified : verification.subjects.items =
    implementation.bindings.items.map ImplementationEvidenceBinding.subject
  deltaRefs : delta.RefersTo proposal base final
  graphRef : graph.delta = delta.ref
  implementationRef : implementation.tasks = graph.ref
  verificationRef : verification.implementation = implementation.ref
  archiveRefs : archive.proposal = proposal.ref ∧ archive.delta = delta.ref ∧
    archive.tasks = graph.ref ∧ archive.implementation = implementation.ref ∧
    archive.verification = verification.ref
  behavior : canonicalIrJson archive.finalBehavior = canonicalIrJson final

variable {archive archive' : ArchiveRecord} {proposal : ChangeProposal} {delta : BehaviorDelta}
  {graph : TaskGraph} {implementation : ImplementationRecord} {verification : VerificationRecord}
  {base final : BehaviorIR} {contexts : List ExecutionEvidenceContext}

omit [Unicodedata] in
theorem isDifference_of_validateBehaviorDelta
    (h : validateBehaviorDelta delta proposal base final = .ok ()) :
    final.WithinNesting ∧ final.WellFormed ∧ delta.RefersTo proposal base final ∧
      IsDifference base final delta.entries.val := by
  have hparts := h
  simp only [validateBehaviorDelta, validateDocumentPair, bind_eq_ok, raising_eq_ok,
    require_eq_ok, exists_const] at hparts
  obtain ⟨_, hproposal, _, -, ⟨_, -, _, hfinal, hid⟩, -⟩ := hparts
  obtain ⟨hnesting, hwf⟩ := validateBehaviorDocument_eq_ok.mp hfinal
  exact ⟨hnesting, hwf, (validateBehaviorDelta_eq_ok hproposal hfinal hid).mp h⟩

omit [Unicodedata] [HashlibBytes] [PyYaml] in
/-- The evidence for an entry is about its subject in the final behavior. -/
theorem IsDifference.evidenceSubject (h : IsDifference base final delta.entries.val)
    {entry : BehaviorDeltaEntry} (hentry : entry ∈ delta.entries.val)
    {subject : BehaviorEntityRef} (hsubject : entry.evidenceSubject? = some subject) :
    subject = final.subject ⟨entry.subjectRef.targetKind, entry.subjectRef.targetId⟩ := by
  revert hsubject
  refine h.forall_entries (P := fun entry => entry.evidenceSubject? = some subject →
    subject = final.subject ⟨entry.subjectRef.targetKind, entry.subjectRef.targetId⟩)
    ?_ ?_ ?_ entry hentry
  · rintro key - - hsubject
    cases hsubject
    rfl
  · rintro key entry - hmodifies hsubject
    cases hsubject
    simp only [BehaviorDeltaEntry.subjectRef, hmodifies.finalSubject]
    rfl
  · rintro key - - hsubject
    cases hsubject

omit [HashlibBytes] [PyYaml] in
/-- An accepted result was obtained on the behavior that it names. -/
theorem executed_of_validate {context : ExecutionEvidenceContext}
    (h : context.validate = .ok ()) :
    behaviorDocumentRef context.bundle.behavior = context.result.request.baseBehavior := by
  simp only [ExecutionEvidenceContext.validate, validateExecutionVerificationResult,
    validateExecutionVerificationRequest, bind_eq_ok, require_eq_ok, exists_const] at h
  obtain ⟨-, -, ⟨-, -, _, -, -, -, hid, hdigest, -⟩, -⟩ := h
  rw [behaviorDocumentRef, ← hid, ← hdigest]

/-! ### Stages -/

theorem validateImplementationRecord_eq_ok {u : Unit} :
    validateImplementationRecord implementation graph delta proposal base final contexts = .ok u ↔
      validateEvidenceContexts contexts = .ok () ∧
      (∃ text, canonicalRecordJson implementation = .ok text) ∧
      validateTaskGraph graph delta proposal base final = .ok () ∧
      (∀ task ∈ graph.tasks.items, task.status = .completed) ∧
      implementation.changeId = graph.changeId ∧ implementation.tasks = graph.ref ∧
      bindImplementationEvidence delta contexts = .ok implementation.bindings.items := by
  have hcompleted : requireCompletedTasks graph = .ok () ↔
      ∀ task ∈ graph.tasks.items, task.status = .completed := by
    simp [requireCompletedTasks]
  simp only [validateImplementationRecord, bind_eq_ok, staged_eq_ok, raising_eq_ok,
    require_eq_ok, exists_const, taskGraphRef_eq_ok, Except.ok.injEq, exists_eq_left']
  constructor
  · rintro ⟨_, hcontexts, text, hjson, _, hgraph, _, htasks, hchange, href, bindings, hbind, hsame⟩
    exact ⟨hcontexts, ⟨text, hjson⟩, hgraph, hcompleted.mp htasks, hchange, href, hsame ▸ hbind⟩
  · rintro ⟨hcontexts, ⟨text, hjson⟩, hgraph, htasks, hchange, href, hbind⟩
    exact ⟨(), hcontexts, text, hjson, (), hgraph, (), hcompleted.mpr htasks, hchange, href, _, hbind,
      rfl⟩

theorem validateVerificationRecord_eq_ok {u : Unit} :
    validateVerificationRecord verification implementation graph delta proposal base final
      contexts = .ok u ↔
      validateImplementationRecord implementation graph delta proposal base final contexts =
        .ok () ∧
      (∀ binding ∈ implementation.bindings.items, binding.result.outcome = .passed) ∧
      verification.changeId = implementation.changeId ∧
      verification.implementation = implementation.ref ∧
      verification.subjects.items =
        implementation.bindings.items.map ImplementationEvidenceBinding.subject := by
  have hpassing : requirePassingEvidence implementation = .ok () ↔
      ∀ binding ∈ implementation.bindings.items, binding.result.outcome = .passed := by
    simp [requirePassingEvidence]
  simp only [validateVerificationRecord, bind_eq_ok, staged_eq_ok, raising_eq_ok, require_eq_ok,
    exists_const, implementationRecordRef_eq_ok, canonicalLifecycleJson_verification,
    Except.ok.injEq, exists_eq_left']
  constructor
  · rintro ⟨_, -, _, hrecord, _, hpassed, hchange, _, ⟨-, rfl⟩, href, hsubjects⟩
    exact ⟨hrecord, hpassing.mp hpassed, hchange, href, hsubjects⟩
  · rintro ⟨hrecord, hpassed, hchange, href, hsubjects⟩
    obtain ⟨hcontexts, hjson, -⟩ := validateImplementationRecord_eq_ok.mp hrecord
    exact ⟨(), hcontexts, (), hrecord, (), hpassing.mpr hpassed, hchange, _, ⟨hjson, rfl⟩, href,
      hsubjects⟩

theorem validateArchiveRecord_eq_ok {u : Unit} :
    validateArchiveRecord archive proposal delta graph implementation verification base final
      contexts = .ok u ↔
      (∃ text, canonicalArchiveJson archive = .ok text) ∧
      validateVerificationRecord verification implementation graph delta proposal base final
        contexts = .ok () ∧
      (archive.proposal = proposal.ref ∧ archive.delta = delta.ref ∧ archive.tasks = graph.ref ∧
        archive.implementation = implementation.ref ∧ archive.verification = verification.ref) ∧
      archive.changeId = proposal.changeId ∧
      canonicalIrJson archive.finalBehavior = canonicalIrJson final := by
  simp only [validateArchiveRecord, bind_eq_ok, staged_eq_ok, raising_eq_ok, require_eq_ok,
    exists_const, implementationRecordRef_eq_ok, taskGraphRef_eq_ok, verificationRecordRef_eq_ok,
    changeProposalRef_eq_ok, behaviorDeltaRef_eq_ok, Except.ok.injEq, exists_eq_left']
  constructor
  · rintro ⟨_, -, text, htext, _, -, _, hverification, _, ⟨-, rfl⟩, hproposal, hdelta, htasks,
      himplementation, hverificationRef, hchange, hsame, -⟩
    exact ⟨⟨text, htext⟩, hverification, ⟨hproposal, hdelta, htasks, himplementation, hverificationRef⟩,
      hchange, hsame⟩
  · rintro ⟨⟨text, htext⟩, hverification, ⟨hproposal, hdelta, htasks, himplementation, hverificationRef⟩,
      hchange, hsame⟩
    obtain ⟨hrecord, -⟩ := validateVerificationRecord_eq_ok.mp hverification
    obtain ⟨hcontexts, hjson, hgraph, -⟩ := validateImplementationRecord_eq_ok.mp hrecord
    have hvalidDelta := (validateTaskGraph_eq_ok.mp hgraph).1
    obtain ⟨-, -, hrefers, -⟩ := isDifference_of_validateBehaviorDelta hvalidDelta
    refine ⟨(), hcontexts, text, htext, (), hvalidDelta, (), hverification, _, ⟨hjson, rfl⟩, hproposal,
      hdelta, htasks, himplementation, hverificationRef, hchange, hsame, ?_⟩
    have hcanonical := canonicalIrJson_eq_iff.mp hsame
    have hid : archive.finalBehavior.documentId = final.documentId :=
      (congrArg BehaviorIR.documentId hcanonical :)
    rw [hrefers.finalBehavior, behaviorDocumentRef, behaviorDocumentRef, canonicalIrDigest,
      canonicalIrDigest, canonicalIrValue_eq, canonicalIrValue_eq, hcanonical, hid]

omit [Unicodedata] [Hashlib] [HashlibBytes] [PyYaml] in
theorem normalizeEmbeddedBehavior_eq_ok {normal : ArchiveRecord} :
    normalizeEmbeddedBehavior archive = .ok normal ↔
      archive.finalBehavior.WithinNesting ∧ archive.finalBehavior.WellFormed ∧
        normal = { archive with finalBehavior := archive.finalBehavior.canonical } := by
  simp only [normalizeEmbeddedBehavior, bind_eq_ok, mapError_eq_ok, pure_eq_ok, Except.ok.injEq,
    validateBehaviorDocument_eq_ok, parseIrJson_canonicalIrJson]
  constructor
  · rintro ⟨_, ⟨hnesting, hwf⟩, _, ⟨-, -, rfl⟩, rfl⟩
    exact ⟨hnesting, hwf, rfl⟩
  · rintro ⟨hnesting, hwf, rfl⟩
    exact ⟨(), ⟨hnesting, hwf⟩, _, ⟨hnesting, hwf, rfl⟩, rfl⟩

theorem archives_of_validateArchiveRecord (h : validateArchiveRecord archive proposal delta graph
    implementation verification base final contexts = .ok ()) :
    Archives archive proposal delta graph implementation verification base final contexts := by
  obtain ⟨-, hverification, hrefs, -, hbehavior⟩ := validateArchiveRecord_eq_ok.mp h
  obtain ⟨hrecord, hpassed, -, hverificationRef, hverified⟩ :=
    validateVerificationRecord_eq_ok.mp hverification
  obtain ⟨-, -, hgraph, hcompleted, -, himplementationRef, hbind⟩ :=
    validateImplementationRecord_eq_ok.mp hrecord
  obtain ⟨hdelta, hfits, -⟩ := validateTaskGraph_eq_ok.mp hgraph
  obtain ⟨-, -, hrefers, hdifference⟩ := isDifference_of_validateBehaviorDelta hdelta
  obtain ⟨hsome, hbindings, expected, new, hperm, hall, hexpected⟩ :=
    bindImplementationEvidence_eq_ok hbind
  have hevidences : ∀ context binding, BindsContext expected context binding →
      binding ∈ implementation.bindings.items → Evidences final context binding := by
    intro context binding hbinds hbinding
    obtain ⟨entry, hentry, href, hsubject⟩ := (hexpected _ _).mp hbinds.subject
    have hfinal := hdifference.evidenceSubject hentry hsubject
    have hbase : context.result.request.baseBehavior = behaviorDocumentRef final := by
      rw [hbinds.document, hfinal]
      rfl
    refine ⟨hbinds.result, hbinds.valid, hpassed binding hbinding, ?_, ?_, ?_, hbinds.receipt⟩
    · rw [hbinds.result, hfinal, href]
    · rw [hbinds.result, hbase]
    · rw [executed_of_validate hbinds.valid, hbase]
  refine ⟨hdifference, fun entry hentry => ?_, hcompleted, fun subject => ?_,
    delta.subjectRefs_nodup, hbindings, fun binding hbinding => ?_, fun context hcontext => ?_,
    hverified, hrefers, hfits.deltaRef, himplementationRef, hverificationRef, hrefs, hbehavior⟩
  · cases hsome _ hentry
  · exact (hfits.subjects subject).symm
  · obtain ⟨context, hcontext, hbinds⟩ :=
      exists_of_forall₂_left hall.flip (hperm.mem_iff.mpr hbinding)
    exact ⟨context, hcontext, hevidences context binding hbinds hbinding⟩
  · obtain ⟨binding, hbinding, hbinds⟩ := exists_of_forall₂_left hall hcontext
    have hmem := hperm.mem_iff.mp hbinding
    exact ⟨binding, hmem, hevidences context binding hbinds hmem⟩

/-- Two archives of the same change have one canonical text. -/
theorem canonicalArchiveJson_eq (h : validateArchiveRecord archive proposal delta graph
      implementation verification base final contexts = .ok ())
    (h' : validateArchiveRecord archive' proposal delta graph implementation verification base
      final contexts = .ok ()) :
    canonicalArchiveJson archive = canonicalArchiveJson archive' := by
  obtain ⟨⟨text, htext⟩, -, ⟨hproposal, hdelta, htasks, himplementation, hverification⟩, hchange,
    hbehavior⟩ := validateArchiveRecord_eq_ok.mp h
  obtain ⟨⟨text', htext'⟩, -, ⟨hproposal', hdelta', htasks', himplementation', hverification'⟩,
    hchange', hbehavior'⟩ := validateArchiveRecord_eq_ok.mp h'
  have hcanonical := canonicalIrJson_eq_iff.mp (hbehavior.trans hbehavior'.symm)
  have hnormal : normalizeEmbeddedBehavior archive = normalizeEmbeddedBehavior archive' := by
    rw [canonicalArchiveJson, bind_eq_ok] at htext htext'
    obtain ⟨normal, hnormal, -⟩ := htext
    obtain ⟨normal', hnormal', -⟩ := htext'
    rw [hnormal, hnormal', (normalizeEmbeddedBehavior_eq_ok.mp hnormal).2.2,
      (normalizeEmbeddedBehavior_eq_ok.mp hnormal').2.2]
    simp only [hchange, hproposal, hdelta, htasks, himplementation, hverification, hcanonical,
      hchange', hproposal', hdelta', htasks', himplementation', hverification']
  rw [canonicalArchiveJson, canonicalArchiveJson, hnormal]

/-! ### Derived records -/

theorem validateImplementationRecord_of_derive {record : ImplementationRecord}
    (h : deriveImplementationRecord graph delta proposal base final contexts = .ok record) :
    validateImplementationRecord record graph delta proposal base final contexts = .ok () := by
  simp only [deriveImplementationRecord, bind_eq_ok, staged_eq_ok, raising_eq_ok,
    taskGraphRef_eq_ok, Except.ok.injEq, exists_eq_left', ImplementationRecord.make,
    mapError_eq_ok, pure_eq_ok] at h
  obtain ⟨_, hcontexts, _, hgraph, _, htasks, bindings, hbind, _, ⟨tuple, htuple, hmake⟩, text,
    hjson, rfl⟩ := h
  split at hmake
  · cases hmake
    have hcompleted : ∀ task ∈ graph.tasks.items, task.status = .completed := by
      simpa [requireCompletedTasks] using htasks
    refine validateImplementationRecord_eq_ok.mpr ⟨hcontexts, ⟨text, hjson⟩, hgraph, hcompleted,
      rfl, rfl, ?_⟩
    rw [hbind, Tuple.ofList_eq_ok.mp htuple]
  · cases hmake

theorem validateVerificationRecord_of_derive {record : VerificationRecord}
    (h : deriveVerificationRecord implementation graph delta proposal base final contexts =
      .ok record) :
    validateVerificationRecord record implementation graph delta proposal base final contexts =
      .ok () := by
  simp only [deriveVerificationRecord, bind_eq_ok, staged_eq_ok, raising_eq_ok,
    implementationRecordRef_eq_ok, VerificationRecord.make, mapError_eq_ok] at h
  obtain ⟨_, -, _, hrecord, _, hpassed, _, ⟨-, rfl⟩, tuple, htuple, hmake⟩ := h
  split at hmake
  · cases hmake
    have hpassing : ∀ binding ∈ implementation.bindings.items,
        binding.result.outcome = .passed := by
      simpa [requirePassingEvidence] using hpassed
    exact validateVerificationRecord_eq_ok.mpr ⟨hrecord, hpassing, rfl, rfl,
      Tuple.ofList_eq_ok.mp htuple⟩
  · cases hmake

theorem validateArchiveRecord_of_derive (h : deriveArchiveRecord proposal delta graph
      implementation verification base final contexts = .ok archive) :
    validateArchiveRecord archive proposal delta graph implementation verification base final
      contexts = .ok () := by
  simp only [deriveArchiveRecord, bind_eq_ok, staged_eq_ok, raising_eq_ok, mapError_eq_ok,
    implementationRecordRef_eq_ok, taskGraphRef_eq_ok, verificationRecordRef_eq_ok,
    changeProposalRef_eq_ok, behaviorDeltaRef_eq_ok, Except.ok.injEq, exists_eq_left',
    ArchiveRecord.make, pure_eq_ok, parseIrJson_canonicalIrJson] at h
  obtain ⟨_, -, _, -, _, hverification, _, ⟨-, hwf, rfl⟩, _, ⟨-, rfl⟩, _, hmake, text, htext,
    rfl⟩ := h
  split at hmake
  · cases hmake
    refine validateArchiveRecord_eq_ok.mpr ⟨⟨text, htext⟩, hverification,
      ⟨rfl, rfl, rfl, rfl, rfl⟩, rfl, ?_⟩
    rw [canonicalIrJson_eq_iff, BehaviorIR.canonical_canonical hwf]
  · cases hmake

/-- An accepted archive says what its change was, derived records are accepted, and a change has
one archive. -/
theorem archiveRecord_exact :
    (∀ archive, validateArchiveRecord archive proposal delta graph implementation verification
        base final contexts = .ok () →
      Archives archive proposal delta graph implementation verification base final contexts ∧
      ∀ context ∈ contexts, Set.InjOn Hashlib.sha256
          {Payload.canonical (canonicalIrValue context.bundle.behavior),
            Payload.canonical (canonicalIrValue final)} →
        canonicalIrJson context.bundle.behavior = canonicalIrJson final) ∧
    (∀ record, deriveImplementationRecord graph delta proposal base final contexts = .ok record →
      validateImplementationRecord record graph delta proposal base final contexts = .ok ()) ∧
    (∀ record, deriveVerificationRecord implementation graph delta proposal base final contexts =
        .ok record →
      validateVerificationRecord record implementation graph delta proposal base final contexts =
        .ok ()) ∧
    (∀ archive, deriveArchiveRecord proposal delta graph implementation verification base final
        contexts = .ok archive →
      validateArchiveRecord archive proposal delta graph implementation verification base final
        contexts = .ok ()) ∧
    ∀ archive archive', validateArchiveRecord archive proposal delta graph implementation
        verification base final contexts = .ok () →
      validateArchiveRecord archive' proposal delta graph implementation verification base final
        contexts = .ok () →
      (∃ text, canonicalArchiveJson archive = .ok text) ∧
        canonicalArchiveJson archive = canonicalArchiveJson archive' := by
  refine ⟨fun archive h => ?_, fun record h => validateImplementationRecord_of_derive h,
    fun record h => validateVerificationRecord_of_derive h,
    fun archive h => validateArchiveRecord_of_derive h, fun archive archive' h h' => ?_⟩
  · have harchives := archives_of_validateArchiveRecord h
    refine ⟨harchives, fun context hcontext hsha => ?_⟩
    obtain ⟨binding, -, hevidences⟩ := harchives.contexts_used context hcontext
    have hdigest := congrArg (fun ref => ref.canonicalDigest.value) hevidences.executed
    have hvalue := hsha (Set.mem_insert _ _) (Set.mem_insert_of_mem _ rfl) hdigest
    rw [Payload.canonical.injEq, canonicalIrValue_eq, canonicalIrValue_eq] at hvalue
    exact canonicalIrJson_eq_iff.mpr (modelDump_injective (by rw [hvalue]))
  · exact ⟨(validateArchiveRecord_eq_ok.mp h).1, canonicalArchiveJson_eq h h'⟩

end Archived

end Ucf
