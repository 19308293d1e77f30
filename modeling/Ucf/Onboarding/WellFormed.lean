import Ucf.Library.Fold
import Ucf.Library.Outcome
import Ucf.Onboarding.Proposals

/-! What an accepted proposal is: its root is a use case whose steps are proposed steps, and every
other entity is a step, the action of a step or a binding of a step, with references that resolve
and ports where the references look for them. -/

namespace Ucf

/-- What a reference names among the entities of a proposal. -/
structure ProposalResolves (entities : List ProposalEntity) (ref : ProposalEntityRef)
    (target : ProposalEntity) : Prop where
  mem : target ∈ entities
  id_eq : target.id = ref.targetId
  kind_eq : target.kind = ref.targetKind

/-- A binding may read the port of its source: an input of the root, or an output of a step. -/
inductive ProposalSource (entities : List ProposalEntity) (root : ProposedUseCase)
    (source : ProposalPortRef) (port : Port) : Prop
  | root (howner : ProposalResolves entities source.owner (.useCase root))
      (hdirection : source.direction = .input) (hmem : port ∈ root.inputPorts)
      (hname : port.name = source.name)
  | step {step : ProposedStep} {action : ProposedAction}
      (howner : ProposalResolves entities source.owner (.step step))
      (hdirection : source.direction = .output)
      (haction : ProposalResolves entities step.action (.action action))
      (hmem : port ∈ action.outputPorts) (hname : port.name = source.name)

/-- A binding connects a source to an input of the action of its step, with ports of one kind. -/
structure ProposalBindingFits (entities : List ProposalEntity) (root : ProposedUseCase)
    (step : ProposedStep) (action : ProposedAction) (binding : ProposedBinding)
    (target source : Port) : Prop where
  owner : ProposalResolves entities binding.target.owner (.step step)
  resolves : ProposalResolves entities step.action (.action action)
  direction : binding.target.direction = .input
  mem : target ∈ action.inputPorts
  name_eq : target.name = binding.target.name
  reads : ProposalSource entities root binding.source source
  kind_eq : source.valueKind = target.valueKind

/-- The action and the bindings of a step resolve, and no binding is repeated. -/
structure ProposalStepFits (entities : List ProposalEntity) (step : ProposedStep) : Prop where
  action : ∃ action, ProposalResolves entities step.action (.action action)
  nodup : (step.bindings.map ProposalEntityRef.targetId).Nodup
  bindings : ∀ ref ∈ step.bindings, ∃ binding, ProposalResolves entities ref (.binding binding)

/-- What is asked of an entity below the root. -/
def ProposalEntity.Fits (entities : List ProposalEntity) (root : ProposedUseCase) :
    ProposalEntity → Prop
  | .action _ => True
  | .binding e => ∃ step action target source,
      ProposalBindingFits entities root step action e target source
  | .step e => ProposalStepFits entities e
  | .useCase e => e = root

/-- The ports of an entity have different names. -/
def ProposalEntity.PortsNodup : ProposalEntity → Prop
  | .action e => (e.inputPorts.map Port.name).Nodup ∧ (e.outputPorts.map Port.name).Nodup
  | .useCase e => (e.inputPorts.map Port.name).Nodup ∧ (e.outputPorts.map Port.name).Nodup
  | _ => True

/-- What an accepted proposal is. -/
structure CandidateProposal.WellFormed (proposal : CandidateProposal) (root : ProposedUseCase) :
    Prop where
  ids_nodup : (proposal.entities.items.map ProposalEntity.id).Nodup
  resolves : ProposalResolves proposal.entities.items proposal.root (.useCase root)
  steps : ∀ ref ∈ root.steps.items,
    ∃ step, ProposalResolves proposal.entities.items ref (.step step)
  ports : ∀ entity ∈ proposal.entities.items, entity.PortsNodup
  entities : ∀ entity ∈ proposal.entities.items, entity.Fits proposal.entities.items root

/-! ### What the checks say -/

section Checks

variable {entities : List ProposalEntity} (hids : (entities.map ProposalEntity.id).Nodup)
include hids

theorem resolveProposalRef_eq_ok {ref : ProposalEntityRef} {location : String}
    {target : ProposalEntity} :
    resolveProposalRef ref (Dict.index ProposalEntity.id entities) location = .ok target ↔
      ProposalResolves entities ref target := by
  simp only [resolveProposalRef, bind_eq_ok, orRaise_eq_ok, require_eq_ok, exists_const,
    Dict.get?_index hids, pure_eq_ok, Except.ok.injEq]
  constructor
  · rintro ⟨found, ⟨hmem, hid⟩, hkind, rfl⟩
    exact ⟨hmem, hid, hkind⟩
  · intro h
    exact ⟨target, ⟨h.mem, h.id_eq⟩, h.kind_eq, rfl⟩

theorem ProposalResolves.of_id {ref : ProposalEntityRef} {target other : ProposalEntity}
    (h : ProposalResolves entities ref target) (hother : other ∈ entities)
    (hid : other.id = ref.targetId) : other = target :=
  List.inj_on_of_nodup_map hids hother h.mem (hid.trans h.id_eq.symm)

end Checks

theorem findPort_eq_ok {ports : List Port} {reference : ProposalPortRef} {location : String}
    {port : Port} (h : findPort ports reference location = .ok port) :
    port ∈ ports ∧ port.name = reference.name := by
  rw [findPort, orRaise_eq_ok] at h
  exact ⟨List.mem_of_find?_eq_some h, by simpa using List.find?_some h⟩

theorem validateProposalPorts_nodup {ports : List Port} {location : String} {u : Unit}
    (h : validateProposalPorts ports location = .ok u) : (ports.map Port.name).Nodup := by
  rw [validateProposalPorts, require_eq_ok] at h
  refine List.Nodup.of_map Subtype.val ?_
  rw [List.map_map]
  exact h.1

section Steps

variable {entities : List ProposalEntity} (hids : (entities.map ProposalEntity.id).Nodup)
  {root : ProposedUseCase} (hroot : .useCase root ∈ entities)
include hids hroot

theorem resolveBindingSource_ok {source : ProposalPortRef} {targetStep : ProposedStep}
    {positions : Dict Identifier Nat} {location : String} {port : Port}
    (h : resolveBindingSource source root (Dict.index ProposalEntity.id entities) targetStep
      positions location = .ok port) : ProposalSource entities root source port := by
  simp only [resolveBindingSource, bind_eq_ok, resolveProposalRef_eq_ok hids] at h
  obtain ⟨owner, howner, hmatch⟩ := h
  cases owner with
  | useCase useCase =>
    by_cases hguard : useCase.id ≠ root.id ∨ source.direction ≠ .input
    · simp only [hguard, if_true, invalidProposal, reduceCtorEq] at hmatch
    · simp only [hguard, if_false] at hmatch
      simp only [not_or, not_not] at hguard
      have heq := List.inj_on_of_nodup_map hids howner.mem hroot hguard.1
      cases heq
      obtain ⟨hmem, hname⟩ := findPort_eq_ok hmatch
      exact .root howner hguard.2 hmem hname
  | step step =>
    by_cases hdirection : source.direction = .output
    · simp only [hdirection, ne_eq, not_true_eq_false, false_or] at hmatch
      cases hposition : positions.get? step.id with
      | none => simp [hposition, invalidProposal] at hmatch
      | some position =>
        cases htarget : positions.get? targetStep.id with
        | none => simp [hposition, htarget, invalidProposal] at hmatch
        | some target =>
          by_cases hprior : position < target
          · simp only [hposition, htarget, hprior, decide_true, Bool.true_eq_false, if_false,
              bind_eq_ok, resolveProposalRef_eq_ok hids] at hmatch
            obtain ⟨found, hfound, hport⟩ := hmatch
            cases found with
            | action action =>
              obtain ⟨hmem, hname⟩ := findPort_eq_ok hport
              exact .step howner hdirection hfound hmem hname
            | _ => cases hport
          · simp [hposition, htarget, hprior, invalidProposal] at hmatch
    · simp only [hdirection, ne_eq, not_false_eq_true, true_or, if_true, invalidProposal,
        reduceCtorEq] at hmatch
  | _ => cases hmatch

/-- What one turn over the bindings of a step says of its binding. -/
theorem validateStepBinding_ok {step : ProposedStep} {action : ProposedAction}
    (hstep : .step step ∈ entities)
    (haction : ProposalResolves entities step.action (.action action))
    {positions : Dict Identifier Nat} {location : String}
    {state state' : List Identifier × List Identifier} {item : ProposalEntityRef × Nat}
    (h : validateStepBinding root step action (Dict.index ProposalEntity.id entities) positions
      location state item = .ok state') :
    ∃ binding, ProposalResolves entities item.1 (.binding binding) ∧
      (ProposalEntity.binding binding).Fits entities root ∧ state'.1 = binding.id :: state.1 := by
  simp only [validateStepBinding, bind_eq_ok, resolveProposalRef_eq_ok hids] at h
  obtain ⟨found, hfound, hmatch⟩ := h
  cases found with
  | binding binding =>
    simp only at hmatch
    split at hmatch
    · cases hmatch
    · rename_i hguard
      simp only [not_or, not_not] at hguard
      obtain ⟨hkind, hid, hdirection⟩ := hguard
      simp only [bind_eq_ok, require_eq_ok, exists_const, pure_eq_ok, Except.ok.injEq] at hmatch
      obtain ⟨target, htarget, source, hsource, hkinds, rfl⟩ := hmatch
      obtain ⟨hmem, hname⟩ := findPort_eq_ok htarget
      exact ⟨binding, hfound, ⟨step, action, target, source,
        ⟨hstep, hid.symm, hkind.symm⟩, haction, hdirection, hmem, hname,
        resolveBindingSource_ok hids hroot hsource, hkinds⟩, rfl⟩
  | _ => cases hmatch

/-- What the check of a step's bindings says of them, and of what it has reached. -/
theorem validateStepBindings_ok {step : ProposedStep} {action : ProposedAction}
    (hstep : .step step ∈ entities)
    (haction : ProposalResolves entities step.action (.action action)) {walk walk' : ProposalWalk}
    {location : String}
    (h : validateStepBindings root step action (Dict.index ProposalEntity.id entities) walk
      location = .ok walk') :
    (step.bindings.map ProposalEntityRef.targetId).Nodup ∧
      (∀ ref ∈ step.bindings, ∃ binding, ProposalResolves entities ref (.binding binding)) ∧
      ∀ id ∈ walk'.reachable, id ∈ walk.reachable ∨
        ∃ entity ∈ entities, entity.id = id ∧ entity.Fits entities root := by
  simp only [validateStepBindings, bind_eq_ok, require_eq_ok, exists_const, pure_eq_ok,
    Except.ok.injEq] at h
  obtain ⟨hnodup, ⟨reachable, bound⟩, hfold, _, rfl⟩ := h
  refine ⟨hnodup, fun ref href => ?_, ?_⟩
  · obtain ⟨i, hi, rfl⟩ := List.mem_iff_getElem.mp href
    have hall := foldlM_forall (Q := fun item : ProposalEntityRef × Nat =>
      ∃ binding, ProposalResolves entities item.1 (.binding binding)) hfold
      fun item _ s s' hturn => by
        obtain ⟨binding, hbinding, _⟩ := validateStepBinding_ok hids hroot hstep haction hturn
        exact ⟨binding, hbinding⟩
    exact hall (step.bindings[i], i) (by simp [List.mk_mem_zipIdx_iff_getElem?])
  · refine foldlM_invariant (P := fun s : List Identifier × List Identifier => ∀ id ∈ s.1,
      id ∈ walk.reachable ∨ ∃ entity ∈ entities, entity.id = id ∧ entity.Fits entities root)
      hfold (fun id hid => .inl hid) fun item _ s s' hs hturn => ?_
    obtain ⟨binding, hbinding, hfits, hstate⟩ :=
      validateStepBinding_ok hids hroot hstep haction hturn
    rw [hstate, List.forall_mem_cons]
    exact ⟨.inr ⟨_, hbinding.mem, rfl, hfits⟩, hs⟩

/-- What one turn over the steps of the root says of its step, and of what it has reached. -/
theorem validateProposalStep_ok {entityIds : List Identifier} {walk walk' : ProposalWalk}
    {location : String} {item : ProposalEntityRef × Nat}
    (h : validateProposalStep root (Dict.index ProposalEntity.id entities) entityIds location walk
      item = .ok walk') :
    (∃ step, ProposalResolves entities item.1 (.step step)) ∧
      ∀ id ∈ walk'.reachable, id ∈ walk.reachable ∨
        ∃ entity ∈ entities, entity.id = id ∧ entity.Fits entities root := by
  simp only [validateProposalStep, bind_eq_ok, resolveProposalRef_eq_ok hids] at h
  obtain ⟨found, hfound, hmatch⟩ := h
  cases found with
  | step step =>
    simp only [bind_eq_ok, resolveProposalRef_eq_ok hids] at hmatch
    obtain ⟨target, htarget, hmatch⟩ := hmatch
    cases target with
    | action action =>
      obtain ⟨hnodup, hbindings, hreachable⟩ :=
        validateStepBindings_ok hids hroot hfound.mem htarget hmatch
      refine ⟨⟨step, hfound⟩, fun id hid => ?_⟩
      rcases hreachable id hid with hmem | hfits
      · rcases List.mem_cons.mp hmem with rfl | hmem
        · exact .inr ⟨_, htarget.mem, rfl, trivial⟩
        · rcases List.mem_cons.mp hmem with rfl | hmem
          · exact .inr ⟨_, hfound.mem, rfl, ⟨action, htarget⟩, hnodup, hbindings⟩
          · exact .inl hmem
      · exact .inr hfits
    | _ => cases hmatch
  | _ => cases hmatch

end Steps

/-- An accepted proposal is well formed. -/
theorem validateCandidateProposal_ok {proposal : CandidateProposal} {location : String} {u : Unit}
    (h : validateCandidateProposal proposal location = .ok u) :
    ∃ root, proposal.WellFormed root := by
  simp only [validateCandidateProposal, bind_eq_ok, require_eq_ok, exists_const] at h
  obtain ⟨hids, _, found, hfound, hmatch⟩ := h
  rw [resolveProposalRef_eq_ok hids] at hfound
  cases found with
  | useCase root =>
    simp only [bind_eq_ok, require_eq_ok] at hmatch
    obtain ⟨_, hports, walk, hwalk, _, hreachable⟩ := hmatch
    refine ⟨root, hids, hfound, fun ref href => ?_, fun entity hentity => ?_,
      fun entity hentity => ?_⟩
    · obtain ⟨i, hi, rfl⟩ := List.mem_iff_getElem.mp href
      have hall := foldlM_forall (Q := fun item : ProposalEntityRef × Nat =>
        ∃ step, ProposalResolves proposal.entities.items item.1 (.step step)) hwalk
        fun item _ s s' hturn => (validateProposalStep_ok hids hfound.mem hturn).1
      exact hall (root.steps.items[i], i) (by simp [List.mk_mem_zipIdx_iff_getElem?])
    · obtain ⟨i, hi, rfl⟩ := List.mem_iff_getElem.mp hentity
      have hvalid := checkEach_eq_ok.mp hports i hi
      cases hkind : proposal.entities.items[i] with
      | action e =>
        simp only [hkind, bind_eq_ok] at hvalid
        obtain ⟨_, hinputs, houtputs⟩ := hvalid
        exact ⟨validateProposalPorts_nodup hinputs, validateProposalPorts_nodup houtputs⟩
      | useCase e =>
        simp only [hkind, bind_eq_ok] at hvalid
        obtain ⟨_, hinputs, houtputs⟩ := hvalid
        exact ⟨validateProposalPorts_nodup hinputs, validateProposalPorts_nodup houtputs⟩
      | _ => trivial
    · have hall := foldlM_invariant (P := fun s : ProposalWalk => ∀ id ∈ s.reachable,
        id = root.id ∨ ∃ entity ∈ proposal.entities.items, entity.id = id ∧
          entity.Fits proposal.entities.items root) hwalk (by simp)
        fun item _ s s' hs hturn id hid => by
          rcases (validateProposalStep_ok hids hfound.mem hturn).2 id hid with hmem | hfits
          · exact hs id hmem
          · exact .inr hfits
      rcases hall _ (hreachable (List.mem_map_of_mem hentity)) with hid | ⟨other, hother, hid, hfits⟩
      · have heq := List.inj_on_of_nodup_map hids hentity hfound.mem hid
        subst heq
        rfl
      · rwa [← List.inj_on_of_nodup_map hids hother hentity hid]
  | _ => cases hmatch

/-! ### Locations -/

/-- Where a proposal is does not matter to its validation. -/
theorem sameValue_resolveProposalRef (ref : ProposalEntityRef)
    (byId : Dict Identifier ProposalEntity) (location location' : String) :
    SameValue (resolveProposalRef ref byId location) (resolveProposalRef ref byId location') :=
  .bind (.orRaise _ _ _) fun _ => .bind (.require _ _ _) fun _ => .refl _

theorem sameValue_resolveBindingSource (source : ProposalPortRef) (root : ProposedUseCase)
    (byId : Dict Identifier ProposalEntity) (targetStep : ProposedStep)
    (positions : Dict Identifier Nat) (location location' : String) :
    SameValue (resolveBindingSource source root byId targetStep positions location)
      (resolveBindingSource source root byId targetStep positions location') := by
  refine .bind (sameValue_resolveProposalRef _ _ _ _) fun owner => ?_
  cases owner with
  | useCase useCase => exact .ite _ (.error _ _) (.orRaise _ _ _)
  | step step =>
    refine .ite _ (.error _ _) (.bind (sameValue_resolveProposalRef _ _ _ _) fun target => ?_)
    cases target with
    | action action => exact .orRaise _ _ _
    | _ => exact .refl _
  | _ => exact .error _ _

theorem sameValue_validateStepBinding (root : ProposedUseCase) (step : ProposedStep)
    (action : ProposedAction) (byId : Dict Identifier ProposalEntity)
    (positions : Dict Identifier Nat) (location location' : String)
    (state : List Identifier × List Identifier) (item : ProposalEntityRef × Nat) :
    SameValue (validateStepBinding root step action byId positions location state item)
      (validateStepBinding root step action byId positions location' state item) := by
  refine .bind (sameValue_resolveProposalRef _ _ _ _) fun target => ?_
  cases target with
  | binding binding =>
    exact .ite _ (.error _ _) (.bind (.orRaise _ _ _) fun _ =>
      .bind (sameValue_resolveBindingSource _ _ _ _ _ _ _) fun _ =>
        .bind (.require _ _ _) fun _ => .refl _)
  | _ => exact .error _ _

theorem sameValue_validateStepBindings (root : ProposedUseCase) (step : ProposedStep)
    (action : ProposedAction) (byId : Dict Identifier ProposalEntity) (walk : ProposalWalk)
    (location location' : String) :
    SameValue (validateStepBindings root step action byId walk location)
      (validateStepBindings root step action byId walk location') :=
  .bind (.require _ _ _) fun _ =>
    .bind (.foldlM fun _ _ => sameValue_validateStepBinding _ _ _ _ _ _ _ _ _) fun _ =>
      .bind (.require _ _ _) fun _ => .refl _

theorem sameValue_validateProposalStep (root : ProposedUseCase)
    (byId : Dict Identifier ProposalEntity) (entityIds : List Identifier)
    (location location' : String) (walk : ProposalWalk) (item : ProposalEntityRef × Nat) :
    SameValue (validateProposalStep root byId entityIds location walk item)
      (validateProposalStep root byId entityIds location' walk item) := by
  refine .bind (sameValue_resolveProposalRef _ _ _ _) fun target => ?_
  cases target with
  | step step =>
    refine .bind (sameValue_resolveProposalRef _ _ _ _) fun target => ?_
    cases target with
    | action action => exact sameValue_validateStepBindings _ _ _ _ _ _ _
    | _ => exact .error _ _
  | _ => exact .error _ _

theorem sameValue_validateCandidateProposal (proposal : CandidateProposal)
    (location location' : String) :
    SameValue (validateCandidateProposal proposal location)
      (validateCandidateProposal proposal location') := by
  refine .bind (.require _ _ _) fun _ => .bind (.require _ _ _) fun _ =>
    .bind (sameValue_resolveProposalRef _ _ _ _) fun target => ?_
  cases target with
  | useCase root =>
    refine .bind (.checkEach fun _ entity => ?_) fun _ =>
      .bind (.foldlM fun _ _ => sameValue_validateProposalStep _ _ _ _ _ _ _) fun _ =>
        .require _ _ _
    cases entity with
    | action e => exact .bind (.require _ _ _) fun _ => .require _ _ _
    | useCase e => exact .bind (.require _ _ _) fun _ => .require _ _ _
    | _ => exact .refl _
  | _ => exact .error _ _

end Ucf
