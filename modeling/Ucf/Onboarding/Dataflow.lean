import Mathlib.Logic.Relation
import Ucf.Onboarding.Materialized

/-! The dataflow of an accepted proposal: its steps, run from left to right, read inputs of the root
and outputs of steps that have run. -/

namespace Ucf

open Relation

/-! ### Loops over numbered items -/

section Numbered

variable {ε α σ : Type} {f : σ → α × Nat → Except ε σ} {items : List α} {start final : σ}

/-- What a numbered loop keeps up to each item, and what each turn says of its item. -/
theorem foldlM_zipIdx {P : Nat → σ → Prop} {Q : Nat → Prop}
    (h : items.zipIdx.foldlM f start = .ok final) (hstart : P 0 start)
    (hstep : ∀ i (hi : i < items.length) s s', P i s → f s (items[i], i) = .ok s' →
      P (i + 1) s' ∧ Q i) :
    P items.length final ∧ ∀ i < items.length, Q i := by
  have hfrom : ∀ (k : Nat) (rest : List α) (s : σ), items.drop k = rest → k + rest.length =
      items.length → P k s → (rest.zipIdx k).foldlM f s = .ok final →
      P items.length final ∧ ∀ i, k ≤ i → i < items.length → Q i := by
    intro k rest
    induction rest generalizing k with
    | nil =>
      intro s _ hlength hs hfold
      obtain rfl : s = final := Except.ok.inj hfold
      have hk : k = items.length := by simpa using hlength
      exact ⟨hk ▸ hs, fun i hki hi => absurd hi (by omega)⟩
    | cons a rest ih =>
      intro s hdrop hlength hs hfold
      rw [List.length_cons] at hlength
      have hk : k < items.length := by omega
      have ha : items[k] = a := by
        have hget : items[k]? = some a := by rw [← List.head?_drop, hdrop, List.head?_cons]
        exact (List.getElem?_eq_some_iff.mp hget).2
      rw [List.zipIdx_cons, List.foldlM_cons, bind_eq_ok] at hfold
      obtain ⟨next, hnext, hfold⟩ := hfold
      obtain ⟨hkept, hsays⟩ := hstep k hk s next hs (ha ▸ hnext)
      have htail : items.drop (k + 1) = rest := by
        rw [← List.drop_drop, hdrop, List.drop_one, List.tail_cons]
      obtain ⟨hfinal, hall⟩ := ih (k + 1) next htail (by omega) hkept hfold
      refine ⟨hfinal, fun i hki hi => ?_⟩
      rcases Nat.lt_or_eq_of_le hki with hlt | rfl
      · exact hall i hlt hi
      · exact hsays
  obtain ⟨hfinal, hall⟩ := hfrom 0 items start (by simp) (by simp) hstart h
  exact ⟨hfinal, fun i hi => hall i (by omega) hi⟩

end Numbered

/-! ### Sound dataflow -/

/-- A port that may be read once the steps `ran` have run: an input of the root, or an output of the
action of one of these steps. -/
inductive PortReadable (entities : List ProposalEntity) (root : ProposedUseCase)
    (ran : List ProposalEntityRef) (source : ProposalPortRef) (port : Port) : Prop
  | root (howner : ProposalResolves entities source.owner (.useCase root))
      (hdirection : source.direction = .input) (hmem : port ∈ root.inputPorts)
      (hname : port.name = source.name)
  | step {ref : ProposalEntityRef} {step : ProposedStep} {action : ProposedAction} (href : ref ∈ ran)
      (hstep : ProposalResolves entities ref (.step step))
      (howner : ProposalResolves entities source.owner (.step step))
      (hdirection : source.direction = .output)
      (haction : ProposalResolves entities step.action (.action action))
      (hmem : port ∈ action.outputPorts) (hname : port.name = source.name)

/-- A binding of a step gives a value to an input of the step's action. -/
structure Binds (entities : List ProposalEntity) (step : ProposedStep) (action : ProposedAction)
    (ref : ProposalEntityRef) (binding : ProposedBinding) (target : Port) : Prop where
  resolves : ProposalResolves entities ref (.binding binding)
  owner : ProposalResolves entities binding.target.owner (.step step)
  direction : binding.target.direction = .input
  mem : target ∈ action.inputPorts
  name_eq : target.name = binding.target.name

/-- What a step may do once the steps `ran` have run. -/
structure StepSound (entities : List ProposalEntity) (root : ProposedUseCase)
    (ran : List ProposalEntityRef) (step : ProposedStep) (action : ProposedAction) : Prop where
  resolves : ProposalResolves entities step.action (.action action)
  nodup : step.bindings.Nodup
  bindings : ∀ ref ∈ step.bindings, ∃ binding target source,
    Binds entities step action ref binding target ∧
      PortReadable entities root ran binding.source source ∧ source.valueKind = target.valueKind
  required : ∀ port ∈ action.inputPorts, port.required = true →
    ∃! ref, ref ∈ step.bindings ∧ ∃ binding, Binds entities step action ref binding port
  single : ∀ port ∈ action.inputPorts, ∀ ref ∈ step.bindings, ∀ ref' ∈ step.bindings,
    (∃ binding, Binds entities step action ref binding port) →
    (∃ binding, Binds entities step action ref' binding port) → ref = ref'

/-- An entity refers to another one. -/
def EntityRefers (entities : List ProposalEntity) (entity other : ProposalEntity) : Prop :=
  match entity with
  | .useCase e => ∃ ref ∈ e.steps.items, ProposalResolves entities ref other
  | .step e => ProposalResolves entities e.action other ∨
      ∃ ref ∈ e.bindings, ProposalResolves entities ref other
  | _ => False

/-- What the validation of a proposal promises. -/
structure SoundDataflow (proposal : CandidateProposal) (root : ProposedUseCase) : Prop where
  resolves : ProposalResolves proposal.entities.items proposal.root (.useCase root)
  steps : ∀ i (h : i < root.steps.items.length), ∃ step action,
    ProposalResolves proposal.entities.items root.steps.items[i] (.step step) ∧
      StepSound proposal.entities.items root (root.steps.items.take i) step action
  reachable : ∀ entity ∈ proposal.entities.items,
    ReflTransGen (EntityRefers proposal.entities.items) (.useCase root) entity
  unshared : ∀ step step' : ProposedStep, .step step ∈ proposal.entities.items →
    .step step' ∈ proposal.entities.items → ∀ ref ∈ step.bindings, ∀ ref' ∈ step'.bindings,
    ref.targetId = ref'.targetId → step = step'

/-! ### What the checks say -/

section Checks

variable {entities : List ProposalEntity} (hids : (entities.map ProposalEntity.id).Nodup)
  {root : ProposedUseCase} (hroot : .useCase root ∈ entities)

/-- The input that the binding of a reference is for. -/
def boundName (entities : List ProposalEntity) (ref : ProposalEntityRef) : Option Identifier :=
  match (Dict.index ProposalEntity.id entities).get? ref.targetId with
  | some (.binding binding) => some binding.target.name
  | _ => none

include hids

theorem ProposalResolves.unique {ref : ProposalEntityRef} {target other : ProposalEntity}
    (h : ProposalResolves entities ref target) (hother : ProposalResolves entities ref other) :
    target = other :=
  (h.of_id hids hother.mem hother.id_eq).symm

theorem boundName_eq {ref : ProposalEntityRef} {binding : ProposedBinding}
    (h : ProposalResolves entities ref (.binding binding)) :
    boundName entities ref = some binding.target.name := by
  rw [boundName, (Dict.get?_index hids).mpr ⟨h.mem, h.id_eq⟩]

/-- A step that a binding reads from stands before the step of the binding. -/
theorem prior_of_resolveBindingSource {source : ProposalPortRef} {targetStep step : ProposedStep}
    {positions : Dict Identifier Nat} {location : String} {port : Port}
    (h : resolveBindingSource source root (Dict.index ProposalEntity.id entities) targetStep
      positions location = .ok port)
    (howner : ProposalResolves entities source.owner (.step step)) :
    ∃ position target, positions.get? step.id = some position ∧
      positions.get? targetStep.id = some target ∧ position < target := by
  simp only [resolveBindingSource, bind_eq_ok, resolveProposalRef_eq_ok hids] at h
  obtain ⟨owner, howner', hmatch⟩ := h
  obtain rfl := howner.unique hids howner'
  cases hposition : positions.get? step.id with
  | none => simp [hposition, invalidProposal] at hmatch
  | some position =>
    cases htarget : positions.get? targetStep.id with
    | none => simp [hposition, htarget, invalidProposal] at hmatch
    | some target =>
      by_cases hprior : position < target
      · exact ⟨position, target, rfl, rfl, hprior⟩
      · simp [hposition, htarget, hprior, invalidProposal] at hmatch

include hroot

theorem readable_of_resolveBindingSource {source : ProposalPortRef} {targetStep : ProposedStep}
    {positions : Dict Identifier Nat} {ran : List ProposalEntityRef} {location : String} {port : Port}
    (hran : ∀ id position target, positions.get? id = some position →
      positions.get? targetStep.id = some target → position < target →
      ∃ ref ∈ ran, ∃ step, ProposalResolves entities ref (.step step) ∧ step.id = id)
    (h : resolveBindingSource source root (Dict.index ProposalEntity.id entities) targetStep
      positions location = .ok port) : PortReadable entities root ran source port := by
  cases resolveBindingSource_ok hids hroot h with
  | root howner hdirection hmem hname => exact .root howner hdirection hmem hname
  | @step step action howner hdirection haction hmem hname =>
    obtain ⟨position, target, hposition, htarget, hprior⟩ :=
      prior_of_resolveBindingSource hids h howner
    obtain ⟨ref, href, other, hresolves, hid⟩ := hran _ _ _ hposition htarget hprior
    have heq := List.inj_on_of_nodup_map hids hresolves.mem howner.mem hid
    cases heq
    exact .step href hresolves howner hdirection haction hmem hname

/-- What one turn over the bindings of a step says of its binding. -/
theorem binds_of_validateStepBinding {step : ProposedStep} {action : ProposedAction}
    (hstep : .step step ∈ entities) {positions : Dict Identifier Nat}
    {ran : List ProposalEntityRef}
    (hran : ∀ id position target, positions.get? id = some position →
      positions.get? step.id = some target → position < target →
      ∃ ref ∈ ran, ∃ step, ProposalResolves entities ref (.step step) ∧ step.id = id)
    {location : String} {state state' : List Identifier × List Identifier}
    {item : ProposalEntityRef × Nat}
    (h : validateStepBinding root step action (Dict.index ProposalEntity.id entities) positions
      location state item = .ok state') :
    ∃ binding target source, Binds entities step action item.1 binding target ∧
      PortReadable entities root ran binding.source source ∧ source.valueKind = target.valueKind ∧
      state' = (binding.id :: state.1, binding.target.name :: state.2) := by
  simp only [validateStepBinding, bind_eq_ok, resolveProposalRef_eq_ok hids] at h
  obtain ⟨found, hfound, hmatch⟩ := h
  cases found with
  | binding binding =>
    simp only at hmatch
    split at hmatch
    · cases hmatch
    · rename_i hguard
      simp only [not_or, not_not] at hguard
      obtain ⟨hkind, hid, hdirection⟩ := hguard
      simp only [bind_eq_ok, require_eq_ok, exists_const, pure_eq_ok, Except.ok.injEq] at hmatch
      obtain ⟨target, htarget, source, hsource, hkinds, rfl⟩ := hmatch
      obtain ⟨hmem, hname⟩ := findPort_eq_ok htarget
      refine ⟨binding, target, source, ⟨hfound, ⟨hstep, hid.symm, hkind.symm⟩, hdirection, hmem,
        hname⟩, readable_of_resolveBindingSource hids hroot hran hsource, hkinds, ?_⟩
      rw [hname]
  | _ => cases hmatch

/-- What the check of a step's bindings says of the step. -/
theorem stepSound_of_validateStepBindings {step : ProposedStep} {action : ProposedAction}
    (hstep : .step step ∈ entities)
    (haction : ProposalResolves entities step.action (.action action)) {walk walk' : ProposalWalk}
    {ran : List ProposalEntityRef}
    (hran : ∀ id position target, walk.stepPositions.get? id = some position →
      walk.stepPositions.get? step.id = some target → position < target →
      ∃ ref ∈ ran, ∃ step, ProposalResolves entities ref (.step step) ∧ step.id = id)
    {location : String}
    (h : validateStepBindings root step action (Dict.index ProposalEntity.id entities) walk
      location = .ok walk') :
    StepSound entities root ran step action ∧ walk'.stepPositions = walk.stepPositions ∧
      ∀ id ∈ walk'.reachable, id ∈ walk.reachable ∨
        ∃ ref ∈ step.bindings, ∃ binding, ProposalResolves entities ref (.binding binding) ∧
          binding.id = id := by
  simp only [validateStepBindings, bind_eq_ok, require_eq_ok, exists_const, pure_eq_ok,
    Except.ok.injEq] at h
  obtain ⟨hnodup, ⟨reachable, bound⟩, hfold, ⟨hbound, hrequired⟩, rfl⟩ := h
  obtain ⟨⟨hnames, hreachable⟩, hbindings⟩ := foldlM_zipIdx
    (P := fun i s => s.2.map some = ((step.bindings.take i).map (boundName entities)).reverse ∧
      ∀ id ∈ s.1, id ∈ walk.reachable ∨ ∃ ref ∈ step.bindings, ∃ binding,
        ProposalResolves entities ref (.binding binding) ∧ binding.id = id)
    (Q := fun i => ∀ hi : i < step.bindings.length, ∃ binding target source,
      Binds entities step action step.bindings[i] binding target ∧
        PortReadable entities root ran binding.source source ∧ source.valueKind = target.valueKind)
    hfold ⟨by simp, fun id hid => Or.inl hid⟩ (by
      rintro i hi s s' ⟨hnames, hreachable⟩ hturn
      obtain ⟨binding, target, source, hbinds, hreads, hkinds, rfl⟩ :=
        binds_of_validateStepBinding hids hroot hstep hran hturn
      refine ⟨⟨?_, ?_⟩, fun _ => ⟨binding, target, source, hbinds, hreads, hkinds⟩⟩
      · rw [List.take_succ_eq_append_getElem hi, List.map_append, List.reverse_append,
          List.map_cons, hnames, List.map_singleton, boundName_eq hids hbinds.resolves]
        rfl
      · rw [List.forall_mem_cons]
        exact ⟨Or.inr ⟨_, List.getElem_mem hi, binding, hbinds.resolves, rfl⟩, hreachable⟩)
  rw [List.take_length] at hnames
  have hbinds : ∀ ref ∈ step.bindings, ∃ binding target source,
      Binds entities step action ref binding target ∧
        PortReadable entities root ran binding.source source ∧ source.valueKind = target.valueKind := by
    intro ref href
    obtain ⟨i, hi, rfl⟩ := List.mem_iff_getElem.mp href
    exact hbindings i hi hi
  have hdistinct : (step.bindings.map (boundName entities)).Nodup := by
    rw [← List.nodup_reverse, ← hnames]
    exact hbound.map (Option.some_injective _)
  have hsingle : ∀ port ∈ action.inputPorts, ∀ ref ∈ step.bindings, ∀ ref' ∈ step.bindings,
      (∃ binding, Binds entities step action ref binding port) →
      (∃ binding, Binds entities step action ref' binding port) → ref = ref' := by
    rintro port - ref href ref' href' ⟨binding, h⟩ ⟨binding', h'⟩
    refine List.inj_on_of_nodup_map hdistinct href href' ?_
    rw [boundName_eq hids h.resolves, boundName_eq hids h'.resolves, ← h.name_eq, ← h'.name_eq]
  refine ⟨⟨haction, hnodup.of_map _, hbinds, fun port hport hneeded => ?_, hsingle⟩, rfl, hreachable⟩
  have hmem : some port.name ∈ bound.map some :=
    List.mem_map_of_mem (hrequired port hport hneeded)
  rw [hnames, List.mem_reverse, List.mem_map] at hmem
  obtain ⟨ref, href, hname⟩ := hmem
  obtain ⟨binding, target, source, hbinding, -, -⟩ := hbinds ref href
  rw [boundName_eq hids hbinding.resolves, Option.some.injEq] at hname
  have hport' : Binds entities step action ref binding port :=
    ⟨hbinding.resolves, hbinding.owner, hbinding.direction, hport, hname.symm⟩
  refine ⟨ref, ⟨href, binding, hport'⟩, ?_⟩
  rintro ref' ⟨href', hbinds'⟩
  exact hsingle port hport ref' href' ref href hbinds' ⟨binding, hport'⟩

end Checks

/-! ### The walk over the steps -/

/-- What the walk over the steps of the root keeps: the positions that it has noted, and the entities
that it has reached. -/
structure WalkSound (entities : List ProposalEntity) (root : ProposedUseCase) (i : Nat)
    (walk : ProposalWalk) : Prop where
  positions : ∀ id position, walk.stepPositions.get? id = some position → position < i ∧
    ∃ ref, root.steps.items[position]? = some ref ∧
      ∃ step, ProposalResolves entities ref (.step step) ∧ step.id = id
  reachable : ∀ id ∈ walk.reachable, ∃ entity ∈ entities, entity.id = id ∧
    ReflTransGen (EntityRefers entities) (.useCase root) entity ∧
      ∀ step, entity = .step step →
        ∃ ref ∈ root.steps.items, ProposalResolves entities ref (.step step)

theorem get?_setDefault {positions : Dict Identifier Nat} {id other : Identifier}
    {position found : Nat} (h : (setDefault positions id position).get? other = some found) :
    positions.get? other = some found ∨ (other = id ∧ found = position) := by
  rw [setDefault] at h
  split at h
  · exact Or.inl h
  · rw [Dict.get?_insert] at h
    split at h
    · rename_i heq
      exact Or.inr ⟨heq, (Option.some.inj h).symm⟩
    · exact Or.inl h

theorem WalkSound.setDefault {entities : List ProposalEntity} {root : ProposedUseCase} {i : Nat}
    {walk : ProposalWalk} (h : WalkSound entities root i walk) {ref : ProposalEntityRef}
    {step : ProposedStep} (href : root.steps.items[i]? = some ref)
    (hstep : ProposalResolves entities ref (.step step)) :
    ∀ id position, (setDefault walk.stepPositions step.id i).get? id = some position →
      position < i + 1 ∧ ∃ ref, root.steps.items[position]? = some ref ∧
        ∃ step, ProposalResolves entities ref (.step step) ∧ step.id = id := by
  intro id position hget
  rcases get?_setDefault hget with hold | ⟨rfl, rfl⟩
  · obtain ⟨hlt, hrest⟩ := h.positions id position hold
    exact ⟨by omega, hrest⟩
  · exact ⟨by omega, ref, href, step, hstep, rfl⟩

section Walk

variable {entities : List ProposalEntity} (hids : (entities.map ProposalEntity.id).Nodup)
  {root : ProposedUseCase} (hroot : .useCase root ∈ entities)
include hids hroot

/-- One turn over the steps of the root. -/
theorem WalkSound.next {i : Nat} {walk walk' : ProposalWalk} (hwalk : WalkSound entities root i walk)
    {entityIds : List Identifier} {location : String} (hi : i < root.steps.items.length)
    (h : validateProposalStep root (Dict.index ProposalEntity.id entities) entityIds location walk
      (root.steps.items[i], i) = .ok walk') :
    WalkSound entities root (i + 1) walk' ∧ ∃ step action,
      ProposalResolves entities root.steps.items[i] (.step step) ∧
        StepSound entities root (root.steps.items.take i) step action := by
  simp only [validateProposalStep, bind_eq_ok, resolveProposalRef_eq_ok hids] at h
  obtain ⟨found, hfound, hmatch⟩ := h
  cases found with
  | step step =>
    simp only [bind_eq_ok, resolveProposalRef_eq_ok hids] at hmatch
    obtain ⟨target, htarget, hmatch⟩ := hmatch
    cases target with
    | action action =>
      have hpositions := hwalk.setDefault (List.getElem?_eq_getElem hi) hfound
      have hran : ∀ id position target,
          (Ucf.setDefault walk.stepPositions step.id i).get? id = some position →
          (Ucf.setDefault walk.stepPositions step.id i).get? step.id = some target →
          position < target → ∃ ref ∈ root.steps.items.take i, ∃ step,
            ProposalResolves entities ref (.step step) ∧ step.id = id := by
        intro id position target hposition htarget hlt
        obtain ⟨-, ref, href, hstep⟩ := hpositions id position hposition
        have hbound := (hpositions _ target htarget).1
        refine ⟨ref, List.mem_of_getElem? (i := position) ?_, hstep⟩
        rw [List.getElem?_take_of_lt (by omega), href]
      obtain ⟨hsound, hsame, hreachable⟩ :=
        stepSound_of_validateStepBindings hids hroot hfound.mem htarget hran hmatch
      have hstepReached : ReflTransGen (EntityRefers entities) (.useCase root) (.step step) :=
        .single ⟨_, List.getElem_mem hi, hfound⟩
      refine ⟨⟨?_, fun id hid => ?_⟩, step, action, hfound, hsound⟩
      · rw [hsame]
        exact hpositions
      · rcases hreachable id hid with hmem | ⟨ref, href, binding, hbinding, rfl⟩
        · rcases List.mem_cons.mp hmem with rfl | hmem
          · exact ⟨_, htarget.mem, rfl, hstepReached.tail (Or.inl htarget), by simp⟩
          · rcases List.mem_cons.mp hmem with rfl | hmem
            · refine ⟨_, hfound.mem, rfl, hstepReached, fun other heq => ?_⟩
              cases heq
              exact ⟨_, List.getElem_mem hi, hfound⟩
            · exact hwalk.reachable id hmem
        · exact ⟨_, hbinding.mem, rfl, hstepReached.tail (Or.inr ⟨ref, href, hbinding⟩), by simp⟩
    | _ => cases hmatch
  | _ => cases hmatch

end Walk

/-- The steps of a proposal, run from left to right, read only inputs of the root and outputs of
steps that have run, with one value for each required input. Nothing in the proposal is out of reach
of its root, and no binding belongs to two steps. -/
theorem proposal_dataflow (proposal : CandidateProposal) (location : String)
    (h : validateCandidateProposal proposal location = .ok ()) :
    ∃ root, SoundDataflow proposal root := by
  simp only [validateCandidateProposal, bind_eq_ok, require_eq_ok, exists_const] at h
  obtain ⟨hids, _, found, hfound, hmatch⟩ := h
  rw [resolveProposalRef_eq_ok hids] at hfound
  cases found with
  | useCase root =>
    simp only [bind_eq_ok, require_eq_ok] at hmatch
    obtain ⟨_, -, walk, hwalk, -, hcovered⟩ := hmatch
    have hstart : WalkSound proposal.entities.items root 0 ⟨[root.id], .empty⟩ := by
      refine ⟨by simp, fun id hid => ⟨_, hfound.mem, (List.mem_singleton.mp hid).symm, .refl, ?_⟩⟩
      rintro step heq
      cases heq
    obtain ⟨hsound, hsteps⟩ := foldlM_zipIdx
      (P := WalkSound proposal.entities.items root)
      (Q := fun i => ∀ hi : i < root.steps.items.length, ∃ step action,
        ProposalResolves proposal.entities.items root.steps.items[i] (.step step) ∧
          StepSound proposal.entities.items root (root.steps.items.take i) step action)
      hwalk hstart (fun i hi s s' hs hturn => by
        obtain ⟨hnext, hstep⟩ := hs.next hids hfound.mem hi hturn
        exact ⟨hnext, fun _ => hstep⟩)
    have hreached : ∀ entity ∈ proposal.entities.items,
        ReflTransGen (EntityRefers proposal.entities.items) (.useCase root) entity ∧
          ∀ step, entity = .step step → ∃ ref ∈ root.steps.items,
            ProposalResolves proposal.entities.items ref (.step step) := by
      intro entity hentity
      obtain ⟨other, hother, hid, hreach⟩ :=
        hsound.reachable entity.id (hcovered (List.mem_map_of_mem hentity))
      rwa [List.inj_on_of_nodup_map hids hother hentity hid] at hreach
    have hbinds : ∀ step : ProposedStep, .step step ∈ proposal.entities.items →
        ∀ ref ∈ step.bindings, ∃ binding,
          ProposalResolves proposal.entities.items ref (.binding binding) ∧
            ProposalResolves proposal.entities.items binding.target.owner (.step step) := by
      intro step hmem ref href
      obtain ⟨stepRef, hstepRef, hresolves⟩ := (hreached _ hmem).2 step rfl
      obtain ⟨i, hi, rfl⟩ := List.mem_iff_getElem.mp hstepRef
      obtain ⟨other, action, hother, hstep⟩ := hsteps i hi hi
      cases hresolves.unique hids hother
      obtain ⟨binding, target, source, hbinding, -, -⟩ := hstep.bindings ref href
      exact ⟨binding, hbinding.resolves, hbinding.owner⟩
    refine ⟨root, hfound, fun i hi => hsteps i hi hi, fun entity hentity => (hreached entity hentity).1,
      ?_⟩
    intro step step' hmem hmem' ref href ref' href' hid
    obtain ⟨binding, hbinding, howner⟩ := hbinds step hmem ref href
    obtain ⟨binding', hbinding', howner'⟩ := hbinds step' hmem' ref' href'
    cases hbinding.of_id hids hbinding'.mem (hbinding'.id_eq.trans hid.symm)
    cases howner.unique hids howner'
    rfl
  | _ => cases hmatch

namespace Orders

/-- Wraps what its order says. -/
def wrapAction : ProposedAction :=
  ⟨⟨"wrap.action", by decide⟩, [orderPort], [⟨⟨"parcel", by decide⟩, .string, true⟩]⟩

def firstBinding : ProposedBinding where
  id := ⟨"first.binding", by decide⟩
  target := ⟨⟨.step, ⟨"first.step", by decide⟩⟩, .input, orderPort.name⟩
  source := ⟨⟨.useCase, ⟨"place", place_valid⟩⟩, .input, orderPort.name⟩

def secondBinding : ProposedBinding where
  id := ⟨"second.binding", by decide⟩
  target := ⟨⟨.step, ⟨"second.step", by decide⟩⟩, .input, orderPort.name⟩
  source := ⟨⟨.step, ⟨"first.step", by decide⟩⟩, .output, ⟨"parcel", by decide⟩⟩

/-- Wraps an order, wraps the parcel, and wraps the order once more. -/
def wrappedTwice : CandidateProposal where
  root := ⟨.useCase, ⟨"place", place_valid⟩⟩
  entities := ⟨[.action wrapAction, .binding firstBinding, .binding secondBinding,
    .step ⟨⟨"first.step", by decide⟩, ⟨.action, wrapAction.id⟩, [⟨.binding, firstBinding.id⟩]⟩,
    .step ⟨⟨"second.step", by decide⟩, ⟨.action, wrapAction.id⟩, [⟨.binding, secondBinding.id⟩]⟩,
    .useCase ⟨⟨"place", place_valid⟩, [orderPort], [],
      ⟨[⟨.step, ⟨"first.step", by decide⟩⟩, ⟨.step, ⟨"second.step", by decide⟩⟩,
        ⟨.step, ⟨"first.step", by decide⟩⟩], by decide, by decide⟩⟩], by decide, by decide⟩

theorem proposal_dataflow_wrappedTwice : ∃ root, SoundDataflow wrappedTwice root :=
  proposal_dataflow wrappedTwice "$" (by decide +kernel)

end Orders

end Ucf
