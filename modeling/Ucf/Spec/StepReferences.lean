import Ucf.Spec.Extends
import Ucf.Spec.Tracer

/-! What a trace without data gaps says of the references to steps: that some required component or
some earlier step has a field of the name, but not that the step does which the reference names. -/

namespace Ucf.Spec

variable {r : SpecRegistry} {uc : UseCaseSpec} {ctx : ContextSnapshot} {name field : String}

/-! ### The fields of a context -/

theorem has_eq_true : ctx.has name = true ↔
    ∃ slot, ctx.slots.get? name = some slot ∧ slot.state ≠ .invalidated := by
  rw [ContextSnapshot.has]
  cases ctx.slots.get? name with
  | none => simp
  | some slot => simp

theorem has_store {slot : ContextSlot} (hstate : slot.state = .available) {key : String} :
    (ctx.store key slot).has name = true ↔ name = key ∨ ctx.has name = true := by
  rw [has_eq_true, has_eq_true, ContextSnapshot.store, Dict.get?_insert]
  by_cases hname : name = key
  · simp [hname, hstate]
  · simp [hname]

theorem has_markRead {stepId key : String} :
    (ctx.markRead key stepId).has name = true ↔ ctx.has name = true := by
  rw [ContextSnapshot.markRead]
  cases hget : ctx.slots.get? key with
  | none => rfl
  | some slot =>
    show (ctx.store key { slot with readBy := slot.readBy ++ [stepId] }).has name = true ↔ _
    rw [has_eq_true, has_eq_true, ContextSnapshot.store, Dict.get?_insert]
    by_cases hname : name = key
    · simp [hname, hget]
    · simp [hname]

/-! ### Traces of a list -/

section TraceEach

variable {α : Type} {act : ContextSnapshot → α → ContextSnapshot × List Finding} {items : List α}

/-- A trace finds what one of its acts finds, in the context after the acts before it. -/
theorem mem_traceEach {finding : Finding} : finding ∈ (traceEach act ctx items).2 ↔
    ∃ before item after, items = before ++ item :: after ∧
      finding ∈ (act (traceEach act ctx before).1 item).2 := by
  induction items generalizing ctx with
  | nil => simp [traceEach]
  | cons head items ih =>
    rw [traceEach, List.mem_append, ih]
    constructor
    · rintro (hhead | ⟨before, item, after, rfl, hitem⟩)
      · exact ⟨[], head, items, rfl, hhead⟩
      · exact ⟨head :: before, item, after, rfl, hitem⟩
    · rintro ⟨before, item, after, hsplit, hitem⟩
      cases before with
      | nil =>
        obtain ⟨rfl, rfl⟩ := List.cons.inj hsplit
        exact Or.inl hitem
      | cons first before =>
        obtain ⟨rfl, rfl⟩ := List.cons.inj hsplit
        exact Or.inr ⟨before, item, after, rfl, hitem⟩

/-- When an act adds the fields of its item, a trace adds the fields of its items. -/
theorem has_traceEach {fields : α → List String}
    (hact : ∀ ctx item, (act ctx item).1.has name = true ↔ name ∈ fields item ∨ ctx.has name = true) :
    (traceEach act ctx items).1.has name = true ↔
      (∃ item ∈ items, name ∈ fields item) ∨ ctx.has name = true := by
  induction items generalizing ctx with
  | nil => simp [traceEach]
  | cons item items ih =>
    show (traceEach act (act ctx item).1 items).1.has name = true ↔ _
    simp only [ih, hact, List.mem_cons, exists_eq_or_imp]
    rw [or_left_comm, or_assoc]

end TraceEach

/-! ### A step -/

theorem has_executeRead {stepId : String} {read : ReadEffect} :
    (executeRead stepId ctx read).1.has name = true ↔ ctx.has name = true := by
  rw [executeRead]
  split
  · exact has_markRead
  · rfl

theorem has_traceReads {stepId : String} {reads : List ReadEffect} :
    (traceEach (executeRead stepId) ctx reads).1.has name = true ↔ ctx.has name = true := by
  have hread : ∀ ctx read, (executeRead stepId ctx read).1.has name = true ↔
      name ∈ ([] : List String) ∨ ctx.has name = true := by simp [has_executeRead]
  rw [has_traceEach hread]
  simp

theorem has_executeWrite {stepId : String} {write : WriteEffect} :
    (executeWrite stepId ctx write).1.has name = true ↔ name = write.field ∨ ctx.has name = true :=
  has_store rfl

theorem has_traceWrites {stepId : String} {writes : List WriteEffect} :
    (traceEach (executeWrite stepId) ctx writes).1.has name = true ↔
      (∃ write ∈ writes, name = write.field) ∨ ctx.has name = true := by
  have hwrite : ∀ ctx write, (executeWrite stepId ctx write).1.has name = true ↔
      name ∈ [write.field] ∨ ctx.has name = true := by simp [has_executeWrite]
  rw [has_traceEach hwrite]
  simp

theorem has_executeStep {step : StepDef} :
    (executeStep ctx step.id (buildEffect r step)).1.has name = true ↔
      name ∈ step.outputs ∨ ctx.has name = true := by
  show (traceEach (executeWrite step.id) (traceEach (executeRead step.id) ctx _).1
    (buildEffect r step).writes).1.has name = true ↔ _
  rw [has_traceWrites, has_traceReads]
  simp [buildEffect]

theorem has_traceSteps {steps : List StepDef} : (traceSteps r ctx steps).1.has name = true ↔
    (∃ step ∈ steps, name ∈ step.outputs) ∨ ctx.has name = true :=
  has_traceEach fun _ _ => has_executeStep

/-! ### The first context -/

/-- A field that a required component provides. -/
def Provided (r : SpecRegistry) (uc : UseCaseSpec) (field : String) : Prop :=
  ∃ req ∈ uc.requires, ∃ comp, r.resolveRef req.ref = some (.component comp) ∧
    field ∈ comp.provides.keys

theorem has_foldl_provide {source : String} {items : List (String × FieldDef)} :
    (items.foldl (provide source) ctx).has name = true ↔
      name ∈ items.map Prod.fst ∨ ctx.has name = true := by
  induction items generalizing ctx with
  | nil => simp
  | cons item items ih =>
    rw [List.foldl_cons, ih, provide, has_store rfl, List.map_cons, List.mem_cons]
    tauto

theorem has_applyRequirement {req : ComponentRequirement} :
    (applyRequirement r ctx req).has name = true ↔
      (∃ comp, r.resolveRef req.ref = some (.component comp) ∧ name ∈ comp.provides.keys) ∨
        ctx.has name = true := by
  rw [applyRequirement]
  split
  · rename_i comp hcomp
    simp only [hcomp, Option.some.injEq, AnySpec.component.injEq, exists_eq_left']
    exact has_foldl_provide
  · rename_i hother
    constructor
    · exact Or.inr
    · rintro (⟨comp, hcomp, -⟩ | h)
      · exact absurd hcomp (hother comp)
      · exact h

theorem has_applyRequires : (applyRequires r ctx uc).has name = true ↔
    Provided r uc name ∨ ctx.has name = true := by
  rw [applyRequires, Provided]
  induction uc.requires generalizing ctx with
  | nil => simp
  | cons req requires ih =>
    simp only [List.foldl_cons, ih, has_applyRequirement, List.mem_cons, exists_eq_or_imp]
    rw [or_left_comm, or_assoc]

theorem has_initialContext : (initialContext r uc).has name = true ↔ Provided r uc name := by
  rw [initialContext, has_applyRequires]
  simp [ContextSnapshot.has]

/-! ### Data gaps -/

theorem mem_reads {step : StepDef} : (∃ read ∈ (buildEffect r step).reads, read.field = field) ↔
    ∃ id, (id, field) ∈ step.references := by
  simp only [buildEffect, List.mem_map, List.mem_flatMap, collectReads, StepDef.references]
  constructor
  · rintro ⟨read, ⟨name, ⟨item, hitem, ⟨id, name'⟩, href, rfl⟩, rfl⟩, rfl⟩
    exact ⟨id, item, hitem, href⟩
  · rintro ⟨id, item, hitem, href⟩
    exact ⟨_, ⟨field, ⟨item, hitem, (id, field), href, rfl⟩, rfl⟩, rfl⟩

theorem gap_executeRead {stepId : String} {read : ReadEffect} :
    (∃ f ∈ (executeRead stepId ctx read).2, f.category = .dataGap) ↔ ¬ctx.has read.field = true := by
  rw [executeRead]
  by_cases h : ctx.has read.field = true
  · simp only [h, if_true, not_true_eq_false, iff_false]
    rintro ⟨f, hf, hgap⟩
    split at hf
    · rw [List.mem_singleton] at hf
      subst hf
      cases hgap
    · cases hf
  · simp [h, dataGap]

/-- The writes of a step find no gap. -/
theorem category_executeWrite {stepId : String} {write : WriteEffect} {f : Finding}
    (hf : f ∈ (executeWrite stepId ctx write).2) : f.category = .overwriteWarning := by
  rw [executeWrite] at hf
  cases hget : ctx.slots.get? write.field with
  | none => simp [hget] at hf
  | some slot =>
    simp only [hget] at hf
    split at hf
    · rw [List.mem_singleton] at hf
      subst hf
      rfl
    · cases hf

/-- A step finds a gap when it reads a field that the context does not have. -/
theorem gap_executeStep {step : StepDef} :
    (∃ f ∈ (executeStep ctx step.id (buildEffect r step)).2, f.category = .dataGap) ↔
      ∃ id field, (id, field) ∈ step.references ∧ ¬ctx.has field = true := by
  constructor
  · rintro ⟨f, hf, hgap⟩
    rcases List.mem_append.mp hf with hread | hwrite
    · obtain ⟨before, read, after, hsplit, hfound⟩ := mem_traceEach.mp hread
      have hmissing := gap_executeRead.mp ⟨f, hfound, hgap⟩
      rw [has_traceReads] at hmissing
      have hmem : read ∈ (buildEffect r step).reads := by
        rw [hsplit]
        simp
      obtain ⟨id, hid⟩ := mem_reads.mp ⟨read, hmem, rfl⟩
      exact ⟨id, read.field, hid, hmissing⟩
    · obtain ⟨before, write, after, -, hfound⟩ := mem_traceEach.mp hwrite
      rw [category_executeWrite hfound] at hgap
      cases hgap
  · rintro ⟨id, field, href, hmissing⟩
    obtain ⟨read, hmem, rfl⟩ := mem_reads (r := r).mpr ⟨id, href⟩
    obtain ⟨before, after, hsplit⟩ := List.append_of_mem hmem
    have hunread : ¬(traceEach (executeRead step.id) ctx before).1.has read.field = true :=
      fun h => hmissing (has_traceReads.mp h)
    obtain ⟨f, hf, hgap⟩ := (gap_executeRead : (∃ f ∈ (executeRead step.id _ read).2, _) ↔ _).mpr
      hunread
    exact ⟨f, List.mem_append_left _ (mem_traceEach.mpr ⟨before, read, after, hsplit, hf⟩), hgap⟩

/-- The steps of a flow find a gap when one of them reads a field that neither the context before the
flow has nor an earlier step of the flow writes. -/
theorem gap_traceSteps {steps : List StepDef} :
    (∃ f ∈ (traceSteps r ctx steps).2, f.category = .dataGap) ↔
      ∃ before step after, steps = before ++ step :: after ∧ ∃ id field,
        (id, field) ∈ step.references ∧
          ¬((∃ earlier ∈ before, field ∈ earlier.outputs) ∨ ctx.has field = true) := by
  constructor
  · rintro ⟨f, hf, hgap⟩
    obtain ⟨before, step, after, hsplit, hfound⟩ := mem_traceEach.mp hf
    obtain ⟨id, field, href, hmissing⟩ := gap_executeStep.mp ⟨f, hfound, hgap⟩
    rw [← traceSteps, has_traceSteps] at hmissing
    exact ⟨before, step, after, hsplit, id, field, href, hmissing⟩
  · rintro ⟨before, step, after, hsplit, id, field, href, hmissing⟩
    rw [← has_traceSteps (r := r), traceSteps] at hmissing
    obtain ⟨f, hf, hgap⟩ := gap_executeStep.mpr ⟨id, field, href, hmissing⟩
    exact ⟨f, mem_traceEach.mpr ⟨before, step, after, hsplit, hf⟩, hgap⟩

/-! ### References -/

/-- A step of a use case, behind the steps that occur earlier in the same flow: for an alternative
flow the earlier steps of that flow and all main steps. -/
inductive OccursAfter (uc : UseCaseSpec) : List StepDef → StepDef → Prop
  | main {before after : List StepDef} {step : StepDef} (h : uc.steps = before ++ step :: after) :
      OccursAfter uc before step
  | alternative {flow : AlternativeFlow} {before after : List StepDef} {step : StepDef}
      (hflow : flow ∈ uc.alternativeFlows) (h : flow.steps = before ++ step :: after) :
      OccursAfter uc (uc.steps ++ before) step

/-- A reference to the step `id` and its field `field`, in the input of a step behind `before`. -/
def RefersTo (uc : UseCaseSpec) (before : List StepDef) (id field : String) : Prop :=
  ∃ step, OccursAfter uc before step ∧ (id, field) ∈ step.references

/-- One of the steps has the id, and the field among its outputs. -/
def Outputs (before : List StepDef) (id field : String) : Prop :=
  ∃ earlier ∈ before, earlier.id = id ∧ field ∈ earlier.outputs

/-- Every reference names an earlier step that outputs the field. -/
def SoundReferences (uc : UseCaseSpec) : Prop :=
  ∀ before id field, RefersTo uc before id field → Outputs before id field

/-- A required component or one of the steps has a field of the name. -/
def Available (r : SpecRegistry) (uc : UseCaseSpec) (before : List StepDef) (field : String) : Prop :=
  Provided r uc field ∨ ∃ earlier ∈ before, field ∈ earlier.outputs

/-- Some reference is to a field that a required component or an earlier step has, but not the step
which the reference names. -/
def HasMisattributed (r : SpecRegistry) (uc : UseCaseSpec) : Prop :=
  ∃ before id field, RefersTo uc before id field ∧ Available r uc before field ∧
    ¬Outputs before id field

/-- Some reference is to a field that nothing before it has. -/
def HasDangling (r : SpecRegistry) (uc : UseCaseSpec) : Prop :=
  ∃ before id field, RefersTo uc before id field ∧ ¬Available r uc before field

theorem category_verifyPostconditions {f : Finding} (hf : f ∈ verifyPostconditions ctx uc) :
    f.category = .missingPostcondition := by
  rw [verifyPostconditions] at hf
  split at hf
  · rw [List.mem_singleton] at hf
    subst hf
    rfl
  · cases hf

theorem category_detectDeadData {reads : List String} {f : Finding}
    (hf : f ∈ detectDeadData ctx reads) : f.category = .deadData := by
  obtain ⟨⟨key, slot⟩, -, hf⟩ := List.mem_flatMap.mp hf
  dsimp only at hf
  split_ifs at hf
  · cases hf
  · cases hf
  · rw [List.mem_singleton] at hf
    subst hf
    rfl
  · cases hf

section Traces

variable [SetOrder]

theorem category_checkBranchCompatibility {altCtx : ContextSnapshot} {flowName : String} {f : Finding}
    (hf : f ∈ checkBranchCompatibility ctx altCtx flowName) :
    f.category = .branchDivergence ∨ f.category = .branchStateDifference := by
  rcases List.mem_append.mp hf with hdivergence | hdifference
  · obtain ⟨name, -, rfl⟩ := List.mem_map.mp hdivergence
    exact Or.inl rfl
  · obtain ⟨name, -, hf⟩ := List.mem_flatMap.mp hdifference
    dsimp only at hf
    split_ifs at hf
    · rw [List.mem_singleton] at hf
      subst hf
      exact Or.inr rfl
    · cases hf

/-- The gaps of a use case are those of its main flow and of its alternative flows. -/
theorem gap_traceFlat : (∃ f ∈ traceFlat r uc, f.category = .dataGap) ↔
    (∃ f ∈ (traceSteps r (initialContext r uc) uc.steps).2, f.category = .dataGap) ∨
      ∃ flow ∈ uc.alternativeFlows,
        ∃ f ∈ (traceSteps r (branchContext r uc flow) flow.steps).2, f.category = .dataGap := by
  simp only [traceFlat, List.mem_append, List.mem_flatMap, traceAlternativeFlow]
  constructor
  · rintro ⟨f, ((hmain | hpost) | ⟨flow, hflow, hsteps | hbranch⟩) | hdead, hgap⟩
    · exact Or.inl ⟨f, hmain, hgap⟩
    · rw [category_verifyPostconditions hpost] at hgap
      cases hgap
    · exact Or.inr ⟨flow, hflow, f, hsteps, hgap⟩
    · rcases category_checkBranchCompatibility hbranch with h | h
      · rw [h] at hgap
        cases hgap
      · rw [h] at hgap
        cases hgap
    · rw [category_detectDeadData hdead] at hgap
      cases hgap
  · rintro (⟨f, hf, hgap⟩ | ⟨flow, hflow, f, hf, hgap⟩)
    · exact ⟨f, Or.inl (Or.inl (Or.inl hf)), hgap⟩
    · exact ⟨f, Or.inl (Or.inr ⟨flow, hflow, Or.inl hf⟩), hgap⟩

omit [SetOrder] in
theorem has_branchContext {flow : AlternativeFlow} : (branchContext r uc flow).has field = true ↔
    Available r uc uc.steps field := by
  show (traceSteps r (initialContext r uc) uc.steps).1.has field = true ↔ _
  rw [has_traceSteps, has_initialContext, Available, or_comm]

/-- The tracer reports a gap for the references to fields that nothing before them has. -/
theorem gap_iff : (∃ f ∈ traceFlat r uc, f.category = .dataGap) ↔ HasDangling r uc := by
  rw [gap_traceFlat]
  constructor
  · rintro (hmain | ⟨flow, hflow, halt⟩)
    · obtain ⟨before, step, after, hsplit, id, field, href, hmissing⟩ := gap_traceSteps.mp hmain
      rw [has_initialContext, or_comm] at hmissing
      exact ⟨before, id, field, ⟨step, .main hsplit, href⟩, hmissing⟩
    · obtain ⟨before, step, after, hsplit, id, field, href, hmissing⟩ := gap_traceSteps.mp halt
      rw [has_branchContext] at hmissing
      refine ⟨uc.steps ++ before, id, field, ⟨step, .alternative hflow hsplit, href⟩, ?_⟩
      rintro (hprovided | ⟨earlier, hearlier, hout⟩)
      · exact hmissing (Or.inr (Or.inl hprovided))
      · rcases List.mem_append.mp hearlier with hearlier | hearlier
        · exact hmissing (Or.inr (Or.inr ⟨earlier, hearlier, hout⟩))
        · exact hmissing (Or.inl ⟨earlier, hearlier, hout⟩)
  · rintro ⟨before, id, field, ⟨step, hfollows, href⟩, hmissing⟩
    cases hfollows with
    | main hsplit =>
      refine Or.inl (gap_traceSteps.mpr ⟨before, step, _, hsplit, id, field, href, ?_⟩)
      rw [has_initialContext, or_comm]
      exact hmissing
    | @alternative flow before after _ hflow hsplit =>
      refine Or.inr ⟨flow, hflow, gap_traceSteps.mpr ⟨before, step, after, hsplit, id, field, href, ?_⟩⟩
      rw [has_branchContext]
      rintro (⟨earlier, hearlier, hout⟩ | hprovided | ⟨earlier, hearlier, hout⟩)
      · exact hmissing (Or.inr ⟨earlier, List.mem_append_right _ hearlier, hout⟩)
      · exact hmissing (Or.inl hprovided)
      · exact hmissing (Or.inr ⟨earlier, List.mem_append_left _ hearlier, hout⟩)

variable [ReprStrings]

/-- The trace of a use case reports no data gap when the references of its flattened form are sound,
and only then. -/
def TracesSoundly (r : SpecRegistry) (uc : UseCaseSpec) : Prop :=
  ∀ flat findings, resolveComposition r uc = .ok flat → traceUsecase r uc = .ok findings →
    ((∀ f ∈ findings, f.category ≠ .dataGap) ↔ SoundReferences flat)

omit [SetOrder] [ReprStrings] in
theorem Outputs.available {before : List StepDef} {id : String} (h : Outputs before id field) :
    Available r uc before field := by
  obtain ⟨earlier, hearlier, -, hout⟩ := h
  exact Or.inr ⟨earlier, hearlier, hout⟩

omit [SetOrder] [ReprStrings] in
/-- Every reference is to a field that something before it has, and none is misattributed. -/
theorem soundReferences_iff : SoundReferences uc ↔ ¬HasDangling r uc ∧ ¬HasMisattributed r uc := by
  constructor
  · intro hsound
    constructor
    · rintro ⟨before, id, field, href, hmissing⟩
      exact hmissing (hsound before id field href).available
    · rintro ⟨before, id, field, href, -, hother⟩
      exact hother (hsound before id field href)
  · rintro ⟨hdangling, hmisattributed⟩ before id field href
    have havailable : Available r uc before field := by
      by_contra hmissing
      exact hdangling ⟨before, id, field, href, hmissing⟩
    by_contra hother
    exact hmisattributed ⟨before, id, field, href, havailable, hother⟩

/-- The trace of a use case is sound for references to steps unless one of them is misattributed, and
no other is to a field that nothing has. -/
theorem tracesSoundly_iff (r : SpecRegistry) (uc : UseCaseSpec) : TracesSoundly r uc ↔
    ∀ flat, resolveComposition r uc = .ok flat → HasMisattributed r flat → HasDangling r flat := by
  have htrace : ∀ flat, resolveComposition r uc = .ok flat →
      traceUsecase r uc = .ok (traceFlat r flat) := by
    intro flat hflat
    rw [traceUsecase, hflat]
    rfl
  have hgap : ∀ flat, (∀ f ∈ traceFlat r flat, f.category ≠ .dataGap) ↔ ¬HasDangling r flat := by
    intro flat
    rw [← gap_iff]
    push Not
    rfl
  constructor
  · intro h flat hflat hmisattributed
    by_contra hdangling
    have hsound := (h flat _ hflat (htrace flat hflat)).mp ((hgap flat).mpr hdangling)
    exact (soundReferences_iff.mp hsound).2 hmisattributed
  · intro h flat findings hflat hfindings
    obtain rfl := Except.ok.inj ((htrace flat hflat).symm.trans hfindings)
    rw [hgap, soundReferences_iff (r := r)]
    constructor
    · intro hdangling
      exact ⟨hdangling, fun hmisattributed => hdangling (h flat hflat hmisattributed)⟩
    · exact And.left

end Traces

namespace StepReferencesSample

/-- A step that refers to the output of `reserve` by the id of a step that does not exist. -/
def checkout : UseCaseSpec where
  metadata := { name := "checkout" }
  steps := [{ id := "reserve", use := "actions/reserve", output := .ofList [("id", "order_id")] },
    { id := "pay", use := "actions/pay", input := .ofList [("order", .str "$steps.refund.order_id")] }]

open Ucf.Spec.Sample

/-- The reference to a step that does not exist is no data gap. -/
theorem checkout_not_tracesSoundly : ¬TracesSoundly .empty checkout := by
  intro h
  have hsound := (h checkout _ rfl rfl).mp (by decide +kernel)
  have hrefers : RefersTo checkout [checkout.steps[0]] "refund" "order_id" :=
    ⟨checkout.steps[1], @OccursAfter.main _ _ [] _ rfl, by decide +kernel⟩
  obtain ⟨earlier, hearlier, hid, -⟩ := hsound _ _ _ hrefers
  rw [List.mem_singleton] at hearlier
  subst hearlier
  revert hid
  decide

end StepReferencesSample

end Ucf.Spec
