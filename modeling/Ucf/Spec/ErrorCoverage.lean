import Ucf.Spec.Completeness

/-! The analysis of error reachability against what it looks for: the alternative flows that handle an
error, of the use cases that reference the action. -/

namespace Ucf.Spec

namespace ErrorReachabilityAnalyzer

variable {r r' : SpecRegistry} {uc : UseCaseSpec} {alt : AlternativeFlow} {action : ActionSpec}
  {error : ErrorDef}

/-! ### References to an action -/

/-- A use case references an action in a step, in a step of an alternative flow, or through a
component that it requires. -/
inductive References (r : SpecRegistry) (uc : UseCaseSpec) (action : ActionSpec) : Prop
  | step {step : StepDef} (hstep : step ∈ uc.steps)
      (h : r.resolveRef step.use = some (.action action)) : References r uc action
  | flowStep {alt : AlternativeFlow} {step : StepDef} (halt : alt ∈ uc.alternativeFlows)
      (hstep : step ∈ alt.steps) (h : r.resolveRef step.use = some (.action action)) :
      References r uc action
  | component {requirement : ComponentRequirement} {comp : ComponentSpec} {step : StepDef}
      (hrequires : requirement ∈ uc.requires)
      (hcomp : r.resolveRef requirement.ref = some (.component comp)) (hstep : step ∈ comp.steps)
      (h : r.resolveRef step.use = some (.action action)) : References r uc action

/-- `action_ref` -/
def actionRef (action : ActionSpec) : String := "actions/" ++ action.metadata.name

/-- The steps of a use case that name an action by its plural prefix. -/
def directUses (uc : UseCaseSpec) (action : ActionSpec) : List StepDef :=
  uc.steps.filter fun step => step.use = actionRef action

/-- The requirements of a use case that name, by its plural prefix, a component with a step that names
the action so. -/
def usesThroughComponents (r : SpecRegistry) (uc : UseCaseSpec) (action : ActionSpec) :
    List ComponentRequirement :=
  uc.requires.filter fun requirement => r.components.any fun comp =>
    requirement.ref = "components/" ++ comp.metadata.name ∧
      actionRef action ∈ comp.steps.map StepDef.use

theorem component_eq_of_name {comp comp' : ComponentSpec} (h : comp ∈ r.components)
    (h' : comp' ∈ r.components) (hname : comp.metadata.name = comp'.metadata.name) : comp = comp' :=
  AnySpec.component.inj (SpecRegistry.eq_of_name (SpecRegistry.mem_components.mp h)
    (SpecRegistry.mem_components.mp h') rfl hname)

theorem get?_compActions {comp : ComponentSpec} (h : comp ∈ r.components) :
    (compActions r).get? ("components/" ++ comp.metadata.name) =
      some (comp.steps.map StepDef.use).dedup := by
  refine Dict.get?_ofList_of_unique (List.mem_map.mpr ⟨comp, h, rfl⟩) fun other hother => ?_
  obtain ⟨comp', hcomp', heq⟩ := List.mem_map.mp hother
  obtain ⟨hkey, rfl⟩ := Prod.mk.inj heq
  rw [component_eq_of_name hcomp' h (String.append_right_inj _ |>.mp hkey)]

theorem mem_getD_compActions {ref use : String} : use ∈ ((compActions r).get? ref).getD [] ↔
    ∃ comp ∈ r.components, ref = "components/" ++ comp.metadata.name ∧
      use ∈ comp.steps.map StepDef.use := by
  constructor
  · intro h
    cases hget : (compActions r).get? ref with
    | none =>
      rw [hget] at h
      cases h
    | some actions =>
      obtain ⟨comp, hcomp, heq⟩ := List.mem_map.mp (Dict.mem_of_mem_ofList (Dict.get?_eq_some.mp hget))
      obtain ⟨rfl, rfl⟩ := Prod.mk.inj heq
      rw [hget, Option.getD_some, List.mem_dedup] at h
      exact ⟨comp, hcomp, rfl, h⟩
  · rintro ⟨comp, hcomp, rfl, huse⟩
    rw [get?_compActions hcomp, Option.getD_some, List.mem_dedup]
    exact huse

theorem nodup_getD_compActions {ref : String} : (((compActions r).get? ref).getD []).Nodup := by
  cases hget : (compActions r).get? ref with
  | none => exact List.nodup_nil
  | some actions =>
    obtain ⟨comp, -, heq⟩ := List.mem_map.mp (Dict.mem_of_mem_ofList (Dict.get?_eq_some.mp hget))
    obtain ⟨-, rfl⟩ := Prod.mk.inj heq
    exact List.nodup_dedup _

/-- How often a use case is filed under an action. -/
theorem count_filedUnder : (filedUnder r uc).count (actionRef action) =
    (directUses uc action).length + (usesThroughComponents r uc action).length := by
  rw [filedUnder, List.count_append]
  congr 1
  · rw [List.count, List.countP_map, List.countP_eq_length_filter, directUses]
    rfl
  · rw [usesThroughComponents]
    induction uc.requires with
    | nil => rfl
    | cons requirement requires ih =>
      rw [List.flatMap_cons, List.count_append, ih, List.filter_cons]
      have hfound : (r.components.any fun comp =>
          decide (requirement.ref = "components/" ++ comp.metadata.name ∧
            actionRef action ∈ comp.steps.map StepDef.use)) = true ↔
          actionRef action ∈ ((compActions r).get? requirement.ref).getD [] := by
        rw [mem_getD_compActions, List.any_eq_true]
        simp only [decide_eq_true_iff]
      split
      · rename_i h
        rw [List.count_eq_one_of_mem nodup_getD_compActions (hfound.mp h), List.length_cons]
        omega
      · rename_i h
        rw [List.count_eq_zero.mpr (fun hmem => h (hfound.mpr hmem))]
        omega

theorem resolveRef_actionRef (h : action ∈ r.actions) :
    r.resolveRef (actionRef action) = some (.action action) :=
  SpecRegistry.resolveRef_eq_some.mpr ⟨SpecRegistry.mem_actions.mp h, Or.inl rfl⟩

/-- A use case that is filed under an action references it. -/
theorem references_of_filed (hmem : action ∈ r.actions)
    (h : actionRef action ∈ filedUnder r uc) : References r uc action := by
  rcases List.mem_append.mp h with hdirect | hthrough
  · obtain ⟨step, hstep, huse⟩ := List.mem_map.mp hdirect
    exact .step hstep (huse ▸ resolveRef_actionRef hmem)
  · obtain ⟨requirement, hrequires, huse⟩ := List.mem_flatMap.mp hthrough
    obtain ⟨comp, hcomp, href, huse⟩ := mem_getD_compActions.mp huse
    obtain ⟨step, hstep, hstepUse⟩ := List.mem_map.mp huse
    refine .component hrequires ?_ hstep (hstepUse ▸ resolveRef_actionRef hmem)
    exact SpecRegistry.resolveRef_eq_some.mpr ⟨SpecRegistry.mem_components.mp hcomp, Or.inl href⟩

/-! ### A further use case -/

theorem components_register (h : r.register (.usecase uc) = .ok r') :
    r'.components = r.components := by
  rw [SpecRegistry.register] at h
  split at h
  · obtain rfl := Except.ok.inj h
    have hother : Kind.component ≠ (AnySpec.usecase uc).kind := by simp [AnySpec.kind]
    simp only [SpecRegistry.components, SpecRegistry.specsOfKind, SpecRegistry.group,
      Dict.get?_insert, if_neg hother]
  · cases h

theorem mem_usecases_register {uc' : UseCaseSpec} (h : r.register (.usecase uc) = .ok r')
    (huc : uc' ∈ r.usecases) : uc' ∈ r'.usecases := by
  rw [SpecRegistry.mem_usecases, SpecRegistry.mem_allSpecs] at huc ⊢
  rw [SpecRegistry.register] at h
  split at h
  · rename_i hfresh
    obtain rfl := Except.ok.inj h
    rw [Dict.get?_insert, if_neg]
    · exact huc
    · intro hkey
      obtain ⟨-, g, hg, hother⟩ := r.indexed.ref _ _ huc
      have hname : (AnySpec.usecase uc').name = (AnySpec.usecase uc).name :=
        (SpecRegistry.refKey_inj hkey).2
      have hkind : (AnySpec.usecase uc').kind = (AnySpec.usecase uc).kind := rfl
      rw [hname] at hother
      rw [hkind] at hg
      rw [SpecRegistry.group, hg, Option.getD_some, hother] at hfresh
      cases hfresh
  · cases h

/-- What a use case is filed under depends on the components of the registry only. -/
theorem filedUnder_register {uc' : UseCaseSpec} (h : r.register (.usecase uc) = .ok r') :
    filedUnder r' uc' = filedUnder r uc' := by
  rw [filedUnder, filedUnder, compActions, compActions, components_register h]

/-! ### What is listed -/

section Listed

variable [Lowercase]

/-- `_alt_handles_error` for an error of an action. -/
def Handles (alt : AlternativeFlow) (error : ErrorDef) : Prop :=
  altHandlesError alt error.code error.condition = true

/-- A use case that references the action, and one of its flows that handles the error. -/
def Covers (r : SpecRegistry) (action : ActionSpec) (error : ErrorDef) (uc : UseCaseSpec)
    (alt : AlternativeFlow) : Prop :=
  uc ∈ r.usecases ∧ References r uc action ∧ alt ∈ uc.alternativeFlows ∧ Handles alt error

/-- `f"{uc.metadata.name}:{alt.name}"` -/
def pairText (pair : UseCaseSpec × AlternativeFlow) : String := pair.1.name ++ ":" ++ pair.2.name

open Classical in
/-- The covering pairs, in the order of the use cases and their flows. -/
noncomputable def coveringPairs (r : SpecRegistry) (action : ActionSpec) (error : ErrorDef) :
    List (UseCaseSpec × AlternativeFlow) :=
  (r.usecases.filter fun uc => References r uc action).flatMap fun uc =>
    (uc.alternativeFlows.filter fun alt =>
      altHandlesError alt error.code error.condition).map fun alt => (uc, alt)

theorem mem_coveringPairs : (uc, alt) ∈ coveringPairs r action error ↔ Covers r action error uc alt := by
  simp only [coveringPairs, List.mem_flatMap, List.mem_filter, List.mem_map, decide_eq_true_iff,
    Covers, Handles, Prod.mk.injEq]
  constructor
  · rintro ⟨uc', ⟨huc, hrefs⟩, alt', ⟨halt, hhandles⟩, rfl, rfl⟩
    exact ⟨huc, hrefs, halt, hhandles⟩
  · rintro ⟨huc, hrefs, halt, hhandles⟩
    exact ⟨uc, ⟨huc, hrefs⟩, alt, ⟨halt, hhandles⟩, rfl, rfl⟩

theorem map_pairText_coveringPairs : (coveringPairs r action error).map pairText =
    r.usecases.flatMap fun uc =>
      open Classical in if References r uc action then handlingFlows uc error else [] := by
  rw [coveringPairs, List.map_flatMap]
  induction r.usecases with
  | nil => rfl
  | cons uc usecases ih =>
    rw [List.filter_cons, List.flatMap_cons, ← ih]
    by_cases h : References r uc action
    · simp only [h, decide_true, if_true, List.flatMap_cons, List.map_map]
      rfl
    · simp [h]

/-- The list of a coverage: each use case gives its handling flows as often as it is filed. -/
theorem coveredBy_eq : (coverageOf r action error).coveredBy = r.usecases.flatMap fun uc =>
    (List.replicate ((filedUnder r uc).count (actionRef action)) uc).flatMap fun uc =>
      handlingFlows uc error := by
  have hfiled : ((buildActionUcMap r).get? (actionRef action)).getD [] =
      r.usecases.flatMap fun uc =>
        List.replicate ((filedUnder r uc).count (actionRef action)) uc := by
    rw [buildActionUcMap, Dict.getD_collect, List.filter_flatMap, List.map_flatMap]
    congr 1
    funext uc
    rw [List.filter_map, List.map_map, List.count, List.countP_eq_length_filter]
    refine List.eq_replicate_iff.mpr ⟨?_, ?_⟩
    · rw [List.length_map]
      rfl
    · intro other hother
      obtain ⟨ref, -, rfl⟩ := List.mem_map.mp hother
      rfl
  show (((buildActionUcMap r).get? (actionRef action)).getD []).flatMap _ = _
  rw [hfiled, List.flatMap_assoc]

theorem mem_coveredBy {text : String} : text ∈ (coverageOf r action error).coveredBy ↔
    ∃ uc ∈ r.usecases, actionRef action ∈ filedUnder r uc ∧ text ∈ handlingFlows uc error := by
  rw [coveredBy_eq, List.mem_flatMap]
  refine exists_congr fun uc => and_congr_right fun _ => ?_
  rw [List.mem_flatMap]
  constructor
  · rintro ⟨uc', huc', htext⟩
    obtain ⟨hcount, rfl⟩ := List.mem_replicate.mp huc'
    exact ⟨List.count_pos_iff.mp (Nat.pos_of_ne_zero hcount), htext⟩
  · rintro ⟨hfiled, htext⟩
    exact ⟨uc, List.mem_replicate.mpr ⟨(List.count_pos_iff.mpr hfiled).ne', rfl⟩, htext⟩

/-! ### Exactness -/

/-- What the analysis should say of an error: it is reported exactly when nothing covers it, the
covering pairs are listed, each once, and a further use case does not take a coverage away. -/
structure ExactlyCovered (r : SpecRegistry) (action : ActionSpec) (error : ErrorDef) : Prop where
  reported : uncovered (coverageOf r action error) ∈ (analyze r).2 ↔
    ¬∃ uc alt, Covers r action error uc alt
  listed : (coverageOf r action error).coveredBy.Perm ((coveringPairs r action error).map pairText)
  once : (coverageOf r action error).coveredBy.Nodup
  kept : ∀ uc r', r.register (.usecase uc) = .ok r' →
    uncovered (coverageOf r action error) ∉ (analyze r).2 →
    uncovered (coverageOf r' action error) ∉ (analyze r').2

/-- Each use case that covers the error names the action in one place that the analysis reads, and the
covering pairs have different texts. -/
structure NamedOnce (r : SpecRegistry) (action : ActionSpec) (error : ErrorDef) : Prop where
  place : ∀ uc alt, Covers r action error uc alt →
    (directUses uc action).length + (usesThroughComponents r uc action).length = 1
  texts : ((coveringPairs r action error).map pairText).Nodup

omit [Lowercase] in
theorem isCovered_iff {coverage : ErrorCoverage} :
    coverage.isCovered = true ↔ coverage.coveredBy ≠ [] := by
  rw [ErrorCoverage.isCovered, decide_eq_true_iff, List.length_pos_iff]

omit [Lowercase] in
theorem uncovered_inj {coverage other : ErrorCoverage} (h : uncovered coverage = uncovered other) :
    coverage.actionName = other.actionName ∧ coverage.errorCode = other.errorCode ∧
      coverage.errorCondition = other.errorCondition := by
  simp only [uncovered, Finding.mk.injEq, true_and, String.append_right_inj] at h
  obtain ⟨hname, hmessage, hsuggestion⟩ := h
  rw [String.append_left_inj, String.append_right_inj] at hsuggestion
  rw [hsuggestion, String.append_left_inj, String.append_right_inj] at hmessage
  exact ⟨hname, hsuggestion, hmessage⟩

/-- An error is reported when its coverage is empty. -/
theorem uncovered_mem_iff (haction : action ∈ r.actions) (herror : error ∈ action.errors) :
    uncovered (coverageOf r action error) ∈ (analyze r).2 ↔
      (coverageOf r action error).coveredBy = [] := by
  have hnot : ∀ coverage : ErrorCoverage, (!coverage.isCovered) = true ↔ coverage.coveredBy = [] := by
    intro coverage
    rw [Bool.not_eq_true', Bool.eq_false_iff, Ne, isCovered_iff, not_not]
  simp only [analyze, List.mem_map, List.mem_filter, List.mem_flatMap, hnot]
  constructor
  · rintro ⟨_, ⟨⟨action', haction', error', herror', rfl⟩, hempty⟩, heq⟩
    obtain ⟨hname, hcode, hcondition⟩ := uncovered_inj heq
    obtain rfl : action' = action := AnySpec.action.inj (SpecRegistry.eq_of_name
      (SpecRegistry.mem_actions.mp haction') (SpecRegistry.mem_actions.mp haction) rfl hname)
    obtain ⟨code, condition⟩ := error'
    obtain ⟨code', condition'⟩ := error
    obtain rfl : code = code' := hcode
    obtain rfl : condition = condition' := hcondition
    exact hempty
  · intro hempty
    exact ⟨_, ⟨⟨action, haction, error, herror, rfl⟩, hempty⟩, rfl⟩

theorem kept_of_register (haction : action ∈ r.actions) (herror : error ∈ action.errors)
    (h : r.register (.usecase uc) = .ok r')
    (hcovered : uncovered (coverageOf r action error) ∉ (analyze r).2) :
    uncovered (coverageOf r' action error) ∉ (analyze r').2 := by
  rw [uncovered_mem_iff haction herror] at hcovered
  obtain ⟨text, htext⟩ := List.exists_mem_of_ne_nil _ hcovered
  obtain ⟨uc', huc', hfiled, hflow⟩ := mem_coveredBy.mp htext
  have hkept : text ∈ (coverageOf r' action error).coveredBy :=
    mem_coveredBy.mpr ⟨uc', mem_usecases_register h huc', by rwa [filedUnder_register h], hflow⟩
  intro hreported
  simp only [analyze, List.mem_map, List.mem_filter, List.mem_flatMap] at hreported
  obtain ⟨coverage, ⟨⟨action', haction', error', herror', rfl⟩, hempty⟩, heq⟩ := hreported
  obtain ⟨hname, hcode, hcondition⟩ := uncovered_inj heq
  have hsame : coverageOf r' action' error' = coverageOf r' action error := by
    have hname' : action'.metadata.name = action.metadata.name := hname
    obtain ⟨code, condition⟩ := error'
    obtain ⟨code', condition'⟩ := error
    obtain rfl : code = code' := hcode
    obtain rfl : condition = condition' := hcondition
    simp only [coverageOf, hname']
  rw [hsame, Bool.not_eq_true', Bool.eq_false_iff, Ne, isCovered_iff, not_not] at hempty
  rw [hempty] at hkept
  cases hkept

theorem handlingFlows_eq_nil : handlingFlows uc error = [] ↔
    ∀ alt ∈ uc.alternativeFlows, ¬Handles alt error := by
  rw [handlingFlows, List.map_eq_nil_iff, List.filter_eq_nil_iff]
  rfl

theorem mem_handlingFlows {text : String} : text ∈ handlingFlows uc error ↔
    ∃ alt ∈ uc.alternativeFlows, Handles alt error ∧ uc.name ++ ":" ++ alt.name = text := by
  simp only [handlingFlows, List.mem_map, List.mem_filter, Handles, and_assoc]

/-- Where every covering use case is filed once, the coverage lists the covering pairs in order. -/
theorem coveredBy_of_place (haction : action ∈ r.actions)
    (h : ∀ uc alt, Covers r action error uc alt →
      (directUses uc action).length + (usesThroughComponents r uc action).length = 1) :
    (coverageOf r action error).coveredBy = (coveringPairs r action error).map pairText := by
  rw [coveredBy_eq, map_pairText_coveringPairs]
  refine List.flatMap_congr fun uc huc => ?_
  split
  · rename_i hrefs
    by_cases hempty : handlingFlows uc error = []
    · rw [hempty]
      refine List.flatMap_eq_nil_iff.mpr fun uc' huc' => ?_
      rw [List.eq_of_mem_replicate huc', hempty]
    · rw [handlingFlows_eq_nil] at hempty
      push Not at hempty
      obtain ⟨alt, halt, hhandles⟩ := hempty
      rw [count_filedUnder, h uc alt ⟨huc, hrefs, halt, hhandles⟩]
      simp
  · rename_i hrefs
    have hnot : actionRef action ∉ filedUnder r uc := fun hfiled =>
      hrefs (references_of_filed haction hfiled)
    rw [List.count_eq_zero.mpr hnot]
    rfl

theorem ExactlyCovered.place (h : ExactlyCovered r action error) (haction : action ∈ r.actions)
    (hcovers : Covers r action error uc alt) :
    (directUses uc action).length + (usesThroughComponents r uc action).length = 1 := by
  obtain ⟨huc, hrefs, halt, hhandles⟩ := hcovers
  have htexts : ((coveringPairs r action error).map pairText).Nodup := h.listed.nodup_iff.mp h.once
  have hpair : (uc, alt) ∈ coveringPairs r action error :=
    mem_coveringPairs.mpr ⟨huc, hrefs, halt, hhandles⟩
  have htext : uc.name ++ ":" ++ alt.name ∈ handlingFlows uc error :=
    mem_handlingFlows.mpr ⟨alt, halt, hhandles, rfl⟩
  -- the pair is listed, by a use case with the same pair
  have hpos : 0 < (filedUnder r uc).count (actionRef action) := by
    obtain ⟨uc', huc', hfiled, hflow⟩ :=
      mem_coveredBy.mp (h.listed.mem_iff.mpr (List.mem_map_of_mem hpair))
    obtain ⟨alt', halt', hhandles', heq⟩ := mem_handlingFlows.mp hflow
    have hpair' : (uc', alt') ∈ coveringPairs r action error :=
      mem_coveringPairs.mpr ⟨huc', references_of_filed haction hfiled, halt', hhandles'⟩
    obtain ⟨rfl, -⟩ := Prod.mk.inj (List.inj_on_of_nodup_map htexts hpair' hpair heq)
    exact List.count_pos_iff.mpr hfiled
  -- the use case is not filed twice
  have hle : (filedUnder r uc).count (actionRef action) ≤ 1 := by
    have honce := h.once
    rw [coveredBy_eq, List.nodup_flatMap] at honce
    have hpart := honce.1 uc huc
    by_contra hmore
    obtain ⟨n, hn⟩ : ∃ n, (filedUnder r uc).count (actionRef action) = n + 2 :=
      ⟨(filedUnder r uc).count (actionRef action) - 2, by omega⟩
    rw [hn, List.replicate_succ, List.replicate_succ, List.flatMap_cons, List.flatMap_cons,
      List.nodup_append] at hpart
    exact hpart.2.2 _ htext _ (List.mem_append_left _ htext) rfl
  rw [← count_filedUnder]
  omega

/-- The analysis is exact about an error when every use case that covers it names the action in one
place that the analysis reads, and only then. -/
theorem exactlyCovered_iff (r : SpecRegistry) (action : ActionSpec) (error : ErrorDef)
    (haction : action ∈ r.actions) (herror : error ∈ action.errors) :
    ExactlyCovered r action error ↔ NamedOnce r action error := by
  constructor
  · intro h
    exact ⟨fun uc alt hcovers => h.place haction hcovers, h.listed.nodup_iff.mp h.once⟩
  · intro h
    have hlisted := coveredBy_of_place haction h.place
    refine ⟨?_, hlisted ▸ List.Perm.refl _, hlisted ▸ h.texts, fun uc r' hregister =>
      kept_of_register haction herror hregister⟩
    rw [uncovered_mem_iff haction herror, hlisted, List.map_eq_nil_iff]
    constructor
    · rintro hempty ⟨uc, alt, hcovers⟩
      rw [← mem_coveringPairs, hempty] at hcovers
      cases hcovers
    · intro hnone
      by_contra hne
      obtain ⟨⟨uc, alt⟩, hpair⟩ := List.exists_mem_of_ne_nil _ hne
      exact hnone ⟨uc, alt, mem_coveringPairs.mp hpair⟩

end Listed

namespace Sample

/-- `str.lower` on ASCII text -/
scoped instance : Lowercase := ⟨String.toLower⟩

def notFound : ErrorDef := { code := "NOT_FOUND", condition := "no entry" }

def lookup : ActionSpec := { metadata := { name := "lookup" }, errors := [notFound] }

def missing : AlternativeFlow where
  name := "missing"
  trigger := "the entry is gone"
  handlesError := some "NOT_FOUND"
  steps := [{ id := "again", use := "actions/lookup" }]

/-- A use case that looks an entry up in an alternative flow only. -/
def refresh : UseCaseSpec where
  metadata := { name := "refresh" }
  steps := [{ id := "load", use := "actions/load" }]
  alternativeFlows := [missing]

/-- A use case that looks two entries up. -/
def compare : UseCaseSpec where
  metadata := { name := "compare" }
  steps := [{ id := "left", use := "actions/lookup" }, { id := "right", use := "actions/lookup" }]
  alternativeFlows := [{ missing with steps := [] }]

def registryOf (uc : UseCaseSpec) : SpecRegistry :=
  match SpecRegistry.registerAll [.action lookup, .usecase uc] with
  | .ok r => r
  | .error _ => .empty

theorem lookup_mem (uc : UseCaseSpec) : lookup ∈ (registryOf uc).actions := List.mem_cons_self

theorem exactlyCovered_iff_refresh :
    ExactlyCovered (registryOf refresh) lookup notFound ↔ NamedOnce (registryOf refresh) lookup notFound :=
  exactlyCovered_iff (registryOf refresh) lookup notFound (lookup_mem refresh) List.mem_cons_self

theorem covers_refresh : Covers (registryOf refresh) lookup notFound refresh missing :=
  ⟨List.mem_cons_self, .flowStep List.mem_cons_self List.mem_cons_self rfl, List.mem_cons_self,
    by
      unfold Handles
      decide +kernel⟩

/-- An error that a use case covers by an alternative flow is reported, where only a step of the flow
uses the action; and one is listed twice where two steps use it. -/
theorem coverage_inexact :
    (uncovered (coverageOf (registryOf refresh) lookup notFound) ∈ (analyze (registryOf refresh)).2 ∧
      Covers (registryOf refresh) lookup notFound refresh missing ∧
      ¬ExactlyCovered (registryOf refresh) lookup notFound) ∧
    (coverageOf (registryOf compare) lookup notFound).coveredBy = ["compare:missing", "compare:missing"] ∧
      ¬ExactlyCovered (registryOf compare) lookup notFound := by
  have hreported : uncovered (coverageOf (registryOf refresh) lookup notFound) ∈
      (analyze (registryOf refresh)).2 := by decide +kernel
  have htwice : (coverageOf (registryOf compare) lookup notFound).coveredBy =
      ["compare:missing", "compare:missing"] := by decide +kernel
  refine ⟨⟨hreported, covers_refresh, fun h => ?_⟩, htwice, fun h => ?_⟩
  · exact h.reported.mp hreported ⟨_, _, covers_refresh⟩
  · have honce := h.once
    rw [htwice] at honce
    exact absurd honce (by decide)

end Sample

end ErrorReachabilityAnalyzer

end Ucf.Spec
