import Ucf.Generator.Names
import Ucf.Generator.Requirements
import Ucf.Spec.Composition

/-! The interface that the pytest plugin generates for a use case: its dataclasses and methods by their
names. The types of fields and parameters are left out. -/

namespace Ucf.Spec

/-- What `generate_interface` raises -/
inductive PluginError where
  | composition (error : CompositionError)
  /-- `UnsupportedFeatureError` -/
  | unsupported (usecaseName : String) (features : List String)
  /-- The `ValueError` of `_validate_python_step_names` -/
  | stepNames (previous id flowName : String)
  | order (error : OrderError)

/-- The texts of the `ValueError`s -/
def PluginError.message : PluginError → String
  | .composition error => error.text
  | .unsupported usecaseName features => "Generator 'pytest' cannot generate use case '" ++
      usecaseName ++ "': unsupported feature(s): " ++ ", ".intercalate features
  | .stepNames previous id flowName => "Step IDs '" ++ previous ++ "' and '" ++ id ++ "' in " ++
      flowName ++ " normalize to the same Python name"
  | .order error => error.message

/-! ### Checks -/

/-- `_resolve_composition` -/
def PytestPlugin.resolveComposition [ReprStrings] (registry : SpecRegistry) (spec : UseCaseSpec) :
    Except PluginError UseCaseSpec :=
  match spec.extends_ with
  | none => .ok spec
  | some _ => ((resolveExtends registry spec).mapError .composition).map Prod.fst

/-- `unsupported` -/
def unsupportedFields (resolved : UseCaseSpec) : List String :=
  (resolved.steps.filter fun step => step.retry.isSome).map (fun step =>
    "steps." ++ step.id ++ ".retry") ++
  resolved.alternativeFlows.flatMap fun flow =>
    (flow.steps.filter fun step => step.retry.isSome).map fun step =>
      "alternative_flows." ++ flow.name ++ ".steps." ++ step.id ++ ".retry"

/-- `PytestPlugin.validate_spec` -/
def validateSpec [ReprStrings] (registry : SpecRegistry) (spec : UseCaseSpec) :
    Except PluginError Unit := do
  let resolved ← PytestPlugin.resolveComposition registry spec
  require (unsupportedFields resolved = []) (.unsupported spec.name (unsupportedFields resolved))

/-- `_to_snake(step.id)` -/
def StepDef.key (step : StepDef) : String := toSnake step.id

/-- A round of the loop of `_validate_python_step_names` -/
def validateFlowNames (flow : String × List StepDef) : Except PluginError Unit :=
  match indexUnique StepDef.key .empty flow.2 with
  | .error (previous, step) => .error (.stepNames previous.id step.id flow.1)
  | .ok _ => .ok ()

/-- `flows` -/
def namedFlows (spec : UseCaseSpec) : List (String × List StepDef) :=
  ("happy path", spec.steps) :: spec.alternativeFlows.map fun flow =>
    ("alternative flow '" ++ flow.name ++ "'", flow.steps)

/-- `_validate_python_step_names` -/
def validatePythonStepNames (spec : UseCaseSpec) : Except PluginError Unit :=
  checkEach (fun _ flow => validateFlowNames flow) (namedFlows spec)

/-! ### Methods -/

/-- `DataclassInfo`, with the names of its fields -/
structure DataclassInfo where
  className : String
  fields : List String

/-- `MethodInfo`, with the names of its parameters -/
structure MethodInfo where
  name : String
  params : List String := []
  returnType : String := "Any"

/-- `method_name`, where it is not used yet -/
def actionName (step : StepDef) : String := "action_" ++ step.key

/-- `method_name` of a step of an alternative flow -/
def flowActionName (used : List String) (flow : AlternativeFlow) (step : StepDef) : String :=
  uniqueName used (if actionName step ∈ used then
    "action_" ++ toSnake flow.name ++ "_" ++ step.key else actionName step)

/-- The names of a flow's steps, where `used` holds those given before. -/
def flowActionNames (used : List String) (flow : AlternativeFlow) : List StepDef → List String
  | [] => []
  | step :: steps =>
    flowActionName used flow step ::
      flowActionNames (flowActionName used flow step :: used) flow steps

/-- `alt_action_method_names` -/
def altActionNames (used : List String) : List AlternativeFlow → List (List String)
  | [] => []
  | flow :: flows =>
    flowActionNames used flow flow.steps ::
      altActionNames (flowActionNames used flow flow.steps ++ used) flows

/-- The steps of a use case and of its flows, each with the name of its method. -/
def namedSteps (spec : UseCaseSpec) : List (StepDef × String) :=
  spec.steps.map (fun step => (step, actionName step)) ++
    (spec.alternativeFlows.zip (altActionNames (spec.steps.map actionName) spec.alternativeFlows)
      ).flatMap fun (flow, names) => flow.steps.zip names

/-- `inv_name` -/
def invariantName (inv : Binding InvariantSpec) : String :=
  String.ofList (afterLast (· = '/') (invariantReference inv).toList)

/-- The names of `verify_methods` -/
def verifyNames [Lowercase] (spec : UseCaseSpec) : List String :=
  spec.postconditions.map (fun post => "verify_" ++ truncateName post) ++
    (spec.invariants.filter fun inv => invariantName inv ≠ "").map fun inv =>
      "verify_" ++ toSnake (invariantName inv)

section Context

variable [Capitalize]

/-- The class of the context that a setup returns -/
def Requirement.className (requirement : Requirement) : String :=
  toPascal requirement.alias_ ++ "Context"

def Requirement.setupMethod (requirement : Requirement) : MethodInfo where
  name := "setup_" ++ requirement.key
  params := requirement.params.keys.map toSnake
  returnType := requirement.className

def Requirement.dataclass (requirement : Requirement) : DataclassInfo where
  className := requirement.className
  fields := requirement.component.provides.keys.map toSnake

/-- The class of the result that a method returns -/
def resultClass (methodName : String) : String :=
  capitalizeParts '_' (String.ofList (methodName.toList.drop "action_".length)) ++ "Result"

/-- `build_action_method` -/
def actionMethod : StepDef × String → MethodInfo
  | (step, name) =>
    { name, params := step.input.keys.map toSnake
      returnType := if step.output.isEmpty then "None" else resultClass name }

/-- The dataclass that `build_action_method` appends -/
def resultDataclass? : StepDef × String → Option DataclassInfo
  | (step, name) =>
    if step.output.isEmpty then none
    else some ⟨resultClass name, step.output.items.map fun (_, binding) => toSnake binding⟩

/-- What `_build_context` returns -/
structure InterfaceContext where
  usecaseName : String
  interfaceClass : String
  dataclasses : List DataclassInfo
  setupMethods : List MethodInfo
  setupMethodArgs : List (List (String × PyExpr))
  actionMethods : List MethodInfo
  mainActionMethodNames : List String
  altActionMethodNames : List (List String)
  verifyMethods : List MethodInfo

/-- `_build_context` -/
def buildContext [Lowercase] [ReprText] (registry : SpecRegistry) (spec : UseCaseSpec) :
    Except PluginError InterfaceContext := do
  validatePythonStepNames spec
  let requirements ← (orderRequirements (requirementsOf registry spec)).mapError .order
  pure {
    usecaseName := spec.name
    interfaceClass := toPascal spec.name ++ "Interface"
    dataclasses := requirements.map Requirement.dataclass ++
      (namedSteps spec).filterMap resultDataclass?
    setupMethods := requirements.map Requirement.setupMethod
    setupMethodArgs := requirements.map fun requirement => buildStepArgs requirement.params
    actionMethods := (namedSteps spec).map actionMethod
    mainActionMethodNames := spec.steps.map actionName
    altActionMethodNames := altActionNames (spec.steps.map actionName) spec.alternativeFlows
    verifyMethods := (verifyNames spec).map fun name => { name } }

/-- `generate_interface`, up to the rendering of its context -/
def interfaceContext [Lowercase] [ReprText] [ReprStrings] (registry : SpecRegistry)
    (spec : UseCaseSpec) : Except PluginError InterfaceContext := do
  validateSpec registry spec
  let spec ← PytestPlugin.resolveComposition registry spec
  buildContext registry spec

end Context

/-! ### The names of action methods -/

section ActionNames

variable {used : List String} {flow : AlternativeFlow} {flows : List AlternativeFlow}
  {steps : List StepDef} {spec : UseCaseSpec}

@[simp] theorem length_flowActionNames :
    (flowActionNames used flow steps).length = steps.length := by
  induction steps generalizing used with
  | nil => rfl
  | cons step steps ih => rw [flowActionNames, List.length_cons, ih, List.length_cons]

/-- The names given to a flow are new and different. -/
theorem flowActionNames_fresh : (flowActionNames used flow steps).Nodup ∧
    ∀ name ∈ flowActionNames used flow steps, name ∉ used := by
  induction steps generalizing used with
  | nil => exact ⟨List.nodup_nil, by simp [flowActionNames]⟩
  | cons step steps ih =>
    obtain ⟨hnodup, hfresh⟩ := @ih (flowActionName used flow step :: used)
    rw [flowActionNames, List.nodup_cons, List.forall_mem_cons]
    refine ⟨⟨fun hmem => hfresh _ hmem List.mem_cons_self, hnodup⟩, ?_, ?_⟩
    · exact uniqueName_notMem used _
    · exact fun name hname hused => hfresh name hname (List.mem_cons_of_mem _ hused)

@[simp] theorem length_altActionNames : (altActionNames used flows).length = flows.length := by
  induction flows generalizing used with
  | nil => rfl
  | cons flow flows ih => rw [altActionNames, List.length_cons, ih, List.length_cons]

/-- The names given to all flows are new and different. -/
theorem altActionNames_fresh : (altActionNames used flows).flatten.Nodup ∧
    ∀ name ∈ (altActionNames used flows).flatten, name ∉ used := by
  induction flows generalizing used with
  | nil => exact ⟨List.nodup_nil, by simp [altActionNames]⟩
  | cons flow flows ih =>
    obtain ⟨hnodup, hfresh⟩ := @ih (flowActionNames used flow flow.steps ++ used)
    obtain ⟨hfirst, hnew⟩ := @flowActionNames_fresh used flow flow.steps
    rw [altActionNames, List.flatten_cons, List.nodup_append]
    refine ⟨⟨hfirst, hnodup, fun name hname other hother heq => ?_⟩, fun name hname hused => ?_⟩
    · exact hfresh other hother (List.mem_append_left _ (heq ▸ hname))
    · rcases List.mem_append.mp hname with hname | hname
      · exact hnew name hname hused
      · exact hfresh name hname (List.mem_append_right _ hused)

theorem length_of_mem_zip {names : List String} (h : (flow, names) ∈ flows.zip (altActionNames used flows)) :
    names.length = flow.steps.length := by
  induction flows generalizing used with
  | nil => cases h
  | cons first flows ih =>
    rw [altActionNames, List.zip_cons_cons] at h
    rcases List.mem_cons.mp h with heq | h
    · cases heq
      exact length_flowActionNames
    · exact ih h

theorem map_snd_namedFlowSteps : ((flows.zip (altActionNames used flows)).flatMap
    fun (flow, names) => flow.steps.zip names).map Prod.snd =
      (altActionNames used flows).flatten := by
  induction flows generalizing used with
  | nil => rfl
  | cons flow flows ih =>
    rw [altActionNames, List.zip_cons_cons, List.flatMap_cons, List.map_append, ih,
      List.flatten_cons]
    congr 1
    exact List.map_snd_zip (by simp)

/-- The methods of steps have names of their own when the main steps have. -/
theorem nodup_namedSteps (h : (spec.steps.map actionName).Nodup) :
    ((namedSteps spec).map Prod.snd).Nodup := by
  obtain ⟨hnodup, hfresh⟩ :=
    @altActionNames_fresh (spec.steps.map actionName) spec.alternativeFlows
  rw [namedSteps, List.map_append, map_snd_namedFlowSteps, List.map_map, List.nodup_append]
  refine ⟨h, hnodup, fun name hname other hother heq => hfresh other hother ?_⟩
  rwa [← heq]

theorem nodup_actionName (h : validatePythonStepNames spec = .ok ()) :
    (spec.steps.map actionName).Nodup := by
  have hflow : validateFlowNames ("happy path", spec.steps) = .ok () :=
    (checkEach_eq_ok_of_iff (P := fun flow => validateFlowNames flow = .ok ())
      fun _ _ => Iff.rfl).mp h _ List.mem_cons_self
  rw [validateFlowNames] at hflow
  split at hflow
  · cases hflow
  · rename_i hindex
    have hnodup := (indexUnique_eq_ok.mp hindex).1
    have hmap : spec.steps.map actionName =
        (spec.steps.map StepDef.key).map fun key => "action_" ++ key := by
      rw [List.map_map]
      rfl
    rw [hmap]
    exact hnodup.map fun a b heq => (String.append_right_inj _).mp heq

theorem head?_append {text : String} {c : Char} {start : String} (h : start.toList.head? = some c) :
    (start ++ text).toList.head? = some c := by
  rw [String.toList_append, List.head?_append, h, Option.some_or]

theorem head?_flowActionName {step : StepDef} :
    (flowActionName used flow step).toList.head? = some 'a' := by
  have hstart : ∀ text : String, ("action_" ++ text).toList.head? = some 'a' :=
    fun text => head?_append rfl
  obtain ⟨rest, hrest⟩ := prefix_uniqueName used (if actionName step ∈ used then
    "action_" ++ toSnake flow.name ++ "_" ++ step.key else actionName step)
  rw [flowActionName, ← hrest, List.head?_append]
  split
  · rw [String.append_assoc, String.append_assoc, hstart, Option.some_or]
  · rw [actionName, hstart, Option.some_or]

theorem head?_of_mem_altActionNames {name : String}
    (h : name ∈ (altActionNames used flows).flatten) : name.toList.head? = some 'a' := by
  have hflow : ∀ {used steps} {flow : AlternativeFlow}, name ∈ flowActionNames used flow steps →
      name.toList.head? = some 'a' := by
    intro used steps flow hname
    induction steps generalizing used with
    | nil => cases hname
    | cons step steps ih =>
      rcases List.mem_cons.mp hname with rfl | hname
      · exact head?_flowActionName
      · exact ih hname
  induction flows generalizing used with
  | nil => cases h
  | cons flow flows ih =>
    rw [altActionNames, List.flatten_cons] at h
    rcases List.mem_append.mp h with h | h
    · exact hflow h
    · exact ih h

/-- The names of the methods of steps start with an `a`. -/
theorem head?_namedSteps {name : String} (h : name ∈ (namedSteps spec).map Prod.snd) :
    name.toList.head? = some 'a' := by
  rw [namedSteps, List.map_append, map_snd_namedFlowSteps, List.map_map] at h
  rcases List.mem_append.mp h with h | h
  · obtain ⟨step, -, rfl⟩ := List.mem_map.mp h
    exact head?_append rfl
  · exact head?_of_mem_altActionNames h

end ActionNames

end Ucf.Spec
