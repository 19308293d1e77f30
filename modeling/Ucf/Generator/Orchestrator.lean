import Ucf.Generator.Interface
import Ucf.Generator.NegativeTests

/-! The tests that the pytest plugin generates for the alternative flows of a use case, and when each
generated definition has a name of its own. The conditions of calls, and whether their results are
kept, are left out. -/

namespace Ucf.Spec

/-! ### Calls -/

/-- `StepCall` -/
structure StepCall where
  var : String
  method : String
  args : List (String × PyExpr)

/-- `AltFlowTest` -/
structure AltFlowTest where
  className : String
  testName : String
  setupSteps : List StepCall
  actionSteps : List StepCall

/-- `text.replace("setup_", "")` -/
def dropSetup : List Char → List Char
  | 's' :: 'e' :: 't' :: 'u' :: 'p' :: '_' :: cs => dropSetup cs
  | c :: cs => c :: dropSetup cs
  | [] => []

/-- `main_step_deps[step.id]`, and what a step of a flow adds to `needed_steps` -/
def stepDependencies (step : StepDef) : List String :=
  collectStepRefs (.obj step.input.items) ++ findStepRefs (step.when_.getD "").toList ++
    findStepRefs (step.skipIf.getD "").toList ++ step.dependsOn

/-- The ids of main steps in a set, in the order of the steps. Other ids come last, where a visit
passes them over. -/
def mainSteps (spec : UseCaseSpec) (ids : List String) : List String :=
  spec.stepIds.filter fun id => id ∈ ids

/-- The main steps by their ids -/
def mainStepsById (spec : UseCaseSpec) : Dict String StepDef := .index StepDef.id spec.steps

/-- `_transitive_deps` -/
def transitiveDeps (spec : UseCaseSpec) (ids : List String) : List String :=
  PostOrder.gathered spec.stepIds
    (fun id => mainSteps spec (((mainStepsById spec).get? id).elim [] stepDependencies))
    (mainSteps spec ids)

section Tests

variable [ReprText]

/-- The call of a step's method -/
def stepCall (step : StepDef) (method : String) : StepCall where
  var := step.key
  method := method
  args := buildStepArgs step.input

/-- `prereq_steps` -/
def prereqSteps (spec : UseCaseSpec) (flow : AlternativeFlow) : List StepCall :=
  (transitiveDeps spec (flow.steps.flatMap stepDependencies)).filterMap fun id =>
    ((mainStepsById spec).get? id).map fun step => stepCall step (actionName step)

/-- `setup_steps` -/
def setupCalls (context : InterfaceContext) : List StepCall :=
  (context.setupMethods.zip context.setupMethodArgs).map fun (method, args) =>
    { var := String.ofList (dropSetup method.name.toList), method := method.name, args }

variable [Capitalize]

/-- The test of an alternative flow -/
def altFlowTest (spec : UseCaseSpec) (context : InterfaceContext) (flow : AlternativeFlow)
    (names : List String) : AltFlowTest where
  className := "TestAlt" ++ toPascal flow.name
  testName := toSnake flow.name
  setupSteps := setupCalls context
  actionSteps := prereqSteps spec flow ++
    (flow.steps.zip names).map fun (step, name) => stepCall step name

/-- `alt_flow_tests` -/
def altFlowTests (spec : UseCaseSpec) (context : InterfaceContext) : List AltFlowTest :=
  (spec.alternativeFlows.zip context.altActionMethodNames).map fun (flow, names) =>
    altFlowTest spec context flow names

/-- What `generate_interface` and `generate_orchestrator` render: the flattened use case, the interface
and the tests of the alternative flows. -/
def generatedDefinitions [Lowercase] [ReprStrings] (registry : SpecRegistry) (spec : UseCaseSpec) :
    Except PluginError (UseCaseSpec × InterfaceContext × List AltFlowTest) := do
  validateSpec registry spec
  let flattened ← PytestPlugin.resolveComposition registry spec
  let context ← buildContext registry flattened
  pure (flattened, context, altFlowTests flattened context)

/-! ### Names of their own -/

/-- No definition replaces another, and every test has a body. -/
structure DefinitionsDistinct (context : InterfaceContext) (tests : List AltFlowTest) : Prop where
  methods : ((context.setupMethods ++ context.actionMethods ++ context.verifyMethods).map
    MethodInfo.name).Nodup
  dataclasses : (context.dataclasses.map DataclassInfo.className).Nodup
  classes : (tests.map AltFlowTest.className).Nodup
  bodies : ∀ test ∈ tests, test.setupSteps ++ test.actionSteps ≠ []

/-- The names of a flattened use case that stay different when they are shortened, put into snake case
or capitalized. -/
structure NamesApart [Lowercase] (registry : SpecRegistry) (spec : UseCaseSpec) : Prop where
  postconditions : spec.postconditions.Pairwise fun post post' =>
    truncateName post ≠ truncateName post'
  invariants : (spec.invariants.filter fun inv => invariantName inv ≠ "").Pairwise fun inv inv' =>
    toSnake (invariantName inv) ≠ toSnake (invariantName inv')
  verifications : ∀ post ∈ spec.postconditions, ∀ inv ∈ spec.invariants, invariantName inv ≠ "" →
    truncateName post ≠ toSnake (invariantName inv)
  contexts : (requirementsOf registry spec).Pairwise fun requirement requirement' =>
    toPascal requirement.alias_ ≠ toPascal requirement'.alias_
  results : ((namedSteps spec).filter fun item => !item.1.output.isEmpty).Pairwise fun item item' =>
    resultClass item.2 ≠ resultClass item'.2
  flows : spec.alternativeFlows.Pairwise fun flow flow' => toPascal flow.name ≠ toPascal flow'.name
  bodies : ∀ flow ∈ spec.alternativeFlows, flow.steps = [] → requirementsOf registry spec ≠ []

/-- What is generated for a use case, if it is, has names of its own. -/
def GeneratesDistinct [Lowercase] [ReprStrings] (registry : SpecRegistry) (spec : UseCaseSpec) :
    Prop :=
  ∀ flattened context tests,
    generatedDefinitions registry spec = .ok (flattened, context, tests) →
      DefinitionsDistinct context tests

variable {registry : SpecRegistry} {spec flattened : UseCaseSpec} {context : InterfaceContext}
  {tests : List AltFlowTest}

/-! ### What is generated -/

/-- The parts of what is generated for a flattened use case. -/
structure IsContext [Lowercase] (registry : SpecRegistry) (spec : UseCaseSpec)
    (context : InterfaceContext) : Prop where
  stepNames : (spec.steps.map actionName).Nodup
  aliases : ((requirementsOf registry spec).map Requirement.key).Nodup
  actionMethods : context.actionMethods = (namedSteps spec).map actionMethod
  altNames : context.altActionMethodNames =
    altActionNames (spec.steps.map actionName) spec.alternativeFlows
  verifyMethods : context.verifyMethods = (verifyNames spec).map fun name => { name }
  setups : ∃ order : List Requirement, order.Perm (requirementsOf registry spec) ∧
    context.setupMethods = order.map Requirement.setupMethod ∧
    context.setupMethodArgs = order.map (fun requirement => buildStepArgs requirement.params) ∧
    context.dataclasses = order.map Requirement.dataclass ++
      (namedSteps spec).filterMap resultDataclass?

theorem isContext_of_buildContext [Lowercase] (h : buildContext registry spec = .ok context) :
    IsContext registry spec context := by
  rw [buildContext] at h
  obtain ⟨_, hnames, h⟩ := bind_eq_ok.mp h
  obtain ⟨order, horder, h⟩ := bind_eq_ok.mp h
  cases h
  cases horders : orderRequirements (requirementsOf registry spec) with
  | error error => rw [horders] at horder; cases horder
  | ok order' =>
    rw [horders] at horder
    cases horder
    have haliases : ((requirementsOf registry spec).map Requirement.key).Nodup := by
      by_contra hdup
      obtain ⟨error, herror⟩ := orderRequirements_eq_error hdup
      rw [horders] at herror
      cases herror
    have hstable := ordersRequirements_of_nodup haliases
      (numberedRequirements registry spec).property
    exact ⟨nodup_actionName hnames, haliases, rfl, rfl, rfl,
      order, hstable.perm order horders, rfl, rfl, rfl⟩

/-! ### Methods -/

theorem nodup_methods_iff [Lowercase] (h : IsContext registry spec context) :
    ((context.setupMethods ++ context.actionMethods ++ context.verifyMethods).map
      MethodInfo.name).Nodup ↔ (verifyNames spec).Nodup := by
  obtain ⟨order, hperm, hsetups, -, -⟩ := h.setups
  have hsetupNames : context.setupMethods.map MethodInfo.name =
      (order.map Requirement.key).map fun key => "setup_" ++ key := by
    rw [hsetups, List.map_map, List.map_map]
    rfl
  have hactionNames : context.actionMethods.map MethodInfo.name =
      (namedSteps spec).map Prod.snd := by
    rw [h.actionMethods, List.map_map]
    rfl
  have hverifyNames : context.verifyMethods.map MethodInfo.name = verifyNames spec := by
    rw [h.verifyMethods, List.map_map]
    exact List.map_id _
  have hverifyHead : ∀ name ∈ verifyNames spec, name.toList.head? = some 'v' := by
    intro name hname
    rcases List.mem_append.mp hname with hname | hname
    · obtain ⟨post, -, rfl⟩ := List.mem_map.mp hname
      exact head?_append rfl
    · obtain ⟨inv, -, rfl⟩ := List.mem_map.mp hname
      exact head?_append rfl
  have hsetupHead : ∀ name ∈ (order.map Requirement.key).map fun key => "setup_" ++ key,
      name.toList.head? = some 's' := by
    intro name hname
    obtain ⟨key, -, rfl⟩ := List.mem_map.mp hname
    exact head?_append rfl
  have hkeys : (order.map Requirement.key).Nodup := (hperm.map _).nodup_iff.mpr h.aliases
  rw [List.map_append, List.map_append, hsetupNames, hactionNames, hverifyNames,
    List.nodup_append, List.nodup_append]
  constructor
  · exact fun hall => hall.2.1
  · intro hverify
    refine ⟨⟨hkeys.map fun a b heq => (String.append_right_inj _).mp heq,
      nodup_namedSteps h.stepNames, ?_⟩, hverify, ?_⟩
    · rintro name hname _ hother rfl
      have hhead := hsetupHead name hname
      rw [head?_namedSteps hother] at hhead
      cases hhead
    · rintro name hname _ hother rfl
      have hhead := hverifyHead name hother
      rcases List.mem_append.mp hname with hname | hname
      · rw [hsetupHead name hname] at hhead
        cases hhead
      · rw [head?_namedSteps hname] at hhead
        cases hhead

omit [ReprText] [Capitalize] in
theorem nodup_verifyNames_iff [Lowercase] : (verifyNames spec).Nodup ↔
    (spec.postconditions.Pairwise fun post post' => truncateName post ≠ truncateName post') ∧
    ((spec.invariants.filter fun inv => invariantName inv ≠ "").Pairwise fun inv inv' =>
      toSnake (invariantName inv) ≠ toSnake (invariantName inv')) ∧
    ∀ post ∈ spec.postconditions, ∀ inv ∈ spec.invariants, invariantName inv ≠ "" →
      truncateName post ≠ toSnake (invariantName inv) := by
  rw [verifyNames, List.nodup_append]
  refine and_congr (List.pairwise_map.trans ?_) (and_congr (List.pairwise_map.trans ?_) ?_)
  · simp only [ne_eq, String.append_right_inj]
  · simp only [ne_eq, String.append_right_inj]
  · simp only [ne_eq, String.append_right_inj, List.forall_mem_map, List.mem_filter,
      decide_eq_true_eq, and_imp]

/-! ### Classes -/

omit [ReprText] [Capitalize] in
theorem append_context_ne (a b : String) : a ++ "Context" ≠ b ++ "Result" := by
  intro h
  have htail := congrArg (fun text : String => text.toList.reverse.take 2) h
  simp at htail

theorem nodup_dataclasses_iff [Lowercase] (h : IsContext registry spec context) :
    (context.dataclasses.map DataclassInfo.className).Nodup ↔
      ((requirementsOf registry spec).Pairwise fun requirement requirement' =>
        toPascal requirement.alias_ ≠ toPascal requirement'.alias_) ∧
      ((namedSteps spec).filter fun item => !item.1.output.isEmpty).Pairwise fun item item' =>
        resultClass item.2 ≠ resultClass item'.2 := by
  obtain ⟨order, hperm, -, -, hdataclasses⟩ := h.setups
  have hcontexts : (order.map Requirement.dataclass).map DataclassInfo.className =
      order.map Requirement.className := by
    rw [List.map_map]
    rfl
  have hresults : ∀ items : List (StepDef × String),
      (items.filterMap resultDataclass?).map DataclassInfo.className =
        (items.filter fun item => !item.1.output.isEmpty).map fun item => resultClass item.2 := by
    intro items
    induction items with
    | nil => rfl
    | cons item items ih =>
      cases hempty : item.1.output.isEmpty with
      | true => simp [resultDataclass?, hempty, ih]
      | false => simp [resultDataclass?, hempty, ih]
  have hdisjoint : ∀ a ∈ order.map Requirement.className,
      ∀ b ∈ ((namedSteps spec).filter fun item => !item.1.output.isEmpty).map fun item =>
        resultClass item.2, a ≠ b := by
    intro a ha b hb
    obtain ⟨requirement, -, rfl⟩ := List.mem_map.mp ha
    obtain ⟨item, -, rfl⟩ := List.mem_map.mp hb
    exact append_context_ne _ _
  rw [hdataclasses, List.map_append, hcontexts, hresults, List.nodup_append,
    (hperm.map Requirement.className).nodup_iff]
  constructor
  · rintro ⟨hfirst, hsecond, -⟩
    rw [List.Nodup, List.pairwise_map] at hfirst hsecond
    exact ⟨hfirst.imp fun hne heq => hne (by rw [Requirement.className, heq, Requirement.className]),
      hsecond⟩
  · rintro ⟨hfirst, hsecond⟩
    refine ⟨?_, List.pairwise_map.mpr hsecond, hdisjoint⟩
    exact List.pairwise_map.mpr (hfirst.imp fun hne heq => hne ((String.append_left_inj _).mp heq))

theorem altFlowTests_eq [Lowercase] (h : IsContext registry spec context) :
    (altFlowTests spec context).map AltFlowTest.className =
      spec.alternativeFlows.map fun flow => "TestAlt" ++ toPascal flow.name := by
  rw [altFlowTests, h.altNames, List.map_map]
  have hcomp : (AltFlowTest.className ∘ fun (item : AlternativeFlow × List String) =>
      altFlowTest spec context item.1 item.2) =
        (fun flow : AlternativeFlow => "TestAlt" ++ toPascal flow.name) ∘ Prod.fst := rfl
  rw [hcomp, ← List.map_map, List.map_fst_zip (by simp)]

theorem length_setupCalls [Lowercase] (h : IsContext registry spec context) :
    (setupCalls context).length = (requirementsOf registry spec).length := by
  obtain ⟨order, hperm, hsetups, hargs, -⟩ := h.setups
  rw [setupCalls, List.length_map, List.length_zip, hsetups, hargs, List.length_map,
    List.length_map, Nat.min_self, hperm.length_eq]

omit [Capitalize] in
theorem prereqSteps_of_no_steps {flow : AlternativeFlow} (h : flow.steps = []) :
    prereqSteps spec flow = [] := by
  have hids : flow.steps.flatMap stepDependencies = [] := by rw [h, List.flatMap_nil]
  have hmain : mainSteps spec [] = [] := by simp [mainSteps]
  rw [prereqSteps, hids, transitiveDeps, hmain, PostOrder.gathered, PostOrder.gatherEach]
  rfl

theorem bodies_iff [Lowercase] (h : IsContext registry spec context) :
    (∀ test ∈ altFlowTests spec context, test.setupSteps ++ test.actionSteps ≠ []) ↔
      ∀ flow ∈ spec.alternativeFlows, flow.steps = [] → requirementsOf registry spec ≠ [] := by
  have hsetups : setupCalls context = [] ↔ requirementsOf registry spec = [] := by
    rw [← List.length_eq_zero_iff, length_setupCalls h, List.length_eq_zero_iff]
  rw [altFlowTests, h.altNames]
  constructor
  · intro hall flow hflow hsteps hnone
    have hfst : flow ∈ (spec.alternativeFlows.zip (altActionNames (spec.steps.map actionName)
        spec.alternativeFlows)).map Prod.fst := by
      rw [List.map_fst_zip (by simp)]
      exact hflow
    obtain ⟨⟨flow, names⟩, hitem, rfl⟩ := List.mem_map.mp hfst
    have hempty : setupCalls context ++ (prereqSteps spec flow ++
        (flow.steps.zip names).map fun (step, name) => stepCall step name) = [] := by
      rw [hsetups.mpr hnone, prereqSteps_of_no_steps hsteps, hsteps]
      rfl
    exact hall _ (List.mem_map_of_mem hitem) hempty
  · intro hall test htest hempty
    obtain ⟨⟨flow, names⟩, hitem, rfl⟩ := List.mem_map.mp htest
    have hlength := length_of_mem_zip hitem
    obtain ⟨hsetup, haction⟩ := List.append_eq_nil_iff.mp hempty
    have hsteps := (List.append_eq_nil_iff.mp haction).2
    rw [List.map_eq_nil_iff, ← List.length_eq_zero_iff, List.length_zip, hlength, Nat.min_self,
      List.length_eq_zero_iff] at hsteps
    exact hall flow (List.of_mem_zip hitem).1 hsteps (hsetups.mp hsetup)

end Tests

/-! ### A sample -/

namespace Sample

scoped instance asciiLower : Lowercase where
  lower text := String.ofList (text.toList.map Char.toLower)

/-- A use case with two postconditions that differ in a sign. -/
def settle : UseCaseSpec where
  metadata := { name := "settle" }
  steps := [{ id := "pay", use := "actions/pay" }]
  postconditions := ["balance < limit", "balance > limit"]

theorem exists_buildContext : ∃ context, buildContext .empty settle = .ok context := by
  have horder : orderRequirements (requirementsOf .empty settle) = .ok [] := by
    have hempty : requirementsOf .empty settle = [] := rfl
    have hsearch : ∀ edges : String → List String, PostOrder.order [] edges = .ok [] :=
      fun _ => PostOrder.order_eq_of_listed .nil
    rw [hempty, orderRequirements]
    simp [byAliasOf, indexUnique, Dict.empty, hsearch, Except.mapError]
  rw [buildContext, horder]
  exact ⟨_, rfl⟩

end Sample

end Ucf.Spec
