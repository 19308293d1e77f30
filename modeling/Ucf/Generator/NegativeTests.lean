import Ucf.Generator.Names
import Ucf.Generator.References
import Ucf.Spec.ErrorCoverage

/-! The negative tests that are generated for the errors of a use case's actions, and which of them
are left when the module is read. -/

namespace Ucf.Spec

/-- `ErrorTestDef` -/
structure ErrorTestDef where
  stepId : String
  actionName : String
  errorCode : String
  condition : String

/-- What `extract_error_definitions` appends for an error -/
def errorTestDef (step : StepDef) (action : ActionSpec) (err : ErrorDef) : ErrorTestDef where
  stepId := step.id
  actionName := action.metadata.name
  errorCode := err.code
  condition := err.condition

/-- The body of the loop of `extract_error_definitions` -/
def stepErrorDefs (registry : SpecRegistry) (step : StepDef) : List ErrorTestDef :=
  match registry.resolveRef step.use with
  | some (.action action) => action.errors.map (errorTestDef step action)
  | _ => []

/-- `extract_error_definitions` -/
def extractErrorDefinitions (spec : UseCaseSpec) (registry : SpecRegistry) : List ErrorTestDef :=
  spec.steps.flatMap (stepErrorDefs registry)

/-- `method_name` -/
def errorMethodName (stepId code : String) : String :=
  "action_error_" ++ toSnake stepId ++ "_" ++ toSnake code

/-- `class_name` -/
def errorClassName [Capitalize] (code : String) : String := "TestError" ++ toPascal code

/-- A test class of the generated module, with its only method. -/
structure NegativeTest where
  className : String
  testName : String
  methodName : String
  code : String
  condition : String
deriving DecidableEq

section Tests

variable [Capitalize]

/-- The class for an error definition -/
def ErrorTestDef.test (err : ErrorTestDef) : NegativeTest where
  className := errorClassName err.errorCode
  testName := "test_" ++ toSnake err.stepId ++ "_raises_" ++ toSnake err.errorCode
  methodName := errorMethodName err.stepId err.errorCode
  code := err.errorCode
  condition := err.condition

/-- The lines of a class -/
def NegativeTest.lines [ReprText] (test : NegativeTest) : List String :=
  ["", "class " ++ test.className ++ ":", "    \"\"\"Error: " ++ test.condition ++ "\"\"\"", "",
    "    def " ++ test.testName ++ "(self, uc):",
    "        \"\"\"Condition: " ++ test.condition ++ "\"\"\"",
    "        error = uc." ++ test.methodName ++ "()", "        assert error is not None",
    "        assert error.get('code') == " ++ reprText test.code, ""]

/-- `generate_negative_test_code` -/
def generateNegativeTestCode [ReprText] (errorDefs : List ErrorTestDef) : String × List String :=
  ("\n".intercalate (["\"\"\"Negative tests for error paths.\"\"\"", "",
      "from __future__ import annotations", "", "import pytest", ""] ++
      errorDefs.flatMap fun err => err.test.lines),
    errorDefs.map fun err => errorMethodName err.stepId err.errorCode)

end Tests

/-! ### Reading the module -/

section Module

variable [PythonText]

/-- Python reads the class as it is written. -/
structure NegativeTest.Readable (test : NegativeTest) : Prop where
  className : isIdentifier test.className = true
  testName : isIdentifier test.testName = true
  methodName : isIdentifier test.methodName = true
  classDoc : isDocstring ("Error: " ++ test.condition) = true
  testDoc : isDocstring ("Condition: " ++ test.condition) = true

/-- The classes of the module, each under the name that the last definition gives it. -/
def moduleOf (tests : List NegativeTest) : Dict String NegativeTest :=
  .index (fun test => nameOf test.className) tests

/-- The tests of the classes that are left. -/
def survivors (tests : List NegativeTest) : List NegativeTest :=
  (moduleOf tests).items.map Prod.snd

end Module

section Survival

variable [Capitalize] [PythonText] (registry : SpecRegistry) (spec : UseCaseSpec)

/-- A step uses an action. -/
def UsesAction (step : StepDef) (action : ActionSpec) : Prop :=
  registry.resolveRef step.use = some (.action action)

/-- The classes of the generated module. -/
def negativeTests : List NegativeTest :=
  (extractErrorDefinitions spec registry).map ErrorTestDef.test

/-- The generated text is a module, in which each error of each step has one test that is left, and
the returned names have its method once. -/
structure ErrorsSurvive [ReprText] : Prop where
  readable : ∀ test ∈ negativeTests registry spec, test.Readable
  survives : ∀ step ∈ spec.steps, ∀ action, UsesAction registry step action → ∀ error ∈ action.errors,
    ((survivors (negativeTests registry spec)).filter fun test =>
      test.methodName = errorMethodName step.id error.code ∧ test.code = error.code).length = 1
  listed : ∀ step ∈ spec.steps, ∀ action, UsesAction registry step action → ∀ error ∈ action.errors,
    (generateNegativeTestCode (extractErrorDefinitions spec registry)).2.count
      (errorMethodName step.id error.code) = 1

/-- Two errors of two steps have different classes and methods. -/
def ToldApart (step : StepDef) (error : ErrorDef) (step' : StepDef) (error' : ErrorDef) : Prop :=
  nameOf (errorClassName error.code) ≠ nameOf (errorClassName error'.code) ∧
    errorMethodName step.id error.code ≠ errorMethodName step'.id error'.code

/-- The names made from the errors that the steps declare are identifiers and different, and their
conditions stay inside their docstrings. -/
structure ErrorsToldApart : Prop where
  readable : ∀ step ∈ spec.steps, ∀ action, UsesAction registry step action → ∀ error ∈ action.errors,
    isIdentifier (errorClassName error.code) = true ∧
      isIdentifier ("test_" ++ toSnake step.id ++ "_raises_" ++ toSnake error.code) = true ∧
      isIdentifier (errorMethodName step.id error.code) = true ∧
      isDocstring ("Error: " ++ error.condition) = true ∧
      isDocstring ("Condition: " ++ error.condition) = true
  within : ∀ step ∈ spec.steps, ∀ action, UsesAction registry step action →
    action.errors.Pairwise fun error error' => ToldApart step error step error'
  between : spec.steps.Pairwise fun step step' => ∀ action action', UsesAction registry step action →
    UsesAction registry step' action' → ∀ error ∈ action.errors, ∀ error' ∈ action'.errors,
      ToldApart step error step' error'

variable {registry spec}

omit [Capitalize] [PythonText] in
theorem mem_stepErrorDefs {step : StepDef} {err : ErrorTestDef} :
    err ∈ stepErrorDefs registry step ↔ ∃ action, UsesAction registry step action ∧
      ∃ error ∈ action.errors, err = errorTestDef step action error := by
  rw [stepErrorDefs]
  constructor
  · intro h
    split at h
    · obtain ⟨error, herror, rfl⟩ := List.mem_map.mp h
      exact ⟨_, ‹_›, error, herror, rfl⟩
    · cases h
  · rintro ⟨action, huses, error, herror, rfl⟩
    rw [UsesAction] at huses
    rw [huses]
    exact List.mem_map_of_mem herror

omit [PythonText] in
/-- The tests of a use case are those of the errors that its steps declare. -/
theorem mem_negativeTests {test : NegativeTest} : test ∈ negativeTests registry spec ↔
    ∃ step ∈ spec.steps, ∃ action, UsesAction registry step action ∧ ∃ error ∈ action.errors,
      test = (errorTestDef step action error).test := by
  simp only [negativeTests, extractErrorDefinitions, List.mem_map, List.mem_flatMap,
    mem_stepErrorDefs]
  constructor
  · rintro ⟨_, ⟨step, hstep, action, huses, error, herror, rfl⟩, rfl⟩
    exact ⟨step, hstep, action, huses, error, herror, rfl⟩
  · rintro ⟨step, hstep, action, huses, error, herror, rfl⟩
    exact ⟨_, ⟨step, hstep, action, huses, error, herror, rfl⟩, rfl⟩

/-- Tests of different classes and methods. -/
def TestsApart (test test' : NegativeTest) : Prop :=
  nameOf test.className ≠ nameOf test'.className ∧ test.methodName ≠ test'.methodName

theorem testsApart_test {step step' : StepDef} {action action' : ActionSpec}
    {error error' : ErrorDef} :
    TestsApart (errorTestDef step action error).test (errorTestDef step' action' error').test ↔
      ToldApart step error step' error' := Iff.rfl

/-- The errors are told apart exactly when the tests are. -/
theorem pairwise_negativeTests_iff : (negativeTests registry spec).Pairwise TestsApart ↔
    (∀ step ∈ spec.steps, ∀ action, UsesAction registry step action →
      action.errors.Pairwise fun error error' => ToldApart step error step error') ∧
    spec.steps.Pairwise fun step step' => ∀ action action', UsesAction registry step action →
      UsesAction registry step' action' → ∀ error ∈ action.errors, ∀ error' ∈ action'.errors,
        ToldApart step error step' error' := by
  rw [negativeTests, List.pairwise_map, extractErrorDefinitions, List.pairwise_flatMap]
  refine and_congr ?_ (List.Pairwise.iff fun step step' => ?_)
  · refine forall_congr' fun step => forall_congr' fun _ => ?_
    rw [stepErrorDefs]
    constructor
    · intro h action huses
      rw [UsesAction] at huses
      rw [huses] at h
      simpa only [List.pairwise_map, testsApart_test] using h
    · intro h
      split
      · simpa only [List.pairwise_map, testsApart_test] using h _ ‹_›
      · exact .nil
  · simp only [mem_stepErrorDefs]
    constructor
    · intro h action action' huses huses' error herror error' herror'
      exact testsApart_test.mp
        (h _ ⟨action, huses, error, herror, rfl⟩ _ ⟨action', huses', error', herror', rfl⟩)
    · rintro h _ ⟨action, huses, error, herror, rfl⟩ _ ⟨action', huses', error', herror', rfl⟩
      exact testsApart_test.mpr (h action action' huses huses' error herror error' herror')

/-! ### What is left of a list of tests -/

omit [Capitalize] in
theorem survivors_of_pairwise {tests : List NegativeTest} (h : tests.Pairwise TestsApart) :
    survivors tests = tests := by
  have hnodup : (tests.map fun test => nameOf test.className).Nodup := by
    rw [List.Nodup, List.pairwise_map]
    exact h.imp fun hapart => hapart.1
  rw [survivors, moduleOf, Dict.index_items hnodup, List.map_map]
  exact List.map_id tests

omit [Capitalize] in
/-- Where every test is left, no two are of one class. -/
theorem nodup_className_of_subset {tests : List NegativeTest} (hnodup : tests.Nodup)
    (h : tests ⊆ survivors tests) : (tests.map fun test => nameOf test.className).Nodup := by
  have hkey : ∀ test ∈ survivors tests,
      (nameOf test.className, test) ∈ (moduleOf tests).items := by
    intro test htest
    obtain ⟨⟨key, test⟩, hitem, rfl⟩ := List.mem_map.mp htest
    obtain ⟨-, rfl⟩ := Dict.mem_of_get?_index (Dict.get?_eq_some.mpr hitem)
    exact hitem
  refine hnodup.map_on fun test htest test' htest' heq => ?_
  have hitem := Dict.get?_eq_some.mpr (hkey test (h htest))
  have hitem' := Dict.get?_eq_some.mpr (hkey test' (h htest'))
  rw [heq, hitem'] at hitem
  exact (Option.some.inj hitem).symm

omit [Capitalize] in
theorem mem_of_mem_survivors {tests : List NegativeTest} {test : NegativeTest}
    (h : test ∈ survivors tests) : test ∈ tests := by
  obtain ⟨⟨key, test⟩, hitem, rfl⟩ := List.mem_map.mp h
  exact (Dict.mem_of_get?_index (Dict.get?_eq_some.mpr hitem)).1

omit [Capitalize] [PythonText] in
theorem length_filter_eq_one {tests : List NegativeTest}
    (h : (tests.map NegativeTest.methodName).Nodup) {test : NegativeTest} (hmem : test ∈ tests) :
    (tests.filter fun other => other.methodName = test.methodName ∧ other.code = test.code).length =
      1 := by
  have hfound : test ∈ tests.filter fun other =>
      other.methodName = test.methodName ∧ other.code = test.code := by simp [hmem]
  have honly : ∀ other ∈ tests.filter fun other =>
      other.methodName = test.methodName ∧ other.code = test.code, other = test := by
    intro other hother
    obtain ⟨hother, heq⟩ := List.mem_filter.mp hother
    rw [decide_eq_true_iff] at heq
    exact List.inj_on_of_nodup_map h hother hmem heq.1
  have hnodup := h.of_map.filter fun other =>
    decide (other.methodName = test.methodName ∧ other.code = test.code)
  revert hfound honly hnodup
  generalize tests.filter _ = found
  intro hfound honly hnodup
  match found with
  | [] => cases hfound
  | [_] => rfl
  | a :: b :: _ =>
    have ha := honly a (by simp)
    have hb := honly b (by simp)
    rw [ha, hb] at hnodup
    simp at hnodup

omit [PythonText] in
theorem snd_generateNegativeTestCode [ReprText] :
    (generateNegativeTestCode (extractErrorDefinitions spec registry)).2 =
      (negativeTests registry spec).map NegativeTest.methodName := by
  rw [generateNegativeTestCode, negativeTests, List.map_map]
  rfl

/-- The methods of the tests are different when each error's method is listed once. -/
theorem ErrorsSurvive.nodup_methodName [ReprText] (h : ErrorsSurvive registry spec) :
    ((negativeTests registry spec).map NegativeTest.methodName).Nodup := by
  refine List.nodup_iff_count_le_one.mpr fun name => ?_
  by_cases hname : name ∈ (negativeTests registry spec).map NegativeTest.methodName
  · obtain ⟨test, htest, rfl⟩ := List.mem_map.mp hname
    obtain ⟨step, hstep, action, huses, error, herror, rfl⟩ := mem_negativeTests.mp htest
    have hcount := h.listed step hstep action huses error herror
    rw [snd_generateNegativeTestCode] at hcount
    exact hcount.le
  · rw [List.count_eq_zero_of_not_mem hname]
    exact Nat.zero_le _

/-- Every test is left when each error has one. -/
theorem ErrorsSurvive.subset [ReprText] (h : ErrorsSurvive registry spec) :
    negativeTests registry spec ⊆ survivors (negativeTests registry spec) := by
  intro test htest
  obtain ⟨step, hstep, action, huses, error, herror, rfl⟩ := mem_negativeTests.mp htest
  have hlength := h.survives step hstep action huses error herror
  obtain ⟨other, hother⟩ := List.exists_mem_of_length_pos (by rw [hlength]; exact Nat.one_pos)
  obtain ⟨hsurvives, hmatch⟩ := List.mem_filter.mp hother
  rw [decide_eq_true_iff] at hmatch
  have heq := List.inj_on_of_nodup_map h.nodup_methodName (mem_of_mem_survivors hsurvives) htest
    hmatch.1
  rwa [← heq]

/-- Each error of each step has its negative test exactly when the errors are told apart. -/
theorem errorsSurvive_iff [ReprText] :
    ErrorsSurvive registry spec ↔ ErrorsToldApart registry spec := by
  constructor
  · intro h
    have hmethods := h.nodup_methodName
    have hclasses := nodup_className_of_subset hmethods.of_map h.subset
    rw [List.Nodup, List.pairwise_map] at hmethods hclasses
    obtain ⟨hwithin, hbetween⟩ := pairwise_negativeTests_iff.mp (hclasses.and hmethods)
    refine ⟨fun step hstep action huses error herror => ?_, hwithin, hbetween⟩
    have hreadable := h.readable _
      (mem_negativeTests.mpr ⟨step, hstep, action, huses, error, herror, rfl⟩)
    exact ⟨hreadable.className, hreadable.testName, hreadable.methodName, hreadable.classDoc,
      hreadable.testDoc⟩
  · intro h
    have hapart := pairwise_negativeTests_iff.mpr ⟨h.within, h.between⟩
    have hmethods : ((negativeTests registry spec).map NegativeTest.methodName).Nodup := by
      rw [List.Nodup, List.pairwise_map]
      exact hapart.imp fun h => h.2
    refine ⟨?_, ?_, ?_⟩
    · intro test htest
      obtain ⟨step, hstep, action, huses, error, herror, rfl⟩ := mem_negativeTests.mp htest
      obtain ⟨hclass, htest, hmethod, hdoc, hdoc'⟩ :=
        h.readable step hstep action huses error herror
      exact ⟨hclass, htest, hmethod, hdoc, hdoc'⟩
    · intro step hstep action huses error herror
      rw [survivors_of_pairwise hapart]
      exact length_filter_eq_one hmethods
        (mem_negativeTests.mpr ⟨step, hstep, action, huses, error, herror, rfl⟩)
    · intro step hstep action huses error herror
      rw [snd_generateNegativeTestCode]
      refine List.count_eq_one_of_mem hmethods ?_
      exact List.mem_map_of_mem
        (mem_negativeTests.mpr ⟨step, hstep, action, huses, error, herror, rfl⟩)

end Survival

/-! ### A sample -/

namespace Sample

/-- Identifiers of ASCII letters, and texts without quotes, backslashes and ends of line. -/
scoped instance asciiPython : PythonText where
  isIdentifier text := text.toList.all fun c => isStepIdChar c && c != '-'
  nameOf := id
  isDocstring text := text.toList.all fun c => c != '"' && c != '\\' && c != '\n'

scoped instance asciiCapitalize : Capitalize where
  capitalize text :=
    match text.toList with
    | [] => ""
    | c :: cs => String.ofList (c.toUpper :: cs.map Char.toLower)

open ErrorReachabilityAnalyzer.Sample (registryOf lookup notFound)

/-- Of the two tests for the error of an action that two steps use, the first is replaced. -/
theorem not_errorsSurvive_compare : ¬ErrorsSurvive
    (registryOf ErrorReachabilityAnalyzer.Sample.compare)
    ErrorReachabilityAnalyzer.Sample.compare := by
  intro h
  have hleft := h.survives { id := "left", use := "actions/lookup" } List.mem_cons_self lookup rfl
    notFound List.mem_cons_self
  exact absurd hleft (by decide +kernel)

end Sample

end Ucf.Spec
