import Mathlib.Data.List.Infix
import Ucf.Library.Lookup
import Ucf.Spec.Findings
import Ucf.Spec.Validator

/-! The completeness analyses that follow references: the errors of actions that alternative flows
handle, and the invariants that use cases exercise. -/

namespace Ucf.Spec

/-- `str.lower`, which depends on the Unicode tables of the interpreter. -/
class Lowercase where
  lower : String → String

export Lowercase (lower)

/-- Where `str.split()` separates words. -/
def isSeparator (c : Char) : Bool := isSpace c || (0x1c ≤ c.toNat && c.toNat ≤ 0x1f)

/-- `set(text.split())` -/
def wordSet (text : String) : List (List Char) :=
  ((text.toList.splitOnP isSeparator).filter fun word => word ≠ []).dedup

/-! ### Error reachability -/

/-- `ErrorCoverage` -/
structure ErrorCoverage where
  actionName : String
  errorCode : String
  errorCondition : String
  coveredBy : List String
deriving DecidableEq

/-- `is_covered` -/
def ErrorCoverage.isCovered (coverage : ErrorCoverage) : Bool := 0 < coverage.coveredBy.length

/-- `comp_actions`. The order of a set is not determined; nothing here depends on it. -/
def compActions (r : SpecRegistry) : Dict String (List String) :=
  .ofList (r.components.map fun comp =>
    ("components/" ++ comp.metadata.name, (comp.steps.map StepDef.use).dedup))

/-- The references of a use case under which the error analysis files it. -/
def filedUnder (r : SpecRegistry) (uc : UseCaseSpec) : List String :=
  uc.steps.map StepDef.use ++
    uc.requires.flatMap fun requirement => ((compActions r).get? requirement.ref).getD []

namespace ErrorReachabilityAnalyzer

/-- `ErrorReachabilityAnalyzer._build_action_uc_map` -/
def buildActionUcMap (r : SpecRegistry) : Dict String (List UseCaseSpec) :=
  .collect (r.usecases.flatMap fun uc => (filedUnder r uc).map fun ref => (ref, uc))

variable [Lowercase]

/-- `_alt_handles_error`. In floating point `0.6 * n` is `3 * n / 5` when five divides `n`, and
otherwise nearer to it than any integer is. -/
def altHandlesError (alt : AlternativeFlow) (errorCode errorCondition : String) : Bool :=
  let codeLower := (lower errorCode).toList.map fun c => if c = '_' then '-' else c
  let conditionWords := wordSet (lower errorCondition)
  let triggerWords := wordSet (lower alt.trigger)
  present? alt.handlesError = some errorCode ∨
  codeLower <:+: (lower alt.name).toList ∨
  codeLower <:+: (lower alt.trigger).toList ∨
  (3 ≤ conditionWords.length ∧
    3 * conditionWords.length ≤ 5 * (conditionWords.filter fun w => w ∈ triggerWords).length)

/-- The flows of a use case that handle an error, as they are listed in a coverage. -/
def handlingFlows (uc : UseCaseSpec) (error : ErrorDef) : List String :=
  (uc.alternativeFlows.filter fun alt => altHandlesError alt error.code error.condition).map
    fun alt => uc.name ++ ":" ++ alt.name

/-- The coverage of one error of an action. -/
def coverageOf (r : SpecRegistry) (action : ActionSpec) (error : ErrorDef) : ErrorCoverage where
  actionName := action.metadata.name
  errorCode := error.code
  errorCondition := error.condition
  coveredBy :=
    (((buildActionUcMap r).get? ("actions/" ++ action.metadata.name)).getD []).flatMap fun uc =>
      handlingFlows uc error

/-- The finding about an error that nothing handles. -/
def uncovered (coverage : ErrorCoverage) : Finding :=
  ⟨.warning, .uncoveredError, "actions/" ++ coverage.actionName,
    "Error '" ++ coverage.errorCode ++ "' (condition: " ++ coverage.errorCondition ++
      ") is not handled by any use case alternative flow",
    "Add an alternative_flow with handles_error: " ++ coverage.errorCode ++
      " to a use case that references this action"⟩

/-- `ErrorReachabilityAnalyzer.analyze` -/
def analyze (r : SpecRegistry) : List ErrorCoverage × List Finding :=
  let coverages := r.actions.flatMap fun action => action.errors.map (coverageOf r action)
  (coverages, (coverages.filter fun coverage => !coverage.isCovered).map uncovered)

end ErrorReachabilityAnalyzer

/-! ### Invariant necessity -/

/-- `InvariantCoverage` -/
structure InvariantCoverage where
  invariantName : String
  appliesToActions : List String
  exercisedByUcs : List String
deriving DecidableEq

/-- `is_testable` -/
def InvariantCoverage.isTestable (coverage : InvariantCoverage) : Bool :=
  0 < coverage.exercisedByUcs.length

namespace InvariantNecessityAnalyzer

/-- `InvariantNecessityAnalyzer._build_action_uc_map` -/
def buildActionUcMap (r : SpecRegistry) : Dict String (List UseCaseSpec) :=
  .collect (r.usecases.flatMap fun uc => uc.steps.map fun step => (step.use, uc))

/-- The reference to an action that a binding is taken for. -/
def boundAction (ref : String) : String :=
  if "actions/".toList.isPrefixOf ref.toList then ref else "actions/" ++ ref

/-- `_get_bound_actions` -/
def getBoundActions (inv : InvariantSpec) : List String :=
  inv.appliesTo.filterMap fun binding => (present? binding.action).map boundAction

/-- `_find_ucs_referencing_invariant` -/
def findUcsReferencingInvariant (r : SpecRegistry) (inv : InvariantSpec) : List String :=
  (r.usecases.filter fun uc =>
    "invariants/" ++ inv.metadata.name ∈ uc.invariants.map invariantReference).map UseCaseSpec.name

/-- The use cases with a step that a bound action names. -/
def exercisingUcs (r : SpecRegistry) (inv : InvariantSpec) : List String :=
  (getBoundActions inv).flatMap fun ref =>
    (((buildActionUcMap r).get? ref).getD []).map UseCaseSpec.name

/-- The coverage of one invariant. -/
def coverageOf (r : SpecRegistry) (inv : InvariantSpec) : InvariantCoverage where
  invariantName := inv.metadata.name
  appliesToActions := getBoundActions inv
  exercisedByUcs := sortedSet (if exercisingUcs r inv = [] then findUcsReferencingInvariant r inv
    else exercisingUcs r inv)

/-- The finding about an invariant that nothing exercises. -/
def untestable (inv : InvariantSpec) : Finding :=
  let name := inv.metadata.name
  ⟨.info, .untestableInvariant, "invariants/" ++ name,
    "Invariant '" ++ name ++ "' (rule: " ++ (present? inv.rule).getD "composite" ++
      ") is not exercised by any use case",
    "Either the invariant is unnecessary, or there's a missing use case that could violate it"⟩

/-- `InvariantNecessityAnalyzer.analyze` -/
def analyze (r : SpecRegistry) : List InvariantCoverage × List Finding :=
  (r.invariants.map (coverageOf r),
    (r.invariants.filter fun inv => !(coverageOf r inv).isTestable).map untestable)

end InvariantNecessityAnalyzer

end Ucf.Spec
