import Mathlib.Data.Finset.Sort
import Ucf.Library.Reach
import Ucf.Spec.Completeness

/-! `StateCoverageAnalyzer`: the graph of states that the conditions of the use cases imply, and its
gaps. -/

namespace Ucf.Spec

/-! ### The graph -/

/-- `StateNode` -/
structure StateNode where
  name : String
  preconditions : Finset String
  postconditions : Finset String
  sourceUcs : List String := []
  terminal : Bool := false

/-- `StateTransition` -/
structure StateTransition where
  fromState : String
  toState : String
  viaUc : String
deriving DecidableEq

/-- `StateGraph` -/
structure StateGraph where
  states : Dict String StateNode := .empty
  transitions : List StateTransition := []
  initialState : String := "initial"

namespace StateGraph

/-- `outgoing` -/
def outgoing (graph : StateGraph) (state : String) : List StateTransition :=
  graph.transitions.filter fun t => t.fromState = state

/-- `reachable_from`, in the order in which the states are visited. What is popped last was pushed
first; a target that was visited before is dropped when it is popped. -/
def reachableFrom (graph : StateGraph) (start : String) : List String :=
  Reach.closure graph.states.keys
    (fun state => ((graph.outgoing state).map StateTransition.toState).reverse) [] [start]

end StateGraph

/-! ### States -/

/-- `non_assumed_pre` -/
def nonAssumedPre (uc : UseCaseSpec) : Finset String :=
  uc.preconditions.toFinset \ uc.assumedPreconditions.toFinset

/-- `post` -/
def post (uc : UseCaseSpec) : Finset String := uc.postconditions.toFinset

/-- `str.split()` -/
def words (text : String) : List String :=
  ((text.toList.splitOnP isSeparator).filter fun word => word ≠ []).map String.ofList

namespace StateCoverageAnalyzer

section Names

variable [Lowercase]

/-- The words of a slug, joined by dashes: of each condition, in order, the first four words in lower
case, and of these the first six. -/
def slug (conditions : Finset String) : String :=
  "-".intercalate
    (((conditions.sort (· ≤ ·)).flatMap fun condition => (words (lower condition)).take 4).take 6)

/-- `_state_name_for` -/
def stateNameFor (conditions : Finset String) : String :=
  if conditions = ∅ then "initial" else slug conditions

/-- `from_state` -/
def fromState (uc : UseCaseSpec) : String :=
  if nonAssumedPre uc = ∅ then "initial" else stateNameFor (nonAssumedPre uc)

/-- `to_state` -/
def toState (uc : UseCaseSpec) : String :=
  if post uc = ∅ then fromState uc else stateNameFor (post uc)

/-- The states with that before a use case. -/
def addFromState (uc : UseCaseSpec) (states : Dict String StateNode) : Dict String StateNode :=
  if fromState uc ∈ states.keys then states
  else states.insert (fromState uc)
    { name := fromState uc, preconditions := nonAssumedPre uc, postconditions := ∅ }

/-- The states with that after a use case. -/
def addToState (uc : UseCaseSpec) (states : Dict String StateNode) : Dict String StateNode :=
  match states.get? (toState uc) with
  | none => states.insert (toState uc)
      { name := toState uc, preconditions := ∅, postconditions := post uc,
        sourceUcs := [uc.name], terminal := uc.terminal }
  | some node => states.insert (toState uc)
      { node with sourceUcs := node.sourceUcs ++ [uc.name], terminal := node.terminal || uc.terminal }

/-- One turn of the loop of `_build_state_graph` -/
def addUsecase (graph : StateGraph) (uc : UseCaseSpec) : StateGraph :=
  { graph with
    states := addToState uc (addFromState uc graph.states)
    transitions := graph.transitions ++ [⟨fromState uc, toState uc, uc.name⟩] }

/-- The graph of the initial state. -/
def initialGraph : StateGraph :=
  { states := Dict.empty.insert "initial"
      { name := "initial", preconditions := ∅, postconditions := ∅ } }

/-- `_build_state_graph` -/
def buildStateGraph (r : SpecRegistry) : StateGraph := r.usecases.foldl addUsecase initialGraph

end Names

/-! ### Gaps -/

section Gaps

variable [ReprStrings]

/-- The finding about a state that is not reachable. -/
def unreachableState (name : String) (state : StateNode) : Finding where
  severity := .warning
  category := .unreachableState
  stepId := "state:" ++ name
  message := "State '" ++ name ++ "' is not reachable from the initial state. Preconditions: " ++
    (if state.preconditions = ∅ then "none" else reprStrings (state.preconditions.sort (· ≤ ·)))
  suggestion := "Add a use case whose postconditions establish the preconditions needed to reach " ++
    "this state"

/-- The finding about a state that no use case continues from. -/
def deadEndState (name : String) (state : StateNode) : Finding where
  severity := .info
  category := .deadEndState
  stepId := "state:" ++ name
  message := "State '" ++ name ++ "' has no outgoing use cases (dead end). Source UCs: " ++
    reprStrings state.sourceUcs
  suggestion := "Mark the use case as terminal: true if this is an expected leaf state, or add use " ++
    "cases that continue from this state"

/-- The finding about a precondition that no use case establishes. -/
def orphanPrecondition (condition : String) : Finding where
  severity := .warning
  category := .unreachableState
  stepId := "precondition"
  message := "Precondition '" ++ condition ++
    "' is required by a UC but never established as a postcondition by any other UC"
  suggestion := "Add a use case whose postconditions include this precondition, or mark it as an " ++
    "external/assumed precondition"

/-- `orphan_preconditions`, in the order of the use cases -/
def orphanPreconditions (r : SpecRegistry) : List String :=
  ((r.usecases.flatMap UseCaseSpec.preconditions).filter fun condition =>
    condition ∉ r.usecases.flatMap UseCaseSpec.postconditions ∧
      condition ∉ r.usecases.flatMap UseCaseSpec.assumedPreconditions).dedup

variable [SetOrder]

/-- The findings about states that are not reachable. -/
def unreachableStates (graph : StateGraph) : List Finding :=
  graph.states.items.flatMap fun (name, state) =>
    if name = "initial" ∨ name ∈ graph.reachableFrom "initial" then [] else [unreachableState name state]

/-- The findings about dead ends. -/
def deadEndStates (graph : StateGraph) : List Finding :=
  (SetOrder.iterate (graph.reachableFrom "initial")).flatMap fun name =>
    if name = "initial" then []
    else match graph.states.get? name with
      | some state =>
        if graph.outgoing name = [] ∧ state.terminal = false then [deadEndState name state] else []
      | none => []

/-- `_check_coverage` -/
def checkCoverage (r : SpecRegistry) (graph : StateGraph) : List Finding :=
  unreachableStates graph ++ deadEndStates graph ++
    (SetOrder.iterate (orphanPreconditions r)).map orphanPrecondition

/-- `StateCoverageAnalyzer.analyze` -/
def analyze [Lowercase] (r : SpecRegistry) : StateGraph × List Finding :=
  (buildStateGraph r, checkCoverage r (buildStateGraph r))

end Gaps

end StateCoverageAnalyzer

end Ucf.Spec
