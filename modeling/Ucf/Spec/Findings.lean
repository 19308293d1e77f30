import Mathlib.Data.String.Basic

/-! The findings of the context tracer and of the completeness analyses. -/

namespace Ucf.Spec

/-- `ucf.tracer.context.FindingSeverity` -/
inductive FindingSeverity where
  | error
  | warning
  | info
deriving DecidableEq, Repr

/-- `ucf.tracer.context.FindingCategory`, as far as the analyses here report them -/
inductive FindingCategory where
  | dataGap
  | deadData
  | typeMismatch
  | overwriteWarning
  | branchDivergence
  | branchStateDifference
  | missingPostcondition
  | uncoveredError
  | unreachableState
  | deadEndState
  | untestableInvariant
deriving DecidableEq, Repr

/-- `ucf.tracer.context.Finding` -/
structure Finding where
  severity : FindingSeverity
  category : FindingCategory
  stepId : String
  message : String
  suggestion : String := ""
deriving DecidableEq

end Ucf.Spec
