import Ucf.Library.JsonLeaves
import Ucf.Spec.Composition
import Ucf.Spec.Findings
import Ucf.Spec.Validator

/-! `ContextTracer`: it runs the steps of a use case on the names of the fields they read and write,
without values. -/

namespace Ucf.Spec

/-! ### The context -/

/-- `ucf.tracer.context.SlotState` -/
inductive SlotState where
  | available
  | mutated
  | invalidated
deriving DecidableEq, Repr

/-- `ucf.tracer.context.ContextSlot` -/
structure ContextSlot where
  name : String
  type : String
  sourceStep : String
  state : SlotState := .available
  constraint : Option String := none
  readBy : List String := []

/-- `ucf.tracer.context.ContextSnapshot` -/
structure ContextSnapshot where
  stepId : String
  slots : Dict String ContextSlot := .empty

namespace ContextSnapshot

/-- `has` -/
def has (ctx : ContextSnapshot) (name : String) : Bool :=
  match ctx.slots.get? name with
  | some slot => slot.state ≠ .invalidated
  | none => false

/-- `get_type` -/
def getType (ctx : ContextSnapshot) (name : String) : Option String :=
  (ctx.slots.get? name).map ContextSlot.type

/-- `fork` -/
def fork (ctx : ContextSnapshot) (stepId : String) : ContextSnapshot := { ctx with stepId := stepId }

/-- `ctx.slots[name] = slot` -/
def store (ctx : ContextSnapshot) (name : String) (slot : ContextSlot) : ContextSnapshot :=
  { ctx with slots := ctx.slots.insert name slot }

/-- `ctx.slots[name].read_by.append(step_id)`, if there is such a slot -/
def markRead (ctx : ContextSnapshot) (name stepId : String) : ContextSnapshot :=
  match ctx.slots.get? name with
  | some slot => ctx.store name { slot with readBy := slot.readBy ++ [stepId] }
  | none => ctx

/-- `ctx.slots[name].state = SlotState.INVALIDATED`, if there is such a slot -/
def invalidate (ctx : ContextSnapshot) (name : String) : ContextSnapshot :=
  match ctx.slots.get? name with
  | some slot => ctx.store name { slot with state := .invalidated }
  | none => ctx

/-- The names of the slots that are not invalidated, in the order of the slots. -/
def fields (ctx : ContextSnapshot) : List String := ctx.slots.keys.filter fun name => ctx.has name

end ContextSnapshot

/-! ### Effects -/

/-- `ucf.tracer.context.ReadEffect` -/
structure ReadEffect where
  field : String
  expectedType : String := ""

/-- `ucf.tracer.context.WriteEffect` -/
structure WriteEffect where
  field : String
  type : String := ""
  constraint : Option String := none

/-- `ucf.tracer.context.InvalidateEffect` -/
structure InvalidateEffect where
  field : String

/-- `ucf.tracer.context.ActionEffect` -/
structure ActionEffect where
  reads : List ReadEffect := []
  writes : List WriteEffect := []
  invalidates : List InvalidateEffect := []

/-- What a text `$steps.X.f` refers to: `X` and `f`, the second and the third part of the text. -/
def stepReference (text : String) : Option (String × String) :=
  if "$steps.".toList.isPrefixOf text.toList then
    match text.toList.splitOn '.' with
    | _ :: stepId :: field :: _ => some (String.ofList stepId, String.ofList field)
    | _ => none
  else none

/-- The reference that a leaf of a value is. -/
def leafReference : Json → Option (String × String)
  | .str text => stepReference text
  | _ => none

/-- `_collect_reads`, with the step ids that the tracer leaves out -/
def stepReferences (value : Json) : List (String × String) := value.leaves.filterMap leafReference

/-- `_collect_reads` -/
def collectReads (value : Json) : List String := (stepReferences value).map Prod.snd

/-- The references of a step, in the order of its input. -/
def StepDef.references (step : StepDef) : List (String × String) :=
  step.input.items.flatMap fun (_, binding) => stepReferences binding

/-- The names under which a step files its output. -/
def StepDef.outputs (step : StepDef) : List String := step.output.items.map Prod.snd

/-- `expected` -/
def expectedType (actionSpec : Option AnySpec) (field : String) : String :=
  match actionSpec with
  | some (.action spec) => ((spec.input.get? field).map fun fieldDef => fieldDef.type.value).getD ""
  | _ => ""

/-- `_build_effect` -/
def buildEffect (r : SpecRegistry) (step : StepDef) : ActionEffect where
  reads := (step.input.items.flatMap fun (_, binding) => collectReads binding).map fun field =>
    { field, expectedType := expectedType (r.resolveRef step.use) field }
  writes := step.outputs.map fun field => { field }

/-! ### Findings -/

def dataGap (stepId field : String) : Finding where
  severity := .error
  category := .dataGap
  stepId := stepId
  message := "Step reads '" ++ field ++ "' but it does not exist in context"
  suggestion := "Add a preceding step that produces '" ++ field ++ "' or include it in components"

def typeMismatch (stepId field expected actual : String) : Finding where
  severity := .error
  category := .typeMismatch
  stepId := stepId
  message := "Step expects '" ++ field ++ "' as " ++ expected ++ " but context has " ++ actual
  suggestion := "Align types between producer and consumer of '" ++ field ++ "'"

def overwriteWarning (stepId field sourceStep : String) : Finding where
  severity := .warning
  category := .overwriteWarning
  stepId := stepId
  message := "Step overwrites '" ++ field ++ "' previously set by '" ++ sourceStep ++ "'"
  suggestion := "Verify this overwrite is intentional; consider using a mutation instead"

def missingPostcondition : Finding where
  severity := .warning
  category := .missingPostcondition
  stepId := "postcondition"
  message := "Use case has postconditions but no data was produced by steps"
  suggestion := "Ensure steps produce outputs that can be verified"

def branchDivergence (flowName field : String) : Finding where
  severity := .warning
  category := .branchDivergence
  stepId := "alt:" ++ flowName
  message := "Field '" ++ field ++ "' exists in happy path but not in alt flow '" ++ flowName ++ "'"
  suggestion := "Ensure downstream consumers handle absence of '" ++ field ++ "' in the alt flow"

/-- A constraint as an f-string shows it. -/
def constraintText : Option String → String
  | some text => text
  | none => "None"

def branchStateDifference (flowName field : String) (main alt : Option String) : Finding where
  severity := .warning
  category := .branchStateDifference
  stepId := "alt:" ++ flowName
  message := "Field '" ++ field ++ "' has different constraints: '" ++ constraintText main ++
    "' (happy) vs '" ++ constraintText alt ++ "' (alt flow)"
  suggestion := "Verify both constraint values are valid for downstream steps"

def deadData (sourceStep field : String) : Finding where
  severity := .info
  category := .deadData
  stepId := sourceStep
  message := "Step produces '" ++ field ++ "' but no subsequent step reads it"
  suggestion := "Remove '" ++ field ++ "' from step output or add a consumer"

/-! ### Steps -/

/-- Acts on the context with one item after another, and files what each act finds. -/
def traceEach {α : Type} (act : ContextSnapshot → α → ContextSnapshot × List Finding) :
    ContextSnapshot → List α → ContextSnapshot × List Finding
  | ctx, [] => (ctx, [])
  | ctx, item :: items =>
    let next := act ctx item
    let final := traceEach act next.1 items
    (final.1, next.2 ++ final.2)

/-- One turn of the loop over `effect.reads` -/
def executeRead (stepId : String) (ctx : ContextSnapshot) (read : ReadEffect) :
    ContextSnapshot × List Finding :=
  if ctx.has read.field then
    let actualType := (ctx.getType read.field).getD ""
    (ctx.markRead read.field stepId,
      if read.expectedType ≠ "" ∧ actualType ≠ "" ∧ actualType ≠ read.expectedType then
        [typeMismatch stepId read.field read.expectedType actualType]
      else [])
  else (ctx, [dataGap stepId read.field])

/-- One turn of the loop over `effect.writes` -/
def executeWrite (stepId : String) (ctx : ContextSnapshot) (write : WriteEffect) :
    ContextSnapshot × List Finding :=
  let slot : ContextSlot :=
    { name := write.field, type := write.type, sourceStep := stepId, constraint := write.constraint }
  (ctx.store write.field slot,
    match ctx.slots.get? write.field with
    | some existing =>
      if ctx.has write.field then [overwriteWarning stepId write.field existing.sourceStep] else []
    | none => [])

/-- `_execute_step`, with the findings that `record` files -/
def executeStep (ctx : ContextSnapshot) (stepId : String) (effect : ActionEffect) :
    ContextSnapshot × List Finding :=
  let reading := traceEach (executeRead stepId) ctx effect.reads
  let writing := traceEach (executeWrite stepId) reading.1 effect.writes
  let final := effect.invalidates.foldl (fun ctx effect => ctx.invalidate effect.field) writing.1
  ({ final with stepId := stepId }, reading.2 ++ writing.2)

/-- The loop over the steps of a flow -/
def traceSteps (r : SpecRegistry) (ctx : ContextSnapshot) (steps : List StepDef) :
    ContextSnapshot × List Finding :=
  traceEach (fun ctx step => executeStep ctx step.id (buildEffect r step)) ctx steps

/-! ### Use cases -/

/-- The slots that a component fills, for the source under which it is required. -/
def provide (source : String) (ctx : ContextSnapshot) (item : String × FieldDef) : ContextSnapshot :=
  ctx.store item.1 { name := item.1, type := item.2.type.value, sourceStep := source }

/-- One turn of the loop of `_apply_requires` -/
def applyRequirement (r : SpecRegistry) (ctx : ContextSnapshot) (req : ComponentRequirement) :
    ContextSnapshot :=
  match r.resolveRef req.ref with
  | some (.component comp) =>
    let source := "component:" ++ (if req.as_ = "" then comp.metadata.name else req.as_)
    comp.provides.items.foldl (provide source) ctx
  | _ => ctx

/-- `_apply_requires` -/
def applyRequires (r : SpecRegistry) (ctx : ContextSnapshot) (uc : UseCaseSpec) : ContextSnapshot :=
  uc.requires.foldl (applyRequirement r) ctx

/-- The context before the first step. -/
def initialContext (r : SpecRegistry) (uc : UseCaseSpec) : ContextSnapshot :=
  applyRequires r { stepId := "init" } uc

/-- `_verify_postconditions` -/
def verifyPostconditions (ctx : ContextSnapshot) (uc : UseCaseSpec) : List Finding :=
  if uc.postconditions ≠ [] ∧ ctx.slots.isEmpty then [missingPostcondition] else []

/-- `_detect_dead_data` -/
def detectDeadData (ctx : ContextSnapshot) (altReads : List String) : List Finding :=
  ctx.slots.items.flatMap fun (name, slot) =>
    if "component:".toList.isPrefixOf slot.sourceStep.toList then []
    else if name ∈ altReads then []
    else if slot.readBy = [] then [deadData slot.sourceStep name]
    else []

section Sets

variable [SetOrder]

/-- `_check_branch_compatibility` -/
def checkBranchCompatibility (mainCtx altCtx : ContextSnapshot) (flowName : String) : List Finding :=
  (SetOrder.iterate (mainCtx.fields.filter fun name => name ∉ altCtx.fields)).map
    (branchDivergence flowName) ++
  (SetOrder.iterate (mainCtx.fields.filter fun name => name ∈ altCtx.fields)).flatMap fun name =>
    let main := (mainCtx.slots.get? name).bind ContextSlot.constraint
    let alt := (altCtx.slots.get? name).bind ContextSlot.constraint
    if main ≠ alt ∧ (main ≠ none ∨ alt ≠ none) then
      [branchStateDifference flowName name main alt]
    else []

/-- The context in which an alternative flow begins, after the main steps without their findings. -/
def branchContext (r : SpecRegistry) (uc : UseCaseSpec) (flow : AlternativeFlow) : ContextSnapshot :=
  (traceSteps r (initialContext r uc) uc.steps).1.fork ("alt:" ++ flow.name)

/-- `_trace_alternative_flow` -/
def traceAlternativeFlow (r : SpecRegistry) (mainCtx : ContextSnapshot) (uc : UseCaseSpec)
    (flow : AlternativeFlow) : List Finding :=
  let branch := traceSteps r (branchContext r uc flow) flow.steps
  branch.2 ++ checkBranchCompatibility mainCtx branch.1 flow.name

/-- `alt_reads` -/
def altReads (r : SpecRegistry) (uc : UseCaseSpec) : List String :=
  uc.alternativeFlows.flatMap fun flow => flow.steps.flatMap fun step =>
    (buildEffect r step).reads.map ReadEffect.field

/-- The trace of a use case that extends no other. -/
def traceFlat (r : SpecRegistry) (uc : UseCaseSpec) : List Finding :=
  let main := traceSteps r (initialContext r uc) uc.steps
  main.2 ++ verifyPostconditions main.1 uc ++
    uc.alternativeFlows.flatMap (traceAlternativeFlow r main.1 uc) ++
    detectDeadData main.1 (altReads r uc)

variable [ReprStrings]

/-- `_resolve_composition` -/
def resolveComposition (r : SpecRegistry) (uc : UseCaseSpec) : Except CompositionError UseCaseSpec :=
  match uc.extends_ with
  | none => .ok uc
  | some _ => (resolveExtends r uc).map fun (flattened, _, _) => flattened

/-- `trace_usecase` -/
def traceUsecase (r : SpecRegistry) (uc : UseCaseSpec) : Except CompositionError (List Finding) :=
  (resolveComposition r uc).map (traceFlat r)

end Sets

end Ucf.Spec
