import Ucf.Scalars
import Ucf.Spec.Composition

/-! The structural validation of the specs of a registry: `SpecValidator.validate_all`, with every
issue that it reports. -/

namespace Ucf.Spec

/-- The order in which a set of strings is iterated, for strings in the order of their insertion. It
depends on the interpreter's hash seed. -/
class SetOrder where
  iterate : List String → List String

inductive IssueSeverity where
  | error
  | warning
  | info
deriving DecidableEq, Repr

inductive IssueCategory where
  | brokenRef
  | missingField
  | naming
  | duplicate
  | orphan
  | unused
  | stepOrder
  | typeMismatch
  | invariantBinding
  | completeness
deriving DecidableEq, Repr

structure ValidationIssue where
  severity : IssueSeverity
  category : IssueCategory
  specName : String
  message : String
  suggestion : String := ""
deriving DecidableEq

/-- `KEBAB_RE.match(name)`: the `$` of the pattern also matches before a last newline. -/
def isKebab (name : String) : Bool :=
  let cs := name.toList
  matchName (· = '-') cs || (cs.getLast? = some '\n' && matchName (· = '-') cs.dropLast)

/-- `_validate_naming` -/
def validateNaming (spec : AnySpec) : List ValidationIssue :=
  let name := spec.name
  if name = "" then
    [⟨.error, .missingField, "<unnamed>", "Spec has an empty name",
      "Add a non-empty 'name' field to metadata"⟩]
  else if isKebab name then []
  else
    [⟨.warning, .naming, name, "Name '" ++ name ++ "' is not kebab-case",
      "Use lowercase letters and hyphens: my-action-name"⟩]

/-- `model.__name__.removesuffix("Spec")` -/
def Kind.modelName : Kind → String
  | action => "Action"
  | event => "Event"
  | component => "Component"
  | protocol => "Protocol"
  | usecase => "UseCase"
  | invariant => "Invariant"

/-- `_validate_identity_ref` -/
def validateIdentityRef (r : SpecRegistry) (ref specName relationship : String)
    (expected : List Kind) : List ValidationIssue :=
  match r.resolveRef ref with
  | none =>
    [⟨.error, .brokenRef, specName, relationship ++ " reference '" ++ ref ++ "' is not loaded",
      "Ensure " ++ ref ++ ".yaml exists in specs/"⟩]
  | some resolved =>
    if resolved.kind ∈ expected then []
    else
      [⟨.error, .typeMismatch, specName, relationship ++ " reference '" ++ ref ++
        "' resolves to kind '" ++ resolved.kind.value ++ "', expected " ++
        " or ".intercalate (expected.map Kind.modelName), ""⟩]

/-- `_with_default_prefix` -/
def withDefaultPrefix (ref default : String) : String :=
  if '/' ∈ ref.toList then ref else default ++ "/" ++ ref

/-- `_validate_step_ref` -/
def validateStepRef (r : SpecRegistry) (use specName : String) : List ValidationIssue :=
  if use = "" then
    [⟨.error, .missingField, specName, "Step has empty 'use' field", ""⟩]
  else validateIdentityRef r use specName "step" [.action, .protocol]

/-- The dependencies of a step that are not among `ids`. -/
def validateDependsOn (step : StepDef) (ids : List String) (specName where_ : String) :
    List ValidationIssue :=
  (step.dependsOn.filter fun dep => dep ∉ ids).map fun dep =>
    ⟨.error, .brokenRef, specName, "Step '" ++ step.id ++ "'" ++ where_ ++ " depends on '" ++ dep ++
      "' which does not exist", ""⟩

/-! ### Use cases -/

section Extends

variable [ReprStrings] [SetOrder]

/-- What the walk along the `extends` chain finds: the names before a use case that came twice, and
its name. `visited` holds the names in the order in which they were added. -/
def walkExtends (r : SpecRegistry) (visited : List String)
    (current : {uc : UseCaseSpec // uc ∈ r.usecases}) : Option (List String × String) :=
  match current.val.extends_ with
  | none => none
  | some ref =>
    if ref = "" then none
    else if _hname : current.val.name ∈ visited then some (visited, current.val.name)
    else
      match _h : resolveParent r ref with
      | .ok next =>
        walkExtends r (visited ++ [current.val.name]) ⟨next, mem_usecases_of_resolveParent _h⟩
      | .error _ => none
termination_by (namesLeft r visited).length
decreasing_by
  exact length_namesLeft_lt current.property _hname

/-- `_validate_extends` -/
def validateExtends (r : SpecRegistry) (uc : UseCaseSpec) : List ValidationIssue :=
  match uc.extends_ with
  | none => []
  | some ref =>
    if ref = "" then []
    else
      match r.resolveRef (parentRef ref) with
      | none => [⟨.error, .brokenRef, uc.name, "extends reference '" ++ ref ++
          "' does not resolve to a known use case", ""⟩]
      | some resolved =>
        match _h : resolveParent r ref with
        | .error _ => [⟨.error, .typeMismatch, uc.name, "extends reference '" ++ ref ++
            "' resolves to a " ++ resolved.kind.value ++ ", not a use case", ""⟩]
        | .ok parent =>
          match walkExtends r [uc.name] ⟨parent, mem_usecases_of_resolveParent _h⟩ with
          | some (visited, name) => [⟨.error, .brokenRef, uc.name,
              "circular extends chain detected: " ++
                " -> ".intercalate (SetOrder.iterate visited) ++ " -> " ++ name, ""⟩]
          | none =>
            if stepClash parent uc = [] then []
            else [⟨.error, .duplicate, uc.name,
              "step IDs conflict with parent: " ++ reprStrings (stepClash parent uc), ""⟩]

/-- The first loop of `_validate_usecase` over the steps. -/
def duplicateStepIds (specName : String) : List String → List StepDef → List ValidationIssue
  | _, [] => []
  | seen, step :: steps =>
    (if step.id ∈ seen then
      [⟨.error, .duplicate, specName, "Duplicate step id '" ++ step.id ++ "' in use case", ""⟩]
    else []) ++ duplicateStepIds specName (seen ++ [step.id]) steps

/-- `uc.trigger.startswith(("event/", "events/"))` -/
def namesEvent (trigger : String) : Bool :=
  "event/".toList.isPrefixOf trigger.toList || "events/".toList.isPrefixOf trigger.toList

/-- `_validate_usecase` -/
def validateUsecase (r : SpecRegistry) (uc : UseCaseSpec) : List ValidationIssue :=
  let name := uc.name
  validateExtends r uc ++
  (match uc.trigger with
    | some trigger =>
      if namesEvent trigger then validateIdentityRef r trigger name "trigger" [.event] else []
    | none => []) ++
  (if uc.steps = [] then [⟨.error, .missingField, name, "Use case has no steps", ""⟩] else []) ++
  (if uc.postconditions = [] then [⟨.warning, .missingField, name, "Use case has no postconditions",
    "Add postconditions to verify the expected outcome"⟩] else []) ++
  duplicateStepIds name [] uc.steps ++
  (uc.steps.flatMap fun step =>
    validateStepRef r step.use name ++ validateDependsOn step uc.stepIds name "") ++
  (uc.requires.flatMap fun requirement =>
    validateIdentityRef r requirement.ref name "requires" [.component]) ++
  (uc.alternativeFlows.flatMap fun alt => alt.steps.flatMap fun step =>
    validateStepRef r step.use name ++
      validateDependsOn step (uc.stepIds ++ alt.steps.map StepDef.id) name
        (" in alternative flow '" ++ alt.name ++ "'")) ++
  uc.invariants.flatMap fun binding =>
    validateIdentityRef r (invariantReference binding) name "invariant" [.invariant]

end Extends

/-! ### The other kinds -/

/-- `_validate_action` -/
def validateAction (r : SpecRegistry) (action : ActionSpec) : List ValidationIssue :=
  action.emits.flatMap fun event =>
    validateIdentityRef r (withDefaultPrefix event "events") action.metadata.name "emits" [.event]

/-- `_validate_component` -/
def validateComponent (r : SpecRegistry) (comp : ComponentSpec) : List ValidationIssue :=
  let name := comp.metadata.name
  (if comp.provides.isEmpty then [⟨.warning, .missingField, name, "Component provides nothing",
    "Add 'provides' fields so use cases can consume this component"⟩] else []) ++
  comp.steps.flatMap fun step =>
    validateStepRef r step.use name ++
      validateDependsOn step (comp.steps.map StepDef.id) name (" in component '" ++ name ++ "'")

/-- `_validate_protocol` -/
def validateProtocol (r : SpecRegistry) (proto : ProtocolSpec) : List ValidationIssue :=
  let name := proto.metadata.name
  (if proto.guarantees = [] then [⟨.warning, .missingField, name, "Protocol has no guarantees",
    "Add guarantees to document behavioral contracts"⟩] else []) ++
  proto.implementations.flatMap fun binding =>
    validateIdentityRef r (implementationReference binding) name "implementation" [.component]

/-- A reference that is not missing and not empty. -/
def present? (ref : Option String) : Option String := ref.filter fun text => text ≠ ""

/-- `_validate_event` -/
def validateEvent (r : SpecRegistry) (event : EventSpec) : List ValidationIssue :=
  match present? event.trigger with
  | some after => validateIdentityRef r (withDefaultPrefix after "actions") event.metadata.name
      "trigger" [.action]
  | none => []

/-- `_validate_invariant` -/
def validateInvariant (r : SpecRegistry) (inv : InvariantSpec) : List ValidationIssue :=
  let name := inv.metadata.name
  (if present? inv.rule = none ∧ inv.rules.isEmpty ∧ inv.transitions.items.isEmpty then
    [⟨.error, .missingField, name, "Invariant has no rule, rules, or transitions defined", ""⟩]
  else []) ++
  inv.appliesTo.flatMap fun binding =>
    (match present? binding.action with
      | some action => validateIdentityRef r (withDefaultPrefix action "actions") name
          "applies_to.action" [.action]
      | none => []) ++
    (match present? binding.usecase with
      | some usecase => validateIdentityRef r (withDefaultPrefix usecase "use-cases") name
          "applies_to.usecase" [.usecase]
      | none => [])

/-! ### Orphans -/

/-- `referenced_refs` -/
def referencedRefs (r : SpecRegistry) : List String :=
  (r.usecases.flatMap fun uc =>
    uc.steps.map StepDef.use ++
    (uc.alternativeFlows.flatMap fun alt => alt.steps.map StepDef.use) ++
    uc.requires.map ComponentRequirement.ref ++
    (uc.invariants.map invariantReference).filter fun ref => ref ≠ "") ++
  r.components.flatMap fun comp => comp.steps.map StepDef.use

/-- `_check_orphans` for the specs of one kind. -/
def orphansOf (r : SpecRegistry) (plural title whom : String) (names : List String) :
    List ValidationIssue :=
  (names.filter fun name => plural ++ "/" ++ name ∉ referencedRefs r).map fun name =>
    ⟨.info, .orphan, name, title ++ " '" ++ name ++ "' is not " ++ whom, ""⟩

/-- `_check_orphans` -/
def checkOrphans (r : SpecRegistry) : List ValidationIssue :=
  orphansOf r "actions" "Action" "used by any use case or component"
    (r.actions.map fun action => action.metadata.name) ++
  orphansOf r "components" "Component" "referenced by any use case"
    (r.components.map fun comp => comp.metadata.name) ++
  orphansOf r "invariants" "Invariant" "referenced by any use case"
    (r.invariants.map fun inv => inv.metadata.name)

/-- `SpecValidator.validate_all` -/
def validateAll [ReprStrings] [SetOrder] (r : SpecRegistry) : List ValidationIssue :=
  r.allSpecs.flatMap validateNaming ++
  r.actions.flatMap (validateAction r) ++
  r.usecases.flatMap (validateUsecase r) ++
  r.components.flatMap (validateComponent r) ++
  r.protocols.flatMap (validateProtocol r) ++
  r.events.flatMap (validateEvent r) ++
  r.invariants.flatMap (validateInvariant r) ++
  checkOrphans r

end Ucf.Spec
