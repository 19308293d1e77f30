import Ucf.Library.Dict
import Ucf.Library.Json

/-! The source models of a specification: actions, events, components, protocols, use cases and
invariants. Of a model, the fields are kept that composition copies or that composition, the
validator, the dependency graph with its write conflicts, the context tracer and the completeness
analyses read. -/

namespace Ucf.Spec

/-- `ucf.models.base.Severity` -/
inductive Severity where
  | critical
  | high
  | medium
deriving DecidableEq, Repr

/-- `ucf.models.base.Metadata` -/
structure Metadata where
  name : String
  version : Option String := none
  owner : Option String := none
  actor : Option String := none
  tags : List String := []
  severity : Option Severity := none
  description : Option String := none
deriving DecidableEq

/-- A binding is `Ref`, by its `$ref`, or holds the spec itself. -/
inductive Binding (α : Type) where
  | ref (ref : String)
  | inline (spec : α)
deriving DecidableEq

/-- `ucf.models.base.FieldType` -/
inductive FieldType where
  | string
  | integer
  | number
  | boolean
  | array
  | object
deriving DecidableEq, Repr

def FieldType.value : FieldType → String
  | string => "string"
  | integer => "integer"
  | number => "number"
  | boolean => "boolean"
  | array => "array"
  | object => "object"

/-- `ucf.models.base.FieldDef` -/
structure FieldDef where
  type : FieldType

/-! ### Steps and components -/

/-- The `backoff` of a retry -/
inductive Backoff where
  | constant
  | linear
  | exponential
deriving DecidableEq, Repr

/-- `ucf.models.component.RetryConfig` -/
structure RetryConfig where
  maxAttempts : Nat
  onError : String ⊕ List String
  backoff : Backoff := .constant
  initialDelayMs : Nat := 1000
  bounds : 1 ≤ maxAttempts ∧ maxAttempts ≤ 100

theorem none_exclusive : (none : Option String) = none ∨ (none : Option String) = none := .inl rfl

/-- `ucf.models.component.StepDef` -/
structure StepDef where
  id : String
  use : String
  input : Dict String Json := .empty
  output : Dict String String := .empty
  when_ : Option String := none
  skipIf : Option String := none
  dependsOn : List String := []
  postcondition : Option String := none
  retry : Option RetryConfig := none
  exclusive : when_ = none ∨ skipIf = none := by first | exact none_exclusive | simp

/-- `ucf.models.component.ComponentSpec` -/
structure ComponentSpec where
  metadata : Metadata
  provides : Dict String FieldDef := .empty
  steps : List StepDef := []

/-! ### Actions, events and protocols -/

/-- `ucf.models.base.ErrorDef` -/
structure ErrorDef where
  code : String
  condition : String

/-- `ucf.models.action.ActionSpec` -/
structure ActionSpec where
  metadata : Metadata
  input : Dict String FieldDef := .empty
  errors : List ErrorDef := []
  /-- The `resource` of each `ResourceWrite`. -/
  writes : List String := []
  /-- The `event` of each `EmitRef`. -/
  emits : List String := []

/-- `ucf.models.event.EventSpec` -/
structure EventSpec where
  metadata : Metadata
  /-- The `after` of the `EventTrigger`, if there is one. -/
  trigger : Option String := none

/-- `ucf.models.protocol.ProtocolSpec` -/
structure ProtocolSpec where
  metadata : Metadata
  /-- The `resource` of each `ResourceWrite`. -/
  writes : List String := []
  guarantees : List String := []
  implementations : List (Binding ComponentSpec) := []

/-! ### Invariants -/

/-- `ucf.models.invariant.AppliesTo` -/
structure AppliesTo where
  resource : Option String := none
  action : Option String := none
  usecase : Option String := none

/-- `ucf.models.invariant.InvariantSpec` -/
structure InvariantSpec where
  metadata : Metadata
  rule : Option String := none
  rules : List (Dict String Json) := []
  transitions : Dict String (List String) := .empty
  appliesTo : List AppliesTo := []

/-! ### Use cases -/

/-- `ucf.models.usecase.ComponentRequirement` -/
structure ComponentRequirement where
  ref : String
  as_ : String
  params : Dict String Json := .empty

/-- `ucf.models.usecase.AlternativeFlow` -/
structure AlternativeFlow where
  name : String
  trigger : String
  handlesError : Option String := none
  steps : List StepDef := []

/-- `ucf.models.usecase.ConcurrencyDef` -/
structure ConcurrencyDef where
  conflict : String
  strategy : String
  description : Option String := none

/-- `ucf.models.usecase.UseCaseSpec` -/
structure UseCaseSpec where
  metadata : Metadata
  extends_ : Option String := none
  trigger : Option String := none
  inputFromEvent : Dict String String := .empty
  requires : List ComponentRequirement := []
  preconditions : List String := []
  assumedPreconditions : List String := []
  steps : List StepDef := []
  alternativeFlows : List AlternativeFlow := []
  postconditions : List String := []
  terminal : Bool := false
  invariants : List (Binding InvariantSpec) := []
  concurrency : List ConcurrencyDef := []

/-- `metadata.name` -/
def UseCaseSpec.name (uc : UseCaseSpec) : String := uc.metadata.name

/-- `{s.id for s in uc.steps}`, in the order of the steps. -/
def UseCaseSpec.stepIds (uc : UseCaseSpec) : List String := uc.steps.map StepDef.id

/-- `invariant_reference` -/
def invariantReference : Binding InvariantSpec → String
  | .ref ref => ref
  | .inline spec => "invariants/" ++ spec.metadata.name

/-- `implementation_reference` -/
def implementationReference : Binding ComponentSpec → String
  | .ref ref => ref
  | .inline spec => "components/" ++ spec.metadata.name

/-! ### Specs -/

/-- The kinds of specs. -/
inductive Kind where
  | action
  | event
  | component
  | protocol
  | usecase
  | invariant
deriving DecidableEq, Repr

/-- `spec.kind` -/
def Kind.value : Kind → String
  | action => "action"
  | event => "event"
  | component => "component"
  | protocol => "protocol"
  | usecase => "usecase"
  | invariant => "invariant"

/-- `_KIND_PLURAL` -/
def Kind.plural : Kind → String
  | action => "actions"
  | event => "events"
  | component => "components"
  | protocol => "protocols"
  | usecase => "use-cases"
  | invariant => "invariants"

/-- `AnySpec` -/
inductive AnySpec where
  | action (spec : ActionSpec)
  | event (spec : EventSpec)
  | component (spec : ComponentSpec)
  | protocol (spec : ProtocolSpec)
  | usecase (spec : UseCaseSpec)
  | invariant (spec : InvariantSpec)

def AnySpec.kind : AnySpec → Kind
  | action _ => .action
  | event _ => .event
  | component _ => .component
  | protocol _ => .protocol
  | usecase _ => .usecase
  | invariant _ => .invariant

def AnySpec.metadata : AnySpec → Metadata
  | action spec => spec.metadata
  | event spec => spec.metadata
  | component spec => spec.metadata
  | protocol spec => spec.metadata
  | usecase spec => spec.metadata
  | invariant spec => spec.metadata

/-- `spec.metadata.name` -/
def AnySpec.name (spec : AnySpec) : String := spec.metadata.name

/-- `isinstance(spec, ActionSpec)`, and the spec as an action. The other kinds likewise. -/
def AnySpec.action? : AnySpec → Option ActionSpec
  | action spec => some spec
  | _ => none

def AnySpec.event? : AnySpec → Option EventSpec
  | event spec => some spec
  | _ => none

def AnySpec.component? : AnySpec → Option ComponentSpec
  | component spec => some spec
  | _ => none

def AnySpec.protocol? : AnySpec → Option ProtocolSpec
  | protocol spec => some spec
  | _ => none

def AnySpec.usecase? : AnySpec → Option UseCaseSpec
  | usecase spec => some spec
  | _ => none

def AnySpec.invariant? : AnySpec → Option InvariantSpec
  | invariant spec => some spec
  | _ => none

/-- `ref.split("/", 1)`: what stands before the first slash, and what stands after it. -/
def splitSlash : List Char → List Char × Option (List Char)
  | [] => ([], none)
  | c :: cs =>
    if c = '/' then ([], some cs)
    else
      let (head, tail) := splitSlash cs
      (c :: head, tail)

theorem splitSlash_append {head tail : List Char} (h : '/' ∉ head) :
    splitSlash (head ++ '/' :: tail) = (head, some tail) := by
  induction head with
  | nil => simp [splitSlash]
  | cons c cs ih =>
    rw [List.mem_cons, not_or] at h
    simp [splitSlash, Ne.symm h.1, ih h.2]

theorem splitSlash_eq_some {cs head tail : List Char} (h : splitSlash cs = (head, some tail)) :
    cs = head ++ '/' :: tail ∧ '/' ∉ head := by
  induction cs generalizing head with
  | nil => simp [splitSlash] at h
  | cons c cs ih =>
    by_cases hc : c = '/'
    · subst hc
      simp only [splitSlash, if_true, Prod.mk.injEq, Option.some.injEq] at h
      obtain ⟨rfl, rfl⟩ := h
      simp
    · simp only [splitSlash, if_neg hc, Prod.mk.injEq] at h
      obtain ⟨rfl, htail⟩ := h
      obtain ⟨hcs, hnot⟩ := ih (Prod.ext rfl htail)
      refine ⟨?_, ?_⟩
      · rw [List.cons_append, ← hcs]
      · rw [List.mem_cons, not_or]
        exact ⟨Ne.symm hc, hnot⟩

/-- `parts`, where `parts[0]` has a slash after it. -/
def splitRef (ref : String) : Option (String × String) :=
  match splitSlash ref.toList with
  | (head, some tail) => some (String.ofList head, String.ofList tail)
  | (_, none) => none

theorem splitRef_append {head : String} (tail : String) (h : '/' ∉ head.toList) :
    splitRef (head ++ "/" ++ tail) = some (head, tail) := by
  have hlist : (head ++ "/" ++ tail).toList = head.toList ++ '/' :: tail.toList := by simp
  rw [splitRef, hlist, splitSlash_append h]
  simp

theorem splitRef_eq_some {ref head tail : String} (h : splitRef ref = some (head, tail)) :
    ref = head ++ "/" ++ tail ∧ '/' ∉ head.toList := by
  rw [splitRef] at h
  split at h
  · rename_i hd tl hsplit
    obtain ⟨hlist, hnot⟩ := splitSlash_eq_some hsplit
    simp only [Option.some.injEq, Prod.mk.injEq] at h
    obtain ⟨rfl, rfl⟩ := h
    refine ⟨?_, by simpa using hnot⟩
    apply String.toList_inj.mp
    simp [hlist]
  · simp at h

theorem slash_notMem_value (kind : Kind) : '/' ∉ kind.value.toList := by
  cases kind <;> decide

theorem slash_notMem_plural (kind : Kind) : '/' ∉ kind.plural.toList := by
  cases kind <;> decide

theorem Kind.value_injective {k k' : Kind} (h : k.value = k'.value) : k = k' := by
  revert h
  cases k <;> cases k' <;> decide

theorem Kind.plural_injective {k k' : Kind} (h : k.plural = k'.plural) : k = k' := by
  revert h
  cases k <;> cases k' <;> decide

theorem Kind.plural_ne_value (k k' : Kind) : k.plural ≠ k'.value := by
  cases k <;> cases k' <;> decide

end Ucf.Spec
