import Ucf.Errors
import Ucf.Ir.Entities
import Ucf.Library.Check
import Ucf.Library.Dict
import Ucf.Library.Sorted

/-! The semantic validation of Behavior IR: identities, references, ports, bindings and values. -/

namespace Ucf

/-- `EntityIndex` -/
abbrev EntityIndex : Type := Dict Identifier Entity

/-- `repr` of a string that holds no quote -/
def quoted (s : String) : String := "'" ++ s ++ "'"

/-- The names that capability requirements declare, with the identifiers of these. -/
def capabilityNames (entities : List Entity) : List (QualifiedName × Identifier) :=
  entities.filterMap fun entity =>
    match entity with
    | .capabilityRequirement e => some (e.name, e.id)
    | _ => none

/-- The body of the loop of `_build_index`; the indexes hold the entities before `position`. -/
def checkIdentity (entities : List Entity) (position : Nat) (entity : Entity) :
    Except PyError Unit := do
  let location := at_ "$.entities" position
  match (Dict.index Entity.id (entities.take position)).get? entity.id with
  | some previous => throw (.ir .duplicateIdentity
      ("entity id " ++ quoted entity.id.val ++ " is used by both " ++
        quoted previous.kind.value ++ " and " ++ quoted entity.kind.value) (location ++ ".id"))
  | none => pure ()
  match entity with
  | .capabilityRequirement e =>
    match (Dict.ofList (capabilityNames (entities.take position))).get? e.name with
    | some previousId => throw (.ir .duplicateCapability
        ("capability name " ++ quoted e.name.val ++ " is declared by both " ++
          quoted previousId.val ++ " and " ++ quoted e.id.val) (location ++ ".name"))
    | none => pure ()
  | _ => pure ()

/-- `_build_index` -/
def buildIndex (document : BehaviorIR) : Except PyError EntityIndex := do
  checkEach (checkIdentity document.entities) document.entities
  pure (Dict.index Entity.id document.entities)

/-- `_resolve_ref`; where any kind is expected, `expected` is `none`. -/
def resolveEntity (ref : EntityRef) (index : EntityIndex) (location : String)
    (expected : Option (List EntityKind)) : Except PyError Entity := do
  let target ← orRaise (index.get? ref.targetId) (.ir .brokenReference
    ("reference target " ++ quoted ref.targetId.val ++ " does not exist") location)
  require (target.kind = ref.targetKind) (.ir .wrongTargetKind
    ("reference declares " ++ quoted ref.targetKind.value ++ ", but " ++
      quoted ref.targetId.val ++ " is " ++ quoted target.kind.value) (location ++ ".target_kind"))
  match expected with
  | none => pure target
  | some kinds => do
    require (target.kind ∈ kinds) (.ir .wrongTargetKind
      (quoted ref.targetId.val ++ " has kind " ++ quoted target.kind.value ++
        "; expected one of: " ++ ", ".intercalate (sortedBy id (kinds.map EntityKind.value)))
      (location ++ ".target_kind"))
    pure target

/-- The body of the loop of `_validate_ref_sequence` -/
def checkRef (refs : List EntityRef) (index : EntityIndex) (location : String)
    (expected : Option (List EntityKind)) (unique : Bool) (position : Nat) (ref : EntityRef) :
    Except PyError Unit := do
  require (¬(unique ∧ ref ∈ refs.take position)) (.ir .duplicateReference
    ("reference to " ++ quoted ref.targetKind.value ++ " " ++ quoted ref.targetId.val ++
      " is duplicated") (at_ location position))
  let _ ← resolveEntity ref index (at_ location position) expected
  pure ()

/-- `_validate_ref_sequence` -/
def validateRefSequence (refs : List EntityRef) (index : EntityIndex) (location : String)
    (expected : Option (List EntityKind)) (unique : Bool) : Except PyError Unit :=
  checkEach (checkRef refs index location expected unique) refs

/-- Whether one of the references names a required capability. -/
def anyRequired (index : EntityIndex) : List EntityRef → Except PyError Bool
  | [] => .ok false
  | ref :: refs => do
    match ← orRaise (index.get? ref.targetId) .keyError with
    | .capabilityRequirement e => if e.required then pure true else anyRequired index refs
    | _ => anyRequired index refs

/-- `_require_semantic_capability` -/
def requireSemanticCapability (refs : List EntityRef) (index : EntityIndex) (location : String) :
    Except PyError Unit := do
  let found ← anyRequired index refs
  require (found = true) (.ir .missingCapabilityRequirement
    "opaque semantics require at least one required capability" location)

/-- `_validate_ports` -/
def validatePorts (ports : List Port) (location : String) : Except PyError Unit :=
  checkEach (fun position port =>
    require (port.name ∉ (ports.take position).map Port.name) (.ir .duplicatePort
      ("port name " ++ quoted port.name.val ++ " is duplicated")
      (at_ location position ++ ".name"))) ports

mutual

/-- `_validate_value` -/
def validateValue (location : String) : IRValue → Except PyError Unit
  | .scalar _ => .ok ()
  | .list items => validateItems (location ++ ".items") 0 items
  | .record entries => validateEntries (location ++ ".entries") 0 [] entries

/-- The loop of `_validate_value` over the items of a list -/
def validateItems (location : String) (position : Nat) : List IRValue → Except PyError Unit
  | [] => .ok ()
  | item :: items => do
    validateValue (at_ location position) item
    validateItems location (position + 1) items

/-- The loop of `_validate_value` over the entries of a record -/
def validateEntries (location : String) (position : Nat) (seen : List Identifier) :
    List (Identifier × IRValue) → Except PyError Unit
  | [] => .ok ()
  | (name, value) :: entries => do
    require (name ∉ seen) (.ir .duplicateIdentity
      ("record entry name " ++ quoted name.val ++ " is duplicated")
      (at_ location position ++ ".name"))
    validateValue (at_ location position ++ ".value") value
    validateEntries location (position + 1) (name :: seen) entries

end

/-- `validate_ir_value` -/
def validateIrValue (value : IRValue) : Except PyError Unit := validateValue "$" value

/-- `_step_action` -/
def stepAction (step : Step) (index : EntityIndex) (location : String) :
    Except PyError Action := do
  match ← resolveEntity step.action index location (some [.action]) with
  | .action action => pure action
  | _ => throw .assertionError

/-- The ports of the owner of a port reference. -/
def ownerPorts (owner : Entity) (direction : Direction) (index : EntityIndex)
    (location : String) : Except PyError (List Port) :=
  match owner with
  | .step step => do
    let action ← stepAction step index (location ++ ".owner.action")
    pure (match direction with
      | .input => action.inputPorts
      | .output => action.outputPorts)
  | .useCase useCase => .ok (match direction with
      | .input => useCase.inputPorts
      | .output => useCase.outputPorts)
  | _ => .error .assertionError

/-- `_resolve_port` -/
def resolvePort (ref : PortRef) (index : EntityIndex) (location : String) :
    Except PyError Port := do
  let owner ← resolveEntity ref.owner index (location ++ ".owner") (some [.useCase, .step])
  let ports ← ownerPorts owner ref.direction index location
  orRaise (ports.find? fun candidate => candidate.name = ref.name) (.ir .unknownPort
    (ref.direction.value ++ " port " ++ quoted ref.name.val ++ " does not exist on " ++
      quoted ref.owner.targetId.val) (location ++ ".name"))

/-- `ValueKind(value.kind)` -/
def IRValue.valueKind : IRValue → ValueKind
  | .scalar (.null _) => .null
  | .scalar (.boolean _) => .boolean
  | .scalar (.string _) => .string
  | .scalar (.integer _) => .integer
  | .scalar (.decimal _) => .decimal
  | .scalar (.timestamp _) => .timestamp
  | .list _ => .list
  | .record _ => .record

/-- A port from which a binding may read. -/
def isSourcePort (owner : Entity) (direction : Direction) : Prop :=
  match owner with
  | .useCase _ => direction = .input
  | .step _ => direction = .output
  | _ => False

instance (owner : Entity) (direction : Direction) : Decidable (isSourcePort owner direction) := by
  unfold isSourcePort
  cases owner <;> infer_instance

/-- The kind of what a binding reads. -/
def sourceKind (source : BindingSource) (target : Port) (index : EntityIndex)
    (location : String) : Except PyError ValueKind :=
  match source with
  | .port reference => do
    let owner ← resolveEntity reference.owner index (location ++ ".source.owner")
      (some [.useCase, .step])
    require (isSourcePort owner reference.direction) (.ir .invalidBinding
      "binding source must be a use-case input or a step output" (location ++ ".source.direction"))
    let port ← resolvePort reference index (location ++ ".source")
    pure port.valueKind
  | .value value => do
    validateValue (location ++ ".source") value
    require (¬(value.valueKind = .null ∧ target.required)) (.ir .invalidBinding
      "null cannot bind to a required input port" (location ++ ".source"))
    pure value.valueKind

/-- `_validate_binding` -/
def validateBinding (binding : Binding) (index : EntityIndex) (location : String) :
    Except PyError Unit := do
  let _ ← resolveEntity binding.target.owner index (location ++ ".target.owner") (some [.step])
  require (binding.target.direction = .input) (.ir .invalidBinding
    "binding target must be an input port" (location ++ ".target.direction"))
  let target ← resolvePort binding.target index (location ++ ".target")
  let kind ← sourceKind binding.source target index location
  require (kind = .null ∨ kind = target.valueKind) (.ir .invalidBinding
    ("source value kind " ++ quoted kind.value ++ " does not match target value kind " ++
      quoted target.valueKind.value) (location ++ ".source"))

/-- The kinds that observations and invariants are about. -/
def observableKinds : List EntityKind := [.action, .step, .useCase]

/-- The provenance that an entity names; a provenance names none. -/
def Entity.provenanceRef? : Entity → Option EntityRef
  | .action e => some e.provenance
  | .useCase e => some e.provenance
  | .step e => some e.provenance
  | .binding e => some e.provenance
  | .effect e => some e.provenance
  | .observation e => some e.provenance
  | .invariant e => some e.provenance
  | .provenance _ => none
  | .verificationEvidence e => some e.provenance
  | .capabilityRequirement e => some e.provenance

/-- What `validate_ir_semantics` checks of one entity before its provenance. -/
def validateEntityParts (index : EntityIndex) (location : String) : Entity → Except PyError Unit
  | .action e => do
    validatePorts e.inputPorts (location ++ ".input_ports")
    validatePorts e.outputPorts (location ++ ".output_ports")
    validateRefSequence e.effects index (location ++ ".effects") (some [.effect]) true
    validateRefSequence e.requires index (location ++ ".requires")
      (some [.capabilityRequirement]) true
  | .useCase e => do
    validatePorts e.inputPorts (location ++ ".input_ports")
    validatePorts e.outputPorts (location ++ ".output_ports")
    validateRefSequence e.steps index (location ++ ".steps") (some [.step]) false
    validateRefSequence e.invariants index (location ++ ".invariants") (some [.invariant]) true
    validateRefSequence e.requires index (location ++ ".requires")
      (some [.capabilityRequirement]) true
  | .step e => do
    let _ ← stepAction e index (location ++ ".action")
    validateRefSequence e.bindings index (location ++ ".bindings") (some [.binding]) true
    validateRefSequence e.effects index (location ++ ".effects") (some [.effect]) true
    validateRefSequence e.observations index (location ++ ".observations")
      (some [.observation]) true
    validateRefSequence e.requires index (location ++ ".requires")
      (some [.capabilityRequirement]) true
  | .binding e => validateBinding e index location
  | .effect e => do
    validateValue (location ++ ".value") e.value
    validateRefSequence e.requires.val index (location ++ ".requires")
      (some [.capabilityRequirement]) true
    requireSemanticCapability e.requires.val index (location ++ ".requires")
  | .observation e => do
    let _ ← resolveEntity e.subject index (location ++ ".subject") (some observableKinds)
    validateValue (location ++ ".value") e.value
  | .invariant e => do
    validateRefSequence e.appliesTo index (location ++ ".applies_to") (some observableKinds) true
    validateRefSequence e.requires.val index (location ++ ".requires")
      (some [.capabilityRequirement]) true
    requireSemanticCapability e.requires.val index (location ++ ".requires")
  | .verificationEvidence e =>
    validateRefSequence e.subjects index (location ++ ".subjects") none true
  | .provenance _ => .ok ()
  | .capabilityRequirement _ => .ok ()

/-- The body of the loop of `validate_ir_semantics` -/
def validateEntity (index : EntityIndex) (position : Nat) (entity : Entity) :
    Except PyError Unit := do
  let location := at_ "$.entities" position
  validateEntityParts index location entity
  match entity.provenanceRef? with
  | none => pure ()
  | some provenance =>
    let _ ← resolveEntity provenance index (location ++ ".provenance") (some [.provenance])
    pure ()

/-- `validate_ir_semantics` -/
def validateIrSemantics (document : BehaviorIR) : Except PyError Unit := do
  let index ← buildIndex document
  validateRefSequence document.roots index "$.roots" (some [.useCase]) true
  checkEach (validateEntity index) document.entities

end Ucf
