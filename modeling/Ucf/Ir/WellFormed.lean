import Ucf.Ir.Validation

/-! What `validate_ir_semantics` accepts, as propositions. A document is well formed when its
identifiers are unique, its references resolve to entities of the right kinds, its sets have no
repeated members, its ports are where bindings look for them, and its record entries have different
names. None of this depends on the order of the entities. -/

namespace Ucf

/-! ### References -/

/-- What a reference names among the entities. -/
structure Resolves (entities : List Entity) (ref : EntityRef) (target : Entity) : Prop where
  mem : target ∈ entities
  id_eq : target.id = ref.targetId
  kind_eq : target.kind = ref.targetKind

/-- A reference names an entity of one of the kinds. -/
def RefTo (entities : List Entity) (kinds : List EntityKind) (ref : EntityRef) : Prop :=
  ref.targetKind ∈ kinds ∧ ∃ target, Resolves entities ref target

/-- A reference names an entity. -/
def RefToAny (entities : List Entity) (ref : EntityRef) : Prop :=
  ∃ target, Resolves entities ref target

/-- References to entities of the kinds, none repeated. -/
structure RefSet (entities : List Entity) (kinds : List EntityKind) (refs : List EntityRef) :
    Prop where
  nodup : refs.Nodup
  refs_to : ∀ ref ∈ refs, RefTo entities kinds ref

/-- One of the references names a required capability. -/
def HasRequired (entities : List Entity) (refs : List EntityRef) : Prop :=
  ∃ ref ∈ refs, ∃ c, Resolves entities ref (.capabilityRequirement c) ∧ c.required = true

/-! ### Ports -/

/-- The ports have different names. -/
def PortsUnique (ports : List Port) : Prop := (ports.map Port.name).Nodup

def Action.ports (action : Action) : Direction → List Port
  | .input => action.inputPorts
  | .output => action.outputPorts

def UseCase.ports (useCase : UseCase) : Direction → List Port
  | .input => useCase.inputPorts
  | .output => useCase.outputPorts

/-- A port reference names a port: of a use case, or of the action of a step. -/
inductive PortAt (entities : List Entity) (ref : PortRef) (port : Port) : Prop
  | useCase {u : UseCase} (howner : Resolves entities ref.owner (.useCase u))
      (hmem : port ∈ u.ports ref.direction) (hname : port.name = ref.name)
  | step {s : Step} {a : Action} (howner : Resolves entities ref.owner (.step s))
      (haction : Resolves entities s.action (.action a)) (hmem : port ∈ a.ports ref.direction)
      (hname : port.name = ref.name)

/-! ### Values and bindings -/

/-- The entries of each record in the value have different names. -/
inductive IRValue.UniqueNames : IRValue → Prop
  | scalar (value : ScalarValue) : UniqueNames (.scalar value)
  | list {items : List IRValue} (h : ∀ item ∈ items, UniqueNames item) : UniqueNames (.list items)
  | record {entries : List (Identifier × IRValue)} (hnodup : (entries.map Prod.fst).Nodup)
      (h : ∀ entry ∈ entries, UniqueNames entry.2) : UniqueNames (.record entries)

/-- A binding may read a value of the kind from its source. -/
inductive SourceOf (entities : List Entity) (target : Port) : BindingSource → ValueKind → Prop
  | useCase {ref : PortRef} {port : Port} {u : UseCase}
      (howner : Resolves entities ref.owner (.useCase u)) (hdirection : ref.direction = .input)
      (hport : PortAt entities ref port) : SourceOf entities target (.port ref) port.valueKind
  | step {ref : PortRef} {port : Port} {s : Step}
      (howner : Resolves entities ref.owner (.step s)) (hdirection : ref.direction = .output)
      (hport : PortAt entities ref port) : SourceOf entities target (.port ref) port.valueKind
  | value {value : IRValue} (hunique : value.UniqueNames)
      (hnull : ¬(value.valueKind = .null ∧ target.required = true)) :
      SourceOf entities target (.value value) value.valueKind

/-- A binding writes an input port of a step from a source of its kind. -/
def BindingFits (entities : List Entity) (binding : Binding) : Prop :=
  binding.target.owner.targetKind = .step ∧ binding.target.direction = .input ∧
    ∃ port, PortAt entities binding.target port ∧
      ∃ kind, SourceOf entities port binding.source kind ∧ (kind = .null ∨ kind = port.valueKind)

/-! ### Entities and documents -/

/-- What is asked of one entity, its provenance apart. -/
def Entity.PartsFit (entities : List Entity) : Entity → Prop
  | .action e => PortsUnique e.inputPorts ∧ PortsUnique e.outputPorts ∧
      RefSet entities [.effect] e.effects ∧ RefSet entities [.capabilityRequirement] e.requires
  | .useCase e => PortsUnique e.inputPorts ∧ PortsUnique e.outputPorts ∧
      (∀ ref ∈ e.steps, RefTo entities [.step] ref) ∧ RefSet entities [.invariant] e.invariants ∧
      RefSet entities [.capabilityRequirement] e.requires
  | .step e => RefTo entities [.action] e.action ∧ RefSet entities [.binding] e.bindings ∧
      RefSet entities [.effect] e.effects ∧ RefSet entities [.observation] e.observations ∧
      RefSet entities [.capabilityRequirement] e.requires
  | .binding e => BindingFits entities e
  | .effect e => e.value.UniqueNames ∧
      RefSet entities [.capabilityRequirement] e.requires.val ∧ HasRequired entities e.requires.val
  | .observation e => RefTo entities observableKinds e.subject ∧ e.value.UniqueNames
  | .invariant e => RefSet entities observableKinds e.appliesTo ∧
      RefSet entities [.capabilityRequirement] e.requires.val ∧ HasRequired entities e.requires.val
  | .verificationEvidence e => e.subjects.Nodup ∧ ∀ ref ∈ e.subjects, RefToAny entities ref
  | .provenance _ => True
  | .capabilityRequirement _ => True

/-- What is asked of one entity. -/
structure Entity.WellFormed (entities : List Entity) (entity : Entity) : Prop where
  parts : entity.PartsFit entities
  provenance : ∀ ref, entity.provenanceRef? = some ref → RefTo entities [.provenance] ref

/-- The name that an entity declares for a capability. -/
def Entity.capabilityName? : Entity → Option QualifiedName
  | .capabilityRequirement e => some e.name
  | _ => none

/-- What is asked of a document. -/
structure BehaviorIR.WellFormed (document : BehaviorIR) : Prop where
  ids_nodup : (document.entities.map Entity.id).Nodup
  names_nodup : (document.entities.filterMap Entity.capabilityName?).Nodup
  roots : RefSet document.entities [.useCase] document.roots
  entities : ∀ entity ∈ document.entities, entity.WellFormed document.entities

/-! ### Resolving references -/

section Resolve

variable {entities : List Entity}

/-- A reference names at most one entity. -/
theorem Resolves.unique (hids : (entities.map Entity.id).Nodup) {ref : EntityRef}
    {first second : Entity} (h : Resolves entities ref first) (h' : Resolves entities ref second) :
    first = second := by
  have hget := (Dict.get?_index hids).mpr ⟨h.mem, h.id_eq⟩
  have hget' := (Dict.get?_index hids).mpr ⟨h'.mem, h'.id_eq⟩
  rw [hget, Option.some.injEq] at hget'
  exact hget'

theorem resolveEntity_eq_ok (hids : (entities.map Entity.id).Nodup) {ref : EntityRef}
    {location : String} {expected : Option (List EntityKind)} {target : Entity} :
    resolveEntity ref (Dict.index Entity.id entities) location expected = .ok target ↔
      Resolves entities ref target ∧ ∀ kinds, expected = some kinds → ref.targetKind ∈ kinds := by
  simp only [resolveEntity, bind_eq_ok, orRaise_eq_ok, require_eq_ok, exists_const,
    Dict.get?_index hids]
  cases expected with
  | none =>
    simp only [pure_eq_ok, Except.ok.injEq, reduceCtorEq, false_imp_iff, implies_true, and_true]
    constructor
    · rintro ⟨found, ⟨hmem, hid⟩, hkind, rfl⟩
      exact ⟨hmem, hid, hkind⟩
    · intro h
      exact ⟨target, ⟨h.mem, h.id_eq⟩, h.kind_eq, rfl⟩
  | some kinds =>
    simp only [bind_eq_ok, require_eq_ok, exists_const, pure_eq_ok, Except.ok.injEq,
      Option.some.injEq, forall_eq']
    constructor
    · rintro ⟨found, ⟨hmem, hid⟩, hkind, hkinds, rfl⟩
      exact ⟨⟨hmem, hid, hkind⟩, hkind ▸ hkinds⟩
    · rintro ⟨h, hkinds⟩
      exact ⟨target, ⟨h.mem, h.id_eq⟩, h.kind_eq, h.kind_eq ▸ hkinds, rfl⟩

theorem exists_resolveEntity (hids : (entities.map Entity.id).Nodup) {ref : EntityRef}
    {location : String} {kinds : List EntityKind} :
    (∃ target, resolveEntity ref (Dict.index Entity.id entities) location (some kinds) =
      .ok target) ↔ RefTo entities kinds ref := by
  simp only [resolveEntity_eq_ok hids, Option.some.injEq, forall_eq', RefTo]
  constructor
  · rintro ⟨target, h, hkinds⟩
    exact ⟨hkinds, target, h⟩
  · rintro ⟨hkinds, target, h⟩
    exact ⟨target, h, hkinds⟩

theorem exists_resolveEntity_any (hids : (entities.map Entity.id).Nodup) {ref : EntityRef}
    {location : String} :
    (∃ target, resolveEntity ref (Dict.index Entity.id entities) location none = .ok target) ↔
      RefToAny entities ref := by
  simp [resolveEntity_eq_ok hids, RefToAny]

theorem checkRef_eq_ok (hids : (entities.map Entity.id).Nodup) {refs : List EntityRef}
    {location : String} {expected : Option (List EntityKind)} {unique : Bool} {position : Nat}
    {ref : EntityRef} {u : Unit} :
    checkRef refs (Dict.index Entity.id entities) location expected unique position ref = .ok u ↔
      ¬(unique = true ∧ ref ∈ refs.take position) ∧ RefToAny entities ref ∧
        ∀ kinds, expected = some kinds → ref.targetKind ∈ kinds := by
  simp only [checkRef, bind_eq_ok, require_eq_ok, exists_const, pure_eq_ok, and_true,
    resolveEntity_eq_ok hids, RefToAny]
  refine and_congr_right fun _ => ?_
  constructor
  · rintro ⟨target, h, hkinds⟩
    exact ⟨⟨target, h⟩, hkinds⟩
  · rintro ⟨⟨target, h⟩, hkinds⟩
    exact ⟨target, h, hkinds⟩

theorem validateRefSequence_eq_ok (hids : (entities.map Entity.id).Nodup)
    {refs : List EntityRef} {location : String} {expected : Option (List EntityKind)}
    {unique : Bool} {u : Unit} :
    validateRefSequence refs (Dict.index Entity.id entities) location expected unique = .ok u ↔
      (unique = true → refs.Nodup) ∧ ∀ ref ∈ refs, RefToAny entities ref ∧
        ∀ kinds, expected = some kinds → ref.targetKind ∈ kinds := by
  have hnodup : refs.Nodup ↔ ∀ i (h : i < refs.length), refs[i] ∉ refs.take i := by
    have := @nodup_map_iff _ _ id refs
    simpa only [List.map_id, id_eq] using this
  simp only [validateRefSequence, checkEach_eq_ok, checkRef_eq_ok hids]
  constructor
  · intro h
    refine ⟨fun hunique => hnodup.mpr fun i hi hmem => (h i hi).1 ⟨hunique, hmem⟩, ?_⟩
    intro ref href
    obtain ⟨i, hi, rfl⟩ := List.mem_iff_getElem.mp href
    exact (h i hi).2
  · rintro ⟨hunique, hrefs⟩ i hi
    exact ⟨fun ⟨h, hmem⟩ => hnodup.mp (hunique h) i hi hmem, hrefs _ (List.getElem_mem hi)⟩

theorem validateRefSet_eq_ok (hids : (entities.map Entity.id).Nodup) {refs : List EntityRef}
    {location : String} {kinds : List EntityKind} {u : Unit} :
    validateRefSequence refs (Dict.index Entity.id entities) location (some kinds) true = .ok u ↔
      RefSet entities kinds refs := by
  simp only [validateRefSequence_eq_ok hids, Option.some.injEq, forall_eq', true_imp_iff]
  exact ⟨fun ⟨hnodup, hrefs⟩ => ⟨hnodup, fun ref href => (hrefs ref href).symm⟩,
    fun h => ⟨h.nodup, fun ref href => (h.refs_to ref href).symm⟩⟩

/-- The references of a list that is no set. -/
theorem validateRefs_eq_ok (hids : (entities.map Entity.id).Nodup) {refs : List EntityRef}
    {location : String} {kinds : List EntityKind} {u : Unit} :
    validateRefSequence refs (Dict.index Entity.id entities) location (some kinds) false =
      .ok u ↔ ∀ ref ∈ refs, RefTo entities kinds ref := by
  simp only [validateRefSequence_eq_ok hids, Option.some.injEq, forall_eq', Bool.false_eq_true,
    false_imp_iff, true_and]
  exact forall₂_congr fun ref _ => and_comm

/-- A search for a required capability among references that resolve. -/
theorem anyRequired_eq_ok (hids : (entities.map Entity.id).Nodup) {refs : List EntityRef}
    (hrefs : ∀ ref ∈ refs, RefToAny entities ref) :
    anyRequired (Dict.index Entity.id entities) refs = .ok true ↔ HasRequired entities refs := by
  induction refs with
  | nil => simp [anyRequired, HasRequired]
  | cons ref refs ih =>
    rw [List.forall_mem_cons] at hrefs
    obtain ⟨⟨target, htarget⟩, hrest⟩ := hrefs
    have hget := (Dict.get?_index hids).mpr ⟨htarget.mem, htarget.id_eq⟩
    have hhead : HasRequired entities (ref :: refs) ↔
        (∃ c, target = .capabilityRequirement c ∧ c.required = true) ∨
          HasRequired entities refs := by
      simp only [HasRequired, List.exists_mem_cons_iff]
      refine or_congr_left ?_
      constructor
      · rintro ⟨c, hc, hrequired⟩
        exact ⟨c, htarget.unique hids hc, hrequired⟩
      · rintro ⟨c, rfl, hrequired⟩
        exact ⟨c, htarget, hrequired⟩
    rw [hhead, ← ih hrest, anyRequired, hget, orRaise_some, ok_bind]
    cases target with
    | capabilityRequirement c =>
      cases hrequired : c.required <;> simp [hrequired]
    | _ => simp

theorem requireSemanticCapability_eq_ok (hids : (entities.map Entity.id).Nodup)
    {refs : List EntityRef} (hrefs : ∀ ref ∈ refs, RefToAny entities ref) {location : String}
    {u : Unit} : requireSemanticCapability refs (Dict.index Entity.id entities) location = .ok u ↔
      HasRequired entities refs := by
  simp only [requireSemanticCapability, bind_eq_ok, require_eq_ok, ← anyRequired_eq_ok hids hrefs]
  constructor
  · rintro ⟨_, hfound, htrue⟩
    exact htrue ▸ hfound
  · intro h
    exact ⟨true, h, rfl⟩

end Resolve

/-! ### Values -/

theorem validatePorts_eq_ok {ports : List Port} {location : String} {u : Unit} :
    validatePorts ports location = .ok u ↔ PortsUnique ports := by
  simp only [validatePorts, checkEach_eq_ok, require_eq_ok, PortsUnique]
  exact nodup_map_iff.symm

theorem IRValue.uniqueNames_list {items : List IRValue} :
    (IRValue.list items).UniqueNames ↔ ∀ item ∈ items, item.UniqueNames :=
  ⟨fun h => by cases h; assumption, .list⟩

theorem IRValue.uniqueNames_record {entries : List (Identifier × IRValue)} :
    (IRValue.record entries).UniqueNames ↔
      (entries.map Prod.fst).Nodup ∧ ∀ entry ∈ entries, entry.2.UniqueNames :=
  ⟨fun h => by cases h; exact ⟨‹_›, ‹_›⟩, fun ⟨hnodup, h⟩ => .record hnodup h⟩

mutual

/-- The check of a value accepts exactly unique entry names; by recursion on the value. -/
theorem validateValue_eq_ok : ∀ (location : String) (value : IRValue),
    validateValue location value = .ok () ↔ value.UniqueNames
  | location, .scalar value => by
    rw [validateValue]
    exact ⟨fun _ => .scalar value, fun _ => rfl⟩
  | location, .list items => by
    rw [validateValue, validateItems_eq_ok, IRValue.uniqueNames_list]
  | location, .record entries => by
    rw [validateValue, validateEntries_eq_ok, IRValue.uniqueNames_record]
    simp

theorem validateItems_eq_ok : ∀ (location : String) (position : Nat) (items : List IRValue),
    validateItems location position items = .ok () ↔ ∀ item ∈ items, item.UniqueNames
  | location, position, [] => by simp [validateItems]
  | location, position, item :: items => by
    simp only [validateItems, bind_eq_ok, List.forall_mem_cons,
      validateItems_eq_ok location (position + 1) items]
    rw [← validateValue_eq_ok (at_ location position) item]
    exact ⟨fun ⟨_, hitem, hitems⟩ => ⟨hitem, hitems⟩, fun ⟨hitem, hitems⟩ => ⟨(), hitem, hitems⟩⟩

theorem validateEntries_eq_ok : ∀ (location : String) (position : Nat) (seen : List Identifier)
    (entries : List (Identifier × IRValue)),
    validateEntries location position seen entries = .ok () ↔
      ((entries.map Prod.fst).Nodup ∧ ∀ name ∈ entries.map Prod.fst, name ∉ seen) ∧
        ∀ entry ∈ entries, entry.2.UniqueNames
  | location, position, seen, [] => by simp [validateEntries]
  | location, position, seen, (name, value) :: entries => by
    simp only [validateEntries, bind_eq_ok, require_eq_ok, exists_const, List.forall_mem_cons,
      List.map_cons, List.nodup_cons,
      validateEntries_eq_ok location (position + 1) (name :: seen) entries]
    rw [← validateValue_eq_ok (at_ location position ++ ".value") value]
    constructor
    · rintro ⟨hseen, _, hvalue, ⟨hnodup, hnames⟩, hentries⟩
      refine ⟨⟨⟨fun hmem => hnames name hmem (by simp), hnodup⟩, hseen, ?_⟩, hvalue, hentries⟩
      exact fun other hother hmem => hnames other hother (List.mem_cons_of_mem _ hmem)
    · rintro ⟨⟨⟨hname, hnodup⟩, hseen, hnames⟩, hvalue, hentries⟩
      refine ⟨hseen, (), hvalue, ⟨hnodup, fun other hother hmem => ?_⟩, hentries⟩
      rcases List.mem_cons.mp hmem with rfl | hmem
      · exact hname hother
      · exact hnames other hother hmem

end

/-! ### Ports and bindings -/

/-- The ports of an entity that has ports of its own have different names. -/
def Entity.PortsUnique : Entity → Prop
  | .action e => Ucf.PortsUnique e.inputPorts ∧ Ucf.PortsUnique e.outputPorts
  | .useCase e => Ucf.PortsUnique e.inputPorts ∧ Ucf.PortsUnique e.outputPorts
  | _ => True

theorem find?_port {ports : List Port} (h : PortsUnique ports) {name : Identifier} {port : Port} :
    (ports.find? fun candidate => candidate.name = name) = some port ↔
      port ∈ ports ∧ port.name = name := by
  constructor
  · intro hfind
    exact ⟨List.mem_of_find?_eq_some hfind, by simpa using List.find?_some hfind⟩
  · rintro ⟨hmem, hname⟩
    cases hfind : ports.find? fun candidate => candidate.name = name with
    | none => exact absurd hname (by simpa using List.find?_eq_none.mp hfind port hmem)
    | some found =>
      have hfound : found.name = name := by simpa using List.find?_some hfind
      rw [List.inj_on_of_nodup_map h (List.mem_of_find?_eq_some hfind) hmem
        (hfound.trans hname.symm)]

theorem Action.portsUnique {action : Action} (h : (Entity.action action).PortsUnique)
    (direction : Direction) : PortsUnique (action.ports direction) := by
  cases direction
  · exact h.1
  · exact h.2

theorem UseCase.portsUnique {useCase : UseCase} (h : (Entity.useCase useCase).PortsUnique)
    (direction : Direction) : PortsUnique (useCase.ports direction) := by
  cases direction
  · exact h.1
  · exact h.2

section Bindings

variable {entities : List Entity}

theorem stepAction_eq_ok (hids : (entities.map Entity.id).Nodup) {step : Step}
    {location : String} {action : Action} :
    stepAction step (Dict.index Entity.id entities) location = .ok action ↔
      Resolves entities step.action (.action action) := by
  simp only [stepAction, bind_eq_ok, resolveEntity_eq_ok hids, Option.some.injEq, forall_eq',
    List.mem_singleton]
  constructor
  · rintro ⟨target, ⟨h, hkind⟩, hmatch⟩
    cases target with
    | action a =>
      cases hmatch
      exact h
    | _ => cases hmatch
  · intro h
    exact ⟨_, ⟨h, h.kind_eq.symm⟩, rfl⟩

theorem exists_stepAction (hids : (entities.map Entity.id).Nodup) {step : Step}
    {location : String} :
    (∃ action, stepAction step (Dict.index Entity.id entities) location = .ok action) ↔
      RefTo entities [.action] step.action := by
  simp only [stepAction_eq_ok hids, RefTo, List.mem_singleton]
  constructor
  · rintro ⟨action, h⟩
    exact ⟨h.kind_eq.symm, _, h⟩
  · rintro ⟨hkind, target, h⟩
    have htarget := h.kind_eq.trans hkind
    cases target with
    | action a => exact ⟨a, h⟩
    | _ => cases htarget

theorem resolvePort_eq_ok (hids : (entities.map Entity.id).Nodup)
    (hports : ∀ entity ∈ entities, entity.PortsUnique) {ref : PortRef} {location : String}
    {port : Port} : resolvePort ref (Dict.index Entity.id entities) location = .ok port ↔
      PortAt entities ref port := by
  simp only [resolvePort, bind_eq_ok, resolveEntity_eq_ok hids, Option.some.injEq, forall_eq',
    orRaise_eq_ok]
  constructor
  · rintro ⟨owner, ⟨howner, _⟩, ports, hownerPorts, hfind⟩
    cases owner with
    | useCase u =>
      have hports' := hports _ howner.mem
      obtain rfl : u.ports ref.direction = ports := by
        unfold ownerPorts at hownerPorts
        cases hdirection : ref.direction <;> simpa [hdirection, UseCase.ports] using hownerPorts
      obtain ⟨hmem, hname⟩ := (find?_port (UseCase.portsUnique hports' _)).mp hfind
      exact .useCase howner hmem hname
    | step s =>
      simp only [ownerPorts, bind_eq_ok, stepAction_eq_ok hids, pure_eq_ok, Except.ok.injEq]
        at hownerPorts
      obtain ⟨a, haction, hownerPorts⟩ := hownerPorts
      obtain rfl : a.ports ref.direction = ports := by
        cases hdirection : ref.direction <;> simpa [hdirection, Action.ports] using hownerPorts
      obtain ⟨hmem, hname⟩ := (find?_port (Action.portsUnique (hports _ haction.mem) _)).mp hfind
      exact .step howner haction hmem hname
    | _ => cases hownerPorts
  · rintro (⟨howner, hmem, hname⟩ | ⟨howner, haction, hmem, hname⟩)
    · rename_i u
      refine ⟨_, ⟨howner, ?_⟩, u.ports ref.direction, ?_, ?_⟩
      · simp [← howner.kind_eq, Entity.kind]
      · unfold ownerPorts
        cases ref.direction <;> rfl
      · exact (find?_port (UseCase.portsUnique (hports _ howner.mem) _)).mpr ⟨hmem, hname⟩
    · rename_i s a
      refine ⟨_, ⟨howner, ?_⟩, a.ports ref.direction, ?_, ?_⟩
      · simp [← howner.kind_eq, Entity.kind]
      · simp only [ownerPorts, bind_eq_ok, stepAction_eq_ok hids]
        refine ⟨a, haction, ?_⟩
        cases ref.direction <;> rfl
      · exact (find?_port (Action.portsUnique (hports _ haction.mem) _)).mpr ⟨hmem, hname⟩

theorem sourceKind_eq_ok (hids : (entities.map Entity.id).Nodup)
    (hports : ∀ entity ∈ entities, entity.PortsUnique) {source : BindingSource} {target : Port}
    {location : String} {kind : ValueKind} :
    sourceKind source target (Dict.index Entity.id entities) location = .ok kind ↔
      SourceOf entities target source kind := by
  cases source with
  | port reference =>
    simp only [sourceKind, bind_eq_ok, resolveEntity_eq_ok hids, Option.some.injEq, forall_eq',
      require_eq_ok, exists_const, resolvePort_eq_ok hids hports, pure_eq_ok, Except.ok.injEq]
    constructor
    · rintro ⟨owner, ⟨howner, _⟩, hsource, port, hport, rfl⟩
      cases owner with
      | useCase u => exact .useCase howner hsource hport
      | step s => exact .step howner hsource hport
      | _ => exact absurd hsource id
    · rintro (⟨howner, hdirection, hport⟩ | ⟨howner, hdirection, hport⟩)
      · exact ⟨_, ⟨howner, by simp [← howner.kind_eq, Entity.kind]⟩, hdirection, _, hport, rfl⟩
      · exact ⟨_, ⟨howner, by simp [← howner.kind_eq, Entity.kind]⟩, hdirection, _, hport, rfl⟩
  | value value =>
    simp only [sourceKind, bind_eq_ok, require_eq_ok, exists_const, pure_eq_ok, Except.ok.injEq]
    constructor
    · rintro ⟨_, hvalue, hnull, rfl⟩
      exact .value ((validateValue_eq_ok _ _).mp hvalue) hnull
    · rintro ⟨⟩
      exact ⟨(), (validateValue_eq_ok _ _).mpr ‹_›, ‹_›, rfl⟩

theorem validateBinding_eq_ok (hids : (entities.map Entity.id).Nodup)
    (hports : ∀ entity ∈ entities, entity.PortsUnique) {binding : Binding} {location : String}
    {u : Unit} : validateBinding binding (Dict.index Entity.id entities) location = .ok u ↔
      BindingFits entities binding := by
  simp only [validateBinding, bind_eq_ok, resolveEntity_eq_ok hids, Option.some.injEq, forall_eq',
    List.mem_singleton, require_eq_ok, exists_const, resolvePort_eq_ok hids hports,
    sourceKind_eq_ok hids hports]
  constructor
  · rintro ⟨owner, ⟨_, hkind⟩, hdirection, port, hport, kind, hsource, hfits⟩
    exact ⟨hkind, hdirection, port, hport, kind, hsource, hfits⟩
  · rintro ⟨hkind, hdirection, port, hport, kind, hsource, hfits⟩
    obtain ⟨owner, howner⟩ : ∃ owner, Resolves entities binding.target.owner owner := by
      cases hport with
      | useCase howner _ _ => exact ⟨_, howner⟩
      | step howner _ _ _ => exact ⟨_, howner⟩
    exact ⟨owner, ⟨howner, hkind⟩, hdirection, port, hport, kind, hsource, hfits⟩

/-! ### Entities -/

/-- What the checks say of the ports of an entity. -/
theorem Entity.PartsFit.portsUnique {entity : Entity} (h : entity.PartsFit entities) :
    entity.PortsUnique := by
  cases entity with
  | action e => exact ⟨h.1, h.2.1⟩
  | useCase e => exact ⟨h.1, h.2.1⟩
  | _ => trivial

theorem portsUnique_of_validateEntityParts {index : EntityIndex} {location : String}
    {entity : Entity} {u : Unit} (h : validateEntityParts index location entity = .ok u) :
    entity.PortsUnique := by
  cases entity with
  | action e =>
    simp only [validateEntityParts, bind_eq_ok, validatePorts_eq_ok, exists_const] at h
    exact ⟨h.1, h.2.1⟩
  | useCase e =>
    simp only [validateEntityParts, bind_eq_ok, validatePorts_eq_ok, exists_const] at h
    exact ⟨h.1, h.2.1⟩
  | _ => trivial

theorem RefSet.refToAny {kinds : List EntityKind} {refs : List EntityRef}
    (h : RefSet entities kinds refs) : ∀ ref ∈ refs, RefToAny entities ref :=
  fun ref href => (h.refs_to ref href).2

theorem validateEntityParts_eq_ok (hids : (entities.map Entity.id).Nodup)
    (hports : ∀ entity ∈ entities, entity.PortsUnique) {location : String} {entity : Entity}
    {u : Unit} : validateEntityParts (Dict.index Entity.id entities) location entity = .ok u ↔
      entity.PartsFit entities := by
  cases entity with
  | action e =>
    simp only [validateEntityParts, bind_eq_ok, validatePorts_eq_ok, exists_const,
      validateRefSet_eq_ok hids, Entity.PartsFit]
  | useCase e =>
    simp only [validateEntityParts, bind_eq_ok, validatePorts_eq_ok, exists_const,
      validateRefSet_eq_ok hids, validateRefs_eq_ok hids, Entity.PartsFit]
  | step e =>
    have haction := @exists_stepAction entities hids e (location ++ ".action")
    simp only [validateEntityParts, bind_eq_ok, exists_const, validateRefSet_eq_ok hids,
      Entity.PartsFit, ← haction, exists_and_right]
  | binding e => exact validateBinding_eq_ok hids hports
  | effect e =>
    simp only [validateEntityParts, bind_eq_ok, exists_const, validateRefSet_eq_ok hids,
      Entity.PartsFit]
    constructor
    · rintro ⟨_, hvalue, hrequires, hrequired⟩
      exact ⟨(validateValue_eq_ok _ _).mp hvalue, hrequires,
        (requireSemanticCapability_eq_ok hids hrequires.refToAny).mp hrequired⟩
    · rintro ⟨hvalue, hrequires, hrequired⟩
      exact ⟨(), (validateValue_eq_ok _ _).mpr hvalue, hrequires,
        (requireSemanticCapability_eq_ok hids hrequires.refToAny).mpr hrequired⟩
  | observation e =>
    have hsubject := @exists_resolveEntity entities hids e.subject (location ++ ".subject")
      observableKinds
    simp only [validateEntityParts, bind_eq_ok, Entity.PartsFit, ← hsubject, exists_and_right]
    exact and_congr_right fun _ => validateValue_eq_ok _ _
  | invariant e =>
    simp only [validateEntityParts, bind_eq_ok, exists_const, validateRefSet_eq_ok hids,
      Entity.PartsFit]
    refine and_congr_right fun _ => and_congr_right fun hrequires => ?_
    exact requireSemanticCapability_eq_ok hids hrequires.refToAny
  | verificationEvidence e =>
    simp only [validateEntityParts, validateRefSequence_eq_ok hids, reduceCtorEq, false_imp_iff,
      implies_true, and_true, Entity.PartsFit, true_imp_iff]
  | provenance e => exact iff_of_true rfl trivial
  | capabilityRequirement e => exact iff_of_true rfl trivial

theorem validateEntity_eq_ok (hids : (entities.map Entity.id).Nodup)
    (hports : ∀ entity ∈ entities, entity.PortsUnique) {position : Nat} {entity : Entity} :
    validateEntity (Dict.index Entity.id entities) position entity = .ok () ↔
      entity.WellFormed entities := by
  simp only [validateEntity, bind_eq_ok, validateEntityParts_eq_ok hids hports, exists_const]
  cases hprovenance : entity.provenanceRef? with
  | none => exact ⟨fun ⟨h, _⟩ => ⟨h, by simp [hprovenance]⟩, fun h => ⟨h.parts, rfl⟩⟩
  | some ref =>
    have href := @exists_resolveEntity entities hids ref
      (at_ "$.entities" position ++ ".provenance") [.provenance]
    simp only [bind_eq_ok, pure_eq_ok, and_true, href]
    constructor
    · rintro ⟨hparts, h⟩
      exact ⟨hparts, by simpa [hprovenance] using h⟩
    · intro h
      exact ⟨h.parts, h.provenance ref hprovenance⟩

end Bindings

/-! ### Documents -/

theorem capabilityNames_eq (entities : List Entity) :
    (capabilityNames entities).map Prod.fst = entities.filterMap Entity.capabilityName? := by
  rw [capabilityNames, List.map_filterMap]
  congr 1
  funext entity
  cases entity <;> rfl

theorem checkIdentity_eq_ok {entities : List Entity} {position : Nat} {entity : Entity} :
    checkIdentity entities position entity = .ok () ↔
      entity.id ∉ (entities.take position).map Entity.id ∧
        ∀ name, entity.capabilityName? = some name →
          name ∉ (entities.take position).filterMap Entity.capabilityName? := by
  have hid : (Dict.index Entity.id (entities.take position)).get? entity.id = none ↔
      entity.id ∉ (entities.take position).map Entity.id := by
    rw [Dict.get?_index_eq_none, List.mem_map, not_exists]
    exact forall_congr' fun _ => not_and.symm
  have hname : ∀ name, (Dict.ofList (capabilityNames (entities.take position))).get? name = none ↔
      name ∉ (entities.take position).filterMap Entity.capabilityName? := by
    intro name
    rw [Dict.get?_eq_none, Dict.mem_keys_ofList, capabilityNames_eq]
  rw [← hid]
  unfold checkIdentity
  cases hget : (Dict.index Entity.id (entities.take position)).get? entity.id with
  | some previous => simp
  | none =>
    cases entity with
    | capabilityRequirement e =>
      simp only [Entity.capabilityName?, Option.some.injEq, forall_eq', ← hname]
      cases hcapability :
        (Dict.ofList (capabilityNames (entities.take position))).get? e.name <;> simp
    | _ => simp [Entity.capabilityName?]

theorem buildIndex_eq_ok {document : BehaviorIR} {index : EntityIndex} :
    buildIndex document = .ok index ↔ (document.entities.map Entity.id).Nodup ∧
      (document.entities.filterMap Entity.capabilityName?).Nodup ∧
      index = Dict.index Entity.id document.entities := by
  simp only [buildIndex, bind_eq_ok, exists_const, pure_eq_ok, Except.ok.injEq, checkEach_eq_ok,
    checkIdentity_eq_ok]
  rw [nodup_map_iff, nodup_filterMap_iff]
  constructor
  · rintro ⟨h, rfl⟩
    exact ⟨fun i hi => (h i hi).1, fun i hi => (h i hi).2, rfl⟩
  · rintro ⟨hids, hnames, rfl⟩
    exact ⟨fun i hi => ⟨hids i hi, hnames i hi⟩, rfl⟩

theorem validateEntities_eq_ok {entities : List Entity} (hids : (entities.map Entity.id).Nodup)
    (hports : ∀ entity ∈ entities, entity.PortsUnique) {u : Unit} :
    checkEach (validateEntity (Dict.index Entity.id entities)) entities = .ok u ↔
      ∀ entity ∈ entities, entity.WellFormed entities :=
  checkEach_eq_ok_of_iff fun _ _ => validateEntity_eq_ok hids hports

/-- The validator accepts exactly the well-formed documents. -/
theorem validateIrSemantics_eq_ok {document : BehaviorIR} {u : Unit} :
    validateIrSemantics document = .ok u ↔ document.WellFormed := by
  simp only [validateIrSemantics, bind_eq_ok, buildIndex_eq_ok]
  constructor
  · rintro ⟨_, ⟨hids, hnames, rfl⟩, _, hroots, hentities⟩
    have hports : ∀ entity ∈ document.entities, entity.PortsUnique := by
      intro entity hentity
      obtain ⟨i, hi, rfl⟩ := List.mem_iff_getElem.mp hentity
      have hvalid := checkEach_eq_ok.mp hentities i hi
      simp only [validateEntity, bind_eq_ok] at hvalid
      obtain ⟨_, hparts, _⟩ := hvalid
      exact portsUnique_of_validateEntityParts hparts
    exact ⟨hids, hnames, (validateRefSet_eq_ok hids).mp hroots,
      (validateEntities_eq_ok hids hports).mp hentities⟩
  · intro h
    have hports : ∀ entity ∈ document.entities, entity.PortsUnique :=
      fun entity hentity => (h.entities entity hentity).parts.portsUnique
    exact ⟨_, ⟨h.ids_nodup, h.names_nodup, rfl⟩, (),
      (validateRefSet_eq_ok h.ids_nodup).mpr h.roots,
      (validateEntities_eq_ok h.ids_nodup hports).mpr h.entities⟩

end Ucf
