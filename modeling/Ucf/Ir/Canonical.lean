import Ucf.Ir.Codec

/-! The canonical form of a Behavior IR document: the document whose own JSON is the one that
`canonical_ir_json` writes, up to the order of object members. Sets of references, ports, record
entries, roots and entities are in the order of their keys; steps and list items stay in place. -/

namespace Ucf

/-! ### Sort keys -/

/-- The key by which references are sorted. -/
def refKey (ref : EntityRef) : String ×ₗ String := toLex (ref.targetKind.value, ref.targetId.val)

/-- The key by which entities are sorted. -/
def Entity.key (entity : Entity) : String ×ₗ String := toLex (entity.kind.value, entity.id.val)

theorem EntityKind.value_injective : Function.Injective EntityKind.value := by
  intro a b h
  cases a <;> cases b <;> first | rfl | (exact absurd h (by decide))

theorem refKey_injective : Function.Injective refKey := by
  intro a b h
  obtain ⟨akind, aid⟩ := a
  obtain ⟨bkind, bid⟩ := b
  simp only [refKey, toLex_inj, Prod.mk.injEq] at h
  rw [EntityKind.value_injective h.1, Subtype.ext h.2]

/-- The references of a set, in order. -/
def sortRefs (refs : List EntityRef) : List EntityRef := sortedBy refKey refs

/-- The ports of an owner, in order. -/
def sortPorts (ports : List Port) : List Port := sortedBy (fun port => port.name.val) ports

/-! ### Canonical forms -/

namespace IRValue

mutual

/-- The value with the entries of each of its records in the order of their names. -/
def canonical : IRValue → IRValue
  | .scalar value => .scalar value
  | .list items => .list (canonicalItems items)
  | .record entries => .record (sortedBy (fun entry => entry.1.val) (canonicalEntries entries))

def canonicalItems : List IRValue → List IRValue
  | [] => []
  | item :: items => canonical item :: canonicalItems items

def canonicalEntries : List (Identifier × IRValue) → List (Identifier × IRValue)
  | [] => []
  | (name, value) :: entries => (name, canonical value) :: canonicalEntries entries

end

theorem canonicalItems_eq_map (items : List IRValue) :
    canonicalItems items = items.map canonical := by
  induction items with
  | nil => rfl
  | cons item items ih => rw [canonicalItems, ih, List.map_cons]

/-- An entry with its value in canonical form. -/
def canonicalEntry (entry : Identifier × IRValue) : Identifier × IRValue :=
  (entry.1, entry.2.canonical)

theorem canonicalEntries_eq_map (entries : List (Identifier × IRValue)) :
    canonicalEntries entries = entries.map canonicalEntry := by
  induction entries with
  | nil => rfl
  | cons entry entries ih => rw [canonicalEntries, ih, List.map_cons]; rfl

theorem canonical_scalar (value : ScalarValue) : canonical (.scalar value) = .scalar value := by
  rw [canonical]

theorem canonical_list (items : List IRValue) :
    canonical (.list items) = .list (items.map canonical) := by
  rw [canonical, canonicalItems_eq_map]

theorem canonical_record (entries : List (Identifier × IRValue)) :
    canonical (.record entries) =
      .record (sortedBy (fun entry => entry.1.val) (entries.map canonicalEntry)) := by
  rw [canonical, canonicalEntries_eq_map]

/-- Values are smaller than the lists and records that hold them. -/
theorem induction {motive : IRValue → Prop} (scalar : ∀ value, motive (.scalar value))
    (list : ∀ items, (∀ item ∈ items, motive item) → motive (.list items))
    (record : ∀ entries, (∀ entry ∈ entries, motive entry.2) → motive (.record entries))
    (value : IRValue) : motive value :=
  @IRValue.rec motive (fun items => ∀ item ∈ items, motive item)
    (fun entries => ∀ entry ∈ entries, motive entry.2) (fun entry => motive entry.2)
    scalar list record (by simp)
    (fun item items hitem hitems => by simpa using ⟨hitem, hitems⟩) (by simp)
    (fun entry entries hentry hentries => by
      rw [List.forall_mem_cons]
      exact ⟨hentry, hentries⟩)
    (fun _ _ h => h) value

end IRValue

def BindingSource.canonical : BindingSource → BindingSource
  | .port reference => .port reference
  | .value given => .value given.canonical

def NonEmptyEntityRefs.canonical (refs : NonEmptyEntityRefs) : NonEmptyEntityRefs :=
  ⟨sortRefs refs.val, by rw [sortRefs, length_sortedBy]; exact refs.property⟩

namespace Entity

/-- The entity with its sets in order. -/
def canonical : Entity → Entity
  | action e => .action { e with
      inputPorts := sortPorts e.inputPorts
      outputPorts := sortPorts e.outputPorts
      effects := sortRefs e.effects
      requires := sortRefs e.requires }
  | useCase e => .useCase { e with
      inputPorts := sortPorts e.inputPorts
      outputPorts := sortPorts e.outputPorts
      invariants := sortRefs e.invariants
      requires := sortRefs e.requires }
  | step e => .step { e with
      bindings := sortRefs e.bindings
      effects := sortRefs e.effects
      observations := sortRefs e.observations
      requires := sortRefs e.requires }
  | binding e => .binding { e with source := e.source.canonical }
  | effect e => .effect { e with
      value := e.value.canonical
      requires := e.requires.canonical }
  | observation e => .observation { e with value := e.value.canonical }
  | invariant e => .invariant { e with
      appliesTo := sortRefs e.appliesTo
      requires := e.requires.canonical }
  | provenance e => .provenance e
  | verificationEvidence e => .verificationEvidence { e with subjects := sortRefs e.subjects }
  | capabilityRequirement e => .capabilityRequirement e

@[simp] theorem id_canonical (entity : Entity) : entity.canonical.id = entity.id := by
  cases entity <;> rfl

@[simp] theorem kind_canonical (entity : Entity) : entity.canonical.kind = entity.kind := by
  cases entity <;> rfl

@[simp] theorem key_canonical (entity : Entity) : entity.canonical.key = entity.key := by
  simp [key]

end Entity

namespace BehaviorIR

/-- The document with its sets in order. -/
def canonical (document : BehaviorIR) : BehaviorIR where
  documentId := document.documentId
  roots := sortRefs document.roots
  entities := sortedBy Entity.key (document.entities.map Entity.canonical)

end BehaviorIR

/-! ### The JSON of a canonical form

`canonicalize` sorts the JSON of a document, and gives the JSON of its canonical form. -/

theorem canonicalizeItems_eq_map (kind : Option Json) (field : String) (items : List Json) :
    canonicalizeItems kind field items = items.map (canonicalize kind field) := by
  induction items with
  | nil => rw [canonicalizeItems, List.map_nil]
  | cons item items ih => rw [canonicalizeItems, ih, List.map_cons]

@[simp] theorem canonicalize_str (kind : Option Json) (field s : String) :
    canonicalize kind field (.str s) = .str s := by
  rw [canonicalize] <;> nofun

@[simp] theorem canonicalize_bool (kind : Option Json) (field : String) (b : Bool) :
    canonicalize kind field (.bool b) = .bool b := by
  rw [canonicalize] <;> nofun

@[simp] theorem canonicalize_int (kind : Option Json) (field : String) (n : Int) :
    canonicalize kind field (.int n) = .int n := by
  rw [canonicalize] <;> nofun

@[simp] theorem canonicalize_null (kind : Option Json) (field : String) :
    canonicalize kind field .null = .null := by
  rw [canonicalize] <;> nofun

theorem canonicalize_arr (kind : Option Json) (field : String) (items : List Json) :
    canonicalize kind field (.arr items) =
      .arr (orderItems kind field (items.map (canonicalize kind field))) := by
  rw [canonicalize, canonicalizeItems_eq_map]

theorem canonicalize_obj (kind : Option Json) (field : String) (fields : List (String × Json)) :
    canonicalize kind field (.obj fields) =
      .obj (canonicalizeFields (kindOf (.obj fields)) fields) := by
  rw [canonicalize]

theorem canonicalizeFields_nil (kind : Option Json) : canonicalizeFields kind [] = [] := by
  rw [canonicalizeFields]

theorem canonicalizeFields_cons (kind : Option Json) (name : String) (value : Json)
    (fields : List (String × Json)) :
    canonicalizeFields kind ((name, value) :: fields) =
      (name, canonicalize kind name value) :: canonicalizeFields kind fields := by
  rw [canonicalizeFields]

/-! #### Parts without sets -/

section Parts

variable (kind : Option Json) (field : String)

theorem kindOf_obj (value : Json) (fields : List (String × Json)) :
    kindOf (.obj (("kind", value) :: fields)) = some value := rfl

theorem orderItems_of_list {items : List Json} (hentities : field ≠ "entities")
    (hports : field ∉ portSetFields) (hentries : field ≠ "entries")
    (hrefs : field ∉ referenceSetFields) : orderItems kind field items = items := by
  simp [orderItems, hentities, hports, hentries, hrefs]

theorem canonicalize_entityRef (ref : EntityRef) :
    canonicalize kind field (modelDump ref) = modelDump ref := by
  have hdump : modelDump ref = .obj [("kind", .str "entity_ref"),
      ("target_kind", .str ref.targetKind.value), ("target_id", .str ref.targetId.val)] := rfl
  simp only [hdump, canonicalize_obj, canonicalizeFields_cons, canonicalizeFields_nil,
    canonicalize_str]

theorem canonicalize_port (port : Port) :
    canonicalize kind field (modelDump port) = modelDump port := by
  have hdump : modelDump port = .obj [("kind", .str "port"), ("name", .str port.name.val),
      ("value_kind", .str port.valueKind.value), ("required", .bool port.required)] := rfl
  simp only [hdump, canonicalize_obj, canonicalizeFields_cons, canonicalizeFields_nil,
    canonicalize_str, canonicalize_bool]

theorem canonicalize_portRef (ref : PortRef) :
    canonicalize kind field (modelDump ref) = modelDump ref := by
  have hdump : modelDump ref = .obj [("kind", .str "port_ref"), ("owner", modelDump ref.owner),
      ("direction", .str ref.direction.value), ("name", .str ref.name.val)] := rfl
  simp only [hdump, canonicalize_obj, canonicalizeFields_cons, canonicalizeFields_nil,
    canonicalize_str, canonicalize_entityRef]

theorem canonicalize_domainTarget (target : DomainTarget) :
    canonicalize kind field (modelDump target) = modelDump target := by
  have hdump : modelDump target = .obj [("kind", .str "domain_target"),
      ("subject", .str target.subject.val),
      ("path", .arr (target.path.map fun token => .str token.val))] := rfl
  simp only [hdump, canonicalize_obj, canonicalizeFields_cons, canonicalizeFields_nil,
    canonicalize_str, canonicalize_arr, List.map_map]
  rw [orderItems_of_list _ _ (by decide) (by decide) (by decide) (by decide)]
  simp only [Function.comp_def, canonicalize_str]

theorem canonicalize_declaredRule (rule : DeclaredRule) :
    canonicalize kind field (modelDump rule) = modelDump rule := by
  have hdump : modelDump rule = .obj [("kind", .str "declared_rule"),
      ("dialect", .str rule.dialect.val), ("statement", .str rule.statement.val)] := rfl
  simp only [hdump, canonicalize_obj, canonicalizeFields_cons, canonicalizeFields_nil,
    canonicalize_str]

theorem canonicalize_digest (digest : Digest) :
    canonicalize kind field (modelDump digest) = modelDump digest := by
  have hdump : modelDump digest = .obj [("kind", .str "digest"), ("algorithm", .str "sha-256"),
      ("value", .str digest.value.text)] := rfl
  simp only [hdump, canonicalize_obj, canonicalizeFields_cons, canonicalizeFields_nil,
    canonicalize_str]

theorem canonicalize_artifactSource (source : ArtifactSource) :
    canonicalize kind field (modelDump source) = modelDump source := by
  have hdump : modelDump source = .obj [("kind", .str "artifact_source"),
      ("uri", .str source.uri.val), ("revision", modelDump source.revision)] := rfl
  simp only [hdump, canonicalize_obj, canonicalizeFields_cons, canonicalizeFields_nil,
    canonicalize_str, canonicalize_digest]

theorem canonicalize_producer (producer : Producer) :
    canonicalize kind field (modelDump producer) = modelDump producer := by
  have hdump : modelDump producer = .obj [("kind", .str "producer"),
      ("name", .str producer.name.val), ("version", .str producer.version.val)] := rfl
  simp only [hdump, canonicalize_obj, canonicalizeFields_cons, canonicalizeFields_nil,
    canonicalize_str]

theorem canonicalize_check (check : Check) :
    canonicalize kind field (modelDump check) = modelDump check := by
  have hdump : modelDump check = .obj [("kind", .str "check"), ("id", .str check.id.val),
      ("version", .str check.version.val), ("procedure_uri", .str check.procedureUri.val)] := rfl
  simp only [hdump, canonicalize_obj, canonicalizeFields_cons, canonicalizeFields_nil,
    canonicalize_str]

theorem canonicalize_scalar (value : ScalarValue) :
    canonicalize kind field (modelDump value) = modelDump value := by
  cases value with
  | null v =>
    have hdump : modelDump (ScalarValue.null v) = .obj [("kind", .str "null")] := rfl
    simp only [hdump, canonicalize_obj, canonicalizeFields_cons, canonicalizeFields_nil,
      canonicalize_str]
  | boolean v =>
    have hdump : modelDump (ScalarValue.boolean v) =
        .obj [("kind", .str "boolean"), ("value", .bool v.value)] := rfl
    simp only [hdump, canonicalize_obj, canonicalizeFields_cons, canonicalizeFields_nil,
      canonicalize_str, canonicalize_bool]
  | string v =>
    have hdump : modelDump (ScalarValue.string v) =
        .obj [("kind", .str "string"), ("value", .str v.value)] := rfl
    simp only [hdump, canonicalize_obj, canonicalizeFields_cons, canonicalizeFields_nil,
      canonicalize_str]
  | integer v =>
    have hdump : modelDump (ScalarValue.integer v) =
        .obj [("kind", .str "integer"), ("value", .int v.value.val)] := rfl
    simp only [hdump, canonicalize_obj, canonicalizeFields_cons, canonicalizeFields_nil,
      canonicalize_str, canonicalize_int]
  | decimal v =>
    have hdump : modelDump (ScalarValue.decimal v) =
        .obj [("kind", .str "decimal"), ("value", .str v.value.val)] := rfl
    simp only [hdump, canonicalize_obj, canonicalizeFields_cons, canonicalizeFields_nil,
      canonicalize_str]
  | timestamp v =>
    have hdump : modelDump (ScalarValue.timestamp v) =
        .obj [("kind", .str "timestamp"), ("value", .str v.value.val)] := rfl
    simp only [hdump, canonicalize_obj, canonicalizeFields_cons, canonicalizeFields_nil,
      canonicalize_str]

end Parts

/-! #### Sets -/

section Sets

variable (kind : Option Json)

theorem orderItems_refs {field : String} (hfield : field ∈ referenceSetFields)
    (refs : List EntityRef) :
    orderItems kind field (refs.map modelDump) = (sortRefs refs).map modelDump := by
  have hentities : field ≠ "entities" := by
    rintro rfl
    exact absurd hfield (by decide)
  have hports : field ∉ portSetFields := by
    rw [portSetFields, List.mem_cons, List.mem_singleton]
    rintro (rfl | rfl)
    · exact absurd hfield (by decide)
    · exact absurd hfield (by decide)
  have hentries : field ≠ "entries" := by
    rintro rfl
    exact absurd hfield (by decide)
  simp only [orderItems, hentities, hports, hentries, hfield, false_and, if_false, if_true,
    sortedBy_map, sortRefs]
  rfl

theorem canonicalize_refs {field : String} (hfield : field ∈ referenceSetFields)
    (refs : List EntityRef) :
    canonicalize kind field (modelDump refs) = modelDump (sortRefs refs) := by
  have hdump : ∀ refs : List EntityRef, modelDump refs = .arr (refs.map modelDump) := fun _ => rfl
  have hitems : ∀ ref ∈ refs, (canonicalize kind field ∘ modelDump) ref = modelDump ref :=
    fun ref _ => canonicalize_entityRef kind field ref
  rw [hdump, hdump, canonicalize_arr, List.map_map, List.map_congr_left hitems,
    orderItems_refs kind hfield]

theorem canonicalize_ports {field : String} (hfield : field ∈ portSetFields)
    (ports : List Port) :
    canonicalize kind field (modelDump ports) = modelDump (sortPorts ports) := by
  have hdump : ∀ ports : List Port, modelDump ports = .arr (ports.map modelDump) := fun _ => rfl
  have hentities : field ≠ "entities" := by
    rintro rfl
    exact absurd hfield (by decide)
  have hitems : ∀ port ∈ ports, (canonicalize kind field ∘ modelDump) port = modelDump port :=
    fun port _ => canonicalize_port kind field port
  rw [hdump, hdump, canonicalize_arr, List.map_map, List.map_congr_left hitems]
  simp only [orderItems, hentities, hfield, if_false, if_true, sortedBy_map, sortPorts]
  rfl

/-- The steps of a use case keep their order. -/
theorem canonicalize_steps (refs : List EntityRef) :
    canonicalize kind "steps" (modelDump refs) = modelDump refs := by
  have hdump : modelDump refs = .arr (refs.map modelDump) := rfl
  have hitems : ∀ ref ∈ refs, (canonicalize kind "steps" ∘ modelDump) ref = modelDump ref :=
    fun ref _ => canonicalize_entityRef kind "steps" ref
  rw [hdump, canonicalize_arr, List.map_map, List.map_congr_left hitems,
    orderItems_of_list _ _ (by decide) (by decide) (by decide) (by decide)]

end Sets

/-! #### Values, entities, documents -/

theorem IRValue.canonicalize_dump (kind : Option Json) (field : String) (value : IRValue) :
    canonicalize kind field value.dump = value.canonical.dump := by
  have hlist : ∀ items : List IRValue, (IRValue.list items).dump =
      .obj [("kind", .str "list"), ("items", .arr (items.map dump))] := fun items => by
    rw [dump, dumpItems_eq_map]
    rfl
  have hrecord : ∀ entries : List (Identifier × IRValue), (IRValue.record entries).dump =
      .obj [("kind", .str "record"), ("entries", .arr (entries.map dumpEntry))] :=
    fun entries => by
      rw [dump, dumpEntries_eq_map]
      rfl
  induction value using IRValue.induction generalizing kind field with
  | scalar value => rw [canonical_scalar, dump, canonicalize_scalar]
  | list items ih =>
    rw [canonical_list, hlist, hlist]
    simp only [canonicalize_obj, canonicalizeFields_cons, canonicalizeFields_nil,
      canonicalize_str, canonicalize_arr, List.map_map]
    rw [orderItems_of_list _ _ (by decide) (by decide) (by decide) (by decide)]
    simp only [Json.obj.injEq, List.cons.injEq, Prod.mk.injEq, true_and, and_true,
      Json.arr.injEq, List.map_inj_left, Function.comp_apply]
    exact fun item hitem => ih item hitem _ _
  | record entries ih =>
    rw [canonical_record, hrecord, hrecord]
    have hentry : ∀ entry ∈ entries, (canonicalize (some (.str "record")) "entries" ∘ dumpEntry)
        entry = (dumpEntry ∘ canonicalEntry) entry := by
      intro entry hentry
      have hdump : ∀ entry : Identifier × IRValue, dumpEntry entry =
          .obj [("kind", .str "record_entry"), ("name", .str entry.1.val),
            ("value", entry.2.dump)] := fun _ => rfl
      simp only [Function.comp_apply, hdump, canonicalize_obj, canonicalizeFields_cons,
        canonicalizeFields_nil, canonicalize_str, ih entry hentry, canonicalEntry]
    have horder : ∀ items : List (Identifier × IRValue),
        orderItems (some (.str "record")) "entries" (items.map dumpEntry) =
          (sortedBy (fun entry => entry.1.val) items).map dumpEntry := by
      intro items
      simp only [orderItems, portSetFields, sortedBy_map]
      rfl
    simp only [canonicalize_obj, canonicalizeFields_cons, canonicalizeFields_nil,
      canonicalize_str, canonicalize_arr, List.map_map, kindOf_obj]
    rw [List.map_congr_left hentry, ← List.map_map, horder]

theorem BindingSource.canonicalize_dump (kind : Option Json) (field : String)
    (source : BindingSource) :
    canonicalize kind field (modelDump source) = modelDump source.canonical := by
  cases source with
  | port reference =>
    have hdump : modelDump (BindingSource.port reference) = modelDump reference := rfl
    rw [BindingSource.canonical, hdump, canonicalize_portRef]
  | value given => exact IRValue.canonicalize_dump kind field given

/-- The JSON of an entity, by its kind. -/
theorem Entity.canonicalize_dump (kind : Option Json) (field : String) (entity : Entity) :
    canonicalize kind field (modelDump entity) = modelDump entity.canonical := by
  cases entity with
  | action e =>
    have hdump : ∀ e : Action, modelDump (Entity.action e) = .obj [("kind", .str "action"),
        ("id", .str e.id.val), ("input_ports", modelDump e.inputPorts),
        ("output_ports", modelDump e.outputPorts), ("effects", modelDump e.effects),
        ("requires", modelDump e.requires), ("provenance", modelDump e.provenance)] :=
      fun _ => rfl
    simp only [canonical, hdump, canonicalize_obj, canonicalizeFields_cons,
      canonicalizeFields_nil, canonicalize_str, canonicalize_entityRef]
    rw [canonicalize_ports _ (by decide), canonicalize_ports _ (by decide),
      canonicalize_refs _ (by decide), canonicalize_refs _ (by decide)]
  | useCase e =>
    have hdump : ∀ e : UseCase, modelDump (Entity.useCase e) = .obj [("kind", .str "use_case"),
        ("id", .str e.id.val), ("input_ports", modelDump e.inputPorts),
        ("output_ports", modelDump e.outputPorts), ("steps", modelDump e.steps),
        ("invariants", modelDump e.invariants), ("requires", modelDump e.requires),
        ("provenance", modelDump e.provenance)] := fun _ => rfl
    simp only [canonical, hdump, canonicalize_obj, canonicalizeFields_cons,
      canonicalizeFields_nil, canonicalize_str, canonicalize_entityRef, canonicalize_steps]
    rw [canonicalize_ports _ (by decide), canonicalize_ports _ (by decide),
      canonicalize_refs _ (by decide), canonicalize_refs _ (by decide)]
  | step e =>
    have hdump : ∀ e : Step, modelDump (Entity.step e) = .obj [("kind", .str "step"),
        ("id", .str e.id.val), ("action", modelDump e.action),
        ("bindings", modelDump e.bindings), ("effects", modelDump e.effects),
        ("observations", modelDump e.observations), ("requires", modelDump e.requires),
        ("provenance", modelDump e.provenance)] := fun _ => rfl
    simp only [canonical, hdump, canonicalize_obj, canonicalizeFields_cons,
      canonicalizeFields_nil, canonicalize_str, canonicalize_entityRef]
    rw [canonicalize_refs _ (by decide), canonicalize_refs _ (by decide),
      canonicalize_refs _ (by decide), canonicalize_refs _ (by decide)]
  | binding e =>
    have hdump : ∀ e : Binding, modelDump (Entity.binding e) = .obj [("kind", .str "binding"),
        ("id", .str e.id.val), ("target", modelDump e.target), ("source", modelDump e.source),
        ("provenance", modelDump e.provenance)] := fun _ => rfl
    simp only [canonical, hdump, canonicalize_obj, canonicalizeFields_cons,
      canonicalizeFields_nil, canonicalize_str, canonicalize_entityRef, canonicalize_portRef,
      BindingSource.canonicalize_dump]
  | effect e =>
    have hdump : ∀ e : Effect, modelDump (Entity.effect e) = .obj [("kind", .str "effect"),
        ("id", .str e.id.val), ("operation", .str e.operation.val),
        ("target", modelDump e.target), ("value", e.value.dump),
        ("requires", modelDump e.requires.val), ("provenance", modelDump e.provenance)] :=
      fun _ => rfl
    simp only [canonical, hdump, canonicalize_obj, canonicalizeFields_cons,
      canonicalizeFields_nil, canonicalize_str, canonicalize_entityRef,
      canonicalize_domainTarget, IRValue.canonicalize_dump]
    rw [canonicalize_refs _ (by decide)]
    rfl
  | observation e =>
    have hdump : ∀ e : Observation, modelDump (Entity.observation e) =
        .obj [("kind", .str "observation"), ("id", .str e.id.val),
          ("subject", modelDump e.subject), ("target", modelDump e.target),
          ("value", e.value.dump), ("provenance", modelDump e.provenance)] := fun _ => rfl
    simp only [canonical, hdump, canonicalize_obj, canonicalizeFields_cons,
      canonicalizeFields_nil, canonicalize_str, canonicalize_entityRef,
      canonicalize_domainTarget, IRValue.canonicalize_dump]
  | invariant e =>
    have hdump : ∀ e : Invariant, modelDump (Entity.invariant e) =
        .obj [("kind", .str "invariant"), ("id", .str e.id.val),
          ("applies_to", modelDump e.appliesTo), ("condition", modelDump e.condition),
          ("requires", modelDump e.requires.val), ("provenance", modelDump e.provenance)] :=
      fun _ => rfl
    simp only [canonical, hdump, canonicalize_obj, canonicalizeFields_cons,
      canonicalizeFields_nil, canonicalize_str, canonicalize_entityRef,
      canonicalize_declaredRule]
    rw [canonicalize_refs _ (by decide), canonicalize_refs _ (by decide)]
    rfl
  | provenance e =>
    have hdump : modelDump (Entity.provenance e) = .obj [("kind", .str "provenance"),
        ("id", .str e.id.val), ("source", modelDump e.source),
        ("producer", modelDump e.producer), ("captured_at", .str e.capturedAt.val)] := rfl
    simp only [canonical, hdump, canonicalize_obj, canonicalizeFields_cons,
      canonicalizeFields_nil, canonicalize_str, canonicalize_artifactSource,
      canonicalize_producer]
  | verificationEvidence e =>
    have hdump : ∀ e : VerificationEvidence, modelDump (Entity.verificationEvidence e) =
        .obj [("kind", .str "verification_evidence"), ("id", .str e.id.val),
          ("subjects", modelDump e.subjects), ("check", modelDump e.check),
          ("outcome", .str e.outcome.value), ("executed_at", .str e.executedAt.val),
          ("source_revision", modelDump e.sourceRevision),
          ("environment", modelDump e.environment), ("provenance", modelDump e.provenance)] :=
      fun _ => rfl
    simp only [canonical, hdump, canonicalize_obj, canonicalizeFields_cons,
      canonicalizeFields_nil, canonicalize_str, canonicalize_entityRef, canonicalize_check,
      canonicalize_digest]
    rw [canonicalize_refs _ (by decide)]
  | capabilityRequirement e =>
    have hdump : modelDump (Entity.capabilityRequirement e) =
        .obj [("kind", .str "capability_requirement"), ("id", .str e.id.val),
          ("name", .str e.name.val), ("minimum_version", .str e.minimumVersion.val),
          ("required", .bool e.required), ("provenance", modelDump e.provenance)] := rfl
    simp only [canonical, hdump, canonicalize_obj, canonicalizeFields_cons,
      canonicalizeFields_nil, canonicalize_str, canonicalize_bool, canonicalize_entityRef]

/-- The JSON that `canonical_ir_json` writes is that of the canonical form. -/
theorem canonicalIrValue_eq (document : BehaviorIR) :
    canonicalIrValue document = modelDump document.canonical := by
  have hdump : ∀ b : BehaviorIR, modelDump b = .obj [("kind", .str "behavior_ir"),
      ("ir_version", .str currentIrVersion), ("document_id", .str b.documentId.val),
      ("roots", modelDump b.roots), ("entities", .arr (b.entities.map modelDump))] :=
    fun _ => rfl
  have hitems : ∀ kind, ∀ entity ∈ document.entities,
      (canonicalize kind "entities" ∘ modelDump) entity = (modelDump ∘ Entity.canonical) entity :=
    fun kind entity _ => entity.canonicalize_dump kind "entities"
  have horder : ∀ (kind : Option Json) (items : List Entity), orderItems kind "entities"
      (items.map modelDump) = (sortedBy Entity.key items).map modelDump := by
    intro kind items
    simp only [orderItems, if_true, sortedBy_map]
    congr 1
    refine sortedBy_congr fun entity _ => ?_
    cases entity <;> rfl
  rw [canonicalIrValue, hdump, hdump]
  simp only [BehaviorIR.canonical, canonicalize_obj, canonicalizeFields_cons,
    canonicalizeFields_nil, canonicalize_str, canonicalize_arr, List.map_map]
  rw [canonicalize_refs _ (by decide), List.map_congr_left (hitems _), ← List.map_map, horder]

end Ucf
