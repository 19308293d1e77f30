import Ucf.Ir.Canonical
import Ucf.Library.JsonDiff

/-! The member names of the documents of Behavior IR entities: letters and underscores, so that a
JSON pointer into one needs no escapes. -/

namespace Ucf

instance (name : String) : Decidable (Json.PlainName name) :=
  decidable_of_iff ((name.toList.all fun c => '@' < c ∧ c ≠ '~') = true)
    (by simp only [List.all_eq_true, decide_eq_true_eq, Json.PlainName])

/-- The documents of a type have plain member names. -/
class PlainModel (α : Type) [Model α] : Prop where
  plain : ∀ a : α, (modelDump a).PlainKeys

/-- The values of the fields have plain member names. -/
class PlainFields {β : Type} (fields : Fields β) : Prop where
  plain : ∀ b, ∀ field ∈ fields.dump b, field.2.PlainKeys

section Schemas

variable {α β : Type}

instance : PlainFields Fields.nil := ⟨fun _ _ hfield => absurd hfield (by simp [Fields.nil])⟩

instance (name value : String) (rest : Fields β) [PlainFields rest] :
    PlainFields (Fields.lit name value rest) where
  plain b := List.forall_mem_cons.mpr ⟨.str _, PlainFields.plain b⟩

instance (name : String) [Model α] [PlainModel α] (rest : Fields β) [PlainFields rest] :
    PlainFields (Fields.required (α := α) name rest) where
  plain b := List.forall_mem_cons.mpr ⟨PlainModel.plain b.1, PlainFields.plain b.2⟩

theorem PlainModel.record {fields : Fields β} [PlainFields fields] {view : α → β} {make : β → α}
    {h : fields.names.Nodup} {p : ∀ a, make (view a) = a} {q : ∀ b, view (make b) = b}
    (hnames : ∀ name ∈ fields.names, Json.PlainName name := by decide) :
    @PlainModel α (Model.record fields view make h p q) := by
  refine @PlainModel.mk α (Model.record fields view make h p q) fun a => ?_
  refine .obj (fun field hfield => hnames _ ?_) (PlainFields.plain (view a))
  rw [← fields.names_dump (view a)]
  exact List.mem_map_of_mem hfield

instance : PlainModel String := ⟨.str⟩

instance : PlainModel Bool := ⟨.bool⟩

instance (check : String → Option String) : PlainModel { s : String // check s = none } :=
  ⟨fun s => .str s.val⟩

instance [Model α] [PlainModel α] : PlainModel (List α) where
  plain items := .arr fun item hitem => by
    obtain ⟨a, -, rfl⟩ := List.mem_map.mp hitem
    exact PlainModel.plain a

end Schemas

/-! ### The parts of entities -/

instance : PlainModel SafeInteger := ⟨fun n => .int n.val⟩

instance : PlainModel DigestValue := ⟨fun value => .str value.text⟩

instance : PlainModel Digest := .record

instance : PlainModel EntityKind := ⟨fun kind => .str kind.value⟩

instance : PlainModel ValueKind := ⟨fun kind => .str kind.value⟩

instance : PlainModel Direction := ⟨fun direction => .str direction.value⟩

instance : PlainModel EvidenceOutcome := ⟨fun outcome => .str outcome.value⟩

instance : PlainModel EntityRef := .record

instance : PlainModel Port := .record

instance : PlainModel PortRef := .record

instance : PlainModel DomainTarget := .record

instance : PlainModel DeclaredRule := .record

instance : PlainModel ArtifactSource := .record

instance : PlainModel Producer := .record

instance : PlainModel Check := .record

instance : PlainModel NullValue := .record

instance : PlainModel BooleanValue := .record

instance : PlainModel StringValue := .record

instance : PlainModel IntegerValue := .record

instance : PlainModel DecimalValue := .record

instance : PlainModel TimestampValue := .record

instance : PlainModel ScalarValue where
  plain
    | .null value => PlainModel.plain value
    | .boolean value => PlainModel.plain value
    | .string value => PlainModel.plain value
    | .integer value => PlainModel.plain value
    | .decimal value => PlainModel.plain value
    | .timestamp value => PlainModel.plain value

/-! ### Values and entities -/

theorem plainNames_zip {names : List String} {values : List Json}
    (h : ∀ name ∈ names, Json.PlainName name) :
    ∀ field ∈ names.zip values, Json.PlainName field.1 :=
  fun _ hfield => h _ (List.of_mem_zip hfield).1

namespace IRValue

mutual

theorem plainKeys_dump : ∀ value : IRValue, value.dump.PlainKeys
  | .scalar value => by
    rw [dump]
    exact PlainModel.plain value
  | .list items => by
    rw [dump]
    refine .obj (plainNames_zip (by decide)) ?_
    simp only [List.zip_cons_cons, List.zip_nil_right, List.forall_mem_cons, List.not_mem_nil,
      false_imp_iff, implies_true, and_true]
    exact ⟨.str _, .arr (plainKeys_dumpItems items)⟩
  | .record entries => by
    rw [dump]
    refine .obj (plainNames_zip (by decide)) ?_
    simp only [List.zip_cons_cons, List.zip_nil_right, List.forall_mem_cons, List.not_mem_nil,
      false_imp_iff, implies_true, and_true]
    exact ⟨.str _, .arr (plainKeys_dumpEntries entries)⟩

theorem plainKeys_dumpItems : ∀ items : List IRValue, ∀ j ∈ dumpItems items, j.PlainKeys
  | [] => by simp [dumpItems]
  | item :: items => by
    rw [dumpItems, List.forall_mem_cons]
    exact ⟨plainKeys_dump item, plainKeys_dumpItems items⟩

theorem plainKeys_dumpEntries : ∀ entries : List (Identifier × IRValue),
    ∀ j ∈ dumpEntries entries, j.PlainKeys
  | [] => by simp [dumpEntries]
  | (name, value) :: entries => by
    rw [dumpEntries, List.forall_mem_cons]
    refine ⟨.obj (plainNames_zip (by decide)) ?_, plainKeys_dumpEntries entries⟩
    simp only [List.zip_cons_cons, List.zip_nil_right, List.forall_mem_cons, List.not_mem_nil,
      false_imp_iff, implies_true, and_true]
    exact ⟨.str _, PlainModel.plain name, plainKeys_dump value⟩

end

end IRValue

instance : PlainModel IRValue := ⟨IRValue.plainKeys_dump⟩

instance : PlainModel BindingSource where
  plain
    | .port reference => PlainModel.plain reference
    | .value value => PlainModel.plain value

instance : PlainModel NonEmptyEntityRefs := ⟨fun refs => PlainModel.plain refs.val⟩

instance : PlainModel Action := .record

instance : PlainModel UseCase := .record

instance : PlainModel Step := .record

instance : PlainModel Binding := .record

instance : PlainModel Effect := .record

instance : PlainModel Observation := .record

instance : PlainModel Invariant := .record

instance : PlainModel Provenance := .record

instance : PlainModel VerificationEvidence := .record

instance : PlainModel CapabilityRequirement := .record

instance : PlainModel Entity where
  plain
    | .action entity => PlainModel.plain entity
    | .useCase entity => PlainModel.plain entity
    | .step entity => PlainModel.plain entity
    | .binding entity => PlainModel.plain entity
    | .effect entity => PlainModel.plain entity
    | .observation entity => PlainModel.plain entity
    | .invariant entity => PlainModel.plain entity
    | .provenance entity => PlainModel.plain entity
    | .verificationEvidence entity => PlainModel.plain entity
    | .capabilityRequirement entity => PlainModel.plain entity

end Ucf
