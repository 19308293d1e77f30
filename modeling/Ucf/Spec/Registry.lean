import Ucf.Spec.Models

/-! The registry of the loaded specs, by kind and name and by reference: what a reference resolves
to, however it is spelled. -/

namespace Ucf.Spec

/-- `f"{plural}/{name}"` -/
def AnySpec.refKey (spec : AnySpec) : String := spec.kind.plural ++ "/" ++ spec.name

/-- What `register` keeps true of the two indexes. -/
structure SpecRegistry.Indexed (byKind : Dict Kind (Dict String AnySpec))
    (byRef : Dict String AnySpec) : Prop where
  kind : ∀ kind group, byKind.get? kind = some group → ∀ name spec, group.get? name = some spec →
    spec.kind = kind ∧ spec.name = name ∧ byRef.get? spec.refKey = some spec
  ref : ∀ key spec, byRef.get? key = some spec → key = spec.refKey ∧
    ∃ group, byKind.get? spec.kind = some group ∧ group.get? spec.name = some spec

/-- `SpecRegistry`, without the paths of the specs -/
structure SpecRegistry where
  byKind : Dict Kind (Dict String AnySpec)
  byRef : Dict String AnySpec
  indexed : SpecRegistry.Indexed byKind byRef

namespace SpecRegistry

/-- `SpecRegistry()` -/
def empty : SpecRegistry where
  byKind := .empty
  byRef := .empty
  indexed := ⟨by simp, by simp⟩

/-- `self._by_kind.get(kind, {})` -/
def group (byKind : Dict Kind (Dict String AnySpec)) (kind : Kind) : Dict String AnySpec :=
  (byKind.get? kind).getD .empty

theorem refKey_inj {s t : AnySpec} (h : s.refKey = t.refKey) : s.kind = t.kind ∧ s.name = t.name := by
  have hs := splitRef_append s.name (slash_notMem_plural s.kind)
  have ht := splitRef_append t.name (slash_notMem_plural t.kind)
  rw [AnySpec.refKey, AnySpec.refKey] at h
  rw [h, ht, Option.some.injEq, Prod.mk.injEq] at hs
  exact ⟨(Kind.plural_injective hs.1).symm, hs.2.symm⟩

theorem Indexed.register {byKind : Dict Kind (Dict String AnySpec)} {byRef : Dict String AnySpec}
    (h : Indexed byKind byRef) (spec : AnySpec) :
    Indexed (byKind.insert spec.kind ((group byKind spec.kind).insert spec.name spec))
      (byRef.insert spec.refKey spec) := by
  constructor
  · intro kind g hg name other hother
    rw [Dict.get?_insert] at hg
    split at hg
    · rename_i hkind
      obtain rfl := Option.some.inj hg
      rw [Dict.get?_insert] at hother
      split at hother
      · rename_i hname
        obtain rfl := Option.some.inj hother
        exact ⟨hkind.symm, hname.symm, by rw [Dict.get?_insert, if_pos rfl]⟩
      · rename_i hname
        cases hold : byKind.get? spec.kind with
        | none => simp [group, hold] at hother
        | some old =>
          rw [group, hold] at hother
          obtain ⟨hk, hn, href⟩ := h.kind spec.kind old hold name other hother
          refine ⟨hk.trans hkind.symm, hn, ?_⟩
          rw [Dict.get?_insert, if_neg, href]
          intro hkey
          exact hname (hn.symm.trans (refKey_inj hkey).2)
    · rename_i hkind
      obtain ⟨hk, hn, href⟩ := h.kind kind g hg name other hother
      refine ⟨hk, hn, ?_⟩
      rw [Dict.get?_insert, if_neg, href]
      intro hkey
      exact hkind (hk.symm.trans (refKey_inj hkey).1)
  · intro key other hother
    rw [Dict.get?_insert] at hother
    split at hother
    · rename_i hkey
      obtain rfl := Option.some.inj hother
      exact ⟨hkey, _, by rw [Dict.get?_insert, if_pos rfl], by rw [Dict.get?_insert, if_pos rfl]⟩
    · rename_i hkey
      obtain ⟨hk, g, hg, hother⟩ := h.ref key other hother
      refine ⟨hk, ?_⟩
      by_cases hkind : other.kind = spec.kind
      · refine ⟨_, by rw [Dict.get?_insert, if_pos hkind], ?_⟩
        have hname : other.name ≠ spec.name := by
          intro hname
          exact hkey (by rw [hk, AnySpec.refKey, AnySpec.refKey, hkind, hname])
        rw [Dict.get?_insert, if_neg hname, group, ← hkind, hg]
        exact hother
      · exact ⟨g, by rw [Dict.get?_insert, if_neg hkind, hg], hother⟩

/-- `DuplicateSpecError`, by the kind and the name that are there already -/
structure DuplicateSpecError where
  kind : Kind
  name : String

/-- `SpecRegistry.register` -/
def register (r : SpecRegistry) (spec : AnySpec) : Except DuplicateSpecError SpecRegistry :=
  if (group r.byKind spec.kind).get? spec.name = none then
    .ok ⟨r.byKind.insert spec.kind ((group r.byKind spec.kind).insert spec.name spec),
      r.byRef.insert spec.refKey spec, r.indexed.register spec⟩
  else .error ⟨spec.kind, spec.name⟩

/-- The registry of the specs that are loaded: `registry.register(spec, path)` for one after another. -/
def registerAll (specs : List AnySpec) : Except DuplicateSpecError SpecRegistry :=
  specs.foldlM register empty

/-- `SpecRegistry.all_specs` -/
def allSpecs (r : SpecRegistry) : List AnySpec :=
  r.byKind.items.flatMap fun item => item.2.items.map Prod.snd

/-- `SpecRegistry.specs_of_kind` -/
def specsOfKind (r : SpecRegistry) (kind : Kind) : List AnySpec :=
  (group r.byKind kind).items.map Prod.snd

/-- `SpecRegistry.actions` -/
def actions (r : SpecRegistry) : List ActionSpec := (r.specsOfKind .action).filterMap AnySpec.action?

/-- `SpecRegistry.events` -/
def events (r : SpecRegistry) : List EventSpec := (r.specsOfKind .event).filterMap AnySpec.event?

/-- `SpecRegistry.components` -/
def components (r : SpecRegistry) : List ComponentSpec :=
  (r.specsOfKind .component).filterMap AnySpec.component?

/-- `SpecRegistry.protocols` -/
def protocols (r : SpecRegistry) : List ProtocolSpec :=
  (r.specsOfKind .protocol).filterMap AnySpec.protocol?

/-- `SpecRegistry.usecases` -/
def usecases (r : SpecRegistry) : List UseCaseSpec :=
  (r.specsOfKind .usecase).filterMap AnySpec.usecase?

/-- `SpecRegistry.invariants` -/
def invariants (r : SpecRegistry) : List InvariantSpec :=
  (r.specsOfKind .invariant).filterMap AnySpec.invariant?

/-- `_SINGULAR_TO_PLURAL.get(singular)` -/
def singularToPlural (singular : String) : Option String :=
  ([.action, .event, .component, .protocol, .usecase, .invariant].find? fun kind =>
    Kind.value kind = singular).map Kind.plural

/-- `SpecRegistry.resolve_ref` -/
def resolveRef (r : SpecRegistry) (ref : String) : Option AnySpec :=
  match r.byRef.get? ref with
  | some spec => some spec
  | none =>
    match splitRef ref with
    | some (head, tail) =>
      match singularToPlural head with
      | some plural => r.byRef.get? (plural ++ "/" ++ tail)
      | none => none
    | none => none

/-! ### What a reference resolves to -/

variable {r : SpecRegistry} {spec : AnySpec} {ref : String}

/-- A spelling of a reference to a spec of a kind and a name. -/
def Names (ref : String) (kind : Kind) (name : String) : Prop :=
  ref = kind.plural ++ "/" ++ name ∨ ref = kind.value ++ "/" ++ name

theorem singularToPlural_eq_some {singular plural : String} :
    singularToPlural singular = some plural ↔
      ∃ kind : Kind, singular = kind.value ∧ plural = kind.plural := by
  constructor
  · intro h
    rw [singularToPlural, Option.map_eq_some_iff] at h
    obtain ⟨kind, hfind, rfl⟩ := h
    exact ⟨kind, (by simpa using List.find?_some hfind : kind.value = singular).symm, rfl⟩
  · rintro ⟨kind, rfl, rfl⟩
    cases kind <;> decide

theorem mem_specsOfKind {kind : Kind} : spec ∈ r.specsOfKind kind ↔
    spec.kind = kind ∧ r.byRef.get? spec.refKey = some spec := by
  rw [specsOfKind, List.mem_map]
  constructor
  · rintro ⟨⟨name, spec⟩, hmem, rfl⟩
    cases hgroup : r.byKind.get? kind with
    | none => simp [group, hgroup, Dict.empty] at hmem
    | some g =>
      rw [group, hgroup] at hmem
      obtain ⟨hk, -, href⟩ := r.indexed.kind kind g hgroup name spec (Dict.get?_eq_some.mpr hmem)
      exact ⟨hk, href⟩
  · rintro ⟨rfl, href⟩
    obtain ⟨-, g, hg, hspec⟩ := r.indexed.ref _ _ href
    refine ⟨(spec.name, spec), ?_, rfl⟩
    rw [group, hg]
    exact Dict.get?_eq_some.mp hspec

theorem mem_allSpecs : spec ∈ r.allSpecs ↔ r.byRef.get? spec.refKey = some spec := by
  rw [allSpecs, List.mem_flatMap]
  constructor
  · rintro ⟨⟨kind, g⟩, hg, hmem⟩
    obtain ⟨⟨name, spec⟩, hitem, rfl⟩ := List.mem_map.mp hmem
    exact (r.indexed.kind kind g (Dict.get?_eq_some.mpr hg) name spec
      (Dict.get?_eq_some.mpr hitem)).2.2
  · intro href
    obtain ⟨-, g, hg, hspec⟩ := r.indexed.ref _ _ href
    exact ⟨(spec.kind, g), Dict.get?_eq_some.mp hg,
      List.mem_map.mpr ⟨(spec.name, spec), Dict.get?_eq_some.mp hspec, rfl⟩⟩

theorem mem_specsOfKind_iff {kind : Kind} :
    spec ∈ r.specsOfKind kind ↔ spec.kind = kind ∧ spec ∈ r.allSpecs := by
  rw [mem_specsOfKind, mem_allSpecs]

/-- The specs of a kind, as its own model. -/
theorem mem_filterMap_specsOfKind {α : Type} (project : AnySpec → Option α) (inject : α → AnySpec)
    {kind : Kind} (hkind : ∀ a, (inject a).kind = kind)
    (hproject : ∀ spec a, project spec = some a ↔ spec = inject a) {a : α} :
    a ∈ (r.specsOfKind kind).filterMap project ↔ inject a ∈ r.allSpecs := by
  rw [List.mem_filterMap]
  constructor
  · rintro ⟨spec, hspec, ha⟩
    rw [(hproject spec a).mp ha] at hspec
    exact (mem_specsOfKind_iff.mp hspec).2
  · intro ha
    exact ⟨inject a, mem_specsOfKind_iff.mpr ⟨hkind a, ha⟩, (hproject _ a).mpr rfl⟩

theorem mem_actions {action : ActionSpec} : action ∈ r.actions ↔ .action action ∈ r.allSpecs :=
  mem_filterMap_specsOfKind AnySpec.action? AnySpec.action (fun _ => rfl) fun spec _ => by
    cases spec <;> simp [AnySpec.action?]

theorem mem_events {event : EventSpec} : event ∈ r.events ↔ .event event ∈ r.allSpecs :=
  mem_filterMap_specsOfKind AnySpec.event? AnySpec.event (fun _ => rfl) fun spec _ => by
    cases spec <;> simp [AnySpec.event?]

theorem mem_components {comp : ComponentSpec} :
    comp ∈ r.components ↔ .component comp ∈ r.allSpecs :=
  mem_filterMap_specsOfKind AnySpec.component? AnySpec.component (fun _ => rfl) fun spec _ => by
    cases spec <;> simp [AnySpec.component?]

theorem mem_protocols {proto : ProtocolSpec} :
    proto ∈ r.protocols ↔ .protocol proto ∈ r.allSpecs :=
  mem_filterMap_specsOfKind AnySpec.protocol? AnySpec.protocol (fun _ => rfl) fun spec _ => by
    cases spec <;> simp [AnySpec.protocol?]

theorem mem_usecases {uc : UseCaseSpec} : uc ∈ r.usecases ↔ .usecase uc ∈ r.allSpecs :=
  mem_filterMap_specsOfKind AnySpec.usecase? AnySpec.usecase (fun _ => rfl) fun spec _ => by
    cases spec <;> simp [AnySpec.usecase?]

theorem mem_invariants {inv : InvariantSpec} : inv ∈ r.invariants ↔ .invariant inv ∈ r.allSpecs :=
  mem_filterMap_specsOfKind AnySpec.invariant? AnySpec.invariant (fun _ => rfl) fun spec _ => by
    cases spec <;> simp [AnySpec.invariant?]

/-- Specs of one kind and one name are one spec. -/
theorem eq_of_name {s t : AnySpec} (hs : s ∈ r.allSpecs) (ht : t ∈ r.allSpecs)
    (hkind : s.kind = t.kind) (hname : s.name = t.name) : s = t := by
  rw [mem_allSpecs] at hs ht
  have hkey : s.refKey = t.refKey := by rw [AnySpec.refKey, AnySpec.refKey, hkind, hname]
  rw [hkey, ht] at hs
  exact (Option.some.inj hs).symm

theorem usecase_eq_of_name {u v : UseCaseSpec} (hu : u ∈ r.usecases) (hv : v ∈ r.usecases)
    (hname : u.name = v.name) : u = v := by
  have h := eq_of_name (mem_usecases.mp hu) (mem_usecases.mp hv) rfl hname
  exact AnySpec.usecase.inj h

/-- A reference resolves to the spec that it names, with either prefix. -/
theorem resolveRef_eq_some :
    r.resolveRef ref = some spec ↔ spec ∈ r.allSpecs ∧ Names ref spec.kind spec.name := by
  constructor
  · intro h
    rw [resolveRef] at h
    split at h
    · rename_i found hfound
      obtain rfl := Option.some.inj h
      obtain ⟨hkey, -⟩ := r.indexed.ref _ _ hfound
      exact ⟨mem_allSpecs.mpr (hkey ▸ hfound), Or.inl hkey⟩
    · split at h
      · rename_i head tail hsplit
        split at h
        · rename_i plural hplural
          obtain ⟨kind, rfl, rfl⟩ := singularToPlural_eq_some.mp hplural
          obtain ⟨hkey, -⟩ := r.indexed.ref _ _ h
          have hparts := splitRef_append tail (slash_notMem_plural kind)
          rw [hkey, AnySpec.refKey, splitRef_append _ (slash_notMem_plural spec.kind),
            Option.some.injEq, Prod.mk.injEq] at hparts
          obtain ⟨hkind, rfl⟩ := hparts
          obtain rfl := Kind.plural_injective hkind
          exact ⟨mem_allSpecs.mpr (hkey ▸ h), Or.inr (splitRef_eq_some hsplit).1⟩
        · simp at h
      · simp at h
  · rintro ⟨hmem, href⟩
    rw [mem_allSpecs] at hmem
    rcases href with rfl | rfl
    · rw [resolveRef, ← AnySpec.refKey, hmem]
    · have hnone : r.byRef.get? (spec.kind.value ++ "/" ++ spec.name) = none := by
        rw [Option.eq_none_iff_forall_ne_some]
        intro other hother
        obtain ⟨hkey, -⟩ := r.indexed.ref _ _ hother
        have hparts := splitRef_append spec.name (slash_notMem_value spec.kind)
        rw [hkey, AnySpec.refKey, splitRef_append _ (slash_notMem_plural other.kind),
          Option.some.injEq, Prod.mk.injEq] at hparts
        exact Kind.plural_ne_value _ _ hparts.1
      rw [resolveRef, hnone]
      simp only [splitRef_append _ (slash_notMem_value spec.kind),
        singularToPlural_eq_some.mpr ⟨spec.kind, rfl, rfl⟩]
      exact hmem

theorem names_inj {kind kind' : Kind} {name name' : String} (h : Names ref kind name)
    (h' : Names ref kind' name') : kind = kind' ∧ name = name' := by
  rcases h with rfl | rfl <;> rcases h' with h' | h'
  all_goals
    have hsplit := congrArg splitRef h'
    simp only [splitRef_append _ (slash_notMem_plural _), splitRef_append _ (slash_notMem_value _),
      Option.some.injEq, Prod.mk.injEq] at hsplit
  · exact ⟨Kind.plural_injective hsplit.1, hsplit.2⟩
  · exact absurd hsplit.1 (Kind.plural_ne_value _ _)
  · exact absurd hsplit.1.symm (Kind.plural_ne_value _ _)
  · exact ⟨Kind.value_injective hsplit.1, hsplit.2⟩

theorem resolveRef_of_no_slash (h : '/' ∉ ref.toList) : r.resolveRef ref = none := by
  rw [Option.eq_none_iff_forall_ne_some]
  intro spec hspec
  obtain ⟨-, rfl | rfl⟩ := resolveRef_eq_some.mp hspec
  · simp at h
  · simp at h

end SpecRegistry

end Ucf.Spec
