import Ucf.Ir.Canonical
import Ucf.Ir.WellFormed
import Ucf.Library.Unordered

/-! Documents that are equal up to the order of their sets. Entities, roots, ports, unordered
references and the entries of records may be permuted, at any depth; the steps of a use case and
the items of a list may not. Valid documents have one canonical form exactly when they are equal
up to this order. -/

namespace Ucf

/-! ### Values -/

namespace IRValue

/-- Values that are equal up to the order of record entries at any depth. -/
inductive Equiv : IRValue → IRValue → Prop
  | scalar (value : ScalarValue) : Equiv (.scalar value) (.scalar value)
  | list {as bs : List IRValue} (h : List.Forall₂ Equiv as bs) : Equiv (.list as) (.list bs)
  | record {as bs cs : List (Identifier × IRValue)} (hnames : as.map Prod.fst = cs.map Prod.fst)
      (hvalues : List.Forall₂ Equiv (as.map Prod.snd) (cs.map Prod.snd)) (hperm : cs.Perm bs) :
      Equiv (.record as) (.record bs)

/-- Entries of one name whose values are equal up to order. -/
def EntryEquiv (a b : Identifier × IRValue) : Prop := a.1 = b.1 ∧ a.2.Equiv b.2

theorem forall₂_entryEquiv {as bs : List (Identifier × IRValue)} :
    List.Forall₂ EntryEquiv as bs ↔ as.map Prod.fst = bs.map Prod.fst ∧
      List.Forall₂ Equiv (as.map Prod.snd) (bs.map Prod.snd) := by
  rw [List.forall₂_map_left_iff, List.forall₂_map_right_iff]
  constructor
  · intro h
    exact ⟨map_eq_map_of_forall₂ h fun _ _ _ hab => hab.1, h.imp fun _ _ hab => hab.2⟩
  · rintro ⟨hnames, hvalues⟩
    rw [← List.forall₂_eq_eq_eq, List.forall₂_map_left_iff, List.forall₂_map_right_iff] at hnames
    exact hnames.mp (fun _ _ hname hvalue => ⟨hname, hvalue⟩) hvalues

theorem equiv_list {as bs : List IRValue} :
    (list as).Equiv (list bs) ↔ List.Forall₂ Equiv as bs :=
  ⟨fun h => by cases h; assumption, .list⟩

theorem equiv_record {as bs : List (Identifier × IRValue)} :
    (record as).Equiv (record bs) ↔ PermUpTo EntryEquiv as bs := by
  constructor
  · rintro ⟨⟩
    rename_i cs hnames hvalues hperm
    exact ⟨cs, forall₂_entryEquiv.mpr ⟨hnames, hvalues⟩, hperm⟩
  · rintro ⟨cs, hrel, hperm⟩
    obtain ⟨hnames, hvalues⟩ := forall₂_entryEquiv.mp hrel
    exact .record hnames hvalues hperm

theorem Equiv.symm {v w : IRValue} (h : v.Equiv w) : w.Equiv v := by
  induction v using IRValue.induction generalizing w with
  | scalar value =>
    cases h
    exact .scalar value
  | list items ih =>
    cases h with
    | list h => exact .list (forall₂_imp_of_mem h fun a ha b hab => ih a ha hab).flip
  | record entries ih =>
    cases w with
    | record es =>
      rw [equiv_record] at h ⊢
      exact h.symm fun a ha b hab => ⟨hab.1.symm, ih a ha hab.2⟩
    | _ => cases h

theorem Equiv.trans {u v w : IRValue} (h : u.Equiv v) (h' : v.Equiv w) : u.Equiv w := by
  induction u using IRValue.induction generalizing v w with
  | scalar value =>
    cases h
    exact h'
  | list items ih =>
    cases h with
    | list h =>
      cases h' with
      | list h' => exact .list (forall₂_trans h h' fun a ha b c hab hbc => ih a ha hab hbc)
  | record entries ih =>
    cases v with
    | record es =>
      cases w with
      | record fs =>
        rw [equiv_record] at h h' ⊢
        exact h.trans h' fun a ha b c hab hbc => ⟨hab.1.trans hbc.1, ih a ha hab.2 hbc.2⟩
      | _ => cases h'
    | _ => cases h

theorem equiv_canonical (value : IRValue) : value.Equiv value.canonical := by
  induction value using IRValue.induction with
  | scalar value =>
    rw [canonical_scalar]
    exact .scalar value
  | list items ih =>
    rw [canonical_list, equiv_list, List.forall₂_map_right_iff, List.forall₂_same]
    exact ih
  | record entries ih =>
    rw [canonical_record, equiv_record]
    exact .sortedBy_map fun entry hentry => ⟨rfl, ih entry hentry⟩

/-- The names of the canonical entries are those of the entries. -/
theorem map_fst_canonicalEntry (entries : List (Identifier × IRValue)) :
    (entries.map canonicalEntry).map (fun entry => entry.1.val) =
      (entries.map Prod.fst).map Subtype.val := by
  simp only [List.map_map]
  rfl

theorem Equiv.canonical_eq {v w : IRValue} (hv : v.UniqueNames) (h : v.Equiv w) :
    v.canonical = w.canonical := by
  induction v using IRValue.induction generalizing w with
  | scalar value =>
    cases h
    rfl
  | list items ih =>
    cases h with
    | list h =>
      rw [uniqueNames_list] at hv
      rw [canonical_list, canonical_list,
        map_eq_map_of_forall₂ h fun a ha b hab => ih a ha (hv a ha) hab]
  | record entries ih =>
    cases w with
    | record es =>
      rw [uniqueNames_record] at hv
      rw [equiv_record] at h
      rw [canonical_record, canonical_record, h.sortedBy_map_eq]
      · exact fun a ha b hab => Prod.ext hab.1 (ih a ha (hv.2 a ha) hab.2)
      · rw [map_fst_canonicalEntry]
        exact hv.1.map Subtype.val_injective
    | _ => cases h

theorem Equiv.uniqueNames {v w : IRValue} (h : v.Equiv w) (hv : v.UniqueNames) :
    w.UniqueNames := by
  induction v using IRValue.induction generalizing w with
  | scalar value =>
    cases h
    exact hv
  | list items ih =>
    cases h with
    | list h =>
      rw [uniqueNames_list] at hv ⊢
      intro b hb
      obtain ⟨a, ha, hab⟩ := exists_of_forall₂_left h.flip hb
      exact ih a ha hab (hv a ha)
  | record entries ih =>
    cases w with
    | record es =>
      rw [equiv_record] at h
      rw [uniqueNames_record] at hv ⊢
      obtain ⟨cs, hrel, hperm⟩ := h
      have hnames := (forall₂_entryEquiv.mp hrel).1
      refine ⟨((hperm.map Prod.fst).nodup_iff).mp (hnames ▸ hv.1), fun b hb => ?_⟩
      obtain ⟨a, ha, hab⟩ := exists_of_forall₂_left hrel.flip (hperm.mem_iff.mpr hb)
      exact ih a ha hab.2 (hv.2 a ha)
    | _ => cases h

theorem Equiv.valueKind_eq {v w : IRValue} (h : v.Equiv w) : v.valueKind = w.valueKind := by
  cases h <;> rfl

end IRValue

/-! ### Entities and documents -/

inductive BindingSource.Equiv : BindingSource → BindingSource → Prop
  | port (reference : PortRef) : Equiv (.port reference) (.port reference)
  | value {v w : IRValue} (h : v.Equiv w) : Equiv (.value v) (.value w)

namespace Entity

/-- Entities that are equal up to the order of their sets. -/
inductive Equiv : Entity → Entity → Prop
  | action (e : Action) {inputPorts outputPorts : List Port} {effects requires : List EntityRef}
      (hinputs : e.inputPorts.Perm inputPorts) (houtputs : e.outputPorts.Perm outputPorts)
      (heffects : e.effects.Perm effects) (hrequires : e.requires.Perm requires) :
      Equiv (.action e) (.action { e with inputPorts, outputPorts, effects, requires })
  | useCase (e : UseCase) {inputPorts outputPorts : List Port}
      {invariants requires : List EntityRef}
      (hinputs : e.inputPorts.Perm inputPorts) (houtputs : e.outputPorts.Perm outputPorts)
      (hinvariants : e.invariants.Perm invariants) (hrequires : e.requires.Perm requires) :
      Equiv (.useCase e) (.useCase { e with inputPorts, outputPorts, invariants, requires })
  | step (e : Step) {bindings effects observations requires : List EntityRef}
      (hbindings : e.bindings.Perm bindings) (heffects : e.effects.Perm effects)
      (hobservations : e.observations.Perm observations)
      (hrequires : e.requires.Perm requires) :
      Equiv (.step e) (.step { e with bindings, effects, observations, requires })
  | binding (e : Binding) {source : BindingSource} (hsource : e.source.Equiv source) :
      Equiv (.binding e) (.binding { e with source })
  | effect (e : Effect) {value : IRValue} {requires : NonEmptyEntityRefs}
      (hvalue : e.value.Equiv value) (hrequires : e.requires.val.Perm requires.val) :
      Equiv (.effect e) (.effect { e with value, requires })
  | observation (e : Observation) {value : IRValue} (hvalue : e.value.Equiv value) :
      Equiv (.observation e) (.observation { e with value })
  | invariant (e : Invariant) {appliesTo : List EntityRef} {requires : NonEmptyEntityRefs}
      (happliesTo : e.appliesTo.Perm appliesTo) (hrequires : e.requires.val.Perm requires.val) :
      Equiv (.invariant e) (.invariant { e with appliesTo, requires })
  | provenance (e : Provenance) : Equiv (.provenance e) (.provenance e)
  | verificationEvidence (e : VerificationEvidence) {subjects : List EntityRef}
      (hsubjects : e.subjects.Perm subjects) :
      Equiv (.verificationEvidence e) (.verificationEvidence { e with subjects })
  | capabilityRequirement (e : CapabilityRequirement) :
      Equiv (.capabilityRequirement e) (.capabilityRequirement e)

end Entity

/-- Documents that are equal up to the order of their sets. -/
structure BehaviorIR.Equiv (d e : BehaviorIR) : Prop where
  documentId_eq : d.documentId = e.documentId
  roots : d.roots.Perm e.roots
  entities : PermUpTo Entity.Equiv d.entities e.entities

/-! #### An equivalence -/

theorem BindingSource.Equiv.symm {s t : BindingSource} (h : s.Equiv t) : t.Equiv s := by
  cases h with
  | port reference => exact .port reference
  | value h => exact .value h.symm

theorem BindingSource.Equiv.trans {s t u : BindingSource} (h : s.Equiv t) (h' : t.Equiv u) :
    s.Equiv u := by
  cases h with
  | port reference => exact h'
  | value h =>
    cases h' with
    | value h' => exact .value (h.trans h')

theorem BindingSource.equiv_canonical (source : BindingSource) :
    source.Equiv source.canonical := by
  cases source with
  | port reference => exact .port reference
  | value given => exact .value given.equiv_canonical

theorem sortRefs_perm (refs : List EntityRef) : refs.Perm (sortRefs refs) :=
  (sortedBy_perm refKey refs).symm

theorem sortPorts_perm (ports : List Port) : ports.Perm (sortPorts ports) :=
  (sortedBy_perm _ ports).symm

namespace Entity

variable {a b c : Entity}

theorem Equiv.id_eq (h : a.Equiv b) : a.id = b.id := by
  cases h <;> rfl

theorem Equiv.kind_eq (h : a.Equiv b) : a.kind = b.kind := by
  cases h <;> rfl

theorem Equiv.provenanceRef?_eq (h : a.Equiv b) : a.provenanceRef? = b.provenanceRef? := by
  cases h <;> rfl

theorem Equiv.capabilityName?_eq (h : a.Equiv b) : a.capabilityName? = b.capabilityName? := by
  cases h <;> rfl

theorem Equiv.symm (h : a.Equiv b) : b.Equiv a := by
  cases h with
  | action e h₁ h₂ h₃ h₄ => exact .action _ h₁.symm h₂.symm h₃.symm h₄.symm
  | useCase e h₁ h₂ h₃ h₄ => exact .useCase _ h₁.symm h₂.symm h₃.symm h₄.symm
  | step e h₁ h₂ h₃ h₄ => exact .step _ h₁.symm h₂.symm h₃.symm h₄.symm
  | binding e h => exact .binding _ h.symm
  | effect e h₁ h₂ => exact .effect _ h₁.symm h₂.symm
  | observation e h => exact .observation _ h.symm
  | invariant e h₁ h₂ => exact .invariant _ h₁.symm h₂.symm
  | provenance e => exact .provenance e
  | verificationEvidence e h => exact .verificationEvidence _ h.symm
  | capabilityRequirement e => exact .capabilityRequirement e

theorem Equiv.trans (h : a.Equiv b) (h' : b.Equiv c) : a.Equiv c := by
  cases h with
  | action e h₁ h₂ h₃ h₄ =>
    cases h' with
    | action _ k₁ k₂ k₃ k₄ =>
      exact .action e (h₁.trans k₁) (h₂.trans k₂) (h₃.trans k₃) (h₄.trans k₄)
  | useCase e h₁ h₂ h₃ h₄ =>
    cases h' with
    | useCase _ k₁ k₂ k₃ k₄ =>
      exact .useCase e (h₁.trans k₁) (h₂.trans k₂) (h₃.trans k₃) (h₄.trans k₄)
  | step e h₁ h₂ h₃ h₄ =>
    cases h' with
    | step _ k₁ k₂ k₃ k₄ =>
      exact .step e (h₁.trans k₁) (h₂.trans k₂) (h₃.trans k₃) (h₄.trans k₄)
  | binding e h =>
    cases h' with
    | binding _ k => exact .binding e (h.trans k)
  | effect e h₁ h₂ =>
    cases h' with
    | effect _ k₁ k₂ => exact .effect e (h₁.trans k₁) (h₂.trans k₂)
  | observation e h =>
    cases h' with
    | observation _ k => exact .observation e (h.trans k)
  | invariant e h₁ h₂ =>
    cases h' with
    | invariant _ k₁ k₂ => exact .invariant e (h₁.trans k₁) (h₂.trans k₂)
  | provenance e => exact h'
  | verificationEvidence e h =>
    cases h' with
    | verificationEvidence _ k => exact .verificationEvidence e (h.trans k)
  | capabilityRequirement e => exact h'

theorem equiv_canonical (entity : Entity) : entity.Equiv entity.canonical := by
  cases entity with
  | action e =>
    exact .action e (sortPorts_perm _) (sortPorts_perm _) (sortRefs_perm _) (sortRefs_perm _)
  | useCase e =>
    exact .useCase e (sortPorts_perm _) (sortPorts_perm _) (sortRefs_perm _) (sortRefs_perm _)
  | step e =>
    exact .step e (sortRefs_perm _) (sortRefs_perm _) (sortRefs_perm _) (sortRefs_perm _)
  | binding e => exact .binding e e.source.equiv_canonical
  | effect e => exact .effect e e.value.equiv_canonical (sortRefs_perm _)
  | observation e => exact .observation e e.value.equiv_canonical
  | invariant e => exact .invariant e (sortRefs_perm _) (sortRefs_perm _)
  | provenance e => exact .provenance e
  | verificationEvidence e => exact .verificationEvidence e (sortRefs_perm _)
  | capabilityRequirement e => exact .capabilityRequirement e

end Entity

namespace BehaviorIR

variable {d e f : BehaviorIR}

theorem Equiv.symm (h : d.Equiv e) : e.Equiv d where
  documentId_eq := h.documentId_eq.symm
  roots := h.roots.symm
  entities := h.entities.symm fun _ _ _ => Entity.Equiv.symm

theorem Equiv.trans (h : d.Equiv e) (h' : e.Equiv f) : d.Equiv f where
  documentId_eq := h.documentId_eq.trans h'.documentId_eq
  roots := h.roots.trans h'.roots
  entities := h.entities.trans h'.entities fun _ _ _ _ => Entity.Equiv.trans

theorem equiv_canonical (document : BehaviorIR) : document.Equiv document.canonical where
  documentId_eq := rfl
  roots := sortRefs_perm _
  entities := .sortedBy_map fun entity _ => entity.equiv_canonical

end BehaviorIR

/-! ### Validity does not depend on the order -/

theorem PortsUnique.perm {ports ports' : List Port} (h : PortsUnique ports)
    (hperm : ports.Perm ports') : PortsUnique ports' :=
  ((hperm.map Port.name).nodup_iff).mp h

section Transfer

variable {es fs : List Entity} (hes : PermUpTo Entity.Equiv es fs)
include hes

theorem Resolves.transfer {ref : EntityRef} {target : Entity} (h : Resolves es ref target) :
    ∃ target', Resolves fs ref target' ∧ target.Equiv target' := by
  obtain ⟨target', hmem, hequiv⟩ := hes.exists_right h.mem
  exact ⟨target', ⟨hmem, hequiv.id_eq ▸ h.id_eq, hequiv.kind_eq ▸ h.kind_eq⟩, hequiv⟩

theorem RefToAny.transfer {ref : EntityRef} (h : RefToAny es ref) : RefToAny fs ref := by
  obtain ⟨target, htarget⟩ := h
  obtain ⟨target', htarget', _⟩ := htarget.transfer hes
  exact ⟨target', htarget'⟩

theorem RefTo.transfer {kinds : List EntityKind} {ref : EntityRef} (h : RefTo es kinds ref) :
    RefTo fs kinds ref :=
  ⟨h.1, RefToAny.transfer hes h.2⟩

theorem RefSet.transfer {kinds : List EntityKind} {refs refs' : List EntityRef}
    (h : RefSet es kinds refs) (hperm : refs.Perm refs') : RefSet fs kinds refs' where
  nodup := hperm.nodup_iff.mp h.nodup
  refs_to ref href := (h.refs_to ref (hperm.mem_iff.mpr href)).transfer hes

theorem HasRequired.transfer {refs refs' : List EntityRef} (h : HasRequired es refs)
    (hperm : refs.Perm refs') : HasRequired fs refs' := by
  obtain ⟨ref, href, c, hc, hrequired⟩ := h
  obtain ⟨target, htarget, hequiv⟩ := hc.transfer hes
  cases hequiv
  exact ⟨ref, hperm.mem_iff.mp href, c, htarget, hrequired⟩

theorem PortAt.transfer {ref : PortRef} {port : Port} (h : PortAt es ref port) :
    PortAt fs ref port := by
  cases h with
  | @useCase u howner hmem hname =>
    obtain ⟨target, htarget, hequiv⟩ := howner.transfer hes
    cases hequiv with
    | useCase _ hinputs houtputs =>
      refine .useCase htarget ?_ hname
      cases hdirection : ref.direction
      · exact hinputs.mem_iff.mp (by simpa [hdirection, UseCase.ports] using hmem)
      · exact houtputs.mem_iff.mp (by simpa [hdirection, UseCase.ports] using hmem)
  | @step s a howner haction hmem hname =>
    obtain ⟨target, htarget, hequiv⟩ := howner.transfer hes
    obtain ⟨action, haction', hequivAction⟩ := haction.transfer hes
    cases hequiv with
    | step =>
      cases hequivAction with
      | action _ hinputs houtputs =>
        refine .step htarget haction' ?_ hname
        cases hdirection : ref.direction
        · exact hinputs.mem_iff.mp (by simpa [hdirection, Action.ports] using hmem)
        · exact houtputs.mem_iff.mp (by simpa [hdirection, Action.ports] using hmem)

theorem SourceOf.transfer {target : Port} {source source' : BindingSource} {kind : ValueKind}
    (h : SourceOf es target source kind) (hsource : source.Equiv source') :
    SourceOf fs target source' kind := by
  cases hsource with
  | port reference =>
    cases h with
    | useCase howner hdirection hport =>
      obtain ⟨owner, howner', hequiv⟩ := howner.transfer hes
      cases hequiv
      exact .useCase howner' hdirection (hport.transfer hes)
    | step howner hdirection hport =>
      obtain ⟨owner, howner', hequiv⟩ := howner.transfer hes
      cases hequiv
      exact .step howner' hdirection (hport.transfer hes)
  | value hvalue =>
    cases h with
    | value hunique hnull =>
      rw [hvalue.valueKind_eq] at hnull ⊢
      exact .value (hvalue.uniqueNames hunique) hnull

theorem BindingFits.transfer {binding : Binding} {source : BindingSource}
    (h : BindingFits es binding) (hsource : binding.source.Equiv source) :
    BindingFits fs { binding with source } := by
  obtain ⟨howner, hdirection, port, hport, kind, hkind, hfits⟩ := h
  exact ⟨howner, hdirection, port, hport.transfer hes, kind, hkind.transfer hes hsource, hfits⟩

theorem Entity.PartsFit.transfer {a b : Entity} (h : a.PartsFit es) (hab : a.Equiv b) :
    b.PartsFit fs := by
  cases hab with
  | action e hinputs houtputs heffects hrequires =>
    exact ⟨h.1.perm hinputs, h.2.1.perm houtputs, h.2.2.1.transfer hes heffects,
      h.2.2.2.transfer hes hrequires⟩
  | useCase e hinputs houtputs hinvariants hrequires =>
    exact ⟨h.1.perm hinputs, h.2.1.perm houtputs,
      fun ref href => (h.2.2.1 ref href).transfer hes,
      h.2.2.2.1.transfer hes hinvariants, h.2.2.2.2.transfer hes hrequires⟩
  | step e hbindings heffects hobservations hrequires =>
    exact ⟨h.1.transfer hes, h.2.1.transfer hes hbindings, h.2.2.1.transfer hes heffects,
      h.2.2.2.1.transfer hes hobservations, h.2.2.2.2.transfer hes hrequires⟩
  | binding e hsource => exact BindingFits.transfer hes h hsource
  | effect e hvalue hrequires =>
    exact ⟨hvalue.uniqueNames h.1, h.2.1.transfer hes hrequires, h.2.2.transfer hes hrequires⟩
  | observation e hvalue => exact ⟨h.1.transfer hes, hvalue.uniqueNames h.2⟩
  | invariant e happliesTo hrequires =>
    exact ⟨h.1.transfer hes happliesTo, h.2.1.transfer hes hrequires,
      h.2.2.transfer hes hrequires⟩
  | provenance e => trivial
  | verificationEvidence e hsubjects =>
    exact ⟨hsubjects.nodup_iff.mp h.1,
      fun ref href => (h.2 ref (hsubjects.mem_iff.mpr href)).transfer hes⟩
  | capabilityRequirement e => trivial

end Transfer

/-- A document that is equal to a valid one up to order is valid. -/
theorem BehaviorIR.Equiv.wellFormed {d e : BehaviorIR} (h : d.Equiv e) (hd : d.WellFormed) :
    e.WellFormed := by
  obtain ⟨es, hrel, hperm⟩ := h.entities
  have hids : d.entities.map Entity.id = es.map Entity.id :=
    map_eq_map_of_forall₂ hrel fun _ _ _ hab => hab.id_eq
  have hnames : d.entities.filterMap Entity.capabilityName? =
      es.filterMap Entity.capabilityName? :=
    filterMap_eq_filterMap_of_forall₂ hrel fun _ _ => Entity.Equiv.capabilityName?_eq
  refine ⟨?_, ?_, hd.roots.transfer h.entities h.roots, fun b hb => ?_⟩
  · exact ((hperm.map Entity.id).nodup_iff).mp (hids ▸ hd.ids_nodup)
  · exact ((hperm.filterMap _).nodup_iff).mp (hnames ▸ hd.names_nodup)
  · obtain ⟨a, ha, hab⟩ := exists_of_forall₂_left hrel.flip (hperm.mem_iff.mpr hb)
    have hwf := hd.entities a ha
    exact ⟨hwf.parts.transfer h.entities hab, fun ref href =>
      (hwf.provenance ref (hab.provenanceRef?_eq.trans href)).transfer h.entities⟩

/-! ### One canonical form -/

theorem sortRefs_eq_of_perm {refs refs' : List EntityRef} (hnodup : refs.Nodup)
    (hperm : refs.Perm refs') : sortRefs refs = sortRefs refs' :=
  sortedBy_eq_of_perm hperm (hnodup.map refKey_injective)

theorem sortPorts_eq_of_perm {ports ports' : List Port} (hunique : PortsUnique ports)
    (hperm : ports.Perm ports') : sortPorts ports = sortPorts ports' := by
  refine sortedBy_eq_of_perm hperm ?_
  have hnames := hunique.map Subtype.val_injective
  rwa [List.map_map] at hnames

theorem NonEmptyEntityRefs.canonical_eq_of_perm {refs refs' : NonEmptyEntityRefs}
    (hnodup : refs.val.Nodup) (hperm : refs.val.Perm refs'.val) :
    refs.canonical = refs'.canonical :=
  Subtype.ext (sortRefs_eq_of_perm hnodup hperm)

theorem BindingSource.Equiv.canonical_eq {entities : List Entity} {target : Port}
    {kind : ValueKind} {s t : BindingSource} (hs : SourceOf entities target s kind)
    (h : s.Equiv t) : s.canonical = t.canonical := by
  cases h with
  | port reference => rfl
  | value hvalue =>
    cases hs with
    | value hunique _ => exact congrArg BindingSource.value (hvalue.canonical_eq hunique)

theorem Entity.Equiv.canonical_eq {entities : List Entity} {a b : Entity}
    (ha : a.PartsFit entities) (h : a.Equiv b) : a.canonical = b.canonical := by
  cases h with
  | action e hinputs houtputs heffects hrequires =>
    simp only [canonical, sortPorts_eq_of_perm ha.1 hinputs,
      sortPorts_eq_of_perm ha.2.1 houtputs, sortRefs_eq_of_perm ha.2.2.1.nodup heffects,
      sortRefs_eq_of_perm ha.2.2.2.nodup hrequires]
  | useCase e hinputs houtputs hinvariants hrequires =>
    simp only [canonical, sortPorts_eq_of_perm ha.1 hinputs,
      sortPorts_eq_of_perm ha.2.1 houtputs,
      sortRefs_eq_of_perm ha.2.2.2.1.nodup hinvariants,
      sortRefs_eq_of_perm ha.2.2.2.2.nodup hrequires]
  | step e hbindings heffects hobservations hrequires =>
    simp only [canonical, sortRefs_eq_of_perm ha.2.1.nodup hbindings,
      sortRefs_eq_of_perm ha.2.2.1.nodup heffects,
      sortRefs_eq_of_perm ha.2.2.2.1.nodup hobservations,
      sortRefs_eq_of_perm ha.2.2.2.2.nodup hrequires]
  | binding e hsource =>
    obtain ⟨_, _, port, _, kind, hkind, _⟩ := ha
    simp only [canonical, hsource.canonical_eq hkind]
  | effect e hvalue hrequires =>
    simp only [canonical, hvalue.canonical_eq ha.1,
      NonEmptyEntityRefs.canonical_eq_of_perm ha.2.1.nodup hrequires]
  | observation e hvalue => simp only [canonical, hvalue.canonical_eq ha.2]
  | invariant e happliesTo hrequires =>
    simp only [canonical, sortRefs_eq_of_perm ha.1.nodup happliesTo,
      NonEmptyEntityRefs.canonical_eq_of_perm ha.2.1.nodup hrequires]
  | provenance e => rfl
  | verificationEvidence e hsubjects =>
    simp only [canonical, sortRefs_eq_of_perm ha.1 hsubjects]
  | capabilityRequirement e => rfl

theorem Entity.key_injOn {entities : List Entity} (hids : (entities.map Entity.id).Nodup) :
    (entities.map Entity.key).Nodup := by
  refine List.Nodup.of_map (fun key => (ofLex key).2) ?_
  have hids' := hids.map Subtype.val_injective
  rwa [List.map_map] at hids' ⊢

theorem BehaviorIR.Equiv.canonical_eq {d e : BehaviorIR} (hd : d.WellFormed) (h : d.Equiv e) :
    d.canonical = e.canonical := by
  have hentities : sortedBy Entity.key (d.entities.map Entity.canonical) =
      sortedBy Entity.key (e.entities.map Entity.canonical) := by
    refine h.entities.sortedBy_map_eq
      (fun a ha b hab => hab.canonical_eq (hd.entities a ha).parts) ?_
    have hkeys : (d.entities.map Entity.canonical).map Entity.key =
        d.entities.map Entity.key := by
      rw [List.map_map]
      exact List.map_congr_left fun entity _ => entity.key_canonical
    rw [hkeys]
    exact Entity.key_injOn hd.ids_nodup
  simp only [canonical, h.documentId_eq, sortRefs_eq_of_perm hd.roots.nodup h.roots, hentities]

/-- Valid documents have one canonical form exactly when they are equal up to order. -/
theorem BehaviorIR.canonical_eq_iff {d e : BehaviorIR} (hd : d.WellFormed) :
    d.canonical = e.canonical ↔ d.Equiv e := by
  constructor
  · intro h
    exact d.equiv_canonical.trans (h ▸ e.equiv_canonical.symm)
  · exact BehaviorIR.Equiv.canonical_eq hd

theorem BehaviorIR.WellFormed.canonical {d : BehaviorIR} (hd : d.WellFormed) :
    d.canonical.WellFormed :=
  d.equiv_canonical.wellFormed hd

theorem BehaviorIR.canonical_canonical {d : BehaviorIR} (hd : d.WellFormed) :
    d.canonical.canonical = d.canonical :=
  (d.equiv_canonical.canonical_eq hd).symm

end Ucf
