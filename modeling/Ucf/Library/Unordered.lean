import Mathlib.Data.List.Perm.Basic
import Ucf.Library.Sorted

/-! Lists that are equal up to order, where members are compared by a relation, and what sorting by
a unique key makes of them. -/

namespace Ucf

variable {α β κ : Type}

/-- The members of two lists are related one to one, in some order. -/
def PermUpTo (r : α → β → Prop) (as : List α) (bs : List β) : Prop :=
  ∃ cs, List.Forall₂ r as cs ∧ cs.Perm bs

theorem forall₂_trans {γ : Type} {r : α → β → Prop} {s : β → γ → Prop} {t : α → γ → Prop}
    {as : List α} {bs : List β} {cs : List γ} (h : List.Forall₂ r as bs)
    (h' : List.Forall₂ s bs cs) (hrs : ∀ a ∈ as, ∀ b c, r a b → s b c → t a c) :
    List.Forall₂ t as cs := by
  induction h generalizing cs with
  | nil =>
    cases h'
    exact .nil
  | cons hab _ ih =>
    cases h' with
    | cons hbc hbcs =>
      exact .cons (hrs _ (by simp) _ _ hab hbc)
        (ih hbcs fun a ha b c => hrs a (by simp [ha]) b c)

theorem map_eq_map_of_forall₂ {γ : Type} {r : α → β → Prop} {f : α → γ} {g : β → γ}
    {as : List α} {bs : List β} (h : List.Forall₂ r as bs)
    (hfg : ∀ a ∈ as, ∀ b, r a b → f a = g b) : as.map f = bs.map g := by
  induction h with
  | nil => rfl
  | cons hab _ ih =>
    rw [List.map_cons, List.map_cons, hfg _ (by simp) _ hab,
      ih fun a ha b => hfg a (by simp [ha]) b]

theorem filterMap_eq_filterMap_of_forall₂ {γ : Type} {r : α → β → Prop} {f : α → Option γ}
    {g : β → Option γ} {as : List α} {bs : List β} (h : List.Forall₂ r as bs)
    (hfg : ∀ a b, r a b → f a = g b) : as.filterMap f = bs.filterMap g := by
  induction h with
  | nil => rfl
  | cons hab _ ih => rw [List.filterMap_cons, List.filterMap_cons, hfg _ _ hab, ih]

/-- A related member of the other list. -/
theorem exists_of_forall₂_left {r : α → β → Prop} {as : List α} {bs : List β}
    (h : List.Forall₂ r as bs) {a : α} (ha : a ∈ as) : ∃ b ∈ bs, r a b := by
  induction h with
  | nil => cases ha
  | @cons a' b' as bs hab _ ih =>
    rcases List.mem_cons.mp ha with rfl | ha
    · exact ⟨b', by simp, hab⟩
    · obtain ⟨b, hb, hr⟩ := ih ha
      exact ⟨b, by simp [hb], hr⟩

namespace PermUpTo

variable {r : α → α → Prop} {as bs cs : List α}

theorem mono {s : α → α → Prop} (h : PermUpTo r as bs) (hrs : ∀ a ∈ as, ∀ b, r a b → s a b) :
    PermUpTo s as bs := by
  obtain ⟨cs, hrel, hperm⟩ := h
  exact ⟨cs, forall₂_imp_of_mem hrel hrs, hperm⟩

theorem symm (h : PermUpTo r as bs) (hr : ∀ a ∈ as, ∀ b, r a b → r b a) : PermUpTo r bs as := by
  obtain ⟨cs, hrel, hperm⟩ := h
  have hflip : List.Forall₂ r cs as := (forall₂_imp_of_mem hrel hr).flip
  obtain ⟨ds, hds, hdsPerm⟩ := List.perm_comp_forall₂ hperm.symm hflip
  exact ⟨ds, hds, hdsPerm⟩

theorem trans (h : PermUpTo r as bs) (h' : PermUpTo r bs cs)
    (hr : ∀ a ∈ as, ∀ b c, r a b → r b c → r a c) : PermUpTo r as cs := by
  obtain ⟨ds, hrel, hperm⟩ := h
  obtain ⟨es, hrel', hperm'⟩ := h'
  obtain ⟨fs, hfs, hfsPerm⟩ := List.perm_comp_forall₂ hperm hrel'
  exact ⟨fs, forall₂_trans hrel hfs hr, hfsPerm.trans hperm'⟩

/-- A list and the sorted list of the values of a function on it. -/
theorem sortedBy_map [LinearOrder κ] {key : α → κ} {f : α → α} (h : ∀ a ∈ as, r a (f a)) :
    PermUpTo r as (sortedBy key (as.map f)) := by
  refine ⟨as.map f, ?_, (sortedBy_perm key (as.map f)).symm⟩
  rw [List.forall₂_map_right_iff, List.forall₂_same]
  exact h

/-- Lists that are equal up to order give one sorted list of the values of a function that does
not tell related members apart. -/
theorem sortedBy_map_eq [LinearOrder κ] {key : β → κ} {f : α → β} (h : PermUpTo r as bs)
    (hf : ∀ a ∈ as, ∀ b, r a b → f a = f b) (hkeys : ((as.map f).map key).Nodup) :
    sortedBy key (as.map f) = sortedBy key (bs.map f) := by
  obtain ⟨cs, hrel, hperm⟩ := h
  rw [map_eq_map_of_forall₂ hrel hf] at hkeys ⊢
  exact sortedBy_eq_of_perm (hperm.map f) hkeys

/-- A related member of the second list. -/
theorem exists_right (h : PermUpTo r as bs) {a : α} (ha : a ∈ as) : ∃ b ∈ bs, r a b := by
  obtain ⟨cs, hrel, hperm⟩ := h
  obtain ⟨b, hb, hab⟩ := exists_of_forall₂_left hrel ha
  exact ⟨b, hperm.mem_iff.mp hb, hab⟩

end PermUpTo

end Ucf
