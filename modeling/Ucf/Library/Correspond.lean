import Mathlib.Data.List.Forall2
import Mathlib.Data.List.Perm.Basic

/-! Lists whose elements correspond one to one, in any order. -/

namespace Ucf

variable {α β γ δ : Type} {R : α → β → Prop} {l : List α} {l' : List β}

/-- Each element of a list corresponds to one of the other list. -/
def Corresponds (R : α → β → Prop) (l : List α) (l' : List β) : Prop :=
  ∃ image, List.Forall₂ R l image ∧ image.Perm l'

theorem forall₂_exists_iff {S : β → γ → Prop} {l : List α} {l' : List β} {R : α → γ → Prop} :
    List.Forall₂ (fun a b => ∃ c, R a c ∧ S b c) l l' ↔
      ∃ m, List.Forall₂ R l m ∧ List.Forall₂ S l' m := by
  constructor
  · intro h
    induction h with
    | nil => exact ⟨[], .nil, .nil⟩
    | cons hfirst _ ih =>
      obtain ⟨c, hR, hS⟩ := hfirst
      obtain ⟨m, hRs, hSs⟩ := ih
      exact ⟨c :: m, .cons hR hRs, .cons hS hSs⟩
  · rintro ⟨m, hR, hS⟩
    induction hR generalizing l' with
    | nil =>
      cases hS
      exact .nil
    | cons hfirst _ ih =>
      cases hS with
      | cons hfirst' hrest => exact .cons ⟨_, hfirst, hfirst'⟩ (ih hrest)

namespace Corresponds

theorem of_forall₂ (h : List.Forall₂ R l l') : Corresponds R l l' := ⟨l', h, .refl _⟩

theorem perm {m : List α} {m' : List β} (h : Corresponds R l l') (hl : m.Perm l)
    (hl' : l'.Perm m') : Corresponds R m m' := by
  obtain ⟨image, hall, hperm⟩ := h
  obtain ⟨image', hall', hperm'⟩ := List.perm_comp_forall₂ hl hall
  exact ⟨image', hall', hperm'.trans (hperm.trans hl')⟩

theorem exists_right (h : Corresponds R l l') {a : α} (ha : a ∈ l) : ∃ b ∈ l', R a b := by
  obtain ⟨image, hall, hperm⟩ := h
  obtain ⟨i, hi, rfl⟩ := List.mem_iff_getElem.mp ha
  obtain ⟨hlength, hall⟩ := List.forall₂_iff_get.mp hall
  have hi' : i < image.length := hlength ▸ hi
  exact ⟨image[i], hperm.mem_iff.mp (List.getElem_mem hi'), hall i hi hi'⟩

theorem exists_left (h : Corresponds R l l') {b : β} (hb : b ∈ l') : ∃ a ∈ l, R a b := by
  obtain ⟨image, hall, hperm⟩ := h
  obtain ⟨i, hi, rfl⟩ := List.mem_iff_getElem.mp (hperm.mem_iff.mpr hb)
  obtain ⟨hlength, hall⟩ := List.forall₂_iff_get.mp hall
  have hi' : i < l.length := hlength ▸ hi
  exact ⟨l[i], List.getElem_mem hi', hall i hi' hi⟩

/-- Equal images of corresponding elements make up the same lists, up to order. -/
theorem map_perm (h : Corresponds R l l') {f : α → γ} {g : β → γ}
    (hfg : ∀ a ∈ l, ∀ b ∈ l', R a b → f a = g b) : (l.map f).Perm (l'.map g) := by
  obtain ⟨image, hall, hperm⟩ := h
  refine List.Perm.trans (.of_eq ?_) (hperm.map g)
  have hfg' : ∀ a ∈ l, ∀ b ∈ image, R a b → f a = g b :=
    fun a ha b hb => hfg a ha b (hperm.mem_iff.mp hb)
  clear hfg hperm
  induction hall with
  | nil => rfl
  | @cons a b l image hab _ ih =>
    rw [List.map_cons, List.map_cons, hfg' a (by simp) b (by simp) hab,
      ih fun a ha b hb => hfg' a (by simp [ha]) b (by simp [hb])]

theorem filterMap (h : Corresponds R l l') {S : γ → δ → Prop} {f : α → Option γ}
    {g : β → Option δ} (hfg : ∀ a ∈ l, ∀ b ∈ l', R a b → Option.Rel S (f a) (g b)) :
    Corresponds S (l.filterMap f) (l'.filterMap g) := by
  obtain ⟨image, hall, hperm⟩ := h
  refine ⟨image.filterMap g, ?_, hperm.filterMap g⟩
  have hfg' : ∀ a ∈ l, ∀ b ∈ image, R a b → Option.Rel S (f a) (g b) :=
    fun a ha b hb => hfg a ha b (hperm.mem_iff.mp hb)
  clear hfg hperm
  induction hall with
  | nil => exact .nil
  | @cons a b l image hab _ ih =>
    have hrest := ih fun a ha b hb => hfg' a (by simp [ha]) b (by simp [hb])
    have hfirst := hfg' a (by simp) b (by simp) hab
    rw [List.filterMap_cons, List.filterMap_cons]
    cases hf : f a <;> cases hg : g b <;> rw [hf, hg] at hfirst <;> cases hfirst
    · exact hrest
    · exact .cons ‹_› hrest

end Corresponds

end Ucf
