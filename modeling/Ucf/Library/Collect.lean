import Ucf.Library.Check

/-! Comprehensions whose elements may raise: what they collect, element by element, and their error,
which is that of the first element that raises. -/

namespace Ucf

variable {ε α β : Type} {f : α → Except ε β}

theorem exists_of_mem_collect {as : List α} {bs : List β} (h : collect f as = .ok bs) {a : α}
    (ha : a ∈ as) : ∃ b, b ∈ bs ∧ f a = .ok b := by
  obtain ⟨i, hi, rfl⟩ := List.mem_iff_getElem.mp ha
  obtain ⟨hlength, hall⟩ := List.forall₂_iff_get.mp (collect_eq_ok.mp h)
  have hi' : i < bs.length := hlength ▸ hi
  exact ⟨bs[i], List.getElem_mem hi', hall i hi hi'⟩

theorem collect_eq_ok_of_iff {P : α → Prop} {g : α → β} {as : List α} {bs : List β}
    (h : ∀ a ∈ as, ∀ b, f a = .ok b ↔ P a ∧ b = g a) :
    collect f as = .ok bs ↔ (∀ a ∈ as, P a) ∧ bs = as.map g := by
  induction as generalizing bs with
  | nil => simp [eq_comm]
  | cons a as ih =>
    rw [List.forall_mem_cons] at h
    simp only [collect_cons, bind_eq_ok, h.1, ih h.2, List.forall_mem_cons, List.map_cons,
      Except.ok.injEq]
    constructor
    · rintro ⟨_, ⟨ha, rfl⟩, _, ⟨has, rfl⟩, rfl⟩
      exact ⟨⟨ha, has⟩, rfl⟩
    · rintro ⟨⟨ha, has⟩, rfl⟩
      exact ⟨_, ⟨ha, rfl⟩, _, ⟨has, rfl⟩, rfl⟩

theorem collect_map {γ : Type} {g : γ → α} {as : List γ} :
    collect f (as.map g) = collect (fun a => f (g a)) as := by
  induction as with
  | nil => rfl
  | cons a as ih => rw [List.map_cons, collect_cons, collect_cons, ih]

/-- What relates two elements relates what is collected for them. -/
theorem pairwise_of_collect {r : α → α → Prop} {t : β → β → Prop} {as : List α} {bs : List β}
    (h : collect f as = .ok bs) (has : as.Pairwise r)
    (hrel : ∀ a a' b b', r a a' → f a = .ok b → f a' = .ok b' → t b b') : bs.Pairwise t := by
  induction as generalizing bs with
  | nil =>
    cases h
    exact .nil
  | cons a as ih =>
    simp only [collect_cons, bind_eq_ok, Except.ok.injEq] at h
    obtain ⟨b, hb, rest, hrest, rfl⟩ := h
    obtain ⟨hfirst, has⟩ := List.pairwise_cons.mp has
    refine List.pairwise_cons.mpr ⟨fun b' hb' => ?_, ih hrest has⟩
    obtain ⟨a', ha', heq⟩ := (mem_of_collect hrest b').mp hb'
    exact hrel a a' b b' (hfirst a' ha') hb heq

/-- What a comprehension collects, as a choice of the values that are returned. -/
theorem eq_filterMap_of_collect {as : List α} {bs : List β} (h : collect f as = .ok bs) :
    bs = as.filterMap fun a => (f a).toOption := by
  have hall := collect_eq_ok.mp h
  clear h
  induction hall with
  | nil => rfl
  | @cons a b as bs hab _ ih =>
    rw [List.filterMap_cons, hab, ← ih]
    rfl

theorem collect_append (as as' : List α) :
    collect f (as ++ as') = collect f as >>= fun bs => collect f as' >>= fun bs' =>
      .ok (bs ++ bs') := by
  induction as with
  | nil =>
    rw [List.nil_append]
    cases collect f as' <;> rfl
  | cons a as ih =>
    rw [List.cons_append, collect_cons, collect_cons, ih]
    cases f a <;> cases collect f as <;> cases collect f as' <;> rfl

/-! ### The first error -/

theorem collect_append_error {before after : List α} {a : α} {e : ε}
    (hbefore : ∀ b ∈ before, ∃ y, f b = .ok y) (ha : f a = .error e) :
    collect f (before ++ a :: after) = .error e := by
  induction before with
  | nil =>
    rw [List.nil_append, collect_cons, ha]
    rfl
  | cons b before ih =>
    rw [List.forall_mem_cons] at hbefore
    obtain ⟨⟨y, hy⟩, hbefore⟩ := hbefore
    rw [List.cons_append, collect_cons, hy, ok_bind, ih hbefore]
    rfl

theorem collect_eq_error {as : List α} {e : ε} : collect f as = .error e ↔
    ∃ before a after, as = before ++ a :: after ∧ (∀ b ∈ before, ∃ y, f b = .ok y) ∧
      f a = .error e := by
  constructor
  · intro h
    induction as with
    | nil => cases h
    | cons a as ih =>
      cases ha : f a with
      | error e' =>
        rw [collect_cons, ha] at h
        cases h
        exact ⟨[], a, as, rfl, by simp, ha⟩
      | ok y =>
        cases has : collect f as with
        | error e' =>
          rw [collect_cons, ha, ok_bind, has] at h
          cases h
          obtain ⟨before, b, after, rfl, hbefore, hb⟩ := ih has
          exact ⟨a :: before, b, after, rfl, List.forall_mem_cons.mpr ⟨⟨y, ha⟩, hbefore⟩, hb⟩
        | ok ys =>
          rw [collect_cons, ha, ok_bind, has] at h
          cases h
  · rintro ⟨before, a, after, rfl, hbefore, ha⟩
    exact collect_append_error hbefore ha

/-- Of two elements of a list, one comes first. -/
theorem mem_before_of_split {before before' after after' : List α} {a b : α}
    (h : before ++ a :: after = before' ++ b :: after') (hne : a ≠ b) :
    a ∈ before' ∨ b ∈ before := by
  rcases List.append_eq_append_iff.mp h with ⟨middle, hbefore, hrest⟩ | ⟨middle, hbefore, hrest⟩
  · cases middle with
    | nil =>
      rw [List.nil_append, List.cons.injEq] at hrest
      exact absurd hrest.1 hne
    | cons c middle =>
      rw [List.cons_append, List.cons.injEq] at hrest
      rw [hbefore, hrest.1]
      exact .inl (by simp)
  · cases middle with
    | nil =>
      rw [List.nil_append, List.cons.injEq] at hrest
      exact absurd hrest.1.symm hne
    | cons c middle =>
      rw [List.cons_append, List.cons.injEq] at hrest
      rw [hbefore, hrest.1]
      exact .inr (by simp)

theorem exists_collect_ok {as : List α} (h : ∀ a ∈ as, ∃ b, f a = .ok b) :
    ∃ bs, collect f as = .ok bs := by
  obtain ⟨bs, hbs, -⟩ := collect_of_forall (P := fun _ => True) fun a ha =>
    (h a ha).imp fun _ hb => ⟨hb, trivial⟩
  exact ⟨bs, hbs⟩

theorem collect_eq_ok_or_error (f : α → Except ε β) (as : List α) :
    (∃ bs, collect f as = .ok bs) ∨ ∃ e, collect f as = .error e := by
  cases h : collect f as with
  | ok bs => exact .inl ⟨bs, rfl⟩
  | error e => exact .inr ⟨e, rfl⟩

end Ucf
