import Mathlib.Data.List.Basic

/-! Reading frames that end in a delimiter from a stream that comes in chunks, with a limit on what
may be buffered. -/

namespace Ucf

variable {α σ τ υ : Type} [DecidableEq α]

/-- The first frame, with its delimiter, and what follows it. -/
def firstFrame (d : α) : List α → Option (List α × List α)
  | [] => none
  | a :: as =>
    if a = d then some ([a], as) else (firstFrame d as).map fun p => (a :: p.1, p.2)

section

variable {d : α} {stream frame rest : List α}

theorem firstFrame_eq_none : firstFrame d stream = none ↔ d ∉ stream := by
  induction stream with
  | nil => simp [firstFrame]
  | cons a as ih =>
    by_cases h : a = d
    · simp [firstFrame, h]
    · simp [firstFrame, h, ih, Ne.symm h]

theorem firstFrame_eq_some : firstFrame d stream = some (frame, rest) ↔
    ∃ body, d ∉ body ∧ frame = body ++ [d] ∧ stream = frame ++ rest := by
  induction stream generalizing frame with
  | nil =>
    simp only [firstFrame, reduceCtorEq, false_iff]
    rintro ⟨body, _, rfl, hstream⟩
    simp at hstream
  | cons a as ih =>
    by_cases h : a = d
    · subst h
      simp only [firstFrame, if_true, Option.some.injEq, Prod.mk.injEq]
      constructor
      · rintro ⟨rfl, rfl⟩
        exact ⟨[], List.not_mem_nil, rfl, rfl⟩
      · rintro ⟨body, hbody, rfl, hstream⟩
        cases body with
        | nil =>
          rw [List.nil_append, List.singleton_append, List.cons.injEq] at hstream
          exact ⟨rfl, hstream.2⟩
        | cons b body =>
          rw [List.cons_append, List.cons_append, List.cons.injEq] at hstream
          exact absurd (hstream.1 ▸ List.mem_cons_self) hbody
    · simp only [firstFrame, if_neg h, Option.map_eq_some_iff, Prod.exists, Prod.mk.injEq]
      constructor
      · rintro ⟨frame', rest', hfirst, rfl, rfl⟩
        obtain ⟨body, hbody, rfl, rfl⟩ := ih.mp hfirst
        refine ⟨a :: body, ?_, rfl, rfl⟩
        rw [List.mem_cons, not_or]
        exact ⟨Ne.symm h, hbody⟩
      · rintro ⟨body, hbody, rfl, hstream⟩
        cases body with
        | nil =>
          rw [List.nil_append, List.singleton_append, List.cons.injEq] at hstream
          exact absurd hstream.1 h
        | cons b body =>
          rw [List.cons_append, List.cons_append, List.cons.injEq] at hstream
          obtain ⟨rfl, rfl⟩ := hstream
          exact ⟨body ++ [d], rest, ih.mpr ⟨body, fun hmem => hbody (List.mem_cons_of_mem _ hmem),
            rfl, rfl⟩, rfl, rfl⟩

theorem firstFrame_append (h : firstFrame d stream = some (frame, rest)) (more : List α) :
    firstFrame d (stream ++ more) = some (frame, rest ++ more) := by
  obtain ⟨body, hbody, hframe, hstream⟩ := firstFrame_eq_some.mp h
  exact firstFrame_eq_some.mpr ⟨body, hbody, hframe, by rw [hstream, List.append_assoc]⟩

theorem length_rest_lt (h : firstFrame d stream = some (frame, rest)) :
    rest.length < stream.length := by
  obtain ⟨body, _, rfl, rfl⟩ := firstFrame_eq_some.mp h
  simp only [List.length_append, List.length_singleton]
  omega

/-- A frame that begins in a buffer without delimiter holds the whole buffer. -/
theorem eq_append_of_firstFrame {buffered more : List α} (hnone : d ∉ buffered)
    (h : firstFrame d (buffered ++ more) = some (frame, rest)) :
    ∃ tail, frame = buffered ++ tail := by
  obtain ⟨body, hbody, rfl, heq⟩ := firstFrame_eq_some.mp h
  rw [List.append_assoc] at heq
  rcases List.append_eq_append_iff.mp heq with ⟨tail, hbody', htail⟩ | ⟨tail, hbuffered, htail⟩
  · exact ⟨tail ++ [d], by rw [hbody', List.append_assoc]⟩
  · cases tail with
    | nil => exact ⟨[d], by rw [hbuffered, List.append_nil]⟩
    | cons b tail =>
      rw [List.singleton_append, List.cons_append, List.cons.injEq] at htail
      rw [hbuffered, ← htail.1] at hnone
      exact absurd (by simp) hnone

end

/-! ### The loop -/

section

variable (d : α) (limit : Nat) (onFrame : σ → List α → Except τ σ) (tooLong atEnd : σ → List α → τ)

/-- Take the frames that are buffered; stop when more than the limit is left without a delimiter;
read the next chunk, where no chunk or an empty one is the end of the stream. -/
def readLoop (s : σ) (buffered : List α) (chunks : List (List α)) : τ :=
  match _h : firstFrame d buffered with
  | some (frame, rest) =>
    match onFrame s frame with
    | .error outcome => outcome
    | .ok s => readLoop s rest chunks
  | none =>
    if limit < buffered.length then tooLong s buffered
    else match chunks with
    | [] => atEnd s buffered
    | [] :: _ => atEnd s buffered
    | (a :: chunk) :: chunks => readLoop s (buffered ++ a :: chunk) chunks
termination_by (chunks.length, buffered.length)
decreasing_by
  · exact .right _ (length_rest_lt _h)
  · exact .left _ _ (Nat.lt_succ_self _)

variable {d limit onFrame tooLong atEnd} {s : σ} {buffered : List α} {chunks : List (List α)}

theorem readLoop_of_some {frame rest : List α} (h : firstFrame d buffered = some (frame, rest)) :
    readLoop d limit onFrame tooLong atEnd s buffered chunks =
      match onFrame s frame with
      | .error outcome => outcome
      | .ok s => readLoop d limit onFrame tooLong atEnd s rest chunks := by
  rw [readLoop.eq_def]
  split
  · rename_i heq
    rw [h, Option.some.injEq, Prod.mk.injEq] at heq
    obtain ⟨rfl, rfl⟩ := heq
    rfl
  · rename_i heq
    rw [h] at heq
    cases heq

theorem readLoop_of_none (h : firstFrame d buffered = none) :
    readLoop d limit onFrame tooLong atEnd s buffered chunks =
      if limit < buffered.length then tooLong s buffered
      else match chunks with
      | [] => atEnd s buffered
      | [] :: _ => atEnd s buffered
      | (a :: chunk) :: chunks =>
        readLoop d limit onFrame tooLong atEnd s (buffered ++ a :: chunk) chunks := by
  rw [readLoop.eq_def]
  split
  · rename_i heq
    rw [h] at heq
    cases heq
  · rfl

/-- What can be observed of the outcome does not depend on the chunks, when a frame over the limit
and a buffer over the limit end the loop with outcomes that look the same. -/
theorem observe_readLoop (observe : τ → υ)
    (hlong : ∀ s frame, limit < frame.length →
      ∃ outcome, onFrame s frame = .error outcome ∧ observe outcome = observe (tooLong s frame))
    (htail : ∀ s buffered more, limit < buffered.length →
      observe (tooLong s (buffered ++ more)) = observe (tooLong s buffered))
    (hchunks : ∀ chunk ∈ chunks, chunk ≠ []) :
    observe (readLoop d limit onFrame tooLong atEnd s buffered chunks) =
      observe (readLoop d limit onFrame tooLong atEnd s (buffered ++ chunks.flatten) []) := by
  induction s, buffered, chunks using readLoop.induct d limit onFrame with
  | case1 s buffered chunks frame rest hfirst outcome honFrame =>
    rw [readLoop_of_some hfirst, readLoop_of_some (firstFrame_append hfirst _), honFrame]
  | case2 s buffered chunks frame rest hfirst s' honFrame ih =>
    rw [readLoop_of_some hfirst, readLoop_of_some (firstFrame_append hfirst _), honFrame]
    exact ih hchunks
  | case3 s buffered chunks hnone hlimit =>
    rw [readLoop_of_none hnone, if_pos hlimit]
    -- the rest of the stream cannot make the buffer shorter
    cases hfirst : firstFrame d (buffered ++ chunks.flatten) with
    | none =>
      rw [readLoop_of_none hfirst, if_pos (by rw [List.length_append]; omega), htail _ _ _ hlimit]
    | some p =>
      obtain ⟨frame, rest⟩ := p
      obtain ⟨tail, rfl⟩ := eq_append_of_firstFrame (firstFrame_eq_none.mp hnone) hfirst
      obtain ⟨outcome, honFrame, heq⟩ := hlong s (buffered ++ tail)
        (by rw [List.length_append]; omega)
      rw [readLoop_of_some hfirst, honFrame, heq, htail _ _ _ hlimit]
  | case4 s buffered hnone hlimit => rw [List.flatten_nil, List.append_nil]
  | case5 s buffered hnone hlimit tail => exact absurd rfl (hchunks [] List.mem_cons_self)
  | case6 s buffered hnone hlimit a chunk chunks ih =>
    rw [readLoop_of_none hnone, if_neg hlimit]
    have := ih fun c hc => hchunks c (List.mem_cons_of_mem _ hc)
    rw [List.append_assoc] at this
    exact this

/-- Chunks without a delimiter that stay within the limit are buffered. -/
theorem readLoop_buffer {more : List (List α)} (hchunks : ∀ chunk ∈ chunks, chunk ≠ [])
    (hnone : d ∉ buffered ++ chunks.flatten)
    (hlimit : (buffered ++ chunks.flatten).length ≤ limit) :
    readLoop d limit onFrame tooLong atEnd s buffered (chunks ++ more) =
      readLoop d limit onFrame tooLong atEnd s (buffered ++ chunks.flatten) more := by
  induction chunks generalizing buffered with
  | nil => rw [List.flatten_nil, List.append_nil, List.nil_append]
  | cons chunk chunks ih =>
    rw [List.flatten_cons, ← List.append_assoc] at hnone hlimit ⊢
    cases chunk with
    | nil => exact absurd rfl (hchunks [] List.mem_cons_self)
    | cons a chunk =>
      have hbuffered : d ∉ buffered := fun hmem =>
        hnone (List.mem_append_left _ (List.mem_append_left _ hmem))
      simp only [List.length_append] at hlimit
      rw [List.cons_append, readLoop_of_none (firstFrame_eq_none.mpr hbuffered),
        if_neg (by omega)]
      exact ih (fun c hc => hchunks c (List.mem_cons_of_mem _ hc)) hnone
        (by simpa only [List.length_append] using hlimit)

end

end Ucf
