import Ucf.Adapter.Codec
import Ucf.Library.Framing

/-! The two ends of a stream: the client's reader of an adapter's standard output and the server's
readers of its standard input. -/

namespace Ucf.Adapter

/-- How reading a stream of responses ends. -/
inductive StreamEnd where
  | failed (code : ProtocolCode)
  | endOfStream
deriving DecidableEq

section

variable {σ : Type} (correlate : σ → ServerMessage → Except AdapterProtocolError σ)

/-- What the client does with one frame: the state of the correlation and the responses that were
given to it. -/
def onResponseFrame (s : σ × List ServerMessage) (frame : List UInt8) :
    Except (List ServerMessage × StreamEnd) (σ × List ServerMessage) :=
  if maxFrameBytes < frame.length then .error (s.2, .failed .frameTooLarge)
  else match decodeResponseFrame frame with
  | .error e =>
    .error (s.2, .failed (if e.code = .frameTooLarge ∨ e.code = .truncatedFrame then e.code
      else .invalidAdapterOutput))
  | .ok response =>
    match correlate s.1 response with
    | .error e => .error (s.2 ++ [response], .failed e.code)
    | .ok next => .ok (next, s.2 ++ [response])

/-- `_read_stdout`: the responses that it gives to `_correlate`, and how it ends. -/
def readStdout (start : σ) (chunks : List (List UInt8)) : List ServerMessage × StreamEnd :=
  readLoop lf maxFrameBytes (onResponseFrame correlate) (fun s _ => (s.2, .failed .frameTooLarge))
    (fun s buffered => (s.2, if buffered = [] then .endOfStream else .failed .truncatedFrame))
    (start, []) [] chunks

end

/-- A frame that is handed to `decode_request_frame`; the server stops at the first that is
rejected. -/
def onRequestFrame (handed : List (List UInt8)) (frame : List UInt8) :
    Except (List (List UInt8)) (List (List UInt8)) :=
  match decodeRequestFrame frame with
  | .error _ => .error (handed ++ [frame])
  | .ok _ => .ok (handed ++ [frame])

/-- `buffered[: MAX_FRAME_BYTES + 1]` -/
def cut (frame : List UInt8) : List UInt8 := frame.take (maxFrameBytes + 1)

/-- The frames that `_run_fd` hands over, one at a time. -/
def runFd (chunks : List (List UInt8)) : List (List UInt8) :=
  readLoop lf maxFrameBytes onRequestFrame (fun handed buffered => handed ++ [cut buffered])
    (fun handed buffered => if buffered = [] then handed else handed ++ [buffered]) [] [] chunks

/-- `readline(limit)` -/
def readline (limit : Nat) (stream : List UInt8) : List UInt8 × List UInt8 :=
  match firstFrame lf (stream.take limit) with
  | some (line, _) => (line, stream.drop line.length)
  | none => (stream.take limit, stream.drop limit)

theorem length_readline {limit : Nat} {stream : List UInt8} (h : (readline limit stream).1 ≠ []) :
    (readline limit stream).2.length < stream.length := by
  unfold readline at h ⊢
  split
  · rename_i line rest hfirst
    obtain ⟨body, -, rfl, heq⟩ := firstFrame_eq_some.mp hfirst
    have hlength := congrArg List.length heq
    simp only [List.length_take, List.length_append, List.length_singleton] at hlength
    simp only [List.length_drop, List.length_append, List.length_singleton]
    omega
  · rename_i hfirst
    rw [hfirst] at h
    simp only [ne_eq, List.take_eq_nil_iff, not_or] at h
    have := List.length_pos_of_ne_nil h.2
    simp only [List.length_drop]
    omega

/-- The lines that `_run_buffer` hands over, one at a time. -/
def runBuffer (handed : List (List UInt8)) (stream : List UInt8) : List (List UInt8) :=
  if _h : (readline (maxFrameBytes + 1) stream).1 = [] then handed
  else match onRequestFrame handed (readline (maxFrameBytes + 1) stream).1 with
  | .error handed => handed
  | .ok handed => runBuffer handed (readline (maxFrameBytes + 1) stream).2
termination_by stream.length
decreasing_by exact length_readline _h

/-! ### Chunks do not matter -/

theorem decodeFrameObject_of_long {frame : List UInt8} (h : maxFrameBytes < frame.length) :
    decodeFrameObject frame =
      .error (protocolFailure .frameTooLarge "frame exceeds 1048576 bytes") := by
  rw [decodeFrameObject, require_of_not (by omega), error_bind]

theorem decodeRequestFrame_of_long {frame : List UInt8} (h : maxFrameBytes < frame.length) :
    decodeRequestFrame frame =
      .error (protocolFailure .frameTooLarge "frame exceeds 1048576 bytes") := by
  rw [decodeRequestFrame, decodeFrameObject_of_long h, error_bind]

theorem decodeRequestFrame_of_unterminated {frame : List UInt8} (h : lf ∉ frame)
    (hlength : frame.length ≤ maxFrameBytes) : decodeRequestFrame frame =
      .error (protocolFailure .truncatedFrame "frame is not terminated by LF") := by
  rw [decodeRequestFrame, decodeFrameObject, require, if_pos hlength, ok_bind,
    require_of_not fun hlast => h (List.mem_of_getLast? hlast), error_bind, error_bind]

theorem length_cut_of_long {frame : List UInt8} (h : maxFrameBytes < frame.length) :
    maxFrameBytes < (cut frame).length := by
  rw [cut, List.length_take]
  omega

theorem cut_of_le {frame : List UInt8} (h : frame.length ≤ maxFrameBytes + 1) :
    cut frame = frame := List.take_of_length_le h

theorem cut_cut (frame : List UInt8) : cut (cut frame) = cut frame :=
  cut_of_le (by rw [cut, List.length_take]; omega)

/-- A frame and its beginning have one verdict. -/
theorem decodeRequestFrame_cut (frame : List UInt8) :
    decodeRequestFrame (cut frame) = decodeRequestFrame frame := by
  by_cases h : maxFrameBytes < frame.length
  · rw [decodeRequestFrame_of_long h, decodeRequestFrame_of_long (length_cut_of_long h)]
  · rw [cut_of_le (by omega)]

theorem cut_append {buffered : List UInt8} (h : maxFrameBytes < buffered.length)
    (more : List UInt8) : cut (buffered ++ more) = cut buffered :=
  List.take_append_of_le_length h

theorem readStdout_flatten {σ : Type}
    (correlate : σ → ServerMessage → Except AdapterProtocolError σ) (start : σ)
    {chunks : List (List UInt8)} (hchunks : ∀ chunk ∈ chunks, chunk ≠ []) :
    readStdout correlate start chunks =
      readLoop lf maxFrameBytes (onResponseFrame correlate)
        (fun s _ => (s.2, .failed .frameTooLarge))
        (fun s buffered => (s.2, if buffered = [] then .endOfStream else .failed .truncatedFrame))
        (start, []) chunks.flatten [] := by
  refine observe_readLoop id (fun s frame hlong => ?_) (fun _ _ _ _ => rfl) hchunks
  exact ⟨(s.2, .failed .frameTooLarge), if_pos hlong, rfl⟩

theorem readline_of_le (limit : Nat) {stream frame rest : List UInt8}
    (h : firstFrame lf stream = some (frame, rest)) (hlength : frame.length ≤ limit) :
    readline limit stream = (frame, rest) := by
  obtain ⟨body, hbody, hframe, rfl⟩ := firstFrame_eq_some.mp h
  have htake : firstFrame lf ((frame ++ rest).take limit) =
      some (frame, rest.take (limit - frame.length)) := by
    rw [List.take_append, List.take_of_length_le hlength]
    exact firstFrame_eq_some.mpr ⟨body, hbody, hframe, rfl⟩
  simp only [readline, htake, List.drop_left]

theorem readline_of_notMem (limit : Nat) {stream : List UInt8} (h : lf ∉ stream.take limit) :
    readline limit stream = (stream.take limit, stream.drop limit) := by
  rw [readline, firstFrame_eq_none.mpr h]

/-- A line that is longer than the limit is cut before its end. -/
theorem notMem_take_of_long {limit : Nat} {stream frame rest : List UInt8}
    (h : firstFrame lf stream = some (frame, rest)) (hlength : limit < frame.length) :
    lf ∉ stream.take limit ∧ stream.take limit = frame.take limit := by
  obtain ⟨body, hbody, rfl, rfl⟩ := firstFrame_eq_some.mp h
  rw [List.length_append, List.length_singleton] at hlength
  have htake : (body ++ [lf]).take limit = body.take limit :=
    List.take_append_of_le_length (by omega)
  rw [List.take_append_of_le_length (by rw [List.length_append]; omega), htake]
  exact ⟨fun hmem => hbody (List.mem_of_mem_take hmem), rfl⟩

/-- The frames that the descriptor reader hands over when all input is there at once. -/
def runFdFrom (handed : List (List UInt8)) (stream : List UInt8) : List (List UInt8) :=
  readLoop lf maxFrameBytes onRequestFrame (fun handed buffered => handed ++ [cut buffered])
    (fun handed buffered => if buffered = [] then handed else handed ++ [buffered]) handed stream []

theorem runBuffer_of_error {handed : List (List UInt8)} {stream line rest : List UInt8}
    {e : AdapterProtocolError} (hline : readline (maxFrameBytes + 1) stream = (line, rest))
    (hne : line ≠ []) (hdecode : decodeRequestFrame line = .error e) :
    runBuffer handed stream = handed ++ [line] := by
  rw [runBuffer.eq_def]
  simp only [hline, hne, dif_neg, not_false_eq_true, onRequestFrame, hdecode]

theorem runBuffer_of_ok {handed : List (List UInt8)} {stream line rest : List UInt8}
    {message : ClientMessage} (hline : readline (maxFrameBytes + 1) stream = (line, rest))
    (hne : line ≠ []) (hdecode : decodeRequestFrame line = .ok message) :
    runBuffer handed stream = runBuffer (handed ++ [line]) rest := by
  rw [runBuffer.eq_def]
  simp only [hline, hne, dif_neg, not_false_eq_true, onRequestFrame, hdecode]

/-- The two readers hand over the same frames, up to the end of one that is too long. -/
theorem runBuffer_eq (handed : List (List UInt8)) (stream : List UInt8) :
    runBuffer (handed.map cut) stream = (runFdFrom handed stream).map cut := by
  induction hn : stream.length using Nat.strong_induction_on generalizing handed stream with
  | _ n ih =>
    cases hfirst : firstFrame lf stream with
    | some p =>
      obtain ⟨frame, rest⟩ := p
      have hne : frame ≠ [] := by
        obtain ⟨body, -, rfl, -⟩ := firstFrame_eq_some.mp hfirst
        simp
      rw [runFdFrom, readLoop_of_some hfirst, onRequestFrame]
      by_cases hlong : maxFrameBytes + 1 < frame.length
      · -- the frame is longer than a line may be
        obtain ⟨hnot, htake⟩ := notMem_take_of_long hfirst hlong
        have hline := readline_of_notMem _ hnot
        rw [htake] at hline
        have hcut : maxFrameBytes < (cut frame).length := length_cut_of_long (by omega)
        rw [runBuffer_of_error hline (List.ne_nil_of_length_pos (Nat.zero_lt_of_lt hcut))
          (decodeRequestFrame_of_long hcut), decodeRequestFrame_of_long (by omega)]
        simp [cut]
      · have hline := readline_of_le (maxFrameBytes + 1) hfirst (by omega)
        cases hdecode : decodeRequestFrame frame with
        | error e =>
          rw [runBuffer_of_error hline hne hdecode]
          have hcut : cut frame = frame := cut_of_le (by omega)
          simp [hcut]
        | ok message =>
          rw [runBuffer_of_ok hline hne hdecode]
          have := ih rest.length (hn ▸ length_rest_lt hfirst) (handed ++ [frame]) rest rfl
          rw [List.map_append, List.map_singleton, cut_of_le (by omega)] at this
          exact this
    | none =>
      have hnot := firstFrame_eq_none.mp hfirst
      have hline := readline_of_notMem (maxFrameBytes + 1)
        fun hmem => hnot (List.mem_of_mem_take hmem)
      rw [runFdFrom, readLoop_of_none hfirst]
      by_cases hlong : maxFrameBytes < stream.length
      · have hcut := length_cut_of_long hlong
        rw [if_pos hlong, runBuffer_of_error hline (List.ne_nil_of_length_pos (Nat.zero_lt_of_lt hcut))
          (decodeRequestFrame_of_long hcut), List.map_append, List.map_singleton, cut_cut]
        rfl
      · have htake : stream.take (maxFrameBytes + 1) = stream := List.take_of_length_le (by omega)
        rw [htake] at hline
        rw [if_neg hlong]
        by_cases hempty : stream = []
        · rw [runBuffer.eq_def, dif_pos (by rw [hline]; exact hempty), if_pos hempty]
        · rw [runBuffer_of_error hline hempty
            (decodeRequestFrame_of_unterminated hnot (by omega))]
          have hcut : cut stream = stream := cut_of_le (by omega)
          simp [hempty, hcut]

theorem map_cut_runFd {chunks : List (List UInt8)} (hchunks : ∀ chunk ∈ chunks, chunk ≠ []) :
    (runFd chunks).map cut = runBuffer [] chunks.flatten := by
  have hflatten : (runFd chunks).map cut = (runFdFrom [] chunks.flatten).map cut := by
    refine observe_readLoop (List.map cut) (fun handed frame hlong => ?_)
      (fun handed buffered more hlong => ?_) hchunks
    · refine ⟨handed ++ [frame], ?_, ?_⟩
      · rw [onRequestFrame, decodeRequestFrame_of_long hlong]
      · rw [List.map_append, List.map_append, List.map_singleton, List.map_singleton]
        rw [cut_cut]
    · rw [cut_append hlong]
  rw [hflatten, ← runBuffer_eq, List.map_nil]

/-! ### Both ends -/

theorem prefix_runBuffer (handed : List (List UInt8)) (stream : List UInt8) :
    handed <+: runBuffer handed stream := by
  induction handed, stream using runBuffer.induct with
  | case1 handed stream hempty => rw [runBuffer.eq_def, dif_pos hempty]
  | case2 handed stream hne handed' herror =>
    rw [runBuffer.eq_def, dif_neg hne, herror]
    unfold onRequestFrame at herror
    split at herror <;> cases herror
    exact List.prefix_append _ _
  | case3 handed stream hne handed' hok ih =>
    rw [runBuffer.eq_def, dif_neg hne, hok]
    unfold onRequestFrame at hok
    split at hok <;> cases hok
    exact (List.prefix_append _ _).trans ih

/-- A frame no longer than the limit is handed over as it is. -/
theorem head?_runBuffer {stream frame rest : List UInt8}
    (h : firstFrame lf stream = some (frame, rest)) (hlength : frame.length ≤ maxFrameBytes) :
    (runBuffer [] stream).head? = some frame := by
  have hne : frame ≠ [] := by
    obtain ⟨body, -, rfl, -⟩ := firstFrame_eq_some.mp h
    simp
  have hline := readline_of_le (maxFrameBytes + 1) h (by omega)
  cases hdecode : decodeRequestFrame frame with
  | error e =>
    rw [runBuffer_of_error hline hne hdecode]
    rfl
  | ok message =>
    rw [runBuffer_of_ok hline hne hdecode]
    obtain ⟨more, hmore⟩ := prefix_runBuffer ([] ++ [frame]) rest
    rw [← hmore]
    rfl

/-- A longer frame is rejected. -/
theorem runBuffer_of_long {stream frame rest : List UInt8}
    (h : firstFrame lf stream = some (frame, rest)) (hlength : maxFrameBytes < frame.length) :
    runBuffer [] stream = [cut frame] := by
  rw [← List.map_nil, runBuffer_eq, runFdFrom, readLoop_of_some h, onRequestFrame,
    decodeRequestFrame_of_long hlength]
  rfl

/-- The verdicts on the frames that are handed over. -/
def verdicts (frames : List (List UInt8)) : List (Except AdapterProtocolError ClientMessage) :=
  frames.map decodeRequestFrame

theorem verdicts_map_cut (frames : List (List UInt8)) :
    verdicts (frames.map cut) = verdicts frames := by
  rw [verdicts, List.map_map]
  exact List.map_congr_left fun frame _ => decodeRequestFrame_cut frame

section

variable {σ : Type} (correlate : σ → ServerMessage → Except AdapterProtocolError σ) (start : σ)

theorem readStdout_of_long {chunks : List (List UInt8)} (hchunks : ∀ chunk ∈ chunks, chunk ≠ [])
    {frame rest : List UInt8} (h : firstFrame lf chunks.flatten = some (frame, rest))
    (hlength : maxFrameBytes < frame.length) :
    readStdout correlate start chunks = ([], .failed .frameTooLarge) := by
  rw [readStdout_flatten correlate start hchunks, readLoop_of_some h, onResponseFrame,
    if_pos hlength]

/-- The client and the server see the same whichever way a stream is cut into chunks: the client the
same responses and the same end, the server's descriptor reader and its fallback the same frames
with the same verdicts, up to the end of a rejected frame that is too long. -/
theorem streams_agree {chunks chunks' : List (List UInt8)} (hchunks : ∀ chunk ∈ chunks, chunk ≠ [])
    (hchunks' : ∀ chunk ∈ chunks', chunk ≠ []) (heq : chunks.flatten = chunks'.flatten) :
    readStdout correlate start chunks = readStdout correlate start chunks' ∧
      (runFd chunks).map cut = (runFd chunks').map cut ∧
      (runFd chunks).map cut = runBuffer [] chunks.flatten ∧
      verdicts (runFd chunks) = verdicts (runFd chunks') ∧
      verdicts (runFd chunks) = verdicts (runBuffer [] chunks.flatten) ∧
      ∀ frame rest, firstFrame lf chunks.flatten = some (frame, rest) →
        (frame.length ≤ maxFrameBytes → ((runFd chunks).map cut).head? = some frame) ∧
        (maxFrameBytes < frame.length → (runFd chunks).map cut = [cut frame] ∧
          readStdout correlate start chunks = ([], .failed .frameTooLarge)) := by
  have hcut := map_cut_runFd hchunks
  have hcut' := map_cut_runFd hchunks'
  have hsame : (runFd chunks).map cut = (runFd chunks').map cut := by rw [hcut, hcut', heq]
  refine ⟨?_, hsame, hcut, ?_, ?_, fun frame rest hfirst => ⟨fun hlength => ?_, fun hlength => ?_⟩⟩
  · rw [readStdout_flatten correlate start hchunks, readStdout_flatten correlate start hchunks', heq]
  · rw [← verdicts_map_cut (runFd chunks), hsame, verdicts_map_cut]
  · rw [← verdicts_map_cut (runFd chunks), hcut]
  · rw [hcut]
    exact head?_runBuffer hfirst hlength
  · exact ⟨hcut.trans (runBuffer_of_long hfirst hlength),
      readStdout_of_long correlate start hchunks hfirst hlength⟩

end

/-! ### A rejected frame may be handed over in two lengths -/

/-- Sixteen chunks of letters, as many bytes as a frame may have. -/
def letters : List (List UInt8) := List.replicate 16 (List.replicate 65536 97)

theorem length_letters : letters.flatten.length = maxFrameBytes := by
  rw [letters, List.length_flatten, List.map_replicate, List.length_replicate, List.sum_replicate]
  rfl

theorem lf_notMem_letters : lf ∉ letters.flatten := by
  rw [letters, List.mem_flatten]
  rintro ⟨chunk, hchunk, hmem⟩
  rw [List.mem_replicate] at hchunk
  rw [hchunk.2, List.mem_replicate] at hmem
  exact absurd hmem.2 (by decide)

theorem letters_ne_nil : ∀ chunk ∈ letters, chunk ≠ [] := by
  intro chunk hchunk
  rw [letters, List.mem_replicate] at hchunk
  rw [hchunk.2]
  exact List.ne_nil_of_length_pos (by rw [List.length_replicate]; omega)

theorem runFd_letters (more : List (List UInt8)) : runFd (letters ++ more) =
    readLoop lf maxFrameBytes onRequestFrame (fun handed buffered => handed ++ [cut buffered])
      (fun handed buffered => if buffered = [] then handed else handed ++ [buffered]) []
      letters.flatten more := by
  rw [runFd, readLoop_buffer letters_ne_nil (by rw [List.nil_append]; exact lf_notMem_letters)
    (by rw [List.nil_append, length_letters]), List.nil_append]

/-- A line of two bytes more than a frame may have is handed over whole, when its last two bytes come
in one chunk. -/
theorem runFd_together : runFd (letters ++ [[97, lf]]) = [letters.flatten ++ [97, lf]] := by
  have hline : firstFrame lf (letters.flatten ++ [97, lf]) =
      some (letters.flatten ++ [97, lf], []) := by
    refine firstFrame_eq_some.mpr ⟨letters.flatten ++ [97], ?_, by simp, by simp⟩
    rw [List.mem_append, not_or]
    exact ⟨lf_notMem_letters, by decide⟩
  have hlong : maxFrameBytes < (letters.flatten ++ [97, lf]).length := by
    rw [List.length_append, length_letters]
    simp
  rw [runFd_letters, readLoop_of_none (firstFrame_eq_none.mpr lf_notMem_letters),
    if_neg (by rw [length_letters]; omega)]
  simp only
  rw [readLoop_of_some hline, onRequestFrame, decodeRequestFrame_of_long hlong]
  rfl

/-- It is handed over without them, when the next to last byte comes alone. -/
theorem runFd_apart : runFd (letters ++ [[97], [lf]]) = [cut (letters.flatten ++ [97])] := by
  have hnot : lf ∉ letters.flatten ++ [97] := by
    rw [List.mem_append, not_or]
    exact ⟨lf_notMem_letters, by decide⟩
  rw [runFd_letters, readLoop_of_none (firstFrame_eq_none.mpr lf_notMem_letters),
    if_neg (by rw [length_letters]; omega)]
  simp only
  rw [readLoop_of_none (firstFrame_eq_none.mpr hnot), if_pos]
  · rfl
  · rw [List.length_append, length_letters]
    simp

/-- The frames that are handed over may differ in a rejected one. -/
theorem runFd_differs : ¬∀ chunks chunks' : List (List UInt8), (∀ chunk ∈ chunks, chunk ≠ []) →
    (∀ chunk ∈ chunks', chunk ≠ []) → chunks.flatten = chunks'.flatten →
      runFd chunks = runFd chunks' := by
  intro h
  have hnonempty : ∀ more : List (List UInt8), (∀ chunk ∈ more, chunk ≠ []) →
      ∀ chunk ∈ letters ++ more, chunk ≠ [] := by
    intro more hmore chunk hchunk
    exact (List.mem_append.mp hchunk).elim (letters_ne_nil chunk) (hmore chunk)
  have heq := h (letters ++ [[97, lf]]) (letters ++ [[97], [lf]]) (hnonempty _ (by simp))
    (hnonempty _ (by simp)) (by simp)
  rw [runFd_together, runFd_apart, List.cons.injEq] at heq
  have hlength := congrArg List.length heq.1
  rw [cut, List.length_take, List.length_append, List.length_append, length_letters] at hlength
  simp at hlength

/-- One response in one chunk and in two, with a correlation that accepts everything. -/
theorem streams_agree_sample :
    readStdout (fun _ _ => .ok ()) () [[97, lf]] = readStdout (fun _ _ => .ok ()) () [[97], [lf]] ∧
      verdicts (runFd [[97, lf]]) = verdicts (runFd [[97], [lf]]) :=
  have h := @streams_agree Unit (fun _ _ => .ok ()) () [[97, lf]] [[97], [lf]] (by simp) (by simp) rfl
  ⟨h.1, h.2.2.2.1⟩

end Ucf.Adapter
