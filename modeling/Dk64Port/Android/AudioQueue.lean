import Dk64Port.Android.Audio
import Dk64Port.Lib.Run

/-!
# The queue of the audio device (`platform/android_audio.cpp`)

Whatever chunks come, whatever the converter makes of them and however the device drains its queue,
the queue holds whole frames, at most a tenth of a second of them, and a conversion starts with the
last four frames of the chunks before it.

* `fullSlice_inside`, `queuedSlice_inside`: what is queued lies inside the converted output.
* `bounded_step`: every call keeps the bounds of the queue and of the fade.
* `Traced`: the calls with the chunks accepted since the history was last reset.
* `queue_bounds_history`: **the bounds and the history after any calls.**
-/

namespace Dk64Port.AndroidAudio

variable {arith : Arithmetic} {a : Audio} {volume : Sample} {samples : List (BitVec 16)}
  {lenCvt : Nat}

/-! ## Calls -/

/-- The calls, and the device that plays some frames. -/
inductive AudioCall where
  | setPaused (pause : Bool)
  | openAudio (frequency : Nat) (opened : Bool) (built : Option Converter)
  | service
  | setFrequency (frequency : Nat) (built : Option Converter)
  | queueSamples (samples : Option (List (BitVec 16))) (volume : Sample) (queued : Bool)
  | drain (frames : Nat)

/-- One call. -/
def step (arith : Arithmetic) (a : Audio) : AudioCall → Audio
  | .setPaused pause => setPaused a pause
  | .openAudio frequency opened built => openAudio a frequency opened built
  | .service => service a
  | .setFrequency frequency built => setFrequency a frequency built
  | .queueSamples samples volume queued => queueSamples arith a samples volume queued
  | .drain frames => drain a frames

/-! ## The slice that is queued -/

theorem fullSlice_inside (h : a.discardFrames < lenCvt / frameBytes) :
    frameBytes * ((fullSlice a lenCvt).start + (fullSlice a lenCvt).frames) ≤ lenCvt := by
  simp only [fullSlice, frameBytes] at *
  omega

theorem trimmed_inside (s : Slice) : s.start ≤ (trimmed a s).start
    ∧ (trimmed a s).start + (trimmed a s).frames = s.start + s.frames := by
  unfold trimmed
  split
  · dsimp only
    omega
  · exact ⟨Nat.le_refl _, rfl⟩

/-- **What is queued lies inside the converted output.** -/
theorem queuedSlice_inside (h : a.discardFrames < lenCvt / frameBytes) :
    frameBytes * ((queuedSlice a lenCvt).start + (queuedSlice a lenCvt).frames) ≤ lenCvt := by
  have hfull := fullSlice_inside h
  unfold queuedSlice
  split
  · rw [(trimmed_inside (fullSlice a lenCvt)).2]
    exact hfull
  · exact hfull

theorem length_fadeIn (arith : Arithmetic) (a : Audio) (frames : Nat) (output : List Sample) :
    (fadeIn arith a frames output).length = output.length := by
  rw [fadeIn, List.length_mapIdx]

/-- A slice inside the output has all its frames. -/
theorem length_sliceOf {output : List Sample} {s : Slice}
    (h : frameBytes * (s.start + s.frames) ≤ 4 * output.length) :
    (sliceOf output s).length = 2 * s.frames := by
  rw [sliceOf, List.length_take, List.length_drop]
  simp only [frameBytes, channels] at *
  omega

/-! ## Bounds -/

/-- The queue holds whole frames, no more than its limit; the fade is no longer than its length. -/
structure Bounded (a : Audio) : Prop where
  rate : a.outputRate ≤ 192000
  whole : a.queue.length % channels = 0
  limit : a.queue.length / channels ≤ maxFrames a
  fade : a.fadeRemaining ≤ fadeTotal a
  closed : a.device = false → a.queue = []

theorem bounded_start : Bounded {} :=
  ⟨by decide, rfl, Nat.zero_le _, Nat.zero_le _, fun _ => rfl⟩

/-- A queue within its limit is far below the range of its size. -/
theorem queuedBytes_eq (h : Bounded a) : queuedBytes a = 4 * a.queue.length := by
  have hrate := h.rate
  have hlimit := h.limit
  unfold queuedBytes
  refine Nat.mod_eq_of_lt ?_
  simp only [maxFrames, maxQueueMs, channels] at hlimit
  omega

/-- An empty queue is within any limit. -/
theorem bounded_of_empty (hrate : a.outputRate ≤ 192000) (hq : a.queue = [])
    (hf : a.fadeRemaining ≤ fadeTotal a) : Bounded a :=
  ⟨hrate, by rw [hq]; rfl, by rw [hq]; exact Nat.zero_le _, hf, fun _ => hq⟩

theorem bounded_resetQueue (h : Bounded a) : Bounded (resetQueue a) :=
  bounded_of_empty h.rate rfl (Nat.le_refl _)

/-- `set_paused` changes the lifecycle and the counts. -/
theorem setPaused_frame (a : Audio) (pause : Bool) : ∃ lifecycle changes pauses,
    setPaused a pause =
      { a with lifecycle := lifecycle, changes := changes, pauses := pauses } := by
  unfold setPaused
  dsimp only
  split <;> exact ⟨_, _, _, rfl⟩

/-- The state after `open` got its device and its converter. -/
def openedAt (a : Audio) (frequency : Nat) (next : Converter) : Audio :=
  { a with
    device := true
    playing := !paused a.lifecycle
    converter := next
    outputRate := frequency
    discardFrames := historyFrames * frequency / a.inputRate
    history := List.replicate (historyFrames * channels) 0
    fadeRemaining := frequency * fadeMs / 1000
    appliedLifecycle := a.lifecycle
    takenAt := a.changes
    takenPauses := a.pauses }

/-- `open` does nothing, or opens a device where there was none. -/
theorem openAudio_cases (a : Audio) (frequency : Nat) (opened : Bool) (built : Option Converter) :
    openAudio a frequency opened built = a ∨
      a.device = false ∧ validFrequency frequency = true ∧ opened = true ∧
        ∃ next, built = some next ∧
          openAudio a frequency opened built = openedAt a frequency next := by
  unfold openAudio openDevice
  by_cases hno : validFrequency frequency = false ∨ a.device = true ∨ opened = false
  · rw [if_pos hno]
    left
    dsimp only
    split
    · rfl
    · rename_i h
      simp only [not_or, Bool.not_eq_true, Bool.not_eq_false] at h
      rw [h.1] at h
      exact absurd h.2 Bool.false_ne_true
  · rw [if_neg hno]
    simp only [not_or, Bool.not_eq_true, Bool.not_eq_false] at hno
    obtain ⟨hfreq, hd, ho⟩ := hno
    cases built with
    | none =>
      left
      show (if a.device = true ∨ a.device = false then a else _) = a
      rw [hd]
      rfl
    | some next =>
      refine .inr ⟨hd, hfreq, ho, next, rfl, ?_⟩
      show (if a.device = true ∨ true = false then _ else _) = _
      rw [hd]
      rfl

theorem bounded_buildConverter (h : Bounded a) (input : Nat) (built : Option Converter) :
    Bounded (buildConverter a input a.outputRate built).2 := by
  cases built with
  | none => exact h
  | some next => exact ⟨h.rate, h.whole, h.limit, h.fade, h.closed⟩

/-- The slice that is queued fits behind what the queue holds after a backlog was dropped. -/
theorem bounded_enqueue (h : Bounded a) {output : List Sample} {s : Slice}
    (hs : (sliceOf output s).length = 2 * s.frames)
    (hroom : a.queue.length / channels + s.frames ≤ maxFrames a) (hd : a.device = true)
    (queued : Bool) (generation : Lifecycle) (checked : Nat) :
    Bounded (enqueue arith a output s queued generation checked) := by
  have hwhole := h.whole
  simp only [channels] at hwhole hroom
  refine ⟨h.rate, ?_, ?_, ?_, fun h' => ?_⟩
  · unfold enqueue
    cases queued with
    | false => exact h.whole
    | true =>
      dsimp only
      rw [if_pos rfl, List.length_append, List.length_map, length_fadeIn, hs]
      simp only [channels]
      omega
  · unfold enqueue
    cases queued with
    | false => exact h.limit
    | true =>
      dsimp only
      rw [if_pos rfl, List.length_append, List.length_map, length_fadeIn, hs]
      show (a.queue.length + 2 * s.frames) / 2 ≤ maxFrames a
      omega
  · exact Nat.le_trans (Nat.sub_le _ _) h.fade
  · rw [show a.device = false from h'] at hd
    cases hd

/-- **A chunk keeps the bounds.** -/
theorem bounded_queueChunk (h : Bounded a) (hd : a.device = true) (queued : Bool)
    (generation : Lifecycle) (checked : Nat) :
    Bounded (queueChunk arith a samples volume queued generation checked) := by
  unfold queueChunk
  dsimp only
  have hh : ∀ history, Bounded { a with history := history } := fun history =>
    ⟨h.rate, h.whole, h.limit, h.fade, h.closed⟩
  generalize (conversionInput arith a volume samples).drop samples.length = history
  cases hrun : a.converter.run (conversionInput arith a volume samples) with
  | none => exact hh history
  | some result =>
    obtain ⟨output, lenCvt⟩ := result
    dsimp only
    split
    · exact hh history
    · rename_i hmore
      have hmore : a.discardFrames < lenCvt / frameBytes := Nat.lt_of_not_le hmore
      have hlen := (a.converter.run_length _ _ _ hrun).2
      have hin := queuedSlice_inside (a := { a with history := history }) hmore
      have hs : (sliceOf output (queuedSlice { a with history := history } lenCvt)).length
          = 2 * (queuedSlice { a with history := history } lenCvt).frames :=
        length_sliceOf (Nat.le_trans hin hlen)
      split
      · rename_i hback
        refine bounded_enqueue (bounded_resetQueue (hh history)) hs ?_ hd _ _ _
        have htrim : queuedSlice { a with history := history } lenCvt
            = trimmed { a with history := history }
                (fullSlice { a with history := history } lenCvt) := if_pos hback
        rw [htrim]
        have hempty : ∀ b : Audio, (resetQueue b).queue.length / channels = 0 := fun _ =>
          Nat.zero_div channels
        rw [hempty, Nat.zero_add]
        unfold trimmed
        split
        · exact Nat.le_refl _
        · rename_i hfits
          exact Nat.le_of_not_lt hfits
      · rename_i hback
        refine bounded_enqueue (hh history) hs ?_ hd _ _ _
        have hfull : queuedSlice { a with history := history } lenCvt
            = fullSlice { a with history := history } lenCvt := if_neg hback
        have hno := of_decide_eq_false (Bool.not_eq_true _ ▸ hback)
        rw [not_or, queuedBytes_eq (hh history)] at hno
        rw [hfull]
        have hbytes : 4 * a.queue.length / frameBytes = a.queue.length / channels := by
          simp only [frameBytes, channels]
          omega
        have hle := Nat.le_of_not_lt hno.2
        rwa [hbytes] at hle

/-- **Every call keeps the bounds.** -/
theorem bounded_step (h : Bounded a) (call : AudioCall) : Bounded (step arith a call) := by
  cases call with
  | setPaused pause =>
    show Bounded (setPaused a pause)
    obtain ⟨lifecycle, changes, pauses, e⟩ := setPaused_frame a pause
    rw [e]
    exact ⟨h.rate, h.whole, h.limit, h.fade, h.closed⟩
  | openAudio frequency opened built =>
    show Bounded (openAudio a frequency opened built)
    rcases openAudio_cases a frequency opened built with e | ⟨hd, hfreq, -, next, -, e⟩
    · rwa [e]
    · rw [e]
      exact bounded_of_empty (of_decide_eq_true hfreq).2 (h.closed hd) (Nat.le_refl _)
  | service =>
    show Bounded (service a)
    unfold service
    split
    · exact h
    · have hr := bounded_resetQueue (a := pauseDevice a true)
        ⟨h.rate, h.whole, h.limit, h.fade, h.closed⟩
      exact ⟨hr.rate, hr.whole, hr.limit, hr.fade, hr.closed⟩
  | setFrequency frequency built =>
    show Bounded (setFrequency a frequency built)
    unfold setFrequency
    split
    · exact h
    · exact bounded_buildConverter h frequency built
  | queueSamples samples volume queued =>
    show Bounded (queueSamples arith a samples volume queued)
    unfold queueSamples
    cases samples with
    | none => exact h
    | some l =>
      dsimp only
      split
      · exact h
      · rename_i hno
        have hready : ready a = true := by simpa using (not_or.mp (not_or.mp hno).2).2
        have hd : a.device = true := by
          unfold ready at hready
          simp only [Bool.and_eq_true] at hready
          exact hready.1.1
        exact bounded_queueChunk h hd _ _ _
  | drain frames =>
    have hwhole := h.whole
    have hlimit := h.limit
    refine ⟨h.rate, ?_, ?_, h.fade, fun hd => ?_⟩
    · show (a.queue.drop (frames * channels)).length % channels = 0
      rw [List.length_drop]
      simp only [channels] at *
      omega
    · show (a.queue.drop (frames * channels)).length / channels ≤ maxFrames a
      rw [List.length_drop]
      simp only [channels] at *
      omega
    · show a.queue.drop (frames * channels) = []
      rw [h.closed hd, List.drop_nil]

/-! ## The history -/

/-- The last four frames of what was accepted, zeros where there are fewer. -/
def lastFrames (accepted : List Sample) : List Sample :=
  (List.replicate (historyFrames * channels) 0 ++ accepted).drop accepted.length

/-- A chunk moves the frames before it out of the history. -/
theorem lastFrames_append (accepted chunk : List Sample) :
    lastFrames (accepted ++ chunk) = (lastFrames accepted ++ chunk).drop chunk.length := by
  have hle : accepted.length
      ≤ (List.replicate (historyFrames * channels) (0 : Sample) ++ accepted).length := by
    rw [List.length_append]
    exact Nat.le_add_left _ _
  rw [lastFrames, lastFrames, ← List.drop_append_of_le_length hle, List.drop_drop,
    List.append_assoc, List.length_append, Nat.add_comm]

theorem length_swapped (arith : Arithmetic) (volume : Sample) :
    ∀ samples : List (BitVec 16), samples.length % channels = 0 →
      (swapped arith volume samples).length = samples.length
  | [], _ => rfl
  | [_], h => by simp at h
  | left :: right :: samples, h => by
    have h' : samples.length % channels = 0 := by
      simp only [List.length_cons, channels] at h ⊢
      omega
    rw [swapped, List.length_cons, List.length_cons, length_swapped arith volume samples h']
    rfl

/-- The chunk is accepted: it is valid and the readiness check passes. -/
def accepts (a : Audio) (l : List (BitVec 16)) : Bool :=
  !paused a.lifecycle && validChunk (some l) && ready a

/-- The chunk makes the queue drop its backlog. -/
def dropsBacklog (arith : Arithmetic) (a : Audio) (volume : Sample) (l : List (BitVec 16)) : Bool :=
  match a.converter.run (conversionInput arith a volume l) with
  | none => false
  | some (_, lenCvt) =>
    decide (a.discardFrames < lenCvt / frameBytes) && backlogged a (fullSlice a lenCvt)

/-- The calls with the frames of the chunks accepted since the history was last reset. -/
structure Traced where
  audio : Audio := {}
  accepted : List Sample := []

/-- The history is reset by a device that opens, by a resume, by another rate, and by a backlog that
is dropped, after the chunk that found it. -/
def acceptedAfter (arith : Arithmetic) (t : Traced) : AudioCall → List Sample
  | .setPaused _ => t.accepted
  | .openAudio frequency opened built =>
    if (openAudio t.audio frequency opened built).device ≠ t.audio.device then [] else t.accepted
  | .service => if resumes t.audio then [] else t.accepted
  | .setFrequency frequency built =>
    if (setFrequency t.audio frequency built).inputRate ≠ t.audio.inputRate then [] else t.accepted
  | .queueSamples none _ _ => t.accepted
  | .queueSamples (some l) volume _ =>
    if accepts t.audio l = false then t.accepted
    else if dropsBacklog arith t.audio volume l then []
    else t.accepted ++ swapped arith volume l
  | .drain _ => t.accepted

/-- One call. -/
def Traced.step (arith : Arithmetic) (t : Traced) (call : AudioCall) : Traced :=
  ⟨AndroidAudio.step arith t.audio call, acceptedAfter arith t call⟩

/-- What a chunk leaves in the history. -/
theorem history_queueChunk (arith : Arithmetic) (a : Audio) (samples : List (BitVec 16))
    (volume : Sample) (queued : Bool) (generation : Lifecycle) (checked : Nat) :
    (queueChunk arith a samples volume queued generation checked).history =
      if dropsBacklog arith a volume samples then List.replicate (historyFrames * channels) 0
      else (conversionInput arith a volume samples).drop samples.length := by
  have hdrops : dropsBacklog arith a volume samples =
      match a.converter.run (conversionInput arith a volume samples) with
      | none => false
      | some (_, lenCvt) =>
        decide (a.discardFrames < lenCvt / frameBytes) && backlogged a (fullSlice a lenCvt) := rfl
  cases hrun : a.converter.run (conversionInput arith a volume samples) with
  | none =>
    rw [hrun] at hdrops
    rw [hdrops]
    unfold queueChunk
    dsimp only
    rw [hrun]
    rfl
  | some result =>
    obtain ⟨output, lenCvt⟩ := result
    rw [hrun] at hdrops
    by_cases hless : lenCvt / frameBytes ≤ a.discardFrames
    · have hno : dropsBacklog arith a volume samples = false := by
        rw [hdrops]
        dsimp only
        rw [decide_eq_false (Nat.not_lt.mpr hless), Bool.false_and]
      rw [hno]
      unfold queueChunk
      dsimp only
      rw [hrun]
      dsimp only
      rw [if_pos hless]
      rfl
    · have hyes : dropsBacklog arith a volume samples = backlogged a (fullSlice a lenCvt) := by
        rw [hdrops]
        dsimp only
        rw [decide_eq_true (Nat.lt_of_not_le hless), Bool.true_and]
      rw [hyes]
      unfold queueChunk
      dsimp only
      rw [hrun]
      dsimp only
      rw [if_neg hless]
      by_cases hback : backlogged a (fullSlice a lenCvt) = true
      · rw [if_pos hback]
        split
        · rfl
        · rename_i hb
          exact absurd hback hb
      · rw [if_neg hback]
        split
        · rename_i hb
          exact absurd hb hback
        · rfl

/-- The history holds the last four frames that were accepted since it was reset. -/
def Remembers (t : Traced) : Prop := t.audio.history = lastFrames t.accepted

/-- **Every call keeps the history.** -/
theorem remembers_step {t : Traced} (h : Remembers t) (call : AudioCall) :
    Remembers (t.step arith call) := by
  cases call with
  | setPaused pause =>
    obtain ⟨lifecycle, changes, pauses, e⟩ := setPaused_frame t.audio pause
    show (setPaused t.audio pause).history = _
    rw [e]
    exact h
  | openAudio frequency opened built =>
    show (openAudio t.audio frequency opened built).history
      = lastFrames (if (openAudio t.audio frequency opened built).device ≠ t.audio.device then []
        else t.accepted)
    rcases openAudio_cases t.audio frequency opened built with e | ⟨hd, -, -, next, -, e⟩
    · rw [e, if_neg (not_not.mpr rfl)]
      exact h
    · have hne : (openedAt t.audio frequency next).device ≠ t.audio.device := by
        rw [hd]
        exact Bool.noConfusion
      rw [e, if_pos hne]
      rfl
  | service =>
    show (service t.audio).history = lastFrames (if resumes t.audio then [] else t.accepted)
    unfold service
    cases hr : resumes t.audio with
    | false =>
      rw [if_pos (.inr rfl)]
      exact h
    | true =>
      have hp : ¬ (paused t.audio.lifecycle = true ∨ true = false) := by
        unfold resumes at hr
        simp only [Bool.and_eq_true, Bool.not_eq_true'] at hr
        rw [hr.1.2]
        simp
      rw [if_neg hp]
      rfl
  | setFrequency frequency built =>
    show (setFrequency t.audio frequency built).history
      = lastFrames (if (setFrequency t.audio frequency built).inputRate ≠ t.audio.inputRate then []
        else t.accepted)
    unfold setFrequency
    by_cases hno : validFrequency frequency = false ∨ frequency = t.audio.inputRate
    · rw [if_pos hno, if_neg (not_not.mpr rfl)]
      exact h
    · rw [if_neg hno]
      cases built with
      | none =>
        have hsame : ¬ (buildConverter t.audio frequency t.audio.outputRate none).2.inputRate
            ≠ t.audio.inputRate := not_not.mpr rfl
        rw [if_neg hsame]
        exact h
      | some next =>
        have hne : (buildConverter t.audio frequency t.audio.outputRate (some next)).2.inputRate
            ≠ t.audio.inputRate := fun e => hno (.inr e)
        rw [if_pos hne]
        rfl
  | queueSamples samples volume queued =>
    cases samples with
    | none => exact h
    | some l =>
      show (queueSamples arith t.audio (some l) volume queued).history
        = lastFrames (if accepts t.audio l = false then t.accepted
          else if dropsBacklog arith t.audio volume l then []
          else t.accepted ++ swapped arith volume l)
      unfold queueSamples
      dsimp only
      by_cases hno : paused t.audio.lifecycle = true ∨ validChunk (some l) = false
          ∨ ready t.audio = false
      · have hacc : accepts t.audio l = false := by
          unfold accepts
          rcases hno with e | e | e <;> simp [e]
        rw [if_pos hno, if_pos hacc]
        exact h
      · have hacc : ¬ accepts t.audio l = false := by
          simp only [not_or, Bool.not_eq_true, Bool.not_eq_false] at hno
          unfold accepts
          rw [hno.1, hno.2.1, hno.2.2]
          decide
        have heven : l.length % channels = 0 := by
          have hv : validChunk (some l) = true := by simpa using (not_or.mp (not_or.mp hno).2).1
          exact (of_decide_eq_true hv).2.1
        rw [if_neg hno, if_neg hacc, history_queueChunk]
        split
        · rfl
        · rw [conversionInput, lastFrames_append, ← h, length_swapped arith volume l heven]
  | drain frames => exact h

/-! ## Runs -/

/-- **The bounds and the history after any calls**: the queue holds whole frames and at most a tenth
of a second, the fade is no longer than its length, a slice that is queued lies inside the converted
output, and the converter is given the last four frames accepted since the last reset with the new
chunk behind them, its channels exchanged. -/
theorem queue_bounds_history (arith : Arithmetic) (calls : List AudioCall) :
    let t := Run.run (Traced.step arith) {} calls
    (t.audio.queue.length % channels = 0
        ∧ t.audio.queue.length / channels ≤ t.audio.outputRate * 100 / 1000)
      ∧ t.audio.fadeRemaining ≤ fadeTotal t.audio
      ∧ (∀ lenCvt, t.audio.discardFrames < lenCvt / frameBytes →
          frameBytes * ((queuedSlice t.audio lenCvt).start + (queuedSlice t.audio lenCvt).frames)
            ≤ lenCvt)
      ∧ ∀ volume samples, conversionInput arith t.audio volume samples
          = lastFrames t.accepted ++ swapped arith volume samples := by
  have hb : Bounded (Run.run (Traced.step arith) {} calls).audio :=
    Run.run_invariant_of_steps (I := fun t : Traced => Bounded t.audio)
      (fun t call h => bounded_step h call) bounded_start calls
  have hr : Remembers (Run.run (Traced.step arith) {} calls) :=
    Run.run_invariant_of_steps (I := Remembers) (fun t call h => remembers_step h call)
      (show Remembers {} from rfl) calls
  refine ⟨⟨hb.whole, hb.limit⟩, hb.fade, fun lenCvt h => queuedSlice_inside h, fun volume samples => ?_⟩
  rw [conversionInput, hr]

end Dk64Port.AndroidAudio
