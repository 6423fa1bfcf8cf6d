import Mathlib.Tactic.Common
import Mathlib.Data.List.Basic
import Mathlib.Algebra.Group.Nat.Defs

/-!
# The audio device on Android (`platform/android_audio.cpp`)

Chunks of samples are converted to the rate of the device and queued; the activity publishes its
lifecycle in one word, whose low bit says that it is paused and whose other bits count the changes.
Before samples are queued again after a pause, `service` empties the queue and adopts the new word.

A queued sample carries what its call saw: the lifecycle its readiness check read, and the number of
pauses requested before that check.

* `Audio`: the static state of the file, with the queue of the device.
* `setPaused`, `openDevice`, `service`, `setFrequency`, `queueSamples`: the calls.
-/

namespace Dk64Port.AndroidAudio

/-- `uint64_t`. -/
abbrev Lifecycle := BitVec 64

/-- A float, by its bits. -/
abbrev Sample := BitVec 32

/-! ## SDL -/

/-- `SDL_AudioCVT`: `SDL_ConvertAudio` gives the buffer and `len_cvt`, or fails. The output stays
within the buffer, which has `len_mult` times the size of the input. -/
structure Converter where
  lenMult : Nat
  run : List Sample → Option (List Sample × Nat)
  run_length : ∀ input output lenCvt, run input = some (output, lenCvt) →
    output.length = input.length * max 1 lenMult ∧ lenCvt ≤ 4 * output.length

/-- `SDL_AudioCVT{}`, which converts nothing. -/
def Converter.none : Converter where
  lenMult := 0
  run input := some (input, 4 * input.length)
  run_length := by
    intro input output lenCvt h
    obtain ⟨rfl, rfl⟩ := Prod.mk.inj (Option.some.inj h)
    exact ⟨(Nat.mul_one _).symm, Nat.le_refl _⟩

/-- The floating-point arithmetic: a sample at a volume, and a sample faded by a fraction. -/
structure Arithmetic where
  scaled : Sample → BitVec 16 → Sample
  fade : Nat → Nat → Sample → Sample

/-- A sample in the queue of the device, with what the readiness check of its call saw. -/
structure Queued where
  sample : Sample
  generation : Lifecycle
  checked : Nat
deriving DecidableEq

/-! ## The state -/

/-- `channels`. -/
abbrev channels : Nat := 2

/-- `history_frames`. -/
abbrev historyFrames : Nat := 4

/-- `frame_bytes`. -/
abbrev frameBytes : Nat := 8

/-- `max_queue_ms`. -/
abbrev maxQueueMs : Nat := 100

/-- `fade_ms`. -/
abbrev fadeMs : Nat := 10

/-- The static state. `changes` counts the changes of the lifecycle and `pauses` the requests to
pause so far; `takenAt` and `takenPauses` are those counts when the applied lifecycle was read. The
code keeps none of these four. -/
structure Audio where
  lifecycle : Lifecycle := 1
  appliedLifecycle : Lifecycle := 1
  device : Bool := false
  /-- The device is not paused. -/
  playing : Bool := false
  converter : Converter := .none
  inputRate : Nat := 48000
  outputRate : Nat := 48000
  discardFrames : Nat := historyFrames
  fadeRemaining : Nat := 0
  history : List Sample := List.replicate (historyFrames * channels) 0
  queue : List Queued := []
  changes : Nat := 0
  pauses : Nat := 0
  takenAt : Nat := 0
  takenPauses : Nat := 0

/-- `state & 1`. -/
def paused (state : Lifecycle) : Bool := state.getLsbD 0

/-- `ready`. -/
def ready (a : Audio) : Bool :=
  a.device && !paused a.lifecycle && decide (a.lifecycle = a.appliedLifecycle)

/-- `build_converter`, with what `SDL_BuildAudioCVT` gives. -/
def buildConverter (a : Audio) (input output : Nat) (built : Option Converter) : Bool × Audio :=
  match built with
  | none => (false, a)
  | some next =>
    (true, { a with
      converter := next
      inputRate := input
      outputRate := output
      discardFrames := historyFrames * output / input
      history := List.replicate (historyFrames * channels) 0 })

/-- The frames of a fade-in. -/
def fadeTotal (a : Audio) : Nat := a.outputRate * fadeMs / 1000

/-- The frames the queue may hold. -/
def maxFrames (a : Audio) : Nat := a.outputRate * maxQueueMs / 1000

/-- `reset_queue`. -/
def resetQueue (a : Audio) : Audio :=
  { a with
    queue := []
    history := List.replicate (historyFrames * channels) 0
    fadeRemaining := fadeTotal a }

/-- `SDL_PauseAudioDevice`. -/
def pauseDevice (a : Audio) (pause : Bool) : Audio := { a with playing := !pause }

/-! ## The calls -/

/-- The next lifecycle of `set_paused`. -/
def nextLifecycle (previous : Lifecycle) (pause : Bool) : Lifecycle :=
  ((previous + 2) &&& ~~~ 1) ||| (if pause then 1 else 0)

/-- `set_paused`: its loop ends with one exchange, or with none. -/
def setPaused (a : Audio) (pause : Bool) : Audio :=
  let a := { a with pauses := a.pauses + if pause then 1 else 0 }
  if paused a.lifecycle = pause then a
  else { a with lifecycle := nextLifecycle a.lifecycle pause, changes := a.changes + 1 }

/-- The lifecycle `state` that was read is applied. -/
def adopt (a : Audio) (state : Lifecycle) (changes pauses : Nat) : Audio :=
  { a with appliedLifecycle := state, takenAt := changes, takenPauses := pauses }

/-- The frequencies the device and the converter take. -/
def validFrequency (frequency : Nat) : Bool := decide (8000 ≤ frequency ∧ frequency ≤ 192000)

/-- The first half of `open`: the device and its converter, or neither. `opened` says that
`SDL_OpenAudioDevice` gives a device, which is paused. -/
def openDevice (a : Audio) (frequency : Nat) (opened : Bool) (built : Option Converter) : Audio :=
  if validFrequency frequency = false ∨ a.device = true ∨ opened = false then a
  else
    let result := buildConverter { a with device := true, playing := false } a.inputRate frequency built
    if result.1 = false then a else result.2

/-- `open`. -/
def openAudio (a : Audio) (frequency : Nat) (opened : Bool) (built : Option Converter) : Audio :=
  let next := openDevice a frequency opened built
  if a.device = true ∨ next.device = false then next
  else
    let next := adopt next next.lifecycle next.changes next.pauses
    pauseDevice { next with fadeRemaining := fadeTotal next } (paused next.appliedLifecycle)

/-- `service` has a new lifecycle to adopt. -/
def resumes (a : Audio) : Bool :=
  a.device && !paused a.lifecycle && decide (a.lifecycle ≠ a.appliedLifecycle)

/-- `service`. -/
def service (a : Audio) : Audio :=
  if paused a.lifecycle = true ∨ resumes a = false then a
  else
    pauseDevice (adopt (resetQueue (pauseDevice a true)) a.lifecycle a.changes a.pauses) false

/-- `set_frequency`. -/
def setFrequency (a : Audio) (frequency : Nat) (built : Option Converter) : Audio :=
  if validFrequency frequency = false ∨ frequency = a.inputRate then a
  else (buildConverter a frequency a.outputRate built).2

/-! ## `queue_samples` -/

/-- The chunk with its two channels exchanged, at the volume of the call. -/
def swapped (arith : Arithmetic) (volume : Sample) : List (BitVec 16) → List Sample
  | left :: right :: samples =>
    arith.scaled volume right :: arith.scaled volume left :: swapped arith volume samples
  | _ => []

/-- What the converter is given: the history and the chunk. -/
def conversionInput (arith : Arithmetic) (a : Audio) (volume : Sample) (samples : List (BitVec 16)) :
    List Sample := a.history ++ swapped arith volume samples

/-- The arguments `queue_samples` takes; `none` is a null pointer. -/
def validChunk (samples : Option (List (BitVec 16))) : Bool :=
  match samples with
  | none => false
  | some l => decide (l.length ≠ 0 ∧ l.length % channels = 0 ∧ l.length ≤ 192000)

/-- The frames `[start, start + frames)` of the converted output. -/
structure Slice where
  start : Nat
  frames : Nat
deriving DecidableEq

/-- The converted output without the frames that belong to the history. -/
def fullSlice (a : Audio) (lenCvt : Nat) : Slice :=
  ⟨a.discardFrames / 2, lenCvt / frameBytes - a.discardFrames⟩

/-- `SDL_GetQueuedAudioSize`. -/
def queuedBytes (a : Audio) : Nat := 4 * a.queue.length % 2 ^ 32

/-- The queue has a broken frame or no room for the slice. -/
def backlogged (a : Audio) (s : Slice) : Bool :=
  decide (queuedBytes a % frameBytes ≠ 0 ∨ maxFrames a < queuedBytes a / frameBytes + s.frames)

/-- After a backlog was dropped, the newest frames there is room for. -/
def trimmed (a : Audio) (s : Slice) : Slice :=
  if maxFrames a < s.frames then ⟨s.start + (s.frames - maxFrames a), maxFrames a⟩ else s

/-- The slice that is queued. -/
def queuedSlice (a : Audio) (lenCvt : Nat) : Slice :=
  if backlogged a (fullSlice a lenCvt) then trimmed a (fullSlice a lenCvt)
  else fullSlice a lenCvt

/-- The samples of a slice of the output. -/
def sliceOf (output : List Sample) (s : Slice) : List Sample :=
  (output.drop (s.start * channels)).take (s.frames * channels)

/-- The first `frames` frames are faded in. -/
def fadeIn (arith : Arithmetic) (a : Audio) (frames : Nat) (output : List Sample) : List Sample :=
  output.mapIdx fun k x =>
    if k / channels < frames then arith.fade (fadeTotal a - a.fadeRemaining + k / channels) (fadeTotal a) x
    else x

/-- The converted output is faded in and queued; `queued` says that `SDL_QueueAudio` does it. -/
def enqueue (arith : Arithmetic) (a : Audio) (output : List Sample) (s : Slice) (queued : Bool)
    (generation : Lifecycle) (checked : Nat) : Audio :=
  let faded := fadeIn arith a (min s.frames a.fadeRemaining) (sliceOf output s)
  { a with
    fadeRemaining := a.fadeRemaining - min s.frames a.fadeRemaining
    queue :=
      if queued then a.queue ++ faded.map fun x => ⟨x, generation, checked⟩ else a.queue }

/-- `queue_samples` behind its readiness check, which read `generation`. -/
def queueChunk (arith : Arithmetic) (a : Audio) (samples : List (BitVec 16)) (volume : Sample)
    (queued : Bool) (generation : Lifecycle) (checked : Nat) : Audio :=
  let input := conversionInput arith a volume samples
  let a := { a with history := input.drop samples.length }
  match a.converter.run input with
  | none => a
  | some (output, lenCvt) =>
    if lenCvt / frameBytes ≤ a.discardFrames then a
    else
      let s := queuedSlice a lenCvt
      let a := if backlogged a (fullSlice a lenCvt) then resetQueue a else a
      enqueue arith a output s queued generation checked

/-- `queue_samples`. -/
def queueSamples (arith : Arithmetic) (a : Audio) (samples : Option (List (BitVec 16)))
    (volume : Sample) (queued : Bool) : Audio :=
  match samples with
  | none => a
  | some l =>
    if paused a.lifecycle = true ∨ validChunk samples = false ∨ ready a = false then a
    else queueChunk arith a l volume queued a.lifecycle a.pauses

/-- The device has played `frames` frames. -/
def drain (a : Audio) (frames : Nat) : Audio := { a with queue := a.queue.drop (frames * channels) }

end Dk64Port.AndroidAudio
