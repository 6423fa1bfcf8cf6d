import Dk64Port.Android.AudioQueue
import Dk64Port.Lib.BitFields
import Mathlib.Algebra.Group.Nat.Defs

/-!
# The lifecycle of the audio device (`platform/android_audio.cpp`)

`set_paused` runs on any thread and takes no lock. The other calls hold `audio_mutex` between their
first look at the lifecycle and their end, so a change of the lifecycle may fall between any two of
their steps: a call may find the device ready and queue its samples after the activity was paused.

A lifecycle counts its changes in 63 bits. A word that was applied comes back after `2 ^ 63` changes,
and a readiness check does not tell the two apart.

* `AudioEvent`, `Threads.step`: the threads, one atomic step at a time.
* `consistent_step`: the queue is that of the applied lifecycle.
* `ready_unrequested`: **a readiness check does not pass after a pause was requested.**
* `audio_lifecycle`: the three together, over any run.
-/

namespace Dk64Port.AndroidAudio

/-! ## Threads -/

/-- A call that takes the mutex. -/
inductive LockedCall where
  | service
  | queueSamples (samples : Option (List (BitVec 16))) (volume : Sample)
  | openAudio (frequency : Nat) (opened : Bool) (built : Option Converter)
  | setFrequency (frequency : Nat) (built : Option Converter)

/-- How far the call that holds the mutex has come. -/
inductive Holder where
  /-- It has just got the mutex. -/
  | enter (call : LockedCall)
  /-- `service` has read `state` and is about to pause the device. -/
  | pausing (state : Lifecycle) (changes pauses : Nat)
  /-- It is about to reset the queue. -/
  | clearing (state : Lifecycle) (changes pauses : Nat)
  /-- It is about to apply `state`. -/
  | adopting (state : Lifecycle) (changes pauses : Nat)
  /-- It is about to start the device again. -/
  | resuming
  /-- `queue_samples` found the device ready. -/
  | queueing (samples : List (BitVec 16)) (volume : Sample) (seen : Lifecycle) (checked : Nat)
  /-- `open` has its device and is about to read the lifecycle. -/
  | applying
  /-- It is about to start the device. -/
  | starting

/-- The audio state, the calls that wait for the mutex and the one that holds it. -/
structure Threads where
  audio : Audio := {}
  waiting : List LockedCall := []
  holder : Option Holder := none

/-- What can happen next. -/
inductive AudioEvent where
  | setPaused (pause : Bool)
  /-- A call is made and looks at the lifecycle before it asks for the mutex. -/
  | call (call : LockedCall)
  /-- The mutex is free and goes to the waiting call at `k`. -/
  | lock (k : Nat)
  /-- The holder of the mutex takes its next step. -/
  | advance (queued : Bool)
  /-- The device plays. -/
  | drain (frames : Nat)

/-- The checks of a call before it asks for the mutex. -/
def passesCheck (a : Audio) : LockedCall → Bool
  | .service => !paused a.lifecycle
  | .queueSamples samples _ => !paused a.lifecycle && validChunk samples
  | .openAudio _ _ _ => true
  | .setFrequency _ _ => true

/-- The first step with the mutex. -/
def enterCall (a : Audio) : LockedCall → Audio × Option Holder
  | .service => (a, if resumes a then some (.pausing a.lifecycle a.changes a.pauses) else none)
  | .queueSamples none _ => (a, none)
  | .queueSamples (some l) volume =>
    (a, if ready a then some (.queueing l volume a.lifecycle a.pauses) else none)
  | .openAudio frequency opened built =>
    (openDevice a frequency opened built,
      if a.device = true ∨ (openDevice a frequency opened built).device = false then none
      else some .applying)
  | .setFrequency frequency built => (setFrequency a frequency built, none)

/-- The next step of the holder of the mutex; without a holder the mutex is free again. -/
def advanceHolder (arith : Arithmetic) (a : Audio) (queued : Bool) : Holder → Audio × Option Holder
  | .enter call => enterCall a call
  | .pausing state changes pauses => (pauseDevice a true, some (.clearing state changes pauses))
  | .clearing state changes pauses => (resetQueue a, some (.adopting state changes pauses))
  | .adopting state changes pauses => (adopt a state changes pauses, some .resuming)
  | .resuming => (pauseDevice a false, none)
  | .queueing l volume seen checked => (queueChunk arith a l volume queued seen checked, none)
  | .applying =>
    ({ adopt a a.lifecycle a.changes a.pauses with fadeRemaining := fadeTotal a }, some .starting)
  | .starting => (pauseDevice a (paused a.appliedLifecycle), none)

/-- One event. -/
def Threads.step (arith : Arithmetic) (t : Threads) : AudioEvent → Threads
  | .setPaused pause => { t with audio := setPaused t.audio pause }
  | .call call => if passesCheck t.audio call then { t with waiting := t.waiting ++ [call] } else t
  | .lock k =>
    match t.holder, t.waiting[k]? with
    | none, some call => { t with holder := some (.enter call), waiting := t.waiting.eraseIdx k }
    | _, _ => t
  | .advance queued =>
    match t.holder with
    | none => t
    | some holder =>
      let next := advanceHolder arith t.audio queued holder
      { t with audio := next.1, holder := next.2 }
  | .drain frames => { t with audio := drain t.audio frames }

variable {arith : Arithmetic} {a : Audio} {t : Threads} {state : Lifecycle} {changes pauses : Nat}

/-! ## The lifecycle -/

/-- The lifecycle after `n` changes: it starts paused. -/
def lifecycleAt (n : Nat) : Lifecycle := BitVec.ofNat 64 (2 * n + if n % 2 = 0 then 1 else 0)

theorem toNat_lifecycleAt (n : Nat) :
    (lifecycleAt n).toNat = (2 * n + if n % 2 = 0 then 1 else 0) % 2 ^ 64 := BitVec.toNat_ofNat _ _

theorem paused_eq (state : Lifecycle) : paused state = decide (state.toNat % 2 = 1) := by
  rw [paused, BitVec.getLsbD, Nat.testBit_zero]

theorem paused_lifecycleAt (n : Nat) : paused (lifecycleAt n) = decide (n % 2 = 0) := by
  rw [paused_eq, toNat_lifecycleAt]
  congr 1
  apply propext
  split <;> omega

/-- Its words come back after `2 ^ 63` changes, not before. -/
theorem lifecycleAt_inj {m n : Nat} (hle : m ≤ n) (hlt : n < m + 2 ^ 63)
    (h : lifecycleAt n = lifecycleAt m) : n = m := by
  have hnat := congrArg BitVec.toNat h
  rw [toNat_lifecycleAt, toNat_lifecycleAt] at hnat
  split at hnat <;> split at hnat <;> omega

theorem clear_low (y : Lifecycle) : y &&& ~~~ (1 : Lifecycle) = (y >>> 1) <<< 1 := by
  apply BitVec.eq_of_getLsbD_eq
  intro i hi
  have hone : (1 : Lifecycle).getLsbD i = decide (i = 0) := by
    rw [show (1 : Lifecycle) = 1#64 from rfl, BitVec.getLsbD_one]
    simp
  rw [BitVec.getLsbD_and, BitVec.getLsbD_not, hone, BitVec.getLsbD_shiftLeft,
    BitVec.getLsbD_ushiftRight]
  cases i with
  | zero => simp
  | succ i => simp [hi, Nat.add_comm]

theorem toNat_nextLifecycle (previous : Lifecycle) (pause : Bool) :
    (nextLifecycle previous pause).toNat
      = (if pause then 1 else 0) + 2 * ((previous.toNat + 2) % 2 ^ 64 / 2) := by
  have hsum : (previous + 2).toNat = (previous.toNat + 2) % 2 ^ 64 := BitVec.toNat_add _ _
  have hshift : ((previous + 2) >>> 1).toNat = (previous.toNat + 2) % 2 ^ 64 / 2 := by
    rw [BitVec.toNat_ushiftRight, hsum, Nat.shiftRight_eq_div_pow, Nat.pow_one]
  have hbit : (if pause then 1 else 0 : Lifecycle).toNat = if pause then 1 else 0 := by
    cases pause <;> rfl
  have hlow : (if pause then 1 else 0 : Lifecycle).toNat < 2 ^ 1 := by
    rw [hbit]
    cases pause <;> decide
  have hhigh : 2 ^ 1 * ((previous + 2) >>> 1).toNat < 2 ^ 64 := by
    rw [hshift]
    omega
  have hor := BitFields.toNat_or_shiftLeft hlow hhigh
  rw [hbit, hshift] at hor
  unfold nextLifecycle
  rw [clear_low, BitVec.or_comm]
  exact hor

/-- A change leads to the next lifecycle. -/
theorem nextLifecycle_lifecycleAt {n : Nat} {pause : Bool}
    (h : paused (lifecycleAt n) ≠ pause) : nextLifecycle (lifecycleAt n) pause = lifecycleAt (n + 1) := by
  rw [paused_lifecycleAt] at h
  apply BitVec.eq_of_toNat_eq
  rw [toNat_nextLifecycle, toNat_lifecycleAt, toNat_lifecycleAt]
  cases pause with
  | true =>
    have hodd : n % 2 ≠ 0 := by simpa using h
    rw [if_neg hodd, if_pos (show (n + 1) % 2 = 0 by omega), if_pos rfl]
    omega
  | false =>
    have heven : n % 2 = 0 := by simpa using h
    rw [if_pos heven, if_neg (show ¬ (n + 1) % 2 = 0 by omega), if_neg Bool.false_ne_true]
    omega

/-- A look at the lifecycle that saw `state`: it is the word after `changes` changes, and a pause
requested later has moved the word on or found it paused. -/
structure Since (a : Audio) (state : Lifecycle) (changes pauses : Nat) : Prop where
  word : state = lifecycleAt changes
  changes_le : changes ≤ a.changes
  pauses_le : pauses ≤ a.pauses
  moved : pauses < a.pauses → changes < a.changes ∨ paused state = true

theorem since_now (h : a.lifecycle = lifecycleAt a.changes) :
    Since a a.lifecycle a.changes a.pauses :=
  ⟨h, Nat.le_refl _, Nat.le_refl _, fun hlt => absurd hlt (Nat.lt_irrefl _)⟩

/-- The steps that do not touch the lifecycle keep what was seen. -/
theorem Since.frame {b : Audio} (h : Since a state changes pauses) (hc : b.changes = a.changes)
    (hp : b.pauses = a.pauses) : Since b state changes pauses :=
  ⟨h.word, hc ▸ h.changes_le, hp ▸ h.pauses_le, by rw [hc, hp]; exact h.moved⟩

theorem word_setPaused (h : a.lifecycle = lifecycleAt a.changes) (pause : Bool) :
    (setPaused a pause).lifecycle = lifecycleAt (setPaused a pause).changes := by
  unfold setPaused
  dsimp only
  split
  · exact h
  · rename_i hne
    dsimp only
    rw [h] at hne ⊢
    exact nextLifecycle_lifecycleAt hne

theorem Since.setPaused (h : Since a state changes pauses)
    (hword : a.lifecycle = lifecycleAt a.changes) (pause : Bool) :
    Since (setPaused a pause) state changes pauses := by
  unfold AndroidAudio.setPaused
  dsimp only
  split
  · rename_i hsame
    refine ⟨h.word, h.changes_le, Nat.le_trans h.pauses_le (Nat.le_add_right _ _), fun hlt => ?_⟩
    cases pause with
    | false => exact h.moved hlt
    | true =>
      rcases Nat.lt_or_ge changes a.changes with hc | hc
      · exact .inl hc
      · have hnow : changes = a.changes := Nat.le_antisymm h.changes_le hc
        rw [h.word, hnow, ← hword]
        exact .inr hsame
  · exact ⟨h.word, Nat.le_succ_of_le h.changes_le,
      Nat.le_trans h.pauses_le (Nat.le_add_right _ _), fun _ => .inl (Nat.lt_succ_of_le h.changes_le)⟩

/-! ## Readiness -/

theorem ready_iff : ready a = true ↔
    a.device = true ∧ paused a.lifecycle = false ∧ a.lifecycle = a.appliedLifecycle := by
  unfold ready
  simp only [Bool.and_eq_true, Bool.not_eq_true', decide_eq_true_eq, and_assoc]

/-- What the applied lifecycle is. -/
structure Applied (a : Audio) : Prop where
  word : a.lifecycle = lifecycleAt a.changes
  since : Since a a.appliedLifecycle a.takenAt a.takenPauses

/-- A device found ready saw no change since its lifecycle was applied, or a whole turn of them. -/
theorem Applied.ready_cases (h : Applied a) (hready : ready a = true) :
    a.pauses = a.takenPauses ∨ a.takenAt + 2 ^ 63 ≤ a.changes := by
  obtain ⟨-, hrun, hsame⟩ := ready_iff.mp hready
  rcases Nat.lt_or_ge a.changes (a.takenAt + 2 ^ 63) with hlt | hge
  · have hnow : a.changes = a.takenAt :=
      lifecycleAt_inj h.since.changes_le hlt (by rw [← h.word, hsame, h.since.word])
    rcases Nat.lt_or_ge a.takenPauses a.pauses with hp | hp
    · rcases h.since.moved hp with hc | hc
      · omega
      · rw [← hsame, hrun] at hc
        cases hc
    · exact .inl (Nat.le_antisymm hp h.since.pauses_le)
  · exact .inr hge

/-- **After a pause was requested the readiness check does not pass**, unless the lifecycle went
through all its words in between. -/
theorem ready_unrequested (h : Applied a) (hp : a.takenPauses < a.pauses)
    (hlt : a.changes < a.takenAt + 2 ^ 63) : ready a = false := by
  refine Bool.eq_false_iff.mpr fun hready => ?_
  rcases h.ready_cases hready with h | h <;> omega

/-! ## Consistency -/

/-- A readiness check saw no pause requested since the lifecycle was applied. -/
def Checked (a : Audio) (checked : Nat) : Prop :=
  checked = a.takenPauses ∨ a.takenAt + 2 ^ 63 ≤ a.changes

/-- The queue, the device and the applied lifecycle agree. -/
structure Sane (a : Audio) : Prop where
  applied : Applied a
  queued : ∀ x ∈ a.queue, x.generation = a.appliedLifecycle ∧ Checked a x.checked
  closed : a.device = false → a.queue = [] ∧ a.playing = false
  playing : a.playing = true → paused a.appliedLifecycle = false

/-- What the holder of the mutex relies on. -/
def Holds (a : Audio) : Holder → Prop
  | .enter _ => True
  | .pausing state changes pauses =>
    Since a state changes pauses ∧ paused state = false ∧ a.device = true
  | .clearing state changes pauses =>
    Since a state changes pauses ∧ paused state = false ∧ a.device = true ∧ a.playing = false
  | .adopting state changes pauses =>
    Since a state changes pauses ∧ paused state = false ∧ a.device = true ∧ a.playing = false
      ∧ a.queue = []
  | .resuming => paused a.appliedLifecycle = false ∧ a.device = true
  | .queueing _ _ seen checked =>
    seen = a.appliedLifecycle ∧ Checked a checked ∧ a.device = true
  | .applying => a.device = true ∧ a.playing = false ∧ a.queue = []
  | .starting => a.device = true

/-- The invariant of the threads. -/
structure Consistent (t : Threads) : Prop where
  sane : Sane t.audio
  holder : ∀ h ∈ t.holder, Holds t.audio h

theorem sane_start : Sane {} where
  applied := ⟨by decide, ⟨by decide, Nat.le_refl _, Nat.le_refl _, fun h => absurd h (Nat.lt_irrefl _)⟩⟩
  queued := by
    intro x hx
    cases hx
  closed _ := ⟨rfl, rfl⟩
  playing h := by cases h

/-! ## Pausing from another thread -/

theorem Checked.setPaused {checked : Nat} (h : Checked a checked) (pause : Bool) :
    Checked (setPaused a pause) checked := by
  unfold AndroidAudio.setPaused
  dsimp only
  split
  · exact h
  · exact h.imp_right fun h => Nat.le_succ_of_le h

theorem sane_setPaused (h : Sane a) (pause : Bool) : Sane (setPaused a pause) := by
  have hword := word_setPaused h.applied.word pause
  have hsince := h.applied.since.setPaused h.applied.word pause
  have hchecked : ∀ x ∈ a.queue, x.generation = a.appliedLifecycle
      ∧ Checked (setPaused a pause) x.checked := fun x hx =>
    ⟨(h.queued x hx).1, (h.queued x hx).2.setPaused pause⟩
  obtain ⟨lifecycle, changes, pauses, e⟩ := setPaused_frame a pause
  rw [e] at hword hsince hchecked ⊢
  exact ⟨⟨hword, hsince⟩, hchecked, h.closed, h.playing⟩

theorem holds_setPaused (ha : Applied a) {holder : Holder} (h : Holds a holder) (pause : Bool) :
    Holds (setPaused a pause) holder := by
  have hsince : ∀ {state changes pauses}, Since a state changes pauses →
      Since (setPaused a pause) state changes pauses := fun hs => hs.setPaused ha.word pause
  have hchecked : ∀ {checked}, Checked a checked → Checked (setPaused a pause) checked :=
    fun hc => hc.setPaused pause
  obtain ⟨lifecycle, changes, pauses, e⟩ := setPaused_frame a pause
  rw [e] at hsince hchecked ⊢
  cases holder with
  | enter call => trivial
  | pausing state changes pauses => exact ⟨hsince h.1, h.2⟩
  | clearing state changes pauses => exact ⟨hsince h.1, h.2⟩
  | adopting state changes pauses => exact ⟨hsince h.1, h.2⟩
  | resuming => exact h
  | queueing samples volume seen checked => exact ⟨h.1, hchecked h.2.1, h.2.2⟩
  | applying => exact h
  | starting => exact h

/-! ## The holder of the mutex -/

/-- `queue_samples` changes the queue, the fade and the history; what it adds carries what its
readiness check saw. -/
theorem queueChunk_frame (arith : Arithmetic) (a : Audio) (samples : List (BitVec 16))
    (volume : Sample) (queued : Bool) (generation : Lifecycle) (checked : Nat) :
    ∃ history fade queue, queueChunk arith a samples volume queued generation checked
        = { a with history := history, fadeRemaining := fade, queue := queue }
      ∧ ∀ x ∈ queue, x ∈ a.queue ∨ x.generation = generation ∧ x.checked = checked := by
  have hadd : ∀ (old : List Queued) (faded : List Sample), (∀ x ∈ old, x ∈ a.queue) →
      ∀ x ∈ (if queued then old ++ faded.map fun y => ⟨y, generation, checked⟩ else old),
        x ∈ a.queue ∨ x.generation = generation ∧ x.checked = checked := by
    intro old faded hold x hx
    cases queued with
    | false => exact .inl (hold x hx)
    | true =>
      rcases List.mem_append.mp hx with hx | hx
      · exact .inl (hold x hx)
      · obtain ⟨y, -, rfl⟩ := List.mem_map.mp hx
        exact .inr ⟨rfl, rfl⟩
  unfold queueChunk
  dsimp only
  split
  · exact ⟨_, _, _, rfl, fun x hx => .inl hx⟩
  · split
    · exact ⟨_, _, _, rfl, fun x hx => .inl hx⟩
    · split
      · exact ⟨_, _, _, rfl, hadd [] _ fun x hx => absurd hx List.not_mem_nil⟩
      · exact ⟨_, _, _, rfl, hadd a.queue _ fun x hx => hx⟩

/-- A rebuilt converter concerns the conversion only. -/
theorem sane_setFrequency (h : Sane a) (frequency : Nat) (built : Option Converter) :
    Sane (setFrequency a frequency built) := by
  unfold setFrequency
  split
  · exact h
  · cases built with
    | none => exact h
    | some next =>
      exact ⟨⟨h.applied.word, h.applied.since.frame rfl rfl⟩, h.queued, h.closed, h.playing⟩

/-- Where there was no device, `open` gets one that is paused and has an empty queue. -/
theorem openDevice_cases (a : Audio) (frequency : Nat) (opened : Bool) (built : Option Converter) :
    openDevice a frequency opened built = a ∨
      a.device = false ∧ ∃ converter discard history,
        openDevice a frequency opened built =
          { a with
            device := true, playing := false, converter := converter, outputRate := frequency
            discardFrames := discard, history := history } := by
  unfold openDevice
  split
  · exact .inl rfl
  · rename_i hno
    cases built with
    | none => exact .inl rfl
    | some next =>
      have hd : a.device = false := Bool.eq_false_iff.mpr fun hd => hno (.inr (.inl hd))
      exact .inr ⟨hd, _, _, _, rfl⟩

theorem consistent_enter (h : Sane a) (call : LockedCall) :
    Sane (enterCall a call).1 ∧ ∀ x ∈ (enterCall a call).2, Holds (enterCall a call).1 x := by
  cases call with
  | service =>
    refine ⟨h, fun x hx => ?_⟩
    unfold enterCall at hx
    dsimp only at hx
    split at hx
    · rename_i hr
      obtain rfl := Option.some.inj hx
      unfold resumes at hr
      simp only [Bool.and_eq_true, Bool.not_eq_true'] at hr
      exact ⟨since_now h.applied.word, hr.1.2, hr.1.1⟩
    · cases hx
  | queueSamples samples volume =>
    cases samples with
    | none => exact ⟨h, fun x hx => by cases hx⟩
    | some l =>
      refine ⟨h, fun x hx => ?_⟩
      unfold enterCall at hx
      dsimp only at hx
      split at hx
      · rename_i hr
        obtain rfl := Option.some.inj hx
        exact ⟨(ready_iff.mp hr).2.2, h.applied.ready_cases hr, (ready_iff.mp hr).1⟩
      · cases hx
  | openAudio frequency opened built =>
    show Sane (openDevice a frequency opened built) ∧ ∀ x ∈ (if a.device = true ∨
      (openDevice a frequency opened built).device = false then none else some Holder.applying),
        Holds (openDevice a frequency opened built) x
    rcases openDevice_cases a frequency opened built with e | ⟨hd, converter, discard, history, e⟩
    · rw [e]
      refine ⟨h, fun x hx => ?_⟩
      have hboth : a.device = true ∨ a.device = false := by
        cases a.device with
        | true => exact .inl rfl
        | false => exact .inr rfl
      rw [if_pos hboth] at hx
      cases hx
    · rw [e]
      have hq := (h.closed hd).1
      refine ⟨⟨⟨h.applied.word, h.applied.since.frame rfl rfl⟩, h.queued, ?_, ?_⟩, fun x hx => ?_⟩
      · intro hno
        cases hno
      · intro hno
        cases hno
      · split at hx
        · cases hx
        · obtain rfl := Option.some.inj hx
          exact ⟨rfl, rfl, hq⟩
  | setFrequency frequency built =>
    exact ⟨sane_setFrequency h frequency built, fun x hx => by cases hx⟩

/-- **A step of the holder keeps the invariant**, and leaves what its next step relies on. -/
theorem consistent_advance (h : Sane a) {holder : Holder} (hh : Holds a holder) (queued : Bool) :
    Sane (advanceHolder arith a queued holder).1 ∧
      ∀ x ∈ (advanceHolder arith a queued holder).2,
        Holds (advanceHolder arith a queued holder).1 x := by
  cases holder with
  | enter call => exact consistent_enter h call
  | pausing state changes pauses =>
    obtain ⟨hs, hrun, hd⟩ := hh
    refine ⟨⟨⟨h.applied.word, h.applied.since.frame rfl rfl⟩, h.queued,
      fun hno => ⟨(h.closed hno).1, rfl⟩, fun hno => by cases hno⟩, fun x hx => ?_⟩
    obtain rfl := Option.some.inj hx
    exact ⟨hs.frame rfl rfl, hrun, hd, rfl⟩
  | clearing state changes pauses =>
    obtain ⟨hs, hrun, hd, hp⟩ := hh
    refine ⟨⟨⟨h.applied.word, h.applied.since.frame rfl rfl⟩, 
      fun x hx => absurd hx List.not_mem_nil, fun hno => ⟨rfl, hp⟩, h.playing⟩, fun x hx => ?_⟩
    obtain rfl := Option.some.inj hx
    exact ⟨hs.frame rfl rfl, hrun, hd, hp, rfl⟩
  | adopting state changes pauses =>
    obtain ⟨hs, hrun, hd, hp, hq⟩ := hh
    refine ⟨⟨⟨h.applied.word, hs.frame rfl rfl⟩, fun x hx => ?_, h.closed, fun _ => hrun⟩,
      fun x hx => ?_⟩
    · rw [show (advanceHolder arith a queued (.adopting state changes pauses)).1.queue = []
        from hq] at hx
      cases hx
    · obtain rfl := Option.some.inj hx
      exact ⟨hrun, hd⟩
  | resuming =>
    obtain ⟨hrun, hd⟩ := hh
    refine ⟨⟨⟨h.applied.word, h.applied.since.frame rfl rfl⟩, h.queued, fun hno => ?_,
      fun _ => hrun⟩, fun x hx => by cases hx⟩
    rw [show a.device = false from hno] at hd
    cases hd
  | queueing samples volume seen checked =>
    obtain ⟨hseen, hc, hd⟩ := hh
    refine ⟨?_, fun x hx => by cases hx⟩
    show Sane (queueChunk arith a samples volume queued seen checked)
    obtain ⟨history, fade, queue, e, hqueue⟩ :=
      queueChunk_frame arith a samples volume queued seen checked
    rw [e]
    refine ⟨⟨h.applied.word, h.applied.since.frame rfl rfl⟩, fun x hx => ?_, fun hno => ?_,
      h.playing⟩
    · rcases hqueue x hx with hold | ⟨hg, hchecked⟩
      · exact h.queued x hold
      · exact ⟨hg.trans hseen, hchecked ▸ hc⟩
    · rw [show a.device = false from hno] at hd
      cases hd
  | applying =>
    obtain ⟨hd, hp, hq⟩ := hh
    refine ⟨⟨⟨h.applied.word, (since_now h.applied.word).frame rfl rfl⟩, fun x hx => ?_,
      h.closed, fun hno => ?_⟩, fun x hx => ?_⟩
    · rw [show (advanceHolder arith a queued .applying).1.queue = [] from hq] at hx
      cases hx
    · rw [show a.playing = true from hno] at hp
      cases hp
    · obtain rfl := Option.some.inj hx
      exact hd
  | starting =>
    refine ⟨⟨⟨h.applied.word, h.applied.since.frame rfl rfl⟩, h.queued, fun hno => ?_,
      fun hplay => ?_⟩, fun x hx => by cases hx⟩
    · rw [show (advanceHolder arith a queued .starting).1.device = true from hh] at hno
      cases hno
    · exact (Bool.not_eq_true' _).mp hplay

/-! ## Runs -/

theorem drain_of_empty (h : a.queue = []) (frames : Nat) : (drain a frames).queue = [] := by
  rw [drain, h, List.drop_nil]

theorem mem_drain {x : Queued} {frames : Nat} (h : x ∈ (drain a frames).queue) : x ∈ a.queue :=
  List.mem_of_mem_drop h

/-- **Every event keeps the invariant.** -/
theorem consistent_step (h : Consistent t) (e : AudioEvent) : Consistent (t.step arith e) := by
  cases e with
  | setPaused pause =>
    exact ⟨sane_setPaused h.sane pause, fun x hx =>
      holds_setPaused h.sane.applied (h.holder x hx) pause⟩
  | call call =>
    unfold Threads.step
    dsimp only
    split
    · exact ⟨h.sane, h.holder⟩
    · exact h
  | lock k =>
    unfold Threads.step
    dsimp only
    split
    · refine ⟨h.sane, fun x hx => ?_⟩
      obtain rfl := Option.some.inj hx
      trivial
    · exact h
  | advance queued =>
    unfold Threads.step
    dsimp only
    split
    · exact h
    · rename_i holder hholder
      have hnext := @consistent_advance arith t.audio h.sane holder (h.holder holder hholder) queued
      exact ⟨hnext.1, hnext.2⟩
  | drain frames =>
    refine ⟨⟨⟨h.sane.applied.word, h.sane.applied.since.frame rfl rfl⟩, fun x hx =>
      h.sane.queued x (mem_drain hx), fun hno =>
        ⟨drain_of_empty (h.sane.closed hno).1 frames, (h.sane.closed hno).2⟩, h.sane.playing⟩,
      fun x hx => ?_⟩
    have hold := h.holder x hx
    cases x with
    | enter call => trivial
    | pausing state changes pauses => exact ⟨hold.1.frame rfl rfl, hold.2⟩
    | clearing state changes pauses => exact ⟨hold.1.frame rfl rfl, hold.2⟩
    | adopting state changes pauses =>
      exact ⟨hold.1.frame rfl rfl, hold.2.1, hold.2.2.1, hold.2.2.2.1,
        drain_of_empty hold.2.2.2.2 frames⟩
    | resuming => exact hold
    | queueing samples volume seen checked => exact hold
    | applying => exact ⟨hold.1, hold.2.1, drain_of_empty hold.2.2 frames⟩
    | starting => exact hold

theorem consistent_run (arith : Arithmetic) (es : List AudioEvent) :
    Consistent (Run.run (Threads.step arith) {} es) :=
  Run.run_invariant_of_steps (I := Consistent) (fun _ e h => consistent_step h e)
    ⟨sane_start, fun _ hx => by cases hx⟩ es

/-- `b` has the applied lifecycle of `a`. -/
def SameApplied (a b : Audio) : Prop :=
  b.appliedLifecycle = a.appliedLifecycle ∧ b.takenAt = a.takenAt ∧ b.takenPauses = a.takenPauses

theorem sameApplied_refl (a : Audio) : SameApplied a a := ⟨rfl, rfl, rfl⟩

theorem sameApplied_enter (a : Audio) (call : LockedCall) :
    SameApplied a (enterCall a call).1 := by
  cases call with
  | service => exact sameApplied_refl a
  | queueSamples samples volume => cases samples <;> exact sameApplied_refl a
  | openAudio frequency opened built =>
    show SameApplied a (openDevice a frequency opened built)
    rcases openDevice_cases a frequency opened built with e | ⟨-, converter, discard, history, e⟩
    · rw [e]
      exact sameApplied_refl a
    · rw [e]
      exact ⟨rfl, rfl, rfl⟩
  | setFrequency frequency built =>
    show SameApplied a (setFrequency a frequency built)
    unfold setFrequency
    split
    · exact sameApplied_refl a
    · cases built with
      | none => exact sameApplied_refl a
      | some next => exact ⟨rfl, rfl, rfl⟩

/-- **A lifecycle is applied to an empty queue.** -/
theorem applied_empty (h : Consistent t) (e : AudioEvent) :
    SameApplied t.audio (t.step arith e).audio ∨ (t.step arith e).audio.queue = [] := by
  cases e with
  | setPaused pause =>
    left
    obtain ⟨lifecycle, changes, pauses, e⟩ := setPaused_frame t.audio pause
    show SameApplied t.audio (setPaused t.audio pause)
    rw [e]
    exact ⟨rfl, rfl, rfl⟩
  | call call =>
    left
    unfold Threads.step
    dsimp only
    split <;> exact sameApplied_refl _
  | lock k =>
    left
    unfold Threads.step
    dsimp only
    split <;> exact sameApplied_refl _
  | drain frames => exact .inl ⟨rfl, rfl, rfl⟩
  | advance queued =>
    unfold Threads.step
    dsimp only
    split
    · exact .inl (sameApplied_refl _)
    · rename_i holder hholder
      have hh := h.holder holder hholder
      cases holder with
      | enter call => exact .inl (sameApplied_enter t.audio call)
      | pausing state changes pauses => exact .inl ⟨rfl, rfl, rfl⟩
      | clearing state changes pauses => exact .inl ⟨rfl, rfl, rfl⟩
      | adopting state changes pauses => exact .inr hh.2.2.2.2
      | resuming => exact .inl ⟨rfl, rfl, rfl⟩
      | queueing samples volume seen checked =>
        left
        show SameApplied t.audio (queueChunk arith t.audio samples volume queued seen checked)
        obtain ⟨history, fade, queue, e, -⟩ :=
          queueChunk_frame arith t.audio samples volume queued seen checked
        rw [e]
        exact ⟨rfl, rfl, rfl⟩
      | applying => exact .inr hh.2.2
      | starting => exact .inl ⟨rfl, rfl, rfl⟩

/-- **The lifecycle of the device, over any interleaving**: what is queued was queued by calls that
saw the applied lifecycle; within `2 ^ 63` changes of it, no readiness check passes once a pause was
requested, and no queued sample comes from a check behind such a request; another lifecycle is
applied to an empty queue only; and the device plays under an applied lifecycle that is not paused. -/
theorem audio_lifecycle (arith : Arithmetic) (es : List AudioEvent) :
    let t := Run.run (Threads.step arith) {} es
    (∀ x ∈ t.audio.queue, x.generation = t.audio.appliedLifecycle)
      ∧ (t.audio.changes < t.audio.takenAt + 2 ^ 63 →
          (t.audio.takenPauses < t.audio.pauses → ready t.audio = false)
            ∧ ∀ x ∈ t.audio.queue, x.checked = t.audio.takenPauses)
      ∧ (∀ e, SameApplied t.audio (t.step arith e).audio ∨ (t.step arith e).audio.queue = [])
      ∧ (t.audio.playing = true → paused t.audio.appliedLifecycle = false) := by
  have h := consistent_run arith es
  refine ⟨fun x hx => (h.sane.queued x hx).1, fun hlt => ⟨fun hp =>
    ready_unrequested h.sane.applied hp hlt, fun x hx => ?_⟩, fun e => applied_empty h e,
    h.sane.playing⟩
  rcases (h.sane.queued x hx).2 with hc | hc
  · exact hc
  · exact absurd hlt (Nat.not_lt.mpr hc)

/-! ## A whole turn of the lifecycle -/

/-- The activity is paused and resumed `n` times. -/
def pauseResume (n : Nat) : List AudioEvent :=
  (List.replicate n [AudioEvent.setPaused true, .setPaused false]).flatten

theorem run_pauseResume (n : Nat) :
    ∀ t : Threads, t.audio.lifecycle = lifecycleAt t.audio.changes → t.audio.changes % 2 = 1 →
      Run.run (Threads.step arith) t (pauseResume n) =
        { t with
          audio := { t.audio with
            lifecycle := lifecycleAt (t.audio.changes + 2 * n)
            changes := t.audio.changes + 2 * n
            pauses := t.audio.pauses + n } } := by
  induction n with
  | zero =>
    intro t hword hodd
    show t = _
    rw [Nat.mul_zero, Nat.add_zero, Nat.add_zero, ← hword]
  | succ n ih =>
    intro t hword hodd
    have hpause : setPaused t.audio true =
        { t.audio with
          lifecycle := lifecycleAt (t.audio.changes + 1)
          changes := t.audio.changes + 1
          pauses := t.audio.pauses + 1 } := by
      have hrun : ¬ paused (lifecycleAt t.audio.changes) = true := by
        rw [paused_lifecycleAt]
        simp [hodd]
      unfold setPaused
      dsimp only
      rw [hword, if_neg hrun, nextLifecycle_lifecycleAt hrun, if_pos rfl]
    have hresume : setPaused (setPaused t.audio true) false =
        { t.audio with
          lifecycle := lifecycleAt (t.audio.changes + 2)
          changes := t.audio.changes + 2
          pauses := t.audio.pauses + 1 } := by
      have hstop : ¬ paused (lifecycleAt (t.audio.changes + 1)) = false := by
        rw [paused_lifecycleAt, decide_eq_true (show (t.audio.changes + 1) % 2 = 0 by omega)]
        decide
      rw [hpause]
      unfold setPaused
      dsimp only
      rw [if_neg hstop, nextLifecycle_lifecycleAt hstop]
      rfl
    have hcons : pauseResume (n + 1) =
        AudioEvent.setPaused true :: .setPaused false :: pauseResume n := rfl
    rw [hcons, Run.run_cons, Run.run_cons]
    show Run.run _ { t with audio := setPaused (setPaused t.audio true) false } _ = _
    rw [hresume, ih _ rfl (by dsimp only; omega)]
    have hchanges : t.audio.changes + 2 + 2 * n = t.audio.changes + 2 * (n + 1) := by omega
    have hpauses : t.audio.pauses + 1 + n = t.audio.pauses + (n + 1) := by omega
    dsimp only
    rw [hchanges, hpauses]

/-- Samples as they come. -/
def plainArithmetic : Arithmetic where
  scaled _ x := x.zeroExtend 32
  fade _ _ x := x

/-- The device is opened after the activity was resumed. -/
def openedEvents : List AudioEvent :=
  [.setPaused false, .call (.openAudio 48000 true (some .none)), .lock 0, .advance true,
    .advance true, .advance true]

/-- One frame is queued. -/
def queueEvents : List AudioEvent :=
  [.call (.queueSamples (some [1, 2]) 0), .lock 0, .advance true, .advance true]

/-- A device that was opened, and `2 ^ 62` pauses later finds the same word and takes samples without
a service in between. -/
theorem turned_queues : ¬ ∀ arith es, let t := Run.run (Threads.step arith) {} es
    ∀ x ∈ t.audio.queue, x.checked = t.audio.takenPauses := by
  intro h
  have hrun := h plainArithmetic (openedEvents ++ pauseResume (2 ^ 62) ++ queueEvents)
  rw [Run.run_append, Run.run_append, run_pauseResume _ _ (by decide) (by decide)] at hrun
  revert hrun
  decide

end Dk64Port.AndroidAudio
