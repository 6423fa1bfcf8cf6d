import Dk64Port.Android.TouchRuns
import Dk64Port.Android.AudioLifecycle
import Mathlib.Algebra.Group.Nat.Defs

/-!
# The activity of the game (`GameActivity.java`, `GameLifecycle.java`)

Android calls the activity when it is resumed, focused, gets a surface or loses one of these, in any
order. Each callback runs on the main thread, one statement after the other, while the audio threads go
on; it tells the native side whether the game is paused and whether there is a surface.

* `ActivityCall`, `Callback.calls`: the statements of the callbacks.
* `GameActivity.step`: the activity, its touch controls and the audio threads, interleaved.
* `Stage`: what the main thread has still to do, and what it knows by then.
* `activity_foreground`: **sound plays only in the foreground, and always over a surface.**
-/

namespace Dk64Port.Android

open AndroidAudio (Threads AudioEvent Arithmetic paused setPaused)

/-! ## The callbacks -/

/-- A statement of a callback. -/
inductive ActivityCall
  | setResumed (value : Bool)
  | setFocused (value : Bool)
  | setSurfaceReady (value : Bool)
  | resetTouch
  | update
  | nativeSurfaceReady (ready : Bool)
  | nativeAudioPaused (paused : Bool)
  | nativePauseScheduler (paused : Bool)
  | killProcess
deriving DecidableEq

/-- A call of the activity or of its surface. -/
inductive Callback
  | surfaceCreated | surfaceDestroyed | pause | resume | focus (hasFocus : Bool) | destroy

/-- The statements of a callback; `broken` is `mBrokenLibraries`. -/
def Callback.calls (broken : Bool) : Callback → List ActivityCall
  | .surfaceCreated => [.nativeSurfaceReady true, .setSurfaceReady true, .update]
  | .surfaceDestroyed => [.setSurfaceReady false, .update, .nativeSurfaceReady false]
  | .pause => [.resetTouch, .setResumed false, .update]
  | .resume => [.setResumed true, .update]
  | .focus true => [.setFocused true, .update]
  | .focus false => [.setFocused false, .resetTouch, .update, .setFocused false, .update]
  | .destroy =>
    if broken then [.killProcess] else [.nativeAudioPaused true, .nativePauseScheduler false, .killProcess]

/-! ## The activity -/

/-- The activity, the native side it talks to, and the statements left of the callback that runs. The
code does not keep `updated`, which says that the scheduler was told before. -/
structure GameActivity (ρ : Type*) where
  broken : Bool := false
  resumed : Bool := false
  focused : Bool := false
  surfaceReady : Bool := false
  finishing : Bool := false
  killed : Bool := false
  nativeSurface : Bool := false
  schedulerPaused : Bool := false
  updated : Bool := false
  threads : Threads := {}
  touch : Touching ρ := { view := {} }
  calls : List ActivityCall := []

/-- What happens next. -/
inductive ActivityEvent (ρ τ : Type*)
  | callback (c : Callback)
  /-- The next statement of the callback. -/
  | main
  | finish
  | touch (ev : TouchEvent ρ τ)
  | audio (ev : AudioEvent)

namespace GameActivity

variable {ρ τ : Type*} (arith : Arithmetic) (g : Geometry ρ τ) (m : GameActivity ρ)

/-- `active`. -/
def active : Bool := m.resumed && m.focused && m.surfaceReady

/-- The sound is on. -/
def sounding : Bool := !paused m.threads.audio.lifecycle

/-- One statement. -/
def call : ActivityCall → GameActivity ρ
  | .setResumed value => { m with resumed := value }
  | .setFocused value => { m with focused := value }
  | .setSurfaceReady value => { m with surfaceReady := value }
  | .resetTouch => if m.broken then m else { m with touch := m.touch.step g .reset }
  | .update =>
    if m.broken then m
    else
      let paused := !m.active || m.finishing
      { m with calls := .nativeAudioPaused paused :: .nativePauseScheduler paused :: m.calls }
  | .nativeSurfaceReady ready => { m with nativeSurface := ready }
  | .nativeAudioPaused paused => { m with threads := m.threads.step arith (.setPaused paused) }
  | .nativePauseScheduler paused => { m with schedulerPaused := paused, updated := true }
  | .killProcess => { m with killed := true }

/-- One event; the main thread takes callbacks and touches when it is free. -/
def step : ActivityEvent ρ τ → GameActivity ρ
  | .callback c => if m.killed || m.calls ≠ [] then m else { m with calls := c.calls m.broken }
  | .main =>
    match m.calls with
    | [] => m
    | c :: calls => ({ m with calls := calls } : GameActivity ρ).call arith g c
  | .finish => { m with finishing := true }
  | .touch ev =>
    if m.killed || m.calls ≠ [] || m.broken then m else { m with touch := m.touch.step g ev }
  | .audio ev => if m.killed then m else { m with threads := m.threads.step arith ev }

/-- Touches are reported as Android does, and only the activity pauses the sound. -/
def Reported (m : GameActivity ρ) : ActivityEvent ρ τ → Prop
  | .touch ev => m.touch.Reported ev
  | .audio ev => ∀ pause, ev ≠ .setPaused pause
  | _ => True

end GameActivity

/-! ## The word of the audio threads -/

section Audio

open AndroidAudio

variable {arith : Arithmetic} {a : Audio} {t : Threads}

theorem paused_nextLifecycle (previous : Lifecycle) (pause : Bool) :
    paused (nextLifecycle previous pause) = pause := by
  unfold paused nextLifecycle
  rw [BitVec.getLsbD_or, BitVec.getLsbD_and]
  cases pause <;> simp

theorem paused_setPaused (a : Audio) (pause : Bool) : paused (setPaused a pause).lifecycle = pause := by
  unfold setPaused
  dsimp only
  by_cases h : paused a.lifecycle = pause
  · rw [if_pos h]
    exact h
  · rw [if_neg h]
    exact paused_nextLifecycle _ _

theorem lifecycle_openDevice (a : Audio) (frequency : Nat) (opened : Bool) (built : Option Converter) :
    (openDevice a frequency opened built).lifecycle = a.lifecycle := by
  unfold openDevice buildConverter
  cases built <;> dsimp only <;> split_ifs <;> rfl

theorem lifecycle_setFrequency (a : Audio) (frequency : Nat) (built : Option Converter) :
    (setFrequency a frequency built).lifecycle = a.lifecycle := by
  unfold setFrequency buildConverter
  cases built <;> dsimp only <;> split_ifs <;> rfl

theorem lifecycle_queueChunk (a : Audio) (samples : List (BitVec 16)) (volume : Sample) (queued : Bool)
    (generation : Lifecycle) (checked : Nat) :
    (queueChunk arith a samples volume queued generation checked).lifecycle = a.lifecycle := by
  unfold queueChunk
  dsimp only
  split
  · rfl
  · split_ifs <;> rfl

/-- **No call with the mutex changes the word of the lifecycle.** -/
theorem lifecycle_advance (a : Audio) (queued : Bool) (holder : Holder) :
    (advanceHolder arith a queued holder).1.lifecycle = a.lifecycle := by
  cases holder with
  | enter call =>
    cases call with
    | service => rfl
    | queueSamples samples volume => cases samples <;> rfl
    | openAudio frequency opened built => exact lifecycle_openDevice a frequency opened built
    | setFrequency frequency built => exact lifecycle_setFrequency a frequency built
  | queueing l volume seen checked => exact lifecycle_queueChunk a l volume queued seen checked
  | _ => rfl

theorem lifecycle_step {ev : AudioEvent} (h : ∀ pause, ev ≠ .setPaused pause) :
    (t.step arith ev).audio.lifecycle = t.audio.lifecycle := by
  cases ev with
  | setPaused pause => exact absurd rfl (h pause)
  | call call =>
    unfold Threads.step
    dsimp only
    split_ifs <;> rfl
  | lock k =>
    unfold Threads.step
    dsimp only
    split <;> rfl
  | advance queued =>
    unfold Threads.step
    cases hholder : t.holder with
    | none => rfl
    | some holder => exact lifecycle_advance t.audio queued holder
  | drain frames => rfl

end Audio

/-! ## What the main thread has still to do -/

namespace GameActivity

variable {ρ τ : Type*} {arith : Arithmetic} {g : Geometry ρ τ} {m : GameActivity ρ}
  {calls : List ActivityCall} {c : ActivityCall}

/-- `paused` is right for what the activity has come to. -/
structure Decided (m : GameActivity ρ) (paused : Bool) : Prop where
  whole : m.broken = false
  running : paused = false → m.active = true
  stopped : paused = true → m.active = false ∨ m.finishing = true

/-- The native side is told what the activity has come to. -/
structure Synced (m : GameActivity ρ) : Prop where
  on : m.sounding = true → m.active = true
  off : m.broken = false → m.sounding = false → m.active = false ∨ m.finishing = true
  scheduler : m.updated = true → m.schedulerPaused = !m.sounding

/-- A statement that changes no more than the flags an update reads, or the touch controls. -/
def setsFlag : ActivityCall → Bool
  | .setResumed _ | .setFocused _ | .resetTouch => true
  | _ => false

/-- What may stand behind an update. -/
def Tail (m : GameActivity ρ) (calls : List ActivityCall) : Prop :=
  calls = [] ∨ (calls = [.nativeSurfaceReady false] ∧ m.surfaceReady = false)
    ∨ calls = [.setFocused false, .update]

/-- What the main thread has still to do, and what it knows by then. -/
inductive Stage : GameActivity ρ → List ActivityCall → Prop
  | idle (m : GameActivity ρ) (h : m.Synced) : Stage m []
  | gaining (m : GameActivity ρ) : Stage m [.nativeSurfaceReady true, .setSurfaceReady true, .update]
  | gained (m : GameActivity ρ) (h : m.nativeSurface = true) : Stage m [.setSurfaceReady true, .update]
  | losing (m : GameActivity ρ) : Stage m [.setSurfaceReady false, .update, .nativeSurfaceReady false]
  | lost (m : GameActivity ρ) (h : m.Synced) (hs : m.surfaceReady = false) : Stage m [.nativeSurfaceReady false]
  | flag (m : GameActivity ρ) (c : ActivityCall) (calls : List ActivityCall) (hc : setsFlag c = true)
      (h : ∀ m, Stage m calls) : Stage m (c :: calls)
  | update (m : GameActivity ρ) (calls : List ActivityCall) (h : m.Tail calls) : Stage m (.update :: calls)
  | decided (m : GameActivity ρ) (paused : Bool) (calls : List ActivityCall) (h : m.Decided paused)
      (ht : m.Tail calls) :
      Stage m (.nativeAudioPaused paused :: .nativePauseScheduler paused :: calls)
  | told (m : GameActivity ρ) (paused : Bool) (calls : List ActivityCall) (h : m.Decided paused)
      (hs : m.sounding = !paused) (ht : m.Tail calls) :
      Stage m (.nativePauseScheduler paused :: calls)
  | ending (m : GameActivity ρ) (hb : m.broken = false) :
      Stage m [.nativeAudioPaused true, .nativePauseScheduler false, .killProcess]
  | silenced (m : GameActivity ρ) (hb : m.broken = false) (hs : m.sounding = false) :
      Stage m [.nativePauseScheduler false, .killProcess]
  | killing (m : GameActivity ρ) (hs : m.sounding = false) : Stage m [.killProcess]
  | killed (m : GameActivity ρ) (hk : m.killed = true) (hs : m.sounding = false) : Stage m []

theorem stage_update (m : GameActivity ρ) : Stage m [.update] := .update m [] (.inl rfl)

theorem stage_callback (hsilent : m.broken = true → m.sounding = false) (c : Callback) :
    Stage m (c.calls m.broken) := by
  cases c with
  | surfaceCreated => exact .gaining m
  | surfaceDestroyed => exact .losing m
  | pause => exact .flag m _ _ rfl fun m => .flag m _ _ rfl fun m => stage_update m
  | resume => exact .flag m _ _ rfl fun m => stage_update m
  | focus hasFocus =>
    cases hasFocus with
    | true => exact .flag m _ _ rfl fun m => stage_update m
    | false =>
      exact .flag m _ _ rfl fun m => .flag m _ _ rfl fun m => .update m _ (.inr (.inr rfl))
  | destroy =>
    unfold Callback.calls
    split_ifs with hbroken
    · exact .killing m (hsilent hbroken)
    · exact .ending m (Bool.not_eq_true _ ▸ hbroken)

/-- Behind an update that has told everything. -/
theorem Synced.stage (h : m.Synced) (ht : m.Tail calls) : Stage m calls := by
  rcases ht with rfl | ⟨rfl, hs⟩ | rfl
  · exact .idle m h
  · exact .lost m h hs
  · exact .flag m _ _ rfl fun m => stage_update m

/-- What keeps a stage: the flags, what was told and the surfaces. -/
structure SameStage (m m' : GameActivity ρ) : Prop where
  active : m'.active = m.active
  surfaceReady : m'.surfaceReady = m.surfaceReady
  broken : m'.broken = m.broken
  killed : m'.killed = m.killed
  nativeSurface : m'.nativeSurface = m.nativeSurface
  schedulerPaused : m'.schedulerPaused = m.schedulerPaused
  updated : m'.updated = m.updated
  sounding : m'.sounding = m.sounding
  finishing : m.finishing = true → m'.finishing = true

variable {m' : GameActivity ρ}

theorem Synced.same (h : m.Synced) (hm : SameStage m m') : m'.Synced where
  on := by
    rw [hm.sounding, hm.active]
    exact h.on
  off := by
    rw [hm.broken, hm.sounding, hm.active]
    exact fun hb hs => (h.off hb hs).imp_right hm.finishing
  scheduler := by
    rw [hm.updated, hm.schedulerPaused, hm.sounding]
    exact h.scheduler

theorem Decided.same {paused : Bool} (h : m.Decided paused) (hm : SameStage m m') : m'.Decided paused where
  whole := hm.broken.trans h.whole
  running := by
    rw [hm.active]
    exact h.running
  stopped := by
    rw [hm.active]
    exact fun hp => (h.stopped hp).imp_right hm.finishing

theorem Tail.same (h : m.Tail calls) (hm : SameStage m m') : m'.Tail calls := by
  unfold Tail
  rw [hm.surfaceReady]
  exact h

theorem Stage.same (h : Stage m calls) (hm : SameStage m m') : Stage m' calls := by
  cases h with
  | idle _ h => exact .idle m' (h.same hm)
  | gaining _ => exact .gaining m'
  | gained _ h => exact .gained m' (hm.nativeSurface.trans h)
  | losing _ => exact .losing m'
  | lost _ h hs => exact .lost m' (h.same hm) (hm.surfaceReady.trans hs)
  | flag _ c calls hc h => exact .flag m' c calls hc h
  | update _ calls h => exact .update m' calls (h.same hm)
  | decided _ paused calls h ht => exact .decided m' paused calls (h.same hm) (ht.same hm)
  | told _ paused calls h hs ht =>
    exact .told m' paused calls (h.same hm) (hm.sounding.trans hs) (ht.same hm)
  | ending _ hb => exact .ending m' (hm.broken.trans hb)
  | silenced _ hb hs => exact .silenced m' (hm.broken.trans hb) (hm.sounding.trans hs)
  | killing _ hs => exact .killing m' (hm.sounding.trans hs)
  | killed _ hk hs => exact .killed m' (hm.killed.trans hk) (hm.sounding.trans hs)

end GameActivity

/-! ## In the foreground -/

namespace GameActivity

variable {ρ τ : Type*} {arith : Arithmetic} {g : Geometry ρ τ} {m : GameActivity ρ}
  {calls : List ActivityCall} {c : ActivityCall} {ev : ActivityEvent ρ τ}

/-- The invariant. -/
structure Foreground (m : GameActivity ρ) : Prop where
  surface : m.surfaceReady = true → m.nativeSurface = true
  sound : m.sounding = true → m.nativeSurface = true
  silent : m.broken = true → m.sounding = false ∧ m.updated = false
  ended : m.killed = true → m.calls = [] ∧ m.sounding = false
  stage : Stage m m.calls
  touch : m.touch.Sound

theorem sounding_told (arith : Arithmetic) (g : Geometry ρ τ) (m : GameActivity ρ) (p : Bool) :
    (m.call arith g (.nativeAudioPaused p)).sounding = !p :=
  congrArg Bool.not (paused_setPaused m.threads.audio p)

theorem active_surfaceReady (h : m.active = true) : m.surfaceReady = true := (Bool.and_eq_true_iff.mp h).2

/-- **A statement of the main thread.** -/
theorem Foreground.main (h : m.Foreground) : (m.step arith g .main).Foreground := by
  unfold step
  cases hcalls : m.calls with
  | nil => exact h
  | cons c calls =>
    dsimp only
    have hstage := h.stage
    rw [hcalls] at hstage
    have halive : m.killed = true → False := fun hk => by
      rw [(h.ended hk).1] at hcalls
      cases hcalls
    cases hstage with
    | gaining _ =>
      exact ⟨fun _ => rfl, fun _ => rfl, h.silent, fun hk => (halive hk).elim, .gained _ rfl, h.touch⟩
    | gained _ hnative =>
      exact ⟨fun _ => hnative, h.sound, h.silent, fun hk => (halive hk).elim, stage_update _, h.touch⟩
    | losing _ =>
      exact ⟨fun hs => (Bool.false_ne_true hs).elim, h.sound, h.silent, fun hk => (halive hk).elim,
        .update _ _ (.inr (.inl ⟨rfl, rfl⟩)), h.touch⟩
    | lost _ hsync hs =>
      have hquiet : m.sounding = true → False := fun hsound => by
        rw [active_surfaceReady (hsync.on hsound)] at hs
        cases hs
      exact ⟨fun hr => absurd (hr.symm.trans hs) (by decide), fun hsound => (hquiet hsound).elim, h.silent,
        fun hk => (halive hk).elim, .idle _ ⟨hsync.on, hsync.off, hsync.scheduler⟩, h.touch⟩
    | flag _ _ _ hc hrest =>
      cases c with
      | setResumed value =>
        exact ⟨h.surface, h.sound, h.silent, fun hk => (halive hk).elim, hrest _, h.touch⟩
      | setFocused value =>
        exact ⟨h.surface, h.sound, h.silent, fun hk => (halive hk).elim, hrest _, h.touch⟩
      | resetTouch =>
        unfold call
        dsimp only
        split_ifs
        · exact ⟨h.surface, h.sound, h.silent, fun hk => (halive hk).elim, hrest _, h.touch⟩
        · have htouch : (m.touch.step g .reset).Sound := h.touch.step trivial
          exact ⟨h.surface, h.sound, h.silent, fun hk => (halive hk).elim, hrest _, htouch⟩
      | _ => cases hc
    | update _ _ ht =>
      unfold call
      dsimp only
      split_ifs with hbroken
      · obtain ⟨hquiet, hnew⟩ := h.silent hbroken
        refine ⟨h.surface, h.sound, h.silent, fun hk => (halive hk).elim, Synced.stage ⟨?_, ?_, ?_⟩ ht, h.touch⟩
        · exact fun hs => absurd (hs.symm.trans hquiet) (by decide)
        · exact fun hb => absurd (hb.symm.trans hbroken) (by decide)
        · exact fun hu => absurd (hu.symm.trans hnew) (by decide)
      · refine ⟨h.surface, h.sound, h.silent, fun hk => (halive hk).elim,
          .decided _ _ _ ⟨Bool.not_eq_true _ ▸ hbroken, ?_, ?_⟩ ht, h.touch⟩
        · exact fun hp => (Bool.not_eq_false' _).mp (Bool.or_eq_false_iff.mp hp).1
        · exact fun hp => (Bool.or_eq_true_iff.mp hp).imp_left (Bool.not_eq_true' _).mp
    | decided _ p rest hd ht =>
      have hsound := sounding_told arith g
        ({ m with calls := .nativePauseScheduler p :: rest } : GameActivity ρ) p
      refine ⟨h.surface, fun hs => ?_, fun hb => absurd (hb.symm.trans hd.whole) (by decide),
        fun hk => (halive hk).elim, .told _ p rest ⟨hd.whole, hd.running, hd.stopped⟩ hsound ht, h.touch⟩
      rw [hsound, Bool.not_eq_true'] at hs
      exact h.surface (active_surfaceReady (hd.running hs))
    | told _ p _ hd hs ht =>
      refine ⟨h.surface, h.sound, fun hb => absurd (hb.symm.trans hd.whole) (by decide),
        fun hk => (halive hk).elim, Synced.stage ⟨fun hon => hd.running ?_, fun _ hoff => hd.stopped ?_,
          fun _ => ?_⟩ ht, h.touch⟩
      · exact (Bool.not_eq_true' p).mp (hs.symm.trans hon)
      · exact (Bool.not_eq_false' p).mp (hs.symm.trans hoff)
      · change p = !m.sounding
        rw [hs, Bool.not_not]
    | ending _ hb =>
      have hsound := sounding_told arith g
        ({ m with calls := [.nativePauseScheduler false, .killProcess] } : GameActivity ρ) true
      exact ⟨h.surface, fun hs => absurd (hs.symm.trans hsound) (by decide),
        fun hbroken => absurd (hbroken.symm.trans hb) (by decide), fun hk => (halive hk).elim,
        .silenced _ hb hsound, h.touch⟩
    | silenced _ hb hs =>
      exact ⟨h.surface, h.sound, fun hbroken => absurd (hbroken.symm.trans hb) (by decide),
        fun hk => (halive hk).elim, .killing _ hs, h.touch⟩
    | killing _ hs =>
      exact ⟨h.surface, h.sound, h.silent, fun _ => ⟨rfl, hs⟩, .killed _ rfl hs, h.touch⟩

/-- **An event keeps it.** -/
theorem Foreground.step (h : m.Foreground) (hev : m.Reported ev) : (m.step arith g ev).Foreground := by
  cases ev with
  | main => exact h.main
  | callback c =>
    unfold GameActivity.step
    dsimp only
    split_ifs with hbusy
    · exact h
    · rw [Bool.or_eq_true, not_or] at hbusy
      refine ⟨h.surface, h.sound, h.silent, fun hk => absurd hk hbusy.1, ?_, h.touch⟩
      exact stage_callback (m := { m with calls := c.calls m.broken }) (fun hb => (h.silent hb).1) c
  | finish =>
    have hsame : SameStage m (m.step arith g .finish) :=
      ⟨rfl, rfl, rfl, rfl, rfl, rfl, rfl, rfl, fun _ => rfl⟩
    exact ⟨h.surface, h.sound, h.silent, h.ended, h.stage.same hsame, h.touch⟩
  | touch ev =>
    unfold GameActivity.step
    dsimp only
    split_ifs
    · exact h
    · have hsame : SameStage m { m with touch := m.touch.step g ev } :=
        ⟨rfl, rfl, rfl, rfl, rfl, rfl, rfl, rfl, id⟩
      exact ⟨h.surface, h.sound, h.silent, h.ended, h.stage.same hsame, h.touch.step hev⟩
  | audio ev =>
    unfold GameActivity.step
    dsimp only
    split_ifs
    · exact h
    · have hsound : ({ m with threads := m.threads.step arith ev } : GameActivity ρ).sounding = m.sounding :=
        congrArg (fun lifecycle => !paused lifecycle) (lifecycle_step hev)
      have hsame : SameStage m { m with threads := m.threads.step arith ev } :=
        ⟨rfl, rfl, rfl, rfl, rfl, rfl, rfl, hsound, id⟩
      exact ⟨h.surface, fun hs => h.sound (hsound.symm.trans hs),
        fun hb => ⟨hsound.trans (h.silent hb).1, (h.silent hb).2⟩,
        fun hk => ⟨(h.ended hk).1, hsound.trans (h.ended hk).2⟩, h.stage.same hsame, h.touch⟩

/-- What the player and the renderer may rely on. -/
structure Shown (m : GameActivity ρ) : Prop where
  /-- No call finds the device ready without a surface, in the middle of a callback either. -/
  surface : AndroidAudio.ready m.threads.audio = true → m.nativeSurface = true
  /-- Between two callbacks sound is on only in the foreground, -/
  foreground : m.calls = [] → m.sounding = true →
    m.resumed = true ∧ m.focused = true ∧ m.surfaceReady = true ∧ m.killed = false
  /-- it is off only where it has to be, -/
  paused : m.calls = [] → m.killed = false → m.broken = false → m.sounding = false →
    m.active = false ∨ m.finishing = true
  /-- and the scheduler is told the same. -/
  scheduler : m.calls = [] → m.killed = false → m.updated = true → m.schedulerPaused = !m.sounding
  touch : m.touch.Seen

theorem Foreground.shown (h : m.Foreground) : m.Shown where
  surface hready := by
    refine h.sound ?_
    unfold AndroidAudio.ready at hready
    exact (Bool.and_eq_true_iff.mp (Bool.and_eq_true_iff.mp hready).1).2
  foreground hidle hs := by
    have hstage := h.stage
    rw [hidle] at hstage
    cases hstage with
    | idle _ hsync =>
      have hactive := hsync.on hs
      unfold active at hactive
      rw [Bool.and_eq_true, Bool.and_eq_true] at hactive
      refine ⟨hactive.1.1, hactive.1.2, hactive.2, ?_⟩
      rw [← Bool.not_eq_true]
      exact fun hk => absurd (hs.symm.trans (h.ended hk).2) (by decide)
    | killed _ _ hquiet => exact absurd (hs.symm.trans hquiet) (by decide)
  paused hidle hk hb hs := by
    have hstage := h.stage
    rw [hidle] at hstage
    cases hstage with
    | idle _ hsync => exact hsync.off hb hs
    | killed _ hkilled _ => exact absurd (hk.symm.trans hkilled) (by decide)
  scheduler hidle hk hu := by
    have hstage := h.stage
    rw [hidle] at hstage
    cases hstage with
    | idle _ hsync => exact hsync.scheduler hu
    | killed _ hkilled _ => exact absurd (hk.symm.trans hkilled) (by decide)
  touch := h.touch.seen

end GameActivity

/-- **The game sounds only in the foreground and over a surface**, whatever the order of the callbacks,
the touches and the audio threads. -/
theorem activity_foreground {ρ τ : Type*} (arith : Arithmetic) (g : Geometry ρ τ) (broken : Bool)
    (events : List (ActivityEvent ρ τ))
    (h : Run.Along (GameActivity.step arith g) GameActivity.Reported { broken := broken } events) :
    (Run.run (GameActivity.step arith g) { broken := broken } events).Shown := by
  have hquiet : ({ broken := broken } : GameActivity ρ).sounding = false := by
    change (!paused 1) = false
    decide
  have hstart : ({ broken := broken } : GameActivity ρ).Foreground :=
    ⟨nofun, fun hs => absurd (hs.symm.trans hquiet) (by decide), fun _ => ⟨hquiet, rfl⟩, nofun,
      .idle _ ⟨fun hs => absurd (hs.symm.trans hquiet) (by decide), fun _ _ => .inl rfl, nofun⟩,
      Touching.sound_start⟩
  exact (Run.invariant (fun m ev hev hm => hm.step hev) hstart h).shown

/-- The activity is resumed, gets a surface and the focus, and loses the surface. -/
def foregroundEvents : List (ActivityEvent Int Int) :=
  [.callback .resume, .main, .main, .main, .main, .callback .surfaceCreated, .main, .main, .main, .main, .main,
    .callback (.focus true), .main, .main, .main, .main, .callback .surfaceDestroyed, .main]

/-- While the surface goes away the sound is still on, and the surface is still there. -/
theorem activity_foreground_losing :
    (Run.run (GameActivity.step AndroidAudio.plainArithmetic maskGeometry) {} foregroundEvents).Shown ∧
      let m := Run.run (GameActivity.step AndroidAudio.plainArithmetic maskGeometry) {} foregroundEvents
      m.sounding = true ∧ m.surfaceReady = false ∧ m.nativeSurface = true :=
  ⟨activity_foreground AndroidAudio.plainArithmetic maskGeometry false foregroundEvents (by
      repeat' constructor), by decide⟩

end Dk64Port.Android
