import Dk64Port.Coop.ItemsPolicy
import Dk64Port.Lib.Run
import Dk64Port.Lib.Streak

/-!
# Arming the recovery checkpoint (`mod/recovery_policy.h`)

A guest arms a checkpoint after it was connected and safe for a sustained period. A disconnection
keeps the checkpoint and restarts the count, an unsafe connected update drops both. Without a
connection the checkpoint allows one promotion.

* `recoveryUpdate`: `coop_host_recovery_update`, one branch for each return of the source.
* `recoveryUpdate_start`: when a promotion starts.
* `checkpoint_armed`: **a checkpoint has its 120 safe updates and nothing unsafe since, and a
  promotion starts from it once.**

An update without `join` changes nothing, whatever else it says.
-/

namespace Dk64Port.Coop

open History

/-- `COOP_RECOVERY_OFF`, and the commands after it. -/
def recoveryOff : Word := 0

def recoveryStandby : Word := 1

def recoveryPromote : Word := 2

/-- `COOP_RECOVERY_STABLE_FRAMES`. -/
def recoveryStableFrames : Word := 120

/-- `COOP_RECOVERY_NONE`, and the results after it. -/
def recoveryNone : Word := 0

def recoveryBuilding : Word := 1

def recoveryReady : Word := 2

def recoveryNoCheckpoint : Word := 3

def recoveryWaitSafe : Word := 4

def recoveryStart : Word := 5

def recoveryFailed : Word := 6

def recoveryActive : Word := 7

/-- `CoopHostRecovery`. -/
structure CoopHostRecovery where
  stableFrames : Word := 0
  checkpoint : Word := 0
  attempted : Word := 0
  promoted : Word := 0
  failed : Word := 0
deriving DecidableEq

/-- The arguments of one `coop_host_recovery_update`. -/
structure RecoveryCall where
  join : Word
  connected : Word
  checkpointSafe : Word
  promotionSafe : Word
  command : Word
deriving DecidableEq

/-- A connected update that is safe: one more stable frame, and after enough of them a checkpoint. -/
def CoopHostRecovery.settle (recovery : CoopHostRecovery) : CoopHostRecovery :=
  let frames := if recovery.stableFrames < recoveryStableFrames then recovery.stableFrames + 1
    else recovery.stableFrames
  { recovery with
    attempted := 0
    failed := 0
    stableFrames := frames
    checkpoint := if recoveryStableFrames ≤ frames then 1 else recovery.checkpoint }

/-- `coop_host_recovery_update`. -/
def recoveryUpdate (recovery : CoopHostRecovery) (c : RecoveryCall) : CoopHostRecovery × Word :=
  if c.join = 0 then
    (recovery, if recovery.promoted ≠ 0 then recoveryActive else recoveryNone)
  else if c.connected ≠ 0 then
    if c.checkpointSafe = 0 then
      ({ recovery with attempted := 0, failed := 0, stableFrames := 0, checkpoint := 0 },
        if c.command ≠ 0 then recoveryBuilding else recoveryNone)
    else
      let recovery := recovery.settle
      (recovery,
        if c.command = 0 then recoveryNone
        else if recovery.checkpoint ≠ 0 then recoveryReady else recoveryBuilding)
  else
    let recovery : CoopHostRecovery := { recovery with stableFrames := 0 }
    if c.command ≠ recoveryPromote then
      ({ recovery with attempted := 0, failed := 0 },
        if recovery.checkpoint ≠ 0 ∧ c.command = recoveryStandby then recoveryReady
        else recoveryNone)
    else if recovery.failed ≠ 0 then (recovery, recoveryFailed)
    else if recovery.checkpoint = 0 then (recovery, recoveryNoCheckpoint)
    else if c.promotionSafe = 0 then (recovery, recoveryWaitSafe)
    else if recovery.attempted ≠ 0 then (recovery, recoveryFailed)
    else ({ recovery with attempted := 1 }, recoveryStart)

/-- `coop_host_recovery_complete`. -/
def recoveryComplete (recovery : CoopHostRecovery) (success : Word) : CoopHostRecovery :=
  { recovery with failed := if success = 0 then 1 else 0, promoted := success }

inductive RecoveryEvent where
  | update (c : RecoveryCall)
  | complete (success : Word)
deriving DecidableEq

/-- One call on the state. -/
def recoveryStep (recovery : CoopHostRecovery) : RecoveryEvent → CoopHostRecovery
  | .update c => (recoveryUpdate recovery c).1
  | .complete success => recoveryComplete recovery success

/-! ## What a history says about the checkpoint -/

/-- An update that a policy looks at: `sees` says which. -/
def RecoveryEvent.saw (sees : RecoveryCall → Bool) (kind : RecoveryCall → Bool) : RecoveryEvent → Bool
  | .update c => sees c && kind c
  | .complete _ => false

/-- Connected and safe. -/
def RecoveryCall.safe (c : RecoveryCall) : Bool :=
  decide (c.connected ≠ 0 ∧ c.checkpointSafe ≠ 0)

/-- Connected and unsafe. -/
def RecoveryCall.diverged (c : RecoveryCall) : Bool :=
  decide (c.connected ≠ 0 ∧ c.checkpointSafe = 0)

/-- Not connected. -/
def RecoveryCall.disconnected (c : RecoveryCall) : Bool := decide (c.connected = 0)

/-- **A history that arms a checkpoint**, among the updates that `sees` admits: 120 safe updates with
no disconnection and no unsafe update among them, and no unsafe update since. `carried` frames count
where the history begins with them. -/
def Arms (sees : RecoveryCall → Bool) (carried : Nat) (es : List RecoveryEvent) : Prop :=
  Since (fun e => e.saw sees RecoveryCall.diverged = true)
    (Streak (fun e => e.saw sees RecoveryCall.safe = true)
      (fun e => e.saw sees (fun c => c.disconnected || c.diverged) = true) carried 120) es

/-- The updates of a guest. -/
def RecoveryCall.joins (c : RecoveryCall) : Bool := decide (c.join ≠ 0)

variable {s s₀ : CoopHostRecovery} {c : RecoveryCall} {e : RecoveryEvent} {es : List RecoveryEvent}
  {carried : Nat}

/-- What the state keeps about the history. -/
structure Recovering (carried : Nat) (es : List RecoveryEvent) (s : CoopHostRecovery) : Prop where
  frames : Streak (fun e => e.saw RecoveryCall.joins RecoveryCall.safe = true)
    (fun e => e.saw RecoveryCall.joins (fun c => c.disconnected || c.diverged) = true) carried
    s.stableFrames.toNat es
  armed : s.checkpoint ≠ 0 → Arms RecoveryCall.joins carried es

/-- An event that the policy does not look at. -/
theorem Recovering.quiet {s' : CoopHostRecovery} (h : Recovering carried es s)
    (he : ∀ kind, e.saw RecoveryCall.joins kind = false) (hf : s'.stableFrames = s.stableFrames)
    (hc : s'.checkpoint = s.checkpoint) : Recovering carried (es ++ [e]) s' where
  frames := by
    rw [hf]
    exact h.frames.quiet (by simp [he])
  armed hs := (h.armed (hc ▸ hs)).snoc (by simp [he])

/-- A safe update: the streak grows by one, or was long enough. -/
theorem frames_settle (s : CoopHostRecovery) :
    s.settle.stableFrames.toNat ≤ s.stableFrames.toNat + 1
    ∧ (s.settle.checkpoint ≠ 0 → s.checkpoint ≠ 0 ∨ 120 ≤ s.settle.stableFrames.toNat) := by
  unfold CoopHostRecovery.settle
  dsimp only
  generalize hf : (if s.stableFrames < recoveryStableFrames then s.stableFrames + 1
    else s.stableFrames) = frames
  constructor
  · rw [← hf]
    split
    · rw [BitVec.toNat_add]
      exact Nat.mod_le _ _
    · exact Nat.le_succ _
  · intro hc
    by_cases hle : recoveryStableFrames ≤ frames
    · exact .inr (BitVec.le_def.mp hle)
    · rw [if_neg hle] at hc
      exact .inl hc

/-- **One call keeps what the state says about the history.** -/
theorem Recovering.step (h : Recovering carried es s) (e : RecoveryEvent) :
    Recovering carried (es ++ [e]) (recoveryStep s e) := by
  cases e with
  | complete success => exact h.quiet (fun _ => rfl) rfl rfl
  | update c =>
    unfold recoveryStep recoveryUpdate
    dsimp only
    by_cases hj : c.join = 0
    · rw [if_pos hj]
      exact h.quiet (fun kind => by simp [RecoveryEvent.saw, RecoveryCall.joins, hj]) rfl rfl
    rw [if_neg hj]
    have hsaw : ∀ kind, (RecoveryEvent.update c).saw RecoveryCall.joins kind = kind c := by
      intro kind
      change (decide (c.join ≠ 0) && kind c) = kind c
      rw [decide_eq_true hj, Bool.true_and]
    by_cases hc : c.connected ≠ 0
    · rw [if_pos hc]
      by_cases hs : c.checkpointSafe = 0
      · rw [if_pos hs]
        exact ⟨streak_zero, fun h0 => absurd rfl h0⟩
      · rw [if_neg hs]
        have hsafe : c.safe = true := decide_eq_true ⟨hc, hs⟩
        have hconnected : c.disconnected = false := decide_eq_false hc
        have hconverged : c.diverged = false := decide_eq_false fun h => hs h.2
        have hcount := h.frames.count (e := .update c)
          (by rw [hsaw, hconnected, hconverged]; exact Bool.false_ne_true)
          (by rw [hsaw]; exact hsafe)
        obtain ⟨hframes, hsettle⟩ := frames_settle s
        refine ⟨hcount.mono hframes, fun hch => ?_⟩
        rcases hsettle hch with hold | hlong
        · exact (h.armed hold).snoc (by rw [hsaw, hconverged]; exact Bool.false_ne_true)
        · exact since_now (hcount.mono (hlong.trans hframes))
    · rw [if_neg hc]
      have hconverged : c.diverged = false := decide_eq_false fun h => hc h.1
      have hnext : ∀ s' : CoopHostRecovery, s'.stableFrames = 0 → s'.checkpoint = s.checkpoint →
          Recovering carried (es ++ [.update c]) s' := by
        intro s' hf hch
        refine ⟨hf ▸ streak_zero, fun h0 => (h.armed (hch ▸ h0)).snoc ?_⟩
        rw [hsaw, hconverged]
        exact Bool.false_ne_true
      split_ifs <;> exact hnext _ rfl rfl

/-! ## Starting a promotion -/

/-- When an update returns `COOP_RECOVERY_START`. -/
theorem recoveryUpdate_start (h : (recoveryUpdate s c).2 = recoveryStart) :
    c.join ≠ 0 ∧ c.connected = 0 ∧ c.command = recoveryPromote ∧ s.checkpoint ≠ 0
    ∧ c.promotionSafe ≠ 0 ∧ s.attempted = 0 ∧ (recoveryUpdate s c).1.attempted ≠ 0 := by
  have hno : ∀ {s' : CoopHostRecovery} {r : Word}, (s', r).2 = recoveryStart → r = recoveryStart :=
    fun h => h
  unfold recoveryUpdate at h ⊢
  dsimp only at h ⊢
  by_cases hj : c.join = 0
  · rw [if_pos hj] at h
    split at h <;> exact absurd (hno h) (by decide)
  rw [if_neg hj] at h ⊢
  by_cases hc : c.connected ≠ 0
  · rw [if_pos hc] at h
    split at h
    · dsimp only at h
      split at h <;> exact absurd h (by decide)
    · dsimp only at h
      split_ifs at h <;> exact absurd h (by decide)
  rw [if_neg hc] at h ⊢
  by_cases hp : c.command ≠ recoveryPromote
  · rw [if_pos hp] at h
    dsimp only at h
    split at h <;> exact absurd h (by decide)
  rw [if_neg hp] at h ⊢
  by_cases hf : s.failed ≠ 0
  · rw [if_pos hf] at h
    exact absurd (hno h) (by decide)
  rw [if_neg hf] at h ⊢
  by_cases hk : s.checkpoint = 0
  · rw [if_pos hk] at h
    exact absurd (hno h) (by decide)
  rw [if_neg hk] at h ⊢
  by_cases hs : c.promotionSafe = 0
  · rw [if_pos hs] at h
    exact absurd (hno h) (by decide)
  rw [if_neg hs] at h ⊢
  by_cases ha : s.attempted ≠ 0
  · rw [if_pos ha] at h
    exact absurd (hno h) (by decide)
  rw [if_neg ha]
  exact ⟨hj, not_not.mp hc, not_not.mp hp, hk, hs, not_not.mp ha, show (1 : Word) ≠ 0 by decide⟩

/-- An update of a guest that allows another promotion: connected, or with another command. -/
def RecoveryEvent.rearms : RecoveryEvent → Bool
  | .update c => decide (c.join ≠ 0 ∧ (c.connected ≠ 0 ∨ c.command ≠ recoveryPromote))
  | .complete _ => false

/-- An attempt is forgotten by such an update only. -/
theorem attempted_step (h : s.attempted ≠ 0) (hr : e.rearms = false) :
    (recoveryStep s e).attempted ≠ 0 := by
  cases e with
  | complete success => exact h
  | update c =>
    unfold recoveryStep recoveryUpdate
    dsimp only
    by_cases hj : c.join = 0
    · rw [if_pos hj]
      exact h
    have hboth : c.connected = 0 ∧ c.command = recoveryPromote := by
      have hn := of_decide_eq_false hr
      rw [not_and, not_or, not_not, not_not] at hn
      exact hn hj
    rw [if_neg hj, if_neg (not_not.mpr hboth.1), if_neg (not_not.mpr hboth.2)]
    split_ifs <;> exact h

/-! ## The results -/

theorem recovering_run (h₀ : s₀.checkpoint = 0) (es : List RecoveryEvent) :
    Recovering s₀.stableFrames.toNat es (Run.run recoveryStep s₀ es) := by
  induction es using List.reverseRecOn with
  | nil => exact ⟨streak_start, fun h => absurd h₀ h⟩
  | append_singleton es e ih =>
    rw [Run.run_snoc]
    exact ih.step e

/-- **A checkpoint is armed by a sustained safe connection, and starts one promotion.** From a state
without a checkpoint, for any run of updates and completions: a checkpoint is there only when 120 safe
connected updates of a guest came without a disconnection or an unsafe one among them (frames the
state began with count while nothing broke the streak), and no unsafe connected one since.
`COOP_RECOVERY_START` needs the checkpoint, `promotion_safe` and the promote command while
disconnected, and between two of them a guest's update was connected or had another command. -/
theorem checkpoint_armed (s₀ : CoopHostRecovery) (h₀ : s₀.checkpoint = 0) (es : List RecoveryEvent) :
    let s := Run.run recoveryStep s₀ es
    (s.checkpoint ≠ 0 → Arms RecoveryCall.joins s₀.stableFrames.toNat es)
    ∧ ∀ c, (recoveryUpdate s c).2 = recoveryStart →
      (s.checkpoint ≠ 0 ∧ c.promotionSafe ≠ 0 ∧ c.command = recoveryPromote ∧ c.connected = 0)
      ∧ ∀ pre c' mid, es = pre ++ .update c' :: mid →
        (recoveryUpdate (Run.run recoveryStep s₀ pre) c').2 = recoveryStart →
        ∃ e ∈ mid, e.rearms = true := by
  intro s
  refine ⟨(recovering_run h₀ es).armed, fun c hc => ?_⟩
  obtain ⟨-, h1, h2, h3, h4, h5, -⟩ := recoveryUpdate_start hc
  refine ⟨⟨h3, h4, h2, h1⟩, fun pre c' mid hes hc' => ?_⟩
  have hattempt := (recoveryUpdate_start hc').2.2.2.2.2.2
  have hs : s = Run.run recoveryStep (recoveryUpdate (Run.run recoveryStep s₀ pre) c').1 mid := by
    change Run.run recoveryStep s₀ es = _
    rw [hes, Run.run_append, Run.run_cons]
    rfl
  rw [hs] at h5
  obtain ⟨pre', e, post, rfl, hb, hn⟩ := Run.exists_breaking recoveryStep
    (fun s => s.attempted ≠ 0) _ mid hattempt (not_not.mpr h5)
  refine ⟨e, by simp, ?_⟩
  by_contra hr
  exact hn (attempted_step hb (Bool.eq_false_iff.mpr hr))

/-- A safe update of a guest on standby. -/
def safeCall : RecoveryCall where
  join := 1
  connected := 1
  checkpointSafe := 1
  promotionSafe := 1
  command := recoveryStandby

/-- The promote command after the host is lost. -/
def promoteCall : RecoveryCall where
  join := 1
  connected := 0
  checkpointSafe := 0
  promotionSafe := 1
  command := recoveryPromote

/-- After 120 safe updates and a disconnection the promotion starts. -/
theorem checkpoint_armed_promotes :
    let es := List.replicate 120 (RecoveryEvent.update safeCall)
    (recoveryUpdate (Run.run recoveryStep {} es) promoteCall).2 = recoveryStart
    ∧ Arms RecoveryCall.joins 0 es := by
  intro es
  have hstart : (recoveryUpdate (Run.run recoveryStep {} es) promoteCall).2 = recoveryStart := by
    decide +kernel
  obtain ⟨harmed, hpromote⟩ := checkpoint_armed {} rfl es
  exact ⟨hstart, harmed (hpromote promoteCall hstart).1.1⟩

/-- An unsafe connected update of a host. -/
def hostingCall : RecoveryCall where
  join := 0
  connected := 1
  checkpointSafe := 0
  promotionSafe := 0
  command := recoveryOff

/-- An update without `join` is unsafe and connected and drops nothing, and a state may begin with
frames of an earlier streak. -/
theorem hosting_keeps_checkpoint :
    let es := List.replicate 120 (RecoveryEvent.update safeCall) ++ [.update hostingCall]
    ((Run.run recoveryStep {} es).checkpoint ≠ 0 ∧ ¬ Arms (fun _ => true) 0 es)
    ∧ (Run.run recoveryStep { stableFrames := 119 } [.update safeCall]).checkpoint ≠ 0
    ∧ ¬ Arms (fun _ => true) 0 [.update safeCall] := by
  intro es
  refine ⟨⟨by decide +kernel, fun h => ?_⟩, by decide, fun ⟨pre, post, hes, hp, _⟩ => ?_⟩
  · have hbroken := (h.last (by decide)).broken (by decide)
    exact absurd hbroken (by decide)
  · have hle := hp.le
    have hlen : pre.length ≤ 1 := by
      have h := congrArg List.length hes
      rw [List.length_append] at h
      exact Nat.le_of_add_right_le h.ge
    have hcount := List.countP_le_length
      (p := fun e => decide (RecoveryEvent.saw (fun _ => true) RecoveryCall.safe e = true)) (l := pre)
    omega

end Dk64Port.Coop
