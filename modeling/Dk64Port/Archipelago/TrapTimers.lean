import Dk64Port.Archipelago.Game
import Dk64Port.Lib.Countdown
import Mathlib.Algebra.GroupWithZero.Nat

/-!
# The timers of the traps (`mod/campaign_traps.c`)

A trap that disables a button, or that makes the floor icy, lasts for a number of frames. Its timer
outlives the player, the map and the file: only frames run it down, and only a frame without the traps
capability ends it early.

* `Game.trapTick`, `Game.readPads`: what a frame does to the timers, and what they do to the pads.
* `TrapEvent`, `trapStep`: the game plays on, a trap is asked for, a frame begins.
* `Game.traps_last`: **a button is dead exactly for the frames of its traps, the floor is icy exactly
  for the frames of its own, and the traction is back in the frame that ends it.**
-/

namespace Dk64Port.Archipelago

open ByteLayout (Byte)
open Countdown (Beat)

/-- `AP_MAP_CAVES_BEETLE_RACE`. -/
def mapCavesBeetleRace : Word := 82

/-- `AP_CONT_A`, `AP_CONT_B`, `AP_CONT_Z` and `AP_CONT_C_UP`, by their places in the mask. -/
def buttonPlace : Nat → Nat
  | 0 => 15
  | 1 => 14
  | 2 => 13
  | _ => 3

/-- `button_bit`. -/
def buttonBit (slot : Nat) : Word := if slot < 4 then 1#32 <<< buttonPlace slot else 0

namespace Game

/-- The traps are among the capabilities. -/
def trapsOn (g : Game) : Bool := g.gameplayMode &&& gameplayTraps != 0

/-- The traction of a floor that is not icy. -/
def stockTraction (g : Game) : Half :=
  if g.traps.currentMap = mapCavesBeetleRace then 20 else 100

/-- `reset_ice_floor`. -/
def resetIceFloor (g : Game) : Game :=
  { g with traps := { g.traps with
      player := g.traps.player.map fun player => { player with traction := g.stockTraction }
      iceFloorTimer := 0 } }

/-- `for (slot < 4)` over the timers of the buttons. -/
def forSlots (f : Half → Half) (g : Game) : Game :=
  { g with traps := { g.traps with
      buttonTimers := fun slot =>
        if slot < 4 then f (g.traps.buttonTimers slot) else g.traps.buttonTimers slot } }

/-- `ap_campaign_trap_reset`. -/
def trapReset (g : Game) : Game :=
  let g := g.forSlots fun _ => 0
  if g.traps.iceFloorTimer ≠ 0 then g.resetIceFloor else g

/-- `if (ice_floor_timer && !--ice_floor_timer) reset_ice_floor();` -/
def tickIceFloor (g : Game) : Game :=
  if g.traps.iceFloorTimer = 0 then g
  else if g.traps.iceFloorTimer - 1 = 0 then g.resetIceFloor
  else { g with traps := { g.traps with iceFloorTimer := g.traps.iceFloorTimer - 1 } }

/-- `ap_campaign_trap_tick`, which `ap_campaign_trap_frame` calls in every frame. -/
def trapTick (g : Game) : Game :=
  if !g.trapsOn then g.trapReset
  else (g.forSlots fun timer => if timer ≠ 0 then timer - 1 else timer).tickIceFloor

/-- `ap_campaign_trap_button_mask`. -/
def buttonMask (g : Game) : Word :=
  (List.range 4).foldl
    (fun mask slot => if g.traps.buttonTimers slot ≠ 0 then mask &&& ~~~buttonBit slot else mask)
    0xFFFF

/-- `func_global_asm_80712944`; `stock` is what `ap_stock_func_global_asm_80712944` left in the pads. -/
def readPads (g : Game) (stock : Nat → Half) : Nat → Half :=
  if !g.trapsOn then stock
  else fun controller =>
    if controller < 4 then stock controller &&& g.buttonMask.setWidth 16 else stock controller

end Game

/-! ## A run of the game -/

/-- What happens to the timers. -/
inductive TrapEvent where
  /-- The game plays on, up to `next`; the timers are the mod's own. -/
  | play (next : Game)
  /-- A commit asks for a trap. -/
  | start (type : Byte)
  /-- `dk64recomp_every_frame`. -/
  | frame

variable (tables : TrapTables)

/-- One event. -/
def trapStep (g : Game) : TrapEvent → Game
  | .play next => { next with traps := { next.traps with
      buttonTimers := g.traps.buttonTimers, iceFloorTimer := g.traps.iceFloorTimer } }
  | .start type => (g.trapStart tables type).2
  | .frame => g.trapTick

/-- No timer runs. -/
structure Game.Idle (g : Game) : Prop where
  buttons : ∀ slot < 4, g.traps.buttonTimers slot = 0
  iceFloor : g.traps.iceFloorTimer = 0

def TrapEvent.isFrame : TrapEvent → Bool
  | .frame => true
  | _ => false

/-- The traps are among the capabilities in each of the frames to come. -/
def FramesOn : Game → List TrapEvent → Prop :=
  Run.Along (trapStep tables) fun g e => e.isFrame = true → g.trapsOn = true

/-- The frames among the events. -/
def framesIn (es : List TrapEvent) : Nat := es.countP TrapEvent.isFrame

/-- A trap of one of the `types` has started, less than `frames` frames ago, and no frame since was
without the capability. -/
def Lasting (types : Byte → Prop) (frames : Nat) (g : Game) (es : List TrapEvent) : Prop :=
  ∃ es₁ type es₂, es = es₁ ++ .start type :: es₂ ∧ types type
    ∧ (Run.run (trapStep tables) g es₁).trapCanStart tables type = true
    ∧ FramesOn tables (Run.run (trapStep tables) g (es₁ ++ [.start type])) es₂
    ∧ framesIn es₂ < frames

/-! ## What a step is to a timer -/

section Timer

variable {tables} {g : Game} {types : Byte → Prop} [DecidablePred types] {type : Byte} {slot : Nat}
  {es : List TrapEvent}

/-- What a step is to the timer of the traps of the `types`. -/
def trapBeat (tables : TrapTables) (types : Byte → Prop) [DecidablePred types] (g : Game) :
    TrapEvent → Beat
  | .play _ => .rest
  | .start type => if g.trapCanStart tables type = true ∧ types type then .start else .rest
  | .frame => if g.trapsOn then .tick else .stop

theorem trapBeat_eq_start {e : TrapEvent} : trapBeat tables types g e = .start ↔
    ∃ type, e = .start type ∧ g.trapCanStart tables type = true ∧ types type := by
  cases e with
  | play next => simp [trapBeat]
  | start type => simp [trapBeat]
  | frame => simp [trapBeat, ite_eq_iff]

/-- While every frame has the capability, the frames are the ticks. -/
theorem framesOn_iff : ∀ {g : Game},
    FramesOn tables g es ↔ Beat.stop ∉ Countdown.beats (trapStep tables) (trapBeat tables types) g es := by
  induction es with
  | nil => intro g; simp [FramesOn, Run.Along, Countdown.beats]
  | cons e es ih =>
    intro g
    have hstep : FramesOn tables g (e :: es) ↔
        trapBeat tables types g e ≠ .stop ∧ FramesOn tables (trapStep tables g e) es := by
      cases e <;> simp [FramesOn, Run.Along, trapBeat, ite_eq_iff, TrapEvent.isFrame]
    rw [hstep, ih, Countdown.beats, List.mem_cons, not_or]
    exact and_congr_left fun _ => ne_comm

theorem ticks_eq_frames : ∀ {g : Game}, FramesOn tables g es →
    (Countdown.beats (trapStep tables) (trapBeat tables types) g es).count .tick = framesIn es := by
  induction es with
  | nil => intro g _; rfl
  | cons e es ih =>
    rintro g ⟨he, hes⟩
    rw [Countdown.beats, List.count_cons, ih hes, framesIn, framesIn, List.countP_cons]
    cases e with
    | play next => simp [trapBeat, TrapEvent.isFrame]
    | start type =>
      by_cases h : g.trapCanStart tables type = true ∧ types type <;>
        simp [trapBeat, TrapEvent.isFrame, h]
    | frame => simp [trapBeat, TrapEvent.isFrame, he rfl]

/-- **A timer that steps with the beats of its traps runs exactly while one of them lasts.** -/
theorem timer_pos_iff (timer : Game → Half) {frames : Nat}
    (hstep : ∀ g e, (timer (trapStep tables g e)).toNat
      = Countdown.next frames (timer g).toNat (trapBeat tables types g e))
    (h0 : timer g = 0) :
    timer (Run.run (trapStep tables) g es) ≠ 0 ↔ Lasting tables types frames g es := by
  have hpos : timer (Run.run (trapStep tables) g es) ≠ 0 ↔
      0 < (timer (Run.run (trapStep tables) g es)).toNat := by
    rw [Nat.pos_iff_ne_zero, ne_eq, ne_eq, ← BitVec.toNat_inj]
    rfl
  rw [hpos, Countdown.lt_timer_iff (fun g => (timer g).toNat) hstep (by simp [h0])]
  constructor
  · rintro ⟨es₁, e, es₂, rfl, hkind, hstop, hlt⟩
    obtain ⟨type, rfl, hcan, htype⟩ := trapBeat_eq_start.mp hkind
    have hon := framesOn_iff.mpr hstop
    rw [ticks_eq_frames hon] at hlt
    exact ⟨es₁, type, es₂, rfl, htype, hcan, hon, hlt⟩
  · rintro ⟨es₁, type, es₂, rfl, htype, hcan, hon, hlt⟩
    refine ⟨es₁, _, es₂, rfl, trapBeat_eq_start.mpr ⟨type, rfl, hcan, htype⟩,
      framesOn_iff.mp hon, ?_⟩
    rw [ticks_eq_frames hon]
    exact hlt

theorem toNat_dec {timer : Half} (h : timer ≠ 0) : (timer - 1).toNat = timer.toNat - 1 := by
  have hpos : timer.toNat ≠ 0 := fun h0 => h (BitVec.eq_of_toNat_eq h0)
  have hlt := timer.isLt
  rw [BitVec.toNat_sub]
  change (2 ^ 16 - 1 + timer.toNat) % 2 ^ 16 = timer.toNat - 1
  omega

theorem trapCanStart_executable (h : g.trapCanStart tables type = true) : trapExecutable type = true := by
  simp only [Game.trapCanStart, Bool.and_eq_true] at h
  exact h.1.2

theorem trapStart_of_not (h : ¬ g.trapCanStart tables type = true) : (g.trapStart tables type).2 = g := by
  simp [Game.trapStart, h]

theorem traps_trapStart (h : g.trapCanStart tables type = true) :
    (g.trapStart tables type).2.traps = (g.applyTrap type).traps := by
  rw [Game.trapStart_eq h]

/-- A started trap sets the timer of its button to the full length, and no other. -/
theorem buttonTimers_applyTrap : (g.applyTrap type).traps.buttonTimers slot
    = if buttonSlot type = some slot then trapFrames else g.traps.buttonTimers slot := by
  unfold Game.applyTrap
  split
  · rename_i slot' h
    rw [h]
    by_cases hs : slot = slot'
    · subst hs
      simp
    · simp [Function.update_of_ne hs, Ne.symm hs]
  · rename_i h
    have hne : ¬ buttonSlot type = some slot := by simp [h]
    rw [if_neg hne]
    split <;> rfl

theorem iceFloorTimer_applyTrap (h : trapExecutable type = true) : (g.applyTrap type).traps.iceFloorTimer
    = if type = trapIceFloor then iceFloorFrames else g.traps.iceFloorTimer := by
  unfold Game.applyTrap
  split
  · rename_i slot' hslot
    have hne : type ≠ trapIceFloor := by
      rintro rfl
      simp [buttonSlot, trapIceFloor, trapDisableA, trapDisableB, trapDisableZ, trapDisableCUp] at hslot
    rw [if_neg hne]
  · rename_i hslot
    split
    · rename_i hdry
      rw [hdry, if_neg (by decide)]
    · rename_i hdry
      have hice : type = trapIceFloor := by simpa [trapExecutable, hslot, hdry] using h
      rw [if_pos hice]

/-! ### The parts of a tick -/

variable {f : Half → Half}

@[simp] theorem buttonTimers_resetIceFloor :
    g.resetIceFloor.traps.buttonTimers = g.traps.buttonTimers := rfl

@[simp] theorem iceFloorTimer_resetIceFloor : g.resetIceFloor.traps.iceFloorTimer = 0 := rfl

@[simp] theorem buttonTimers_forSlots (hslot : slot < 4) :
    (g.forSlots f).traps.buttonTimers slot = f (g.traps.buttonTimers slot) := by
  simp [Game.forSlots, hslot]

@[simp] theorem iceFloorTimer_forSlots :
    (g.forSlots f).traps.iceFloorTimer = g.traps.iceFloorTimer := rfl

@[simp] theorem buttonTimers_tickIceFloor :
    g.tickIceFloor.traps.buttonTimers = g.traps.buttonTimers := by
  unfold Game.tickIceFloor
  split_ifs <;> rfl

theorem iceFloorTimer_tickIceFloor :
    g.tickIceFloor.traps.iceFloorTimer.toNat = g.traps.iceFloorTimer.toNat - 1 := by
  unfold Game.tickIceFloor
  split_ifs with h h1
  · simp [h]
  · rw [iceFloorTimer_resetIceFloor, ← toNat_dec h, h1]
  · exact toNat_dec h

theorem buttonTimers_trapReset (hslot : slot < 4) : g.trapReset.traps.buttonTimers slot = 0 := by
  unfold Game.trapReset
  dsimp only
  split <;> simp [hslot]

theorem iceFloorTimer_trapReset : g.trapReset.traps.iceFloorTimer = 0 := by
  unfold Game.trapReset
  dsimp only
  split
  · rfl
  · rename_i h
    exact not_not.mp h

theorem buttonTimers_trapTick (hslot : slot < 4) : (g.trapTick.traps.buttonTimers slot).toNat
    = if g.trapsOn then (g.traps.buttonTimers slot).toNat - 1 else 0 := by
  unfold Game.trapTick
  cases g.trapsOn with
  | false => simp [buttonTimers_trapReset hslot]
  | true =>
    simp only [Bool.not_true, Bool.false_eq_true, if_false, if_true, buttonTimers_tickIceFloor,
      buttonTimers_forSlots hslot]
    by_cases h : g.traps.buttonTimers slot = 0
    · simp [h]
    · rw [if_pos h, toNat_dec h]

theorem iceFloorTimer_trapTick : g.trapTick.traps.iceFloorTimer.toNat
    = if g.trapsOn then g.traps.iceFloorTimer.toNat - 1 else 0 := by
  unfold Game.trapTick
  cases g.trapsOn with
  | false => simp [iceFloorTimer_trapReset]
  | true => simp [iceFloorTimer_tickIceFloor]

/-- A frame that ends the icy floor puts the player on a stock floor. -/
theorem player_trapTick (h : g.traps.iceFloorTimer ≠ 0) (h' : g.trapTick.traps.iceFloorTimer = 0) :
    g.trapTick.traps.player
      = g.traps.player.map fun player => { player with traction := g.stockTraction } := by
  unfold Game.trapTick at h' ⊢
  split_ifs at h' ⊢ with hon
  · unfold Game.trapReset
    dsimp only
    rw [if_pos (by simpa using h)]
    rfl
  · unfold Game.tickIceFloor at h' ⊢
    rw [iceFloorTimer_forSlots, if_neg h] at h' ⊢
    split_ifs at h' ⊢ with h0
    · rfl
    · exact absurd h' h0

/-! ### The steps of the timers -/

/-- The timer of a button steps with the beats of its traps. -/
theorem buttonTimers_trapStep (hslot : slot < 4) (g : Game) (e : TrapEvent) :
    ((trapStep tables g e).traps.buttonTimers slot).toNat
      = Countdown.next 240 (g.traps.buttonTimers slot).toNat
          (trapBeat tables (fun type => buttonSlot type = some slot) g e) := by
  cases e with
  | play next => rfl
  | frame =>
    rw [trapStep, buttonTimers_trapTick hslot, trapBeat]
    split <;> rfl
  | start type =>
    rw [trapStep, trapBeat]
    by_cases h : g.trapCanStart tables type = true
    · rw [traps_trapStart h, buttonTimers_applyTrap]
      by_cases hs : buttonSlot type = some slot
      · rw [if_pos hs, if_pos ⟨h, hs⟩]
        rfl
      · rw [if_neg hs, if_neg fun h' => hs h'.2]
        rfl
    · rw [trapStart_of_not h, if_neg fun h' => h h'.1]
      rfl

/-- The timer of the icy floor steps with the beats of its traps. -/
theorem iceFloorTimer_trapStep (g : Game) (e : TrapEvent) :
    (trapStep tables g e).traps.iceFloorTimer.toNat
      = Countdown.next 450 g.traps.iceFloorTimer.toNat
          (trapBeat tables (fun type => type = trapIceFloor) g e) := by
  cases e with
  | play next => rfl
  | frame =>
    rw [trapStep, iceFloorTimer_trapTick, trapBeat]
    split <;> rfl
  | start type =>
    rw [trapStep, trapBeat]
    by_cases h : g.trapCanStart tables type = true
    · rw [traps_trapStart h, iceFloorTimer_applyTrap (trapCanStart_executable h)]
      by_cases hs : type = trapIceFloor
      · rw [if_pos hs, if_pos ⟨h, hs⟩]
        rfl
      · rw [if_neg hs, if_neg fun h' => hs h'.2]
        rfl
    · rw [trapStart_of_not h, if_neg fun h' => h h'.1]
      rfl

/-- Only a frame ends the icy floor, and the player stands on a stock floor after it. -/
theorem player_iceFloor_over {e : TrapEvent} (h : g.traps.iceFloorTimer ≠ 0)
    (h' : (trapStep tables g e).traps.iceFloorTimer = 0) :
    (trapStep tables g e).traps.player
      = g.traps.player.map fun player => { player with traction := g.stockTraction } := by
  cases e with
  | play next => exact absurd h' h
  | start type =>
    rw [trapStep] at h'
    by_cases hcan : g.trapCanStart tables type = true
    · rw [traps_trapStart hcan, iceFloorTimer_applyTrap (trapCanStart_executable hcan)] at h'
      split at h'
      · simp [iceFloorFrames] at h'
      · exact absurd h' h
    · rw [trapStart_of_not hcan] at h'
      exact absurd h' h
  | frame => exact player_trapTick h h'

end Timer

/-! ## The pads -/

namespace Game

variable {g : Game} {place : Nat}

theorem buttonBit_getLsbD : ∀ slot < 4, ∀ place < 32,
    (buttonBit slot).getLsbD place = decide (place = buttonPlace slot) := by decide

/-- The mask lets through what no running timer is for. -/
theorem buttonMask_getLsbD (hplace : place < 16) : g.buttonMask.getLsbD place = true ↔
    ∀ slot < 4, place = buttonPlace slot → g.traps.buttonTimers slot = 0 := by
  have hloop : ∀ n ≤ 4, ((List.range n).foldl (fun mask slot =>
      if g.traps.buttonTimers slot ≠ 0 then mask &&& ~~~buttonBit slot else mask)
        (0xFFFF : Word)).getLsbD place = true ↔
      ∀ slot < n, place = buttonPlace slot → g.traps.buttonTimers slot = 0 := by
    intro n hn
    induction n with
    | zero =>
      have hfull : ∀ place < 16, (0xFFFF : Word).getLsbD place = true := by decide
      exact iff_of_true (hfull place hplace) fun slot hslot => absurd hslot (Nat.not_lt_zero slot)
    | succ n ih =>
      rw [List.range_succ, List.foldl_append, List.foldl_cons, List.foldl_nil, Nat.forall_lt_succ_right,
        ← ih (by omega)]
      by_cases ht : g.traps.buttonTimers n = 0
      · simp [ht]
      · rw [if_pos ht, BitVec.getLsbD_and, BitVec.getLsbD_not,
          buttonBit_getLsbD n (by omega) place (by omega), Bool.and_eq_true]
        refine and_congr_right fun _ => ?_
        have h32 : place < 32 := by omega
        simp only [h32, decide_true, Bool.true_and, Bool.not_eq_true', decide_eq_false_iff_not]
        exact ⟨fun hne heq => absurd heq hne, fun h heq => ht (h heq)⟩
  exact hloop 4 (Nat.le_refl 4)

/-- A button reaches the game where it is held and no timer of it runs. -/
theorem readPads_getLsbD {stock : Nat → Half} {controller : Nat} :
    (g.readPads stock controller).getLsbD place = true ↔ (stock controller).getLsbD place = true ∧
      ¬ (g.trapsOn = true ∧ controller < 4 ∧
        ∃ slot < 4, place = buttonPlace slot ∧ g.traps.buttonTimers slot ≠ 0) := by
  unfold readPads
  cases g.trapsOn with
  | false => simp
  | true =>
    by_cases hc : controller < 4
    · by_cases hplace : place < 16
      · have hmask := buttonMask_getLsbD (g := g) hplace
        simp only [Bool.not_true, Bool.false_eq_true, if_false, if_pos hc, BitVec.getLsbD_and,
          BitVec.getLsbD_setWidth, hplace, decide_true, Bool.true_and, Bool.and_eq_true, hmask]
        simp [hc]
      · simp [hc, BitVec.getLsbD_of_ge _ place (Nat.le_of_not_lt hplace)]
    · simp [hc]

/-- **In any run from a game whose timers are idle: the pads reach the game as the stock code leaves
them, less each button for which a trap started fewer than 240 frames ago, with the capability in every
frame since; the floor is icy while a trap for it started fewer than 450 such frames ago; and the event
after which it no longer is leaves the player on the stock traction of the map.** -/
theorem traps_last (tables : TrapTables) (idle : g.Idle) (es : List TrapEvent) :
    (∀ stock controller place,
      ((Run.run (trapStep tables) g es).readPads stock controller).getLsbD place = true ↔
        (stock controller).getLsbD place = true ∧
          ¬ ((Run.run (trapStep tables) g es).trapsOn = true ∧ controller < 4 ∧
            ∃ slot < 4, place = buttonPlace slot ∧
              Lasting tables (fun type => buttonSlot type = some slot) 240 g es))
    ∧ ((Run.run (trapStep tables) g es).traps.iceFloorTimer ≠ 0 ↔
        Lasting tables (fun type => type = trapIceFloor) 450 g es)
    ∧ ∀ e, Lasting tables (fun type => type = trapIceFloor) 450 g es →
        ¬ Lasting tables (fun type => type = trapIceFloor) 450 g (es ++ [e]) →
        (Run.run (trapStep tables) g (es ++ [e])).traps.player
          = (Run.run (trapStep tables) g es).traps.player.map fun player =>
              { player with traction := (Run.run (trapStep tables) g es).stockTraction } := by
  have hbutton : ∀ slot < 4, ((Run.run (trapStep tables) g es).traps.buttonTimers slot ≠ 0 ↔
      Lasting tables (fun type => buttonSlot type = some slot) 240 g es) := fun slot hslot =>
    timer_pos_iff (fun g => g.traps.buttonTimers slot) (buttonTimers_trapStep hslot)
      (idle.buttons slot hslot)
  have hice : ∀ es, ((Run.run (trapStep tables) g es).traps.iceFloorTimer ≠ 0 ↔
      Lasting tables (fun type => type = trapIceFloor) 450 g es) := fun es =>
    timer_pos_iff (fun g => g.traps.iceFloorTimer) iceFloorTimer_trapStep idle.iceFloor
  refine ⟨fun stock controller place => ?_, hice es, fun e hon hoff => ?_⟩
  · rw [readPads_getLsbD]
    have hslots : (∃ slot < 4, place = buttonPlace slot ∧
        (Run.run (trapStep tables) g es).traps.buttonTimers slot ≠ 0) ↔
        ∃ slot < 4, place = buttonPlace slot ∧
          Lasting tables (fun type => buttonSlot type = some slot) 240 g es :=
      exists_congr fun slot => and_congr_right fun hslot => and_congr_right fun _ => hbutton slot hslot
    rw [hslots]
  · rw [← hice, Run.run_snoc, not_not] at hoff
    rw [Run.run_snoc]
    exact player_iceFloor_over ((hice es).mpr hon) hoff

/-- A map and a movement in which every trap may start. -/
def walkTables : TrapTables := ⟨[.allow], [false]⟩

/-- A player who walks there, with the traps among the capabilities. -/
def walkGame : Game :=
  { trailer := {}, gameplayMode := gameplayTraps, traps := { player := some {}, objectTimer := 10 } }

/-- A frame after the trap for A has started, A does not reach the game. -/
theorem traps_last_walk :
    ((Run.run (trapStep walkTables) walkGame [.start trapDisableA, .frame]).readPads
      (fun _ => 0x8000) 0).getLsbD 15 = false := by
  have hidle : walkGame.Idle := ⟨fun _ _ => rfl, rfl⟩
  have hpads := (traps_last walkTables hidle [.start trapDisableA, .frame]).1 (fun _ => 0x8000) 0 15
  refine Bool.eq_false_iff.mpr fun h => (hpads.mp h).2 ⟨by decide, by decide, 0, by decide, rfl, ?_⟩
  exact ⟨[], trapDisableA, [.frame], rfl, by decide, by decide,
    ⟨fun _ => by decide, trivial⟩, by decide⟩

end Game

end Dk64Port.Archipelago
