import Dk64Port.Coop.MinigameRoom
import Dk64Port.Lib.OnceLatch
import Mathlib.Algebra.Group.Nat.Defs
import Mathlib.Algebra.GroupWithZero.Nat

/-!
# The wrappers of the minigame controllers (`mod/transient_game.h`)

Every wrapper keeps a latch: a success a peer sent is pending, the success it acted on last is applied,
and the success it publishes. It runs the stock behaviour, watches for the stock success, and forces
the win that is pending when the instance of the controller is the one the record names.

* `koshBehavior`, `minecartBehavior`, `rabbitBehavior`, `battyBehavior`, `owlBehavior`.
* `applySuccess`: a record of a peer.
* `Minigame.behavior_moves`, `Minigame.behavior_wins`: **what a wrapper does to its latch.**
-/

namespace Dk64Port.Coop

open OnceLatch

/-- The pending, applied and success words of a wrapper, with their history. -/
abbrev WinLatch := LatchLog Word Nat

/-- What the game itself does: the stock behaviour of the controller, and the calls with which its
win begins. -/
structure StockController where
  behave : MinigameRoom → MinigameRoom
  win : MinigameRoom → MinigameRoom

namespace MinigameRoom

variable (m : MinigameRoom)

/-- The generation of an actor, zero without one. -/
def generationOf (actor : Option Nat) : Word :=
  match actor with
  | none => 0
  | some a => (m.actor a).unk54

/-- The child of an actor. -/
def childOf (actor : Option Nat) : Option Nat := actor.bind fun a => (m.actor a).unk11C

/-- The animation of an actor. -/
def animationOf (actor : Option Nat) : Option Nat := actor.bind fun a => (m.actor a).animationState

/-- The private data of an actor. -/
def dataOf (actor : Option Nat) : Option Nat := actor.bind fun a => (m.actor a).additionalActorData

/-- An actor is written. -/
def setActor (actor : Option Nat) (f : MinigameActor → MinigameActor) : MinigameRoom :=
  { m with actor := fun a => if some a = actor then f (m.actor a) else m.actor a }

/-- Private data of a Batty controller is written. -/
def setBatty (d : Option Nat) (f : BattyData → BattyData) : MinigameRoom :=
  { m with battyData := fun b => if some b = d then f (m.battyData b) else m.battyData b }

end MinigameRoom

/-- The stock behaviour, where the wrapper has one. -/
def StockController.run (c : StockController) (hook : Bool) (m : MinigameRoom) : MinigameRoom :=
  if hook = true then c.behave m else m

variable (hook : Bool) (epoch : Word) (c : StockController) (m : MinigameRoom) (r : WinLatch)

/-- A pending success of another epoch, or one that came too late, is forgotten. -/
def expirePending : WinLatch :=
  if r.latch.pending.key ≠ 0 ∧ (r.latch.pending.epoch ≠ epoch ∨ ¬ m.Undisturbed) then r.drop else r

/-! ## The wrappers -/

/-- `coop_kosh_behavior`. -/
def koshBehavior : WinLatch × MinigameRoom :=
  let actor := m.currentActor
  let key := koshIdentity hook m actor
  let r := expirePending epoch m r
  let forced := key ≠ 0 ∧ Due r epoch key ∧ m.Undisturbed ∧ m.stateOf actor = 0
  let r := if forced then r.force epoch key else r
  let m' := c.run hook (if forced then c.win m else m)
  -- the success shows when the controller left its running state and the player celebrates
  if key ≠ 0 ∧ m'.live actor (m.generationOf actor) = true ∧ m'.stateOf actor ≠ 0
      ∧ m'.playerDoes 0x44 then (r.edge epoch key, m')
  else (r, m')

/-- `coop_minecart_behavior`. -/
def minecartBehavior : WinLatch × MinigameRoom :=
  let actor := m.currentActor
  let key := minecartIdentity hook m actor
  let child := if key = 0 then none else m.childOf actor
  let before := if key = 0 then 0 else m.stateOf actor
  let r := expirePending epoch m r
  let m' := c.run hook m
  if key = 0 ∨ m'.live actor (m.generationOf actor) = false ∨ minecartIdentity hook m' actor ≠ key
      ∨ m'.childOf actor ≠ child ∨ m'.live child (m.generationOf child) = false then (r.drop, m')
  else if 1 ≤ before ∧ before ≤ 3 ∧ m'.stateOf actor = 5 then
    if m'.Undisturbed ∧ m'.playerDoes 0x44 then (r.edge epoch key, m') else (r.drop, m')
  else if m'.animationOf actor = some 0x292 then (r.drop, m')
  else if ¬ (1 ≤ before ∧ before ≤ 3) then
    if (before = 4 ∨ before = 10) ∧ m'.stateOf actor = 3 then (r, m') else (r.drop, m')
  else if 1 ≤ m'.stateOf actor ∧ m'.stateOf actor ≤ 3 ∧ Due r epoch key ∧ m'.Undisturbed then
    (r.finish epoch key, (c.win m').setActor actor fun x => { x with controlState := 5 })
  else if m'.stateOf actor = 5 ∨ m'.stateOf actor = 6 then (r.drop, m')
  else (r, m')

/-- `coop_rabbit_behavior`. -/
def rabbitBehavior : WinLatch × MinigameRoom :=
  let actor := m.currentActor
  let key := rabbitIdentity hook m actor
  let before := if key = 0 then 0 else m.stateOf actor
  let r := expirePending epoch m r
  let m' := c.run hook m
  if key = 0 ∨ ¬ m'.Undisturbed ∨ m'.live actor (m.generationOf actor) = false
      ∨ rabbitIdentity hook m' actor ≠ key then (r.drop, m')
  else if before = 2 ∧ m'.stateOf actor = 0x28 then
    if m'.Undisturbed then (r.edge epoch key, m') else (r.drop, m')
  else if before ≠ 2 ∨ m'.stateOf actor = 0x27 then (r.drop, m')
  else if m'.stateOf actor = 2 ∧ Due r epoch key ∧ m'.Undisturbed then
    (r.finish epoch key,
      m'.setActor actor fun x => { x with controlState := 0x28, controlStateProgress := 0 })
  else if m'.stateOf actor ≠ 2 then (r.drop, m')
  else (r, m')

/-- The stock success of Batty. -/
def BattyWon (before : Nat) (actor timer : Option Nat) (data : BattyData) (m' : MinigameRoom) : Prop :=
  before = 7 ∧ m'.stateOf actor = 8 ∧ m'.playerDoes 0x44
    ∧ (∃ p ∈ m'.player, (m'.actor p).controlStateProgress = 1)
    ∧ data.unk16 = 0 ∧ data.unk10 = 0 ∧ data.unk1A = 0 ∧ m'.stateOf timer = 0
    ∧ (∃ a ∈ actor, (m'.actor a).controlStateProgress = 0 ∧ (m'.actor a).unk168 = 4)
    ∧ data.unk20 = none

instance (before : Nat) (actor timer : Option Nat) (data : BattyData) (m' : MinigameRoom) :
    Decidable (BattyWon before actor timer data m') :=
  inferInstanceAs (Decidable (_ ∧ _))

/-- Batty waits for the player to stop the reels. -/
def BattyWaits (before : Nat) (actor timer : Option Nat) (data : BattyData) (m' : MinigameRoom) :
    Prop :=
  before = 2 ∧ m'.stateOf actor = 2
    ∧ (∃ a ∈ actor, (m'.actor a).controlStateProgress = 1 ∧ (m'.actor a).unk168 = 0)
    ∧ m'.playerDoes 0x49 ∧ 1 ≤ data.unk16 ∧ data.unk16 ≤ 3
    ∧ (m'.stateOf timer = 1 ∨ m'.stateOf timer = 2 ∨ m'.stateOf timer = 4)

instance (before : Nat) (actor timer : Option Nat) (data : BattyData) (m' : MinigameRoom) :
    Decidable (BattyWaits before actor timer data m') :=
  inferInstanceAs (Decidable (_ ∧ _))

/-- The writes of a forced win of Batty. -/
def battyWin (actor d : Option Nat) (m' : MinigameRoom) : MinigameRoom :=
  (((m'.setBatty d fun b => { b with unk16 := 0, unk10 := 0, unk1A := 0, unk20 := none }).setActor
    m'.player fun x => { x with controlStateProgress := 1 }).setActor
      actor fun x => { x with controlState := 8, controlStateProgress := 0, unk168 := 4 })

/-- The private data of Batty at an address. -/
def MinigameRoom.battyAt (m : MinigameRoom) (d : Option Nat) : BattyData :=
  match d with
  | none => ⟨fun _ => none, 0, 0, 0, 0, 0, 0, 0, none⟩
  | some d => m.battyData d

/-- `coop_batty_behavior`. -/
def battyBehavior : WinLatch × MinigameRoom :=
  let actor := m.currentActor
  let key := battyIdentity hook m actor
  let d := if key = 0 then none else m.dataOf actor
  let timer := if key = 0 then none else m.childOf actor
  let reels := (m.battyAt d).reels
  let before := if key = 0 then 0 else m.stateOf actor
  let r := expirePending epoch m r
  let m' := c.run hook m
  let data := m'.battyAt d
  let valid := key ≠ 0 ∧ m'.Undisturbed ∧ m'.live actor (m.generationOf actor) = true
    ∧ m'.dataOf actor = d ∧ m'.childOf actor = timer ∧ m'.live timer (m.generationOf timer) = true
    ∧ ∀ i, data.reels i = reels i ∧ m'.live (reels i) (m.generationOf (reels i)) = true
  if ¬ valid ∨ battyIdentity hook m' actor ≠ key then (r.drop, m')
  else if BattyWon before actor timer data m' then (r.edge epoch key, m')
  else if m'.stateOf actor = 9 then (r.drop, m')
  else if before = 2 ∧ m'.stateOf actor = 2 ∧ m'.stateOf timer = 5 then (r.drop, m')
  else if BattyWaits before actor timer data m' ∧ Due r epoch key then
    if ∀ i, m'.stateOf (reels i) = 0 then (r.finish epoch key, c.win (battyWin actor d m'))
    else (r, m')
  else if before = 0 ∨ (2 ≤ before ∧ before ≤ 7) then (r, m')
  else (r.drop, m')

/-- What the Owl wrapper compares before and after the stock behaviour. -/
def MinigameRoom.owlParts (m : MinigameRoom) (actor : Option Nat) :
    (Option Nat × Option Nat) × (Option Nat × Word × Option Nat) × Option Nat × Option Nat × Option Nat :=
  ((actor.bind fun a => (m.actor a).unk178, actor.bind fun a => (m.actor a).unk180),
    (m.player, m.generationOf m.player, m.dataOf m.player), m.race, m.enemy, m.spawner)

/-- `coop_owl_behavior`. -/
def owlBehavior : WinLatch × MinigameRoom :=
  let actor := m.currentActor
  let key := owlIdentity hook m actor
  let before := if key = 0 then 0 else m.stateOf actor
  let r := expirePending epoch m r
  let m' := c.run hook m
  let active := before = 2 ∨ before = 0x26
  if key = 0 ∨ m'.live actor (m.generationOf actor) = false ∨ m'.currentActor ≠ actor
      ∨ m'.owlParts actor ≠ m.owlParts actor ∨ owlIdentity hook m' actor ≠ key then (r.drop, m')
  else if active ∧ m'.stateOf actor = 0x2A then
    if (∃ a ∈ actor, (m'.actor a).controlStateProgress = 0) ∧ m'.animationOf actor = some 0x35B
        ∧ m'.rings = 0 then (r.edge epoch key, m')
    else (r.drop, m')
  else if ¬ active ∨ m'.stateOf actor ≠ before ∨ m'.animationOf actor ≠ some 0x357 ∨ m'.rings < 1 then
    (r.drop, m')
  else if Due r epoch key then
    (r.finish epoch key,
      (c.win m').setActor actor fun x => { x with controlState := 0x2A, controlStateProgress := 0 })
  else (r, m')

/-- The wrapper of a minigame. -/
def Minigame.behavior (game : Minigame) (hook : Bool) (epoch : Word) (c : StockController)
    (m : MinigameRoom) (r : WinLatch) : WinLatch × MinigameRoom :=
  match game with
  | .kosh => koshBehavior hook epoch c m r
  | .minecart => minecartBehavior hook epoch c m r
  | .rabbit => rabbitBehavior hook epoch c m r
  | .batty => battyBehavior hook epoch c m r
  | .owl => owlBehavior hook epoch c m r

/-! ## Records of a peer -/

/-- The common body of the five record handlers; `holds` is what the rabbit and the owl ask for
besides. -/
def applySuccess (game : Minigame) (holds : Prop) [Decidable holds] (record : CoopTransientRecord) :
    WinLatch :=
  if hook = false ∨ record.key = 0 ∨ game.maps.length < record.key.toNat ∨ record.state ≠ 1
      ∨ record.value ≠ 0 ∨ game.maps.getD (record.key.toNat - 1) 0 ≠ m.currentMap ∨ ¬ holds
      ∨ (r.latch.applied.epoch = epoch ∧ r.latch.applied.key = record.key.toNat) then r
  else r.receive epoch record.key.toNat

/-- `coop_transient_apply_kosh`. -/
def applyKosh (record : CoopTransientRecord) : WinLatch :=
  applySuccess hook epoch m r .kosh True record

/-- `coop_transient_apply_minecart`. -/
def applyMinecart (record : CoopTransientRecord) : WinLatch :=
  applySuccess hook epoch m r .minecart True record

/-- `coop_transient_apply_rabbit`. -/
def applyRabbit (record : CoopTransientRecord) : WinLatch :=
  applySuccess hook epoch m r .rabbit (rabbitRoundKey m = record.key.toNat) record

/-- `coop_transient_apply_batty`. -/
def applyBatty (record : CoopTransientRecord) : WinLatch :=
  applySuccess hook epoch m r .batty True record

/-- `coop_transient_apply_owl`. -/
def applyOwl (record : CoopTransientRecord) : WinLatch :=
  applySuccess hook epoch m r .owl (m.flag owlRewardFlag = false) record

/-- The record handler of a minigame. -/
def Minigame.applyRecord (game : Minigame) (hook : Bool) (epoch : Word) (m : MinigameRoom)
    (r : WinLatch) (record : CoopTransientRecord) : WinLatch :=
  match game with
  | .kosh => applyKosh hook epoch m r record
  | .minecart => applyMinecart hook epoch m r record
  | .rabbit => applyRabbit hook epoch m r record
  | .batty => applyBatty hook epoch m r record
  | .owl => applyOwl hook epoch m r record

/-! ## What a wrapper does to its latch -/

section

variable {hook : Bool} {epoch : Word} {c : StockController} {m : MinigameRoom} {r r' : WinLatch}
  {key : Nat}

/-- The memory in which a wrapper forces a win: before the stock behaviour for Kosh, else after it. -/
def Minigame.winRoom (game : Minigame) (hook : Bool) (c : StockController) (m : MinigameRoom) :
    MinigameRoom :=
  match game with
  | .kosh => m
  | _ => c.run hook m

/-- What a tick of a wrapper with `key` may do: its latch moves under that key, and a win is forced
in a memory that is undisturbed and shows the same instance. -/
structure Ticks (game : Minigame) (hook : Bool) (epoch : Word) (c : StockController)
    (m : MinigameRoom) (r r' : WinLatch) : Prop where
  moves : LatchMoves epoch (game.identity hook m m.currentActor) r r'
  wins : r'.wins = r.wins ∨
    r'.wins = ⟨epoch, game.identity hook m m.currentActor⟩ :: r.wins
      ∧ game.identity hook m m.currentActor ≠ 0
      ∧ game.identity hook (game.winRoom hook c m) m.currentActor
        = game.identity hook m m.currentActor
      ∧ (game.winRoom hook c m).Undisturbed

theorem expirePending_moves (epoch : Word) (m : MinigameRoom) (key : Nat) (r : WinLatch) :
    LatchMoves epoch key r (expirePending epoch m r) ∧ (expirePending epoch m r).wins = r.wins := by
  unfold expirePending
  split
  · exact ⟨.drop (.refl r), rfl⟩
  · exact ⟨.refl r, rfl⟩

/-- The ways a tick ends. -/
theorem ticks_keep {game : Minigame} : Ticks game hook epoch c m r (expirePending epoch m r) :=
  ⟨(expirePending_moves epoch m _ r).1, .inl (expirePending_moves epoch m 0 r).2⟩

theorem ticks_drop {game : Minigame} :
    Ticks game hook epoch c m r (expirePending epoch m r).drop :=
  ⟨.drop (expirePending_moves epoch m _ r).1, .inl (expirePending_moves epoch m 0 r).2⟩

theorem ticks_edge (game : Minigame) (hk : game.identity hook m m.currentActor ≠ 0) :
    Ticks game hook epoch c m r
      ((expirePending epoch m r).edge epoch (game.identity hook m m.currentActor)) :=
  ⟨.edge (expirePending_moves epoch m _ r).1 hk, .inl (expirePending_moves epoch m 0 r).2⟩

theorem ticks_finish (game : Minigame) (hk : game.identity hook m m.currentActor ≠ 0)
    (due : Due (expirePending epoch m r) epoch (game.identity hook m m.currentActor))
    (hsame : game.identity hook (game.winRoom hook c m) m.currentActor
      = game.identity hook m m.currentActor)
    (hquiet : (game.winRoom hook c m).Undisturbed) :
    Ticks game hook epoch c m r
      ((expirePending epoch m r).finish epoch (game.identity hook m m.currentActor)) := by
  refine ⟨.finish (expirePending_moves epoch m _ r).1 hk due, .inr ⟨?_, hk, hsame, hquiet⟩⟩
  exact congrArg (List.cons _) (expirePending_moves epoch m 0 r).2

theorem kosh_ticks : Ticks .kosh hook epoch c m r (koshBehavior hook epoch c m r).1 := by
  obtain ⟨hmoves, hwins⟩ := expirePending_moves epoch m (koshIdentity hook m m.currentActor) r
  unfold koshBehavior
  dsimp only
  generalize expirePending epoch m r = r₀ at *
  by_cases hforced : koshIdentity hook m m.currentActor ≠ 0
      ∧ Due r₀ epoch (koshIdentity hook m m.currentActor) ∧ m.Undisturbed
      ∧ m.stateOf m.currentActor = 0
  · rw [if_pos hforced, if_pos hforced]
    obtain ⟨hk, due, hquiet, -⟩ := hforced
    have hforce : LatchMoves epoch (koshIdentity hook m m.currentActor) r
        (r₀.force epoch (koshIdentity hook m m.currentActor)) := .force hmoves hk due
    have hlog : (r₀.force epoch (koshIdentity hook m m.currentActor)).wins
        = ⟨epoch, koshIdentity hook m m.currentActor⟩ :: r.wins := congrArg (List.cons _) hwins
    split
    · exact ⟨.edge hforce hk, .inr ⟨hlog, hk, rfl, hquiet⟩⟩
    · exact ⟨hforce, .inr ⟨hlog, hk, rfl, hquiet⟩⟩
  · rw [if_neg hforced, if_neg hforced]
    split
    · rename_i hedge
      exact ⟨.edge hmoves hedge.1, .inl hwins⟩
    · exact ⟨hmoves, .inl hwins⟩

theorem minecart_ticks : Ticks .minecart hook epoch c m r (minecartBehavior hook epoch c m r).1 := by
  unfold minecartBehavior
  dsimp only
  generalize (if minecartIdentity hook m m.currentActor = 0 then none else m.childOf m.currentActor) = child
  generalize (if minecartIdentity hook m m.currentActor = 0 then 0 else m.stateOf m.currentActor) = before
  split
  · exact ticks_drop
  · rename_i hvalid
    simp only [not_or, ne_eq, not_not] at hvalid
    obtain ⟨hk, -, hsame, -⟩ := hvalid
    split
    · split
      · exact ticks_edge .minecart hk
      · exact ticks_drop
    · split
      · exact ticks_drop
      · split
        · split
          · exact ticks_keep
          · exact ticks_drop
        · split
          · rename_i hforced
            exact ticks_finish .minecart hk hforced.2.2.1 hsame hforced.2.2.2
          · split
            · exact ticks_drop
            · exact ticks_keep

theorem rabbit_ticks : Ticks .rabbit hook epoch c m r (rabbitBehavior hook epoch c m r).1 := by
  unfold rabbitBehavior
  dsimp only
  generalize (if rabbitIdentity hook m m.currentActor = 0 then 0 else m.stateOf m.currentActor) = before
  split
  · exact ticks_drop
  · rename_i hvalid
    simp only [not_or, ne_eq, not_not] at hvalid
    obtain ⟨hk, hquiet, -, hsame⟩ := hvalid
    split
    · exact ticks_edge .rabbit hk
    · split
      · exact ticks_drop
      · split
        · rename_i hforced
          exact ticks_finish .rabbit hk hforced.2.1 hsame hquiet
        · split
          · exact ticks_drop
          · exact ticks_keep

theorem batty_ticks : Ticks .batty hook epoch c m r (battyBehavior hook epoch c m r).1 := by
  unfold battyBehavior
  dsimp only
  generalize (if battyIdentity hook m m.currentActor = 0 then none else m.dataOf m.currentActor) = d
  generalize (if battyIdentity hook m m.currentActor = 0 then none else m.childOf m.currentActor) = timer
  generalize (if battyIdentity hook m m.currentActor = 0 then 0 else m.stateOf m.currentActor) = before
  split
  · exact ticks_drop
  · rename_i hvalid
    rw [not_or, not_not, ne_eq, not_not] at hvalid
    obtain ⟨⟨hk, hquiet, -⟩, hsame⟩ := hvalid
    split
    · exact ticks_edge .batty hk
    · split
      · exact ticks_drop
      · split
        · exact ticks_drop
        · split
          · rename_i hforced
            split
            · exact ticks_finish .batty hk hforced.2 hsame hquiet
            · exact ticks_keep
          · split
            · exact ticks_keep
            · exact ticks_drop

/-- The Owl's key is given in an undisturbed memory only. -/
theorem owl_undisturbed {actor : Option Nat} (h : owlIdentity hook m actor ≠ 0) : m.Undisturbed := by
  cases actor with
  | none => exact absurd rfl h
  | some a =>
    unfold owlIdentity at h
    dsimp only at h
    split at h
    · rename_i hc
      exact hc.2.2.2.2.2.2.1
    · exact absurd rfl h

theorem owl_ticks : Ticks .owl hook epoch c m r (owlBehavior hook epoch c m r).1 := by
  unfold owlBehavior
  dsimp only
  generalize (if owlIdentity hook m m.currentActor = 0 then 0 else m.stateOf m.currentActor) = before
  split
  · exact ticks_drop
  · rename_i hvalid
    simp only [not_or, ne_eq, not_not] at hvalid
    obtain ⟨hk, -, -, -, hsame⟩ := hvalid
    split
    · split
      · exact ticks_edge .owl hk
      · exact ticks_drop
    · split
      · exact ticks_drop
      · split
        · rename_i due
          have hnext : owlIdentity hook (c.run hook m) m.currentActor ≠ 0 := by
            rw [hsame]
            exact hk
          exact ticks_finish .owl hk due hsame (owl_undisturbed hnext)
        · exact ticks_keep

/-- **What a wrapper does to its latch.** -/
theorem behavior_ticks (game : Minigame) :
    Ticks game hook epoch c m r (game.behavior hook epoch c m r).1 := by
  cases game with
  | kosh => exact kosh_ticks
  | minecart => exact minecart_ticks
  | rabbit => exact rabbit_ticks
  | batty => exact batty_ticks
  | owl => exact owl_ticks

/-- A record is put aside, or pending under this epoch. -/
theorem applyRecord_cases (game : Minigame) (record : CoopTransientRecord) :
    game.applyRecord hook epoch m r record = r ∨
      game.applyRecord hook epoch m r record = r.receive epoch record.key.toNat := by
  have hbody : ∀ (holds : Prop) [Decidable holds],
      applySuccess hook epoch m r game holds record = r ∨
        applySuccess hook epoch m r game holds record = r.receive epoch record.key.toNat := by
    intro holds _
    unfold applySuccess
    split
    · exact .inl rfl
    · exact .inr rfl
  cases game with
  | kosh => exact hbody True
  | minecart => exact hbody True
  | rabbit => exact hbody _
  | batty => exact hbody True
  | owl => exact hbody _

end

end Dk64Port.Coop
