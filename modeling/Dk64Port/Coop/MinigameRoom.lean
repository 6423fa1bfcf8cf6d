import Dk64Port.Coop.TransientCapture

/-!
# The controllers of the minigames (`mod/transient_game.h`)

Five wrappers run around the stock behaviour of a controller actor. Each first proves which instance
of its minigame the actor runs: the actor, its children and its private data, the tables the game
calls it through, the map, the map it was entered from, the Kong and the target.

* `MinigameRoom`: the game memory the wrappers read.
* `koshIdentity`, `minecartIdentity`, `rabbitIdentity`, `battyIdentity`, `owlIdentity`: the key of
  the instance, zero when there is none.
* `identity_map`, `identity_rabbit`: what a key says about the memory.
-/

namespace Dk64Port.Coop

/-! ## Game memory -/

/-- The fields of an actor the wrappers read; `animationState` is its `unk64`. -/
structure MinigameActor where
  unk54 : Word := 0
  unk58 : Nat := 0
  objectPropertiesBitfield : Word := 0
  controlState : Nat := 0
  controlStateProgress : Nat := 0
  unk15F : Nat := 0
  unk168 : Nat := 0
  unk11C : Option Nat := none
  unk178 : Option Nat := none
  unk180 : Option Nat := none
  additionalActorData : Option Nat := none
  animationState : Option Nat := none
deriving DecidableEq

/-- `CoopBattyData`. -/
structure BattyData where
  reels : Fin 4 → Option Nat
  unk10 : Int
  unk14 : Int
  unk16 : Int
  unk1A : Nat
  unk1C : Nat
  unk1D : Nat
  unk1E : Nat
  unk20 : Option Nat

/-- The game memory. Actors and private data are named by their addresses. `registry` is the actor
registry, `parent` what `func_global_asm_805FF800` gives, `wrapped` says that the behaviour table
calls the wrapper of a minigame, `stockTimer` and `stockReel` that it calls the stock behaviour of
timers and reels, and `script` is `unk48[0]` of a script of the room. -/
structure MinigameRoom where
  currentMap : Nat
  parent : Option (Nat × Int)
  currentCharacter : Nat
  currentActor : Option Nat
  player : Option Nat
  fileChanged : Bool
  transition : Bool
  registry : List (Option Nat)
  actor : Nat → MinigameActor
  wrapped : Minigame → Bool
  stockTimer : Bool
  stockReel : Bool
  flag : Nat → Bool
  script : Nat → Option Nat
  unk807FBB64 : Word
  /-- `extra_player_info_pointer` and its fields. -/
  playerInfo : Option Nat
  unk1F0 : Word
  unk1F4 : Word
  vehicleActor : Option Nat
  unk1A8 : Option Nat
  /-- `D_global_asm_807FDC9C`, with the target of its first entry and the state of its second. -/
  spawner : Option Nat
  spawnerTarget : Nat
  spawnerState : Nat
  /-- `D_global_asm_807FDC90` and `D_global_asm_807FDC98`. -/
  race : Option Nat
  rings : Int
  enemy : Option Nat
  enemyFlags : Word
  koshIntro : Nat → Nat
  battyData : Nat → BattyData
  reelOwner : Nat → Option Nat
  timerWord : Nat → Int
  owlTimer : Nat → Int

namespace MinigameRoom

variable (m : MinigameRoom)

/-- `coop_batty_actor_listed`. -/
def listed (actor : Option Nat) : Bool :=
  decide (actor ≠ none ∧ m.registry.length ≤ 64) && m.registry.contains actor

/-- `coop_kosh_actor_live`. -/
def live (actor : Option Nat) (generation : Word) : Bool :=
  match actor with
  | none => false
  | some a => m.listed actor && decide ((m.actor a).unk54 = generation)

/-- The map the room was entered from, by its first exit. -/
def parentMap : Option Nat :=
  match m.parent with
  | none => none
  | some (parent, exit) => if exit = 0 then some parent else none

/-- The control state of an actor, zero without one. -/
def stateOf (actor : Option Nat) : Nat :=
  match actor with
  | none => 0
  | some a => (m.actor a).controlState

/-- The player does the action. -/
def playerDoes (action : Nat) : Prop := m.player ≠ none ∧ m.stateOf m.player = action

instance (action : Nat) : Decidable (m.playerDoes action) := inferInstanceAs (Decidable (_ ∧ _))

/-- The save file has not changed, no zone transition runs and there is a player. -/
def Undisturbed : Prop := m.fileChanged = false ∧ m.transition = false ∧ m.player ≠ none

instance : Decidable m.Undisturbed := inferInstanceAs (Decidable (_ ∧ _))

/-- The player's data is that of the local player. -/
def LocalPlayer : Prop :=
  ∃ p ∈ m.player, (m.actor p).additionalActorData ≠ none ∧ m.playerInfo ≠ none
    ∧ (m.actor p).additionalActorData = m.playerInfo

instance : Decidable m.LocalPlayer := inferInstanceAs (Decidable (∃ p ∈ m.player, _))

end MinigameRoom

/-! ## Identities -/

/-- `PERMFLAG_PROGRESS_RABBIT_RACE_1_COMPLETE`. -/
abbrev rabbitRaceComplete : Nat := 0xF8

/-- `PERMFLAG_ITEM_GB_FUNGI_RABBIT_RACE`. -/
abbrev rabbitRaceReward : Nat := 0xF9

/-- `COOP_OWL_REWARD_FLAG`. -/
abbrev owlRewardFlag : Nat := 0xFA

/-- `coop_kosh_identities`: map, parent and target. -/
def koshIdentities : List (Nat × Nat × Nat) :=
  [(10, 24, 18), (115, 47, 22), (116, 151, 25), (117, 170, 28)]

/-- `coop_minecart_identities`: map, parent and Kong. -/
def minecartIdentities : List (Nat × Nat × Nat) := [(77, 7, 4), (129, 59, 0), (130, 88, 1)]

/-- `coop_batty_identities`: map, parent, Kong and the three private bytes. -/
def battyIdentities : List (Nat × Nat × Nat × Nat × Nat × Nat) :=
  [(32, 43, 4, 0x2D, 0x20, 0x20), (121, 26, 2, 0x2D, 0x20, 0x34), (122, 195, 1, 0x28, 0x2A, 0x34)]

/-- The one-based index of the first row that fits, zero when none does. -/
def firstRow {α : Type} (rows : List α) (fits : α → Bool) : Nat :=
  match rows.findIdx? fits with
  | some i => i + 1
  | none => 0

variable (hook : Bool) (m : MinigameRoom)

/-- The actor is the one that behaves, of the type, in use, in the registry, and its behaviour is the
wrapper of the minigame. -/
def Controls (game : Minigame) (type a : Nat) : Prop :=
  hook = true ∧ m.currentActor = some a ∧ (m.actor a).unk58 = type
    ∧ (m.actor a).objectPropertiesBitfield &&& 0x10 ≠ 0 ∧ m.wrapped game = true
    ∧ m.live (some a) (m.actor a).unk54 = true

instance (game : Minigame) (type a : Nat) : Decidable (Controls hook m game type a) :=
  inferInstanceAs (Decidable (_ ∧ _))

/-- `coop_kosh_identity`. -/
def koshIdentity : Option Nat → Nat
  | none => 0
  | some a =>
    if Controls hook m .kosh 256 a ∧ (m.actor a).unk178 ≠ none ∧ (m.actor a).unk11C ≠ none
        ∧ m.spawner ≠ none ∧ 2 ≤ (((m.actor a).unk178.map m.koshIntro).getD 0)
        ∧ m.spawnerState = 2 then
      firstRow koshIdentities fun (map, parent, target) =>
        decide (map = m.currentMap ∧ m.parentMap = some parent ∧ target = m.spawnerTarget)
    else 0

/-- `coop_minecart_identity`. -/
def minecartIdentity : Option Nat → Nat
  | none => 0
  | some a =>
    if Controls hook m .minecart 87 a ∧ (m.actor a).additionalActorData ≠ none
        ∧ (m.actor a).animationState ≠ none ∧ (m.actor a).unk11C ≠ none
        ∧ (∃ p ∈ m.player, (m.actor p).additionalActorData ≠ none) then
      firstRow minecartIdentities fun (map, parent, kong) =>
        decide (map = m.currentMap ∧ m.parentMap = some parent ∧ kong = m.currentCharacter)
    else 0

/-- `coop_rabbit_round_key`. -/
def rabbitRoundKey : Nat :=
  if m.flag rabbitRaceReward = true then 0
  else if m.flag rabbitRaceComplete = true then 2 else 1

/-- `coop_rabbit_identity`. -/
def rabbitIdentity : Option Nat → Nat
  | none => 0
  | some a =>
    if Controls hook m .rabbit 252 a ∧ m.currentMap = mapFungi ∧ m.currentCharacter = 2
        ∧ (m.actor a).animationState ≠ none ∧ m.Undisturbed ∧ m.LocalPlayer
        ∧ m.unk1F0 &&& 0x100000 = 0 ∧ m.unk1F4 &&& 0x40 ≠ 0 ∧ m.unk807FBB64 &&& 4 ≠ 0
        ∧ m.script 0x1F = some 3 ∧ ¬ (rabbitRoundKey m = 2 ∧ m.script 0x57 = none) then
      rabbitRoundKey m
    else 0

/-- The timer of a Batty controller. -/
def BattyTimer (a : Nat) (data : BattyData) : Prop :=
  ∃ timer ∈ (m.actor a).unk11C, m.listed (some timer) = true ∧ (m.actor timer).unk58 = 176
    ∧ (m.actor timer).objectPropertiesBitfield &&& 0x10 ≠ 0
    ∧ (m.actor timer).unk15F = 6 ∧ (m.actor timer).controlState ≤ 5 ∧ m.stockTimer = true
    ∧ ∃ d ∈ (m.actor timer).additionalActorData, m.timerWord d = data.unk1C

instance (a : Nat) (data : BattyData) : Decidable (BattyTimer m a data) :=
  inferInstanceAs (Decidable (∃ timer ∈ (m.actor a).unk11C, _))

/-- A reel of a Batty controller. -/
def BattyReel (a : Nat) (reel : Option Nat) : Prop :=
  ∃ r ∈ reel, m.listed (some r) = true ∧ (m.actor r).unk58 = 219
    ∧ (m.actor r).objectPropertiesBitfield &&& 0x10 ≠ 0 ∧ (m.actor r).controlState ≤ 5
    ∧ m.stockReel = true ∧ ∃ d ∈ (m.actor r).additionalActorData, m.reelOwner d = some a

instance (a : Nat) (reel : Option Nat) : Decidable (BattyReel m a reel) :=
  inferInstanceAs (Decidable (∃ r ∈ reel, _))

/-- `coop_batty_identity`. -/
def battyIdentity : Option Nat → Nat
  | none => 0
  | some a =>
    match (m.actor a).additionalActorData with
    | none => 0
    | some d =>
      let data := m.battyData d
      if Controls hook m .batty 218 a ∧ (m.actor a).unk11C ≠ none ∧ m.Undisturbed ∧ m.LocalPlayer
          ∧ m.vehicleActor = some a ∧ m.unk1A8 = (m.actor a).unk11C ∧ BattyTimer m a data
          ∧ data.unk14 = 3 ∧ 0 ≤ data.unk16 ∧ data.unk16 ≤ 3 ∧ data.unk1A ≤ 1
          ∧ (∀ i, BattyReel m a (data.reels i))
          ∧ (∀ i j, j < i → data.reels j ≠ data.reels i) then
        firstRow battyIdentities fun (map, parent, kong, unk1C, unk1D, unk1E) =>
          decide (map = m.currentMap ∧ m.parentMap = some parent ∧ kong = m.currentCharacter
            ∧ unk1C = data.unk1C ∧ unk1D = data.unk1D ∧ unk1E = data.unk1E)
      else 0

/-- `coop_owl_identity`. -/
def owlIdentity : Option Nat → Nat
  | none => 0
  | some a =>
    let timer := ((m.actor a).unk180.map m.owlTimer).getD 0
    if Controls hook m .owl 250 a ∧ m.currentMap = mapFungi ∧ m.currentCharacter = 1
        ∧ (m.actor a).animationState ≠ none ∧ (m.actor a).unk178 ≠ none
        ∧ (m.actor a).unk180 ≠ none ∧ m.Undisturbed ∧ m.LocalPlayer ∧ m.playerDoes 0x63
        ∧ m.unk1F0 &&& 0x100000 ≠ 0 ∧ m.unk1F4 &&& 0x40 ≠ 0
        ∧ m.race ≠ none ∧ m.enemy ≠ none ∧ m.spawner ≠ none ∧ m.enemyFlags &&& 0x24 = 0x24
        ∧ 0 ≤ m.rings ∧ m.rings ≤ 0x10 ∧ (m.actor a).unk168 ≤ 0x10
        ∧ 1 ≤ (m.actor a).unk15F ∧ (m.actor a).unk15F ≤ 0x10 ∧ 0 ≤ timer ∧ timer ≤ 0x78
        ∧ m.flag owlRewardFlag = false then 1
    else 0

/-- The identity a minigame's wrapper checks. -/
def Minigame.identity (game : Minigame) (hook : Bool) (m : MinigameRoom) (actor : Option Nat) : Nat :=
  match game with
  | .kosh => koshIdentity hook m actor
  | .minecart => minecartIdentity hook m actor
  | .rabbit => rabbitIdentity hook m actor
  | .batty => battyIdentity hook m actor
  | .owl => owlIdentity hook m actor

/-! ## What a key says -/

variable {hook m} {game : Minigame} {actor : Option Nat} {k : Nat}

theorem firstRow_spec {α : Type} {rows : List α} {fits : α → Bool} (h : firstRow rows fits ≠ 0) :
    ∃ row, rows[firstRow rows fits - 1]? = some row ∧ fits row = true := by
  unfold firstRow at h ⊢
  cases hi : rows.findIdx? fits with
  | none =>
    rw [hi] at h
    exact absurd rfl h
  | some i =>
    obtain ⟨hlt, hfit, -⟩ := List.findIdx?_eq_some_iff_getElem.mp hi
    exact ⟨rows[i], by rw [Nat.add_sub_cancel, List.getElem?_eq_getElem hlt], hfit⟩

/-- The rows of a table are the instances of the minigame, in order. -/
theorem firstRow_map {α : Type} {rows : List α} {fits : α → Bool} (game : Minigame)
    (mapOf : α → Nat) (hrows : rows.map mapOf = game.maps)
    (hfits : ∀ row, fits row = true → mapOf row = m.currentMap) (h : firstRow rows fits ≠ 0) : game.maps[firstRow rows fits - 1]? = some m.currentMap := by
  obtain ⟨row, hrow, hfit⟩ := firstRow_spec h
  rw [← hrows, List.getElem?_map, hrow, ← hfits row hfit]
  rfl

/-- **A key names an instance in the map.** -/
theorem identity_map (h : game.identity hook m actor ≠ 0) :
    game.maps[game.identity hook m actor - 1]? = some m.currentMap := by
  cases actor with
  | none =>
    cases game <;> exact absurd rfl h
  | some a =>
    cases game with
    | kosh =>
      unfold Minigame.identity koshIdentity at h ⊢
      dsimp only at h ⊢
      split at h
      · rename_i hc
        rw [if_pos hc]
        refine firstRow_map .kosh (fun row => row.1) rfl (fun row hfit => ?_) h
        exact (of_decide_eq_true hfit).1
      · exact absurd rfl h
    | minecart =>
      unfold Minigame.identity minecartIdentity at h ⊢
      dsimp only at h ⊢
      split at h
      · rename_i hc
        rw [if_pos hc]
        refine firstRow_map .minecart (fun row => row.1) rfl (fun row hfit => ?_) h
        exact (of_decide_eq_true hfit).1
      · exact absurd rfl h
    | rabbit =>
      unfold Minigame.identity rabbitIdentity at h ⊢
      dsimp only at h ⊢
      split at h
      · rename_i hc
        rw [if_pos hc, hc.2.1]
        unfold rabbitRoundKey at h ⊢
        split_ifs at h ⊢
        · exact absurd rfl h
        · rfl
        · rfl
      · exact absurd rfl h
    | batty =>
      unfold Minigame.identity battyIdentity at h ⊢
      dsimp only at h ⊢
      split at h
      · exact absurd rfl h
      · split at h
        · rename_i hc
          rw [if_pos hc]
          refine firstRow_map .batty (fun row => row.1) rfl (fun row hfit => ?_) h
          exact (of_decide_eq_true hfit).1
        · exact absurd rfl h
    | owl =>
      unfold Minigame.identity owlIdentity at h ⊢
      dsimp only at h ⊢
      split at h
      · rename_i hc
        rw [if_pos hc, hc.2.1]
        rfl
      · exact absurd rfl h

/-- The key of the Rabbit Race is that of the round. -/
theorem identity_rabbit (h : Minigame.rabbit.identity hook m actor ≠ 0) :
    Minigame.rabbit.identity hook m actor = rabbitRoundKey m := by
  cases actor with
  | none => exact absurd rfl h
  | some a =>
    unfold Minigame.identity rabbitIdentity at h ⊢
    dsimp only at h ⊢
    split at h
    · rename_i hc
      rw [if_pos hc]
    · exact absurd rfl h

end Dk64Port.Coop
