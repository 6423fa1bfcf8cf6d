import Dk64Port.Archipelago.Publications
import Dk64Port.Lib.Float32

/-!
# The game under a campaign (`mod/campaign_traps.c`, `mod/campaign_transaction.c`)

What a commit reads and writes of the game: the mode, the save trailer, the progress of the Kongs,
the state behind the traps, the publications, and what the stock save has written.

* `Game.trapCanStart`, `Game.trapStart`: the original safety checks, and the effects behind them.
* `Game.startTraps_spec`: a row whose traps can start starts each of them once.
* `Progress.SameItems`: two progresses that a campaign cannot tell apart.
-/

namespace Dk64Port.Archipelago

open ByteLayout (Byte)

/-! ## The progress -/

/-- `ap_character_progress`; of the fourteen levels only the first nine are played. -/
structure Character where
  moves : Byte := 0
  simianSlam : Byte := 0
  weapon : Byte := 0
  ammoBelt : Byte := 0
  instrument : Byte := 0
  coins : Half := 0
  instrumentEnergy : Half := 0
  goldenBananas : Nat → BitVec 16 := fun _ => 0

/-- `D_global_asm_807FC950[0]`, and the permanent flags of the file. -/
structure Progress where
  characters : Nat → Character := fun _ => {}
  melons : Byte := 0
  flags : Nat → Bool := fun _ => false

namespace Progress

/-- `for (kong < 5)` over the characters. -/
def forKongs (f : Nat → Character → Character) (p : Progress) : Progress :=
  { p with characters := fun kong =>
      if kong < 5 then f kong (p.characters kong) else p.characters kong }

/-- The fields that only a commit writes: the levels the campaign owns, and what it spends. -/
structure SameItems (p p' : Progress) : Prop where
  moves : ∀ kong < 5, (p'.characters kong).moves &&& 7 = (p.characters kong).moves &&& 7
  weapon : ∀ kong < 5, (p'.characters kong).weapon &&& 7 = (p.characters kong).weapon &&& 7
  instrument : ∀ kong < 5,
    (p'.characters kong).instrument &&& 15 = (p.characters kong).instrument &&& 15
  simianSlam : ∀ kong < 5, (p'.characters kong).simianSlam = (p.characters kong).simianSlam
  ammoBelt : ∀ kong < 5, (p'.characters kong).ammoBelt = (p.characters kong).ammoBelt
  coins : ∀ kong < 5, (p'.characters kong).coins = (p.characters kong).coins
  goldenBananas : ∀ kong < 5, (p'.characters kong).goldenBananas = (p.characters kong).goldenBananas

theorem SameItems.refl (p : Progress) : SameItems p p :=
  ⟨fun _ _ => rfl, fun _ _ => rfl, fun _ _ => rfl, fun _ _ => rfl, fun _ _ => rfl, fun _ _ => rfl,
    fun _ _ => rfl⟩

theorem SameItems.trans {p p' p'' : Progress} (h : SameItems p p') (h' : SameItems p' p'') :
    SameItems p p'' where
  moves kong hk := (h'.moves kong hk).trans (h.moves kong hk)
  weapon kong hk := (h'.weapon kong hk).trans (h.weapon kong hk)
  instrument kong hk := (h'.instrument kong hk).trans (h.instrument kong hk)
  simianSlam kong hk := (h'.simianSlam kong hk).trans (h.simianSlam kong hk)
  ammoBelt kong hk := (h'.ammoBelt kong hk).trans (h.ammoBelt kong hk)
  coins kong hk := (h'.coins kong hk).trans (h.coins kong hk)
  goldenBananas kong hk := (h'.goldenBananas kong hk).trans (h.goldenBananas kong hk)

end Progress

/-! ## The game -/

/-- `game_mode`. -/
inductive GameMode where
  | adventure
  | other
deriving DecidableEq

/-- `ap_trap_player`. -/
structure TrapPlayer where
  /-- `collision_queue_pointer` is not null. -/
  collisionQueue : Bool := false
  controlState : Byte := 0
  traction : Half := 100
  shockwaveTimer : Half := 0xFFFF
  strongKongOstandBitfield : Word := 0

/-- `ap_collectable_base`. -/
structure CollectableBase where
  standardAmmo : Half := 0
  homingAmmo : Half := 0
  oranges : Half := 0
  crystals : Half := 0
  film : Half := 0
  instrumentEnergy : Half := 0

/-- What the traps read and write. -/
structure TrapState where
  /-- `gPlayerPointer`. -/
  player : Option TrapPlayer := none
  objectTimer : Word := 0
  currentMap : Word := 0
  isAutowalking : Byte := 0
  /-- `D_global_asm_807FD888`. -/
  speed : Word := 0
  collectables : CollectableBase := {}
  buttonTimers : Nat → Half := fun _ => 0
  iceFloorTimer : Half := 0

/-- What the stock save writes, and the traps that had started by then. -/
structure Image where
  trailer : CampaignSave
  progress : Progress
  started : List Byte

/-- What a commit reads and writes. -/
structure Game where
  currentFile : Byte := 0
  numberOfPlayers : Byte := 1
  gameMode : GameMode := .adventure
  gameModeCopy : GameMode := .adventure
  gameplayMode : Word := 0
  trailer : CampaignSave
  progress : Progress := {}
  traps : TrapState := {}
  publications : Publications := {}
  /-- The images of the stock save, the latest first. -/
  saved : List Image := []
  /-- The traps started on the way to here, the first first. -/
  started : List Byte := []

namespace Game

/-- What staging reads. -/
def scene (g : Game) : Scene := ⟨g.currentFile, g.gameplayMode, g.trailer⟩

/-- What a save of this moment holds. -/
def image (g : Game) : Image := ⟨g.trailer, g.progress, g.started⟩

/-- `func_global_asm_8060DEC8`. -/
def save (g : Game) : Game := { g with saved := g.image :: g.saved }

/-- An image is loaded. -/
def restore (g : Game) (image : Image) : Game :=
  { g with trailer := image.trailer, progress := image.progress, started := image.started }

end Game

/-! ## The traps -/

/-- `AP_TRAP_MAP_*`. -/
inductive TrapMap where
  | banned | super | allow
deriving DecidableEq

/-- `ap_trap_map_state` and `ap_trap_movement_banned`. -/
structure TrapTables where
  mapState : List TrapMap
  movementBanned : List Bool

/-- `AP_TRAP_TYPE_*`. -/
def trapDisableA : Byte := 2
def trapDisableB : Byte := 3
def trapDisableCUp : Byte := 4
def trapDisableZ : Byte := 5
def trapDry : Byte := 7
def trapIceFloor : Byte := 10

/-- `AP_TRAP_FRAMES`. -/
def trapFrames : Half := 240
/-- `AP_ICE_FLOOR_FRAMES`. -/
def iceFloorFrames : Half := 450

/-- `button_slot`. -/
def buttonSlot (type : Byte) : Option Nat :=
  if type = trapDisableA then some 0
  else if type = trapDisableB then some 1
  else if type = trapDisableZ then some 2
  else if type = trapDisableCUp then some 3
  else none

/-- `ap_campaign_trap_executable`. -/
def trapExecutable (type : Byte) : Bool :=
  (buttonSlot type).isSome || type == trapDry || type == trapIceFloor

namespace Game

variable (tables : TrapTables)

/-- `ap_campaign_trap_can_start`. -/
def trapCanStart (g : Game) (type : Byte) : Bool :=
  g.gameplayMode &&& gameplayTraps != 0 && trapExecutable type &&
    g.traps.player.any fun player =>
      !player.collisionQueue && 5 ≤ g.traps.objectTimer.toInt &&
        !Float32Bits.lt 0x41700000 g.traps.speed && player.strongKongOstandBitfield &&& 0x100 == 0 &&
        g.traps.isAutowalking == 0 && player.shockwaveTimer == 0xFFFF &&
        0 ≤ g.traps.currentMap.toInt &&
        tables.mapState[g.traps.currentMap.toNat]? == some .allow &&
        tables.movementBanned[player.controlState.toNat]? == some false

/-- The effects of `ap_campaign_trap_start`. -/
def applyTrap (g : Game) (type : Byte) : Game :=
  match buttonSlot type with
  | some slot =>
    { g with traps := { g.traps with
        buttonTimers := Function.update g.traps.buttonTimers slot trapFrames } }
  | none =>
    if type = trapDry then
      { g with
        traps := { g.traps with collectables := {} }
        progress := g.progress.forKongs fun _ character => { character with instrumentEnergy := 0 } }
    else
      { g with traps := { g.traps with
          player := g.traps.player.map fun player => { player with traction := 1 }
          iceFloorTimer := iceFloorFrames } }

/-- `ap_campaign_trap_start`. -/
def trapStart (g : Game) (type : Byte) : Bool × Game :=
  if !g.trapCanStart tables type then (false, g)
  else (true, { g.applyTrap type with started := g.started ++ [type] })

/-- The loop over the effects of a row that starts its traps. -/
def startTraps (g : Game) (item : ItemEffectDef) : Game :=
  item.effects.foldl
    (fun g effect => if effect.kind = .trap then (g.trapStart tables effect.arg0).2 else g) g

/-- Nothing a campaign owns differs, besides the traps that have started. -/
structure Keeps (g g' : Game) : Prop where
  trailer : g'.trailer = g.trailer
  publications : g'.publications = g.publications
  saved : g'.saved = g.saved
  items : g.progress.SameItems g'.progress

variable {tables} {g g' g'' : Game} {type : Byte}

theorem Keeps.refl (g : Game) : Keeps g g := ⟨rfl, rfl, rfl, .refl _⟩

theorem Keeps.trans (h : Keeps g g') (h' : Keeps g' g'') : Keeps g g'' :=
  ⟨h'.trailer.trans h.trailer, h'.publications.trans h.publications, h'.saved.trans h.saved,
    h.items.trans h'.items⟩

theorem keeps_applyTrap (g : Game) (type : Byte) : Keeps g (g.applyTrap type) := by
  unfold applyTrap
  split
  · exact ⟨rfl, rfl, rfl, .refl _⟩
  split
  · refine ⟨rfl, rfl, rfl, ?_⟩
    constructor <;> exact fun kong hkong => by simp only [Progress.forKongs, if_pos hkong]
  · exact ⟨rfl, rfl, rfl, .refl _⟩

/-- No trap stands in the way of another. -/
theorem trapCanStart_applyTrap (g : Game) (type type' : Byte) :
    (g.applyTrap type).trapCanStart tables type' = g.trapCanStart tables type' := by
  unfold applyTrap
  split
  · rfl
  split
  · rfl
  · unfold trapCanStart
    simp only [Option.any_map]

theorem trapStart_eq (h : g.trapCanStart tables type) :
    g.trapStart tables type = (true, { g.applyTrap type with started := g.started ++ [type] }) := by
  rw [trapStart, h, Bool.not_true, if_neg Bool.false_ne_true]

end Game

/-- The types of the traps of a row. -/
def trapsOf (effects : List ItemEffect) : List Byte :=
  effects.filterMap fun effect => if effect.kind = .trap then some effect.arg0 else none

theorem trapsOf_cons (effect : ItemEffect) (effects : List ItemEffect) :
    trapsOf (effect :: effects) =
      if effect.kind = .trap then effect.arg0 :: trapsOf effects else trapsOf effects := by
  unfold trapsOf
  by_cases h : effect.kind = .trap <;> simp [h]

namespace Game

variable {tables : TrapTables}

theorem foldl_trapStart :
    ∀ {effects : List ItemEffect} {g : Game},
      (∀ effect ∈ effects, effect.kind = .trap → g.trapCanStart tables effect.arg0) →
      ∃ g', effects.foldl (fun g effect =>
          if effect.kind = .trap then (g.trapStart tables effect.arg0).2 else g) g = g' ∧
        g'.started = g.started ++ trapsOf effects ∧ Keeps g g'
  | [], g, _ => ⟨g, rfl, (List.append_nil _).symm, .refl g⟩
  | effect :: effects, g, h => by
    obtain ⟨hfirst, hrest⟩ := List.forall_mem_cons.mp h
    rw [List.foldl_cons]
    by_cases hkind : effect.kind = .trap
    · rw [if_pos hkind, trapStart_eq (hfirst hkind)]
      have hnext : ∀ effect' ∈ effects, effect'.kind = .trap →
          ({ g.applyTrap effect.arg0 with
            started := g.started ++ [effect.arg0] } : Game).trapCanStart tables effect'.arg0 := by
        intro effect' hmem hkind'
        have hcan := hrest effect' hmem hkind'
        rw [← trapCanStart_applyTrap g effect.arg0] at hcan
        exact hcan
      obtain ⟨g', hfold, hstarted, hkeeps⟩ := foldl_trapStart hnext
      refine ⟨g', hfold, ?_, (keeps_applyTrap g effect.arg0).trans ?_⟩
      · rw [hstarted, trapsOf_cons, if_pos hkind, List.append_assoc]
        rfl
      · exact ⟨hkeeps.trailer, hkeeps.publications, hkeeps.saved, hkeeps.items⟩
    · rw [if_neg hkind]
      obtain ⟨g', hfold, hstarted, hkeeps⟩ := foldl_trapStart hrest
      refine ⟨g', hfold, ?_, hkeeps⟩
      rw [hstarted, trapsOf_cons, if_neg hkind]

/-- **Traps that can start are started once each**, and nothing else that matters changes. -/
theorem startTraps_spec {g : Game} {item : ItemEffectDef}
    (h : ∀ effect ∈ item.effects, effect.kind = .trap → g.trapCanStart tables effect.arg0) :
    (g.startTraps tables item).started = g.started ++ trapsOf item.effects ∧
      Keeps g (g.startTraps tables item) := by
  obtain ⟨g', rfl, hstarted, hkeeps⟩ := foldl_trapStart h
  exact ⟨hstarted, hkeeps⟩

end Game

end Dk64Port.Archipelago
