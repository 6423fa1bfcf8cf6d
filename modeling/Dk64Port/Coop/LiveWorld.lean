import Dk64Port.Coop.ItemIds

/-!
# The reviewed live-world rows (`mod/world_live_game.h`)

The pinned metadata of the instance scripts whose completed state follows a permanent flag: for a
map and a flag, the objects to change and how. The same-room channel reads the table too, for the
scripts it may sample.

* `transientEligible`: portal rows never enter the same-room channel.
* `firstRows_nodup`: the rows the channel keeps for a map name each object once.
-/

namespace Dk64Port.Coop

/-- The mode of a row: how its object takes the completed state. -/
inductive LiveMode
  | direct
  | replay
  | permanent
  | require
  | noop
  | continueGalleon
  | reveal
  | mermaid
  | islesTrombone
  | llamaFree
  | llamaWater
  | seal
  | mushroomSwitch
  | rabbit
  | beanstalk
deriving DecidableEq

/-- `CoopLiveWorldState`. -/
structure CoopLiveWorldState where
  map : Nat
  flag : Nat
  object : Nat
  state : Nat
  mode : LiveMode
deriving DecidableEq

/-- `coop_live_world_states`. -/
def coopLiveWorldStates : List CoopLiveWorldState := [
  ⟨7, 0x000, 0x01A, 20, .direct⟩, ⟨7, 0x000, 0x01B, 20, .direct⟩, ⟨7, 0x007, 0x034, 20, .direct⟩,
  ⟨7, 0x007, 0x035, 20, .direct⟩, ⟨7, 0x007, 0x033, 20, .direct⟩, ⟨7, 0x00D, 0x038, 20, .direct⟩,
  ⟨7, 0x00D, 0x041, 7, .direct⟩, ⟨7, 0x00E, 0x03A, 20, .direct⟩, ⟨7, 0x00E, 0x03F, 7, .direct⟩,
  ⟨7, 0x00F, 0x03B, 20, .direct⟩, ⟨7, 0x00F, 0x040, 7, .direct⟩, ⟨7, 0x010, 0x039, 20, .direct⟩,
  ⟨7, 0x010, 0x03E, 7, .direct⟩, ⟨7, 0x01E, 0x027, 20, .direct⟩, ⟨7, 0x01E, 0x028, 20, .direct⟩,
  ⟨26, 0x06E, 0x016, 20, .direct⟩, ⟨26, 0x06E, 0x0B0, 20, .direct⟩,
  ⟨26, 0x081, 0x02D, 20, .direct⟩, ⟨30, 0x099, 0x002, 20, .direct⟩,
  ⟨30, 0x099, 0x006, 20, .direct⟩, ⟨30, 0x099, 0x007, 20, .direct⟩,
  ⟨30, 0x0A1, 0x003, 20, .direct⟩, ⟨30, 0x0A1, 0x008, 20, .direct⟩,
  ⟨30, 0x0A1, 0x009, 20, .direct⟩, ⟨30, 0x09B, 0x004, 20, .direct⟩,
  ⟨30, 0x09B, 0x00A, 20, .direct⟩, ⟨30, 0x09B, 0x00B, 20, .direct⟩,
  ⟨38, 0x02F, 0x09F, 20, .direct⟩, ⟨38, 0x02F, 0x0A0, 20, .direct⟩,
  ⟨38, 0x02F, 0x040, 20, .direct⟩, ⟨38, 0x030, 0x09D, 20, .direct⟩,
  ⟨38, 0x030, 0x09E, 20, .direct⟩, ⟨38, 0x030, 0x08D, 20, .direct⟩,
  ⟨48, 0x0CF, 0x017, 20, .direct⟩, ⟨48, 0x0CF, 0x018, 20, .direct⟩,
  ⟨48, 0x0CF, 0x019, 20, .direct⟩, ⟨48, 0x0D0, 0x01C, 20, .direct⟩,
  ⟨48, 0x0D0, 0x01A, 20, .direct⟩, ⟨48, 0x0D0, 0x01B, 20, .direct⟩,
  ⟨48, 0x0D2, 0x01D, 20, .direct⟩, ⟨48, 0x0D2, 0x01E, 20, .direct⟩,
  ⟨7, 0x02E, 0x02C, 20, .direct⟩, ⟨7, 0x02E, 0x037, 20, .direct⟩, ⟨7, 0x02E, 0x11A, 20, .direct⟩,
  ⟨38, 0x06C, 0x008, 20, .direct⟩, ⟨38, 0x06C, 0x009, 20, .direct⟩,
  ⟨38, 0x06C, 0x00A, 20, .direct⟩, ⟨38, 0x06C, 0x00B, 20, .direct⟩,
  ⟨38, 0x06C, 0x0EC, 20, .direct⟩, ⟨26, 0x098, 0x046, 20, .direct⟩,
  ⟨26, 0x098, 0x047, 20, .direct⟩, ⟨26, 0x098, 0x048, 20, .direct⟩,
  ⟨26, 0x098, 0x049, 20, .direct⟩, ⟨26, 0x098, 0x04A, 20, .direct⟩,
  ⟨30, 0x0CB, 0x022, 20, .direct⟩, ⟨30, 0x0CB, 0x023, 20, .direct⟩,
  ⟨30, 0x0CB, 0x024, 20, .direct⟩, ⟨30, 0x0CB, 0x025, 20, .direct⟩,
  ⟨30, 0x0CB, 0x026, 20, .direct⟩, ⟨48, 0x102, 0x015, 20, .direct⟩,
  ⟨48, 0x102, 0x016, 20, .direct⟩, ⟨48, 0x102, 0x03B, 20, .direct⟩,
  ⟨48, 0x102, 0x047, 20, .direct⟩, ⟨48, 0x102, 0x052, 20, .direct⟩,
  ⟨72, 0x12E, 0x023, 20, .direct⟩, ⟨72, 0x12E, 0x024, 20, .direct⟩,
  ⟨72, 0x12E, 0x025, 20, .direct⟩, ⟨72, 0x12E, 0x026, 20, .direct⟩,
  ⟨87, 0x160, 0x00B, 20, .direct⟩, ⟨87, 0x160, 0x00C, 20, .direct⟩,
  ⟨87, 0x160, 0x00D, 20, .direct⟩, ⟨176, 0x181, 0x039, 20, .direct⟩,
  ⟨176, 0x181, 0x049, 20, .direct⟩, ⟨7, 0x02B, 0x115, 0, .replay⟩,
  ⟨38, 0x04E, 0x044, 0, .replay⟩, ⟨38, 0x04E, 0x09C, 0, .replay⟩, ⟨26, 0x077, 0x13C, 0, .replay⟩,
  ⟨26, 0x085, 0x03C, 0, .replay⟩, ⟨26, 0x097, 0x04E, 0, .replay⟩, ⟨26, 0x097, 0x04C, 0, .replay⟩,
  ⟨26, 0x097, 0x106, 0, .replay⟩, ⟨30, 0x09F, 0x021, 0, .replay⟩, ⟨30, 0x0A2, 0x005, 0, .replay⟩,
  ⟨30, 0x0A2, 0x00C, 0, .replay⟩, ⟨30, 0x0B9, 0x03F, 0, .replay⟩, ⟨72, 0x109, 0x01F, 0, .replay⟩,
  ⟨72, 0x10A, 0x01E, 0, .replay⟩, ⟨72, 0x10B, 0x01D, 0, .replay⟩, ⟨87, 0x144, 0x020, 0, .replay⟩,
  ⟨16, 0x045, 0x004, 0, .replay⟩, ⟨16, 0x045, 0x00A, 0, .replay⟩,
  ⟨112, 0x138, 0x011, 30, .permanent⟩, ⟨163, 0x157, 0x028, 0, .replay⟩,
  ⟨163, 0x158, 0x029, 0, .replay⟩, ⟨163, 0x159, 0x02A, 0, .replay⟩,
  ⟨163, 0x15A, 0x02B, 0, .replay⟩, ⟨163, 0x15B, 0x02C, 0, .replay⟩,
  ⟨163, 0x15C, 0x02D, 0, .replay⟩, ⟨187, 0x144, 0x000, 0, .replay⟩,
  ⟨187, 0x144, 0x001, 0, .replay⟩, ⟨187, 0x144, 0x002, 0, .replay⟩,
  ⟨187, 0x144, 0x003, 0, .replay⟩, ⟨194, 0x198, 0x000, 0, .replay⟩,
  ⟨194, 0x199, 0x001, 0, .replay⟩, ⟨26, 0x078, 0x061, 0, .replay⟩,
  ⟨26, 0x078, 0x062, 0, .replay⟩, ⟨26, 0x078, 0x077, 0, .replay⟩, ⟨30, 0x0B3, 0x00D, 0, .replay⟩,
  ⟨30, 0x0B4, 0x045, 0, .replay⟩, ⟨30, 0x0B5, 0x043, 0, .replay⟩, ⟨30, 0x0B5, 0x00E, 0, .replay⟩,
  ⟨61, 0x0DA, 0x006, 0, .replay⟩, ⟨61, 0x0DA, 0x002, 0, .require⟩, ⟨48, 0x0DA, 0xFFFF, 0, .noop⟩,
  ⟨62, 0x0DE, 0x001, 0, .replay⟩, ⟨48, 0x0DE, 0xFFFF, 0, .noop⟩, ⟨48, 0x0DF, 0x02D, 0, .replay⟩,
  ⟨62, 0x0DF, 0x003, 0, .replay⟩, ⟨64, 0x0E5, 0x00B, 0, .replay⟩, ⟨48, 0x0E5, 0xFFFF, 0, .noop⟩,
  ⟨166, 0x141, 0x005, 0, .replay⟩, ⟨87, 0x141, 0xFFFF, 0, .noop⟩,
  ⟨26, 0x06D, 0x017, 20, .permanent⟩, ⟨26, 0x06D, 0x01D, 20, .permanent⟩,
  ⟨26, 0x06D, 0x010, 10, .permanent⟩, ⟨26, 0x06F, 0x000, 10, .permanent⟩,
  ⟨26, 0x06F, 0x107, 0, .replay⟩, ⟨26, 0x06F, 0x001, 0, .require⟩,
  ⟨26, 0x06F, 0x002, 0, .require⟩, ⟨26, 0x06F, 0x003, 0, .require⟩,
  ⟨26, 0x06F, 0x004, 0, .require⟩, ⟨26, 0x06F, 0x005, 0, .require⟩,
  ⟨26, 0x06F, 0x006, 0, .require⟩, ⟨26, 0x06F, 0x007, 0, .require⟩,
  ⟨26, 0x06F, 0x008, 0, .require⟩, ⟨26, 0x06F, 0x009, 0, .require⟩,
  ⟨26, 0x06F, 0x00A, 0, .require⟩, ⟨26, 0x06F, 0x00B, 0, .require⟩,
  ⟨26, 0x06F, 0x00C, 0, .require⟩, ⟨26, 0x06F, 0x00D, 0, .require⟩,
  ⟨30, 0x09C, 0x027, 0, .continueGalleon⟩, ⟨30, 0x09C, 0x051, 0, .continueGalleon⟩,
  ⟨48, 0x0D4, 0x025, 50, .permanent⟩, ⟨48, 0x0D4, 0x027, 12, .permanent⟩,
  ⟨48, 0x0D5, 0x025, 50, .permanent⟩, ⟨48, 0x0D5, 0x027, 0, .replay⟩,
  ⟨48, 0x0DC, 0x02B, 20, .permanent⟩, ⟨34, 0x1AE, 0x03C, 40, .permanent⟩,
  ⟨34, 0x1AE, 0x000, 100, .permanent⟩, ⟨34, 0x1AE, 0x056, 0, .reveal⟩,
  ⟨44, 0x0BA, 0x000, 0, .replay⟩, ⟨44, 0x0BB, 0x001, 0, .replay⟩, ⟨44, 0x0BC, 0x002, 0, .replay⟩,
  ⟨44, 0x0BD, 0x003, 0, .replay⟩, ⟨44, 0x0BE, 0x004, 0, .replay⟩,
  ⟨45, 0x0BA, 0xFFFF, 0, .mermaid⟩, ⟨45, 0x0BB, 0xFFFF, 0, .mermaid⟩,
  ⟨45, 0x0BC, 0xFFFF, 0, .mermaid⟩, ⟨45, 0x0BD, 0xFFFF, 0, .mermaid⟩,
  ⟨45, 0x0BE, 0xFFFF, 0, .mermaid⟩, ⟨34, 0x1AA, 0x031, 0, .islesTrombone⟩,
  ⟨173, 0x18F, 0x010, 0, .replay⟩, ⟨173, 0x18F, 0x00F, 0, .replay⟩,
  ⟨174, 0x191, 0x00A, 0, .replay⟩, ⟨174, 0x191, 0x00C, 0, .replay⟩,
  ⟨170, 0x197, 0x000, 10, .permanent⟩, ⟨170, 0x197, 0x002, 0, .replay⟩,
  ⟨175, 0x18D, 0x00C, 20, .permanent⟩, ⟨175, 0x18D, 0x00D, 10, .permanent⟩,
  ⟨189, 0x189, 0x01D, 0, .replay⟩, ⟨189, 0x189, 0x01E, 0, .reveal⟩,
  ⟨173, 0x190, 0x004, 0, .replay⟩, ⟨173, 0x190, 0x011, 0, .replay⟩,
  ⟨178, 0x195, 0x009, 0, .replay⟩, ⟨178, 0x195, 0x004, 0, .replay⟩,
  ⟨85, 0x118, 0x000, 0, .replay⟩, ⟨72, 0x128, 0x000, 0, .replay⟩, ⟨72, 0x128, 0x001, 0, .replay⟩,
  ⟨72, 0x128, 0x002, 0, .replay⟩, ⟨72, 0x128, 0x003, 0, .replay⟩, ⟨72, 0x128, 0x004, 0, .replay⟩,
  ⟨72, 0x128, 0x038, 0, .replay⟩, ⟨72, 0x12C, 0x034, 0, .replay⟩, ⟨88, 0x130, 0x003, 0, .replay⟩,
  ⟨105, 0x133, 0x001, 0, .replay⟩, ⟨105, 0x133, 0x001, 0, .reveal⟩,
  ⟨17, 0x303, 0x003, 0, .replay⟩, ⟨17, 0x304, 0x004, 0, .replay⟩, ⟨17, 0x302, 0x005, 0, .replay⟩,
  ⟨17, 0x302, 0x02D, 0, .replay⟩, ⟨17, 0x302, 0x02E, 0, .replay⟩, ⟨17, 0x302, 0x02F, 0, .replay⟩,
  ⟨17, 0x302, 0x030, 0, .replay⟩, ⟨17, 0x302, 0x020, 0, .replay⟩, ⟨17, 0x302, 0x00E, 0, .replay⟩,
  ⟨17, 0x302, 0x008, 0, .replay⟩, ⟨17, 0x302, 0x026, 0, .replay⟩, ⟨17, 0x302, 0x011, 0, .replay⟩,
  ⟨17, 0x302, 0x009, 0, .replay⟩, ⟨17, 0x302, 0x024, 0, .replay⟩, ⟨17, 0x302, 0x00A, 0, .replay⟩,
  ⟨17, 0x302, 0x00F, 0, .replay⟩, ⟨17, 0x302, 0x01E, 0, .replay⟩, ⟨17, 0x302, 0x00B, 0, .replay⟩,
  ⟨17, 0x302, 0x010, 0, .replay⟩, ⟨17, 0x302, 0x022, 0, .replay⟩, ⟨17, 0x302, 0x00D, 0, .replay⟩,
  ⟨17, 0x302, 0x00C, 0, .replay⟩, ⟨17, 0x302, 0x1F6, 0, .replay⟩,
  ⟨17, 0x302, 0x01F, 0, .require⟩, ⟨17, 0x302, 0x021, 0, .require⟩,
  ⟨17, 0x302, 0x023, 0, .require⟩, ⟨17, 0x302, 0x025, 0, .require⟩,
  ⟨17, 0x302, 0x027, 0, .require⟩, ⟨38, 0x035, 0x01A, 0, .replay⟩,
  ⟨38, 0x035, 0x01B, 0, .replay⟩, ⟨38, 0x035, 0x01C, 0, .replay⟩, ⟨38, 0x035, 0x01D, 0, .replay⟩,
  ⟨38, 0x035, 0x01E, 0, .replay⟩, ⟨38, 0x035, 0x0A3, 0, .reveal⟩, ⟨38, 0x037, 0x028, 0, .replay⟩,
  ⟨38, 0x037, 0x027, 0, .replay⟩, ⟨38, 0x037, 0x010, 0, .replay⟩, ⟨38, 0x037, 0x011, 0, .replay⟩,
  ⟨38, 0x037, 0x012, 0, .replay⟩, ⟨38, 0x037, 0x013, 0, .replay⟩, ⟨38, 0x037, 0x014, 0, .replay⟩,
  ⟨170, 0x1A1, 0x008, 0, .replay⟩, ⟨170, 0x1A2, 0x009, 0, .replay⟩,
  ⟨17, 0x305, 0x059, 0, .replay⟩, ⟨17, 0x306, 0x058, 0, .replay⟩, ⟨38, 0x032, 0x00D, 0, .replay⟩,
  ⟨38, 0x032, 0x00E, 0, .replay⟩, ⟨38, 0x032, 0x00F, 0, .replay⟩,
  ⟨38, 0x032, 0xFFFF, 0, .llamaFree⟩, ⟨20, 0x032, 0x016, 0, .replay⟩,
  ⟨20, 0x04C, 0x016, 0, .replay⟩, ⟨20, 0x04C, 0x018, 0, .replay⟩,
  ⟨20, 0x04C, 0xFFFF, 0, .llamaWater⟩, ⟨38, 0x04C, 0xFFFF, 0, .noop⟩,
  ⟨30, 0x09E, 0x038, 0, .replay⟩, ⟨30, 0x09E, 0xFFFF, 0, .seal⟩, ⟨39, 0x09E, 0xFFFF, 0, .noop⟩,
  ⟨48, 0x0E6, 0xFFFF, 0, .noop⟩, ⟨48, 0x0E7, 0xFFFF, 0, .noop⟩, ⟨48, 0x0E8, 0xFFFF, 0, .noop⟩,
  ⟨48, 0x0E9, 0xFFFF, 0, .noop⟩, ⟨48, 0x0EA, 0xFFFF, 0, .noop⟩,
  ⟨64, 0x0E6, 0x00D, 0, .mushroomSwitch⟩, ⟨64, 0x0E7, 0x00E, 0, .mushroomSwitch⟩,
  ⟨64, 0x0E8, 0x00F, 0, .mushroomSwitch⟩, ⟨64, 0x0E9, 0x010, 0, .mushroomSwitch⟩,
  ⟨64, 0x0EA, 0x00C, 0, .mushroomSwitch⟩, ⟨48, 0x0F8, 0xFFFF, 0, .rabbit⟩,
  ⟨48, 0x0FB, 0xFFFF, 0, .beanstalk⟩, ⟨38, 0x045, 0xFFFF, 0, .noop⟩,
  ⟨87, 0x138, 0xFFFF, 0, .noop⟩, ⟨87, 0x157, 0xFFFF, 0, .noop⟩, ⟨87, 0x158, 0xFFFF, 0, .noop⟩,
  ⟨87, 0x159, 0xFFFF, 0, .noop⟩, ⟨87, 0x15A, 0xFFFF, 0, .noop⟩, ⟨87, 0x15B, 0xFFFF, 0, .noop⟩,
  ⟨87, 0x15C, 0xFFFF, 0, .noop⟩
]

theorem live_bounds : ∀ s ∈ coopLiveWorldStates, s.object ≤ 0xFFFF := by decide +kernel

attribute [irreducible] coopLiveWorldStates

/-- `COOP_LIVE_WORLD_SCRIPT_SLOTS`. -/
abbrev coopLiveWorldScriptSlots : Nat := 600

/-- `coop_live_world_transient_eligible`. -/
def transientEligible (state : CoopLiveWorldState) : Bool :=
  decide (state.mode = .direct ∧ state.flag ≠ 0x02E ∧ state.flag ≠ 0x06C ∧ state.flag ≠ 0x098
    ∧ state.flag ≠ 0x0CB ∧ state.flag ≠ 0x102 ∧ state.flag ≠ 0x12E ∧ state.flag ≠ 0x160)

/-- An earlier row is about the same object. -/
def duplicateRow (earlier : List CoopLiveWorldState) (state : CoopLiveWorldState) : Bool :=
  earlier.any fun e => e.map == state.map && e.object == state.object

/-- The objects of the rows that pass `keep`, are about `map` and repeat no earlier row. -/
def firstRows (map : Nat) (keep : CoopLiveWorldState → Bool) :
    List CoopLiveWorldState → List CoopLiveWorldState → List Nat
  | _, [] => []
  | earlier, state :: rows =>
    let rest := firstRows map keep (state :: earlier) rows
    if state.map = map ∧ !duplicateRow earlier state ∧ keep state then state.object :: rest
    else rest

variable {map : Nat} {keep : CoopLiveWorldState → Bool}

/-- A kept row comes from the table and is about an object no earlier row is about. -/
theorem mem_firstRows {o : Nat} : ∀ {rows earlier : List CoopLiveWorldState},
    o ∈ firstRows map keep earlier rows →
      (∃ state ∈ rows, state.map = map ∧ state.object = o ∧ keep state = true) ∧
        ∀ e ∈ earlier, e.map = map → e.object ≠ o
  | [], _, h => absurd h (List.not_mem_nil)
  | state :: rows, earlier, h => by
    have hrest : o ∈ firstRows map keep (state :: earlier) rows →
        (∃ s ∈ state :: rows, s.map = map ∧ s.object = o ∧ keep s = true) ∧
          ∀ e ∈ earlier, e.map = map → e.object ≠ o := by
      intro h
      obtain ⟨⟨s, hs, hk⟩, he⟩ := mem_firstRows h
      exact ⟨⟨s, List.mem_cons_of_mem _ hs, hk⟩,
        fun e hm => he e (List.mem_cons_of_mem _ hm)⟩
    rw [firstRows] at h
    split at h
    · rename_i hc
      obtain ⟨hm, hd, hk⟩ := hc
      rcases List.mem_cons.mp h with rfl | h
      · refine ⟨⟨state, List.mem_cons_self, hm, rfl, hk⟩, fun e he hem heo => ?_⟩
        have : duplicateRow earlier state = true :=
          List.any_eq_true.mpr ⟨e, he, by simp [hem, hm, heo]⟩
        simp [this] at hd
      · exact hrest h
    · exact hrest h

/-- **No object of a map is kept twice.** -/
theorem firstRows_nodup : ∀ (rows earlier : List CoopLiveWorldState),
    (firstRows map keep earlier rows).Nodup
  | [], _ => List.nodup_nil
  | state :: rows, earlier => by
    rw [firstRows]
    split
    · rename_i hc
      refine List.nodup_cons.mpr ⟨fun h => ?_, firstRows_nodup rows _⟩
      exact (mem_firstRows h).2 state (by simp) hc.1 rfl
    · exact firstRows_nodup rows _

end Dk64Port.Coop
