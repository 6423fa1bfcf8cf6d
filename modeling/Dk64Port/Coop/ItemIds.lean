import Mathlib.Tactic.Common

/-!
# Item ids and the tables their prerequisites are read from

The id layout of `mod/items_policy.h`, `mod/progression_ids.h` and `mod/troff_ids.h`, and the three
tables `coop_items_full_dependencies` consults: the Bananaport tags (`mod/travel_ids.h`), the
permanent world unlocks (`mod/world_ids.h` with `mod/world_expansion.inc`) and their ownership
requirements. Ids are natural numbers; a `short` or `signed char` that may be `-1` is an `Int`.
-/

namespace Dk64Port.Coop

/-- A 32-bit word. -/
abbrev Word := BitVec 32

/-- A 64-bit word. -/
abbrev Word64 := BitVec 64

/-! ## Tables -/

/-- `CoopWarpTag`. -/
structure CoopWarpTag where
  flag : Nat
  map : Nat
  requiredItem : Int

/-- `coop_warp_tags`. -/
def coopWarpTags : List CoopWarpTag := [
  ⟨0x020, 7, -1⟩, ⟨0x021, 7, -1⟩, ⟨0x028, 7, -1⟩, ⟨0x029, 7, -1⟩, ⟨0x025, 7, -1⟩,
  ⟨0x023, 7, -1⟩, ⟨0x024, 7, -1⟩, ⟨0x022, 7, -1⟩, ⟨0x026, 7, -1⟩, ⟨0x027, 7, 175⟩,
  ⟨0x058, 20, -1⟩, ⟨0x059, 20, -1⟩, ⟨0x05A, 20, -1⟩, ⟨0x05B, 20, -1⟩, ⟨0x08D, 26, -1⟩,
  ⟨0x091, 26, -1⟩, ⟨0x095, 26, -1⟩, ⟨0x094, 26, -1⟩, ⟨0x096, 26, -1⟩, ⟨0x093, 26, -1⟩,
  ⟨0x08F, 26, -1⟩, ⟨0x08E, 26, -1⟩, ⟨0x092, 26, -1⟩, ⟨0x090, 26, -1⟩, ⟨0x0A9, 30, -1⟩,
  ⟨0x0AA, 30, -1⟩, ⟨0x0AF, 30, -1⟩, ⟨0x0AC, 30, -1⟩, ⟨0x0AE, 30, -1⟩, ⟨0x0AD, 30, -1⟩,
  ⟨0x0AB, 30, -1⟩, ⟨0x0B1, 30, -1⟩, ⟨0x0B2, 30, -1⟩, ⟨0x1B1, 34, -1⟩, ⟨0x1B2, 34, -1⟩,
  ⟨0x1B3, 34, -1⟩, ⟨0x1B4, 34, -1⟩, ⟨0x1B6, 34, -1⟩, ⟨0x1BA, 34, -1⟩, ⟨0x1B5, 34, -1⟩,
  ⟨0x1B7, 34, -1⟩, ⟨0x1B8, 34, -1⟩, ⟨0x1B9, 34, -1⟩, ⟨0x04F, 38, -1⟩, ⟨0x050, 38, -1⟩,
  ⟨0x056, 38, -1⟩, ⟨0x052, 38, -1⟩, ⟨0x051, 38, -1⟩, ⟨0x057, 38, -1⟩, ⟨0x053, 38, -1⟩,
  ⟨0x054, 38, -1⟩, ⟨0x055, 38, -1⟩, ⟨0x0ED, 48, -1⟩, ⟨0x0EE, 48, -1⟩, ⟨0x0EF, 48, -1⟩,
  ⟨0x0F0, 48, -1⟩, ⟨0x0F1, 48, -1⟩, ⟨0x0F2, 48, -1⟩, ⟨0x0F3, 48, -1⟩, ⟨0x0F4, 48, -1⟩,
  ⟨0x0F5, 48, -1⟩, ⟨0x0F6, 48, -1⟩, ⟨0x11B, 72, -1⟩, ⟨0x11C, 72, -1⟩, ⟨0x11E, 72, -1⟩,
  ⟨0x11D, 72, -1⟩, ⟨0x123, 72, -1⟩, ⟨0x121, 72, -1⟩, ⟨0x11F, 72, -1⟩, ⟨0x120, 72, -1⟩,
  ⟨0x122, 72, -1⟩, ⟨0x14D, 87, -1⟩, ⟨0x148, 87, -1⟩, ⟨0x14C, 87, -1⟩, ⟨0x147, 87, -1⟩,
  ⟨0x14A, 87, -1⟩, ⟨0x14E, 87, -1⟩, ⟨0x150, 87, -1⟩, ⟨0x149, 87, -1⟩, ⟨0x14B, 87, -1⟩,
  ⟨0x14F, 87, -1⟩, ⟨0x151, 112, -1⟩, ⟨0x153, 112, -1⟩, ⟨0x155, 112, -1⟩, ⟨0x156, 112, -1⟩,
  ⟨0x154, 112, -1⟩, ⟨0x152, 112, -1⟩]

/-- `CoopWorldUnlock`. -/
structure CoopWorldUnlock where
  flag : Nat
  level : Nat
  prerequisite : Int

/-- `coop_world_unlocks`. -/
def coopWorldUnlocks : List CoopWorldUnlock := [
  ⟨0x032, 1, -1⟩, ⟨0x04C, 1, 0⟩, ⟨0x09E, 3, -1⟩, ⟨0x0E6, 4, -1⟩, ⟨0x0E7, 4, -1⟩, ⟨0x0E8, 4, -1⟩,
  ⟨0x0E9, 4, -1⟩, ⟨0x0EA, 4, -1⟩, ⟨0x0F8, 4, -1⟩, ⟨0x0FB, 4, -1⟩, ⟨0x06D, 2, -1⟩, ⟨0x06E, 2, -1⟩,
  ⟨0x06F, 2, -1⟩, ⟨0x077, 2, -1⟩, ⟨0x078, 2, -1⟩, ⟨0x081, 2, -1⟩, ⟨0x085, 2, -1⟩, ⟨0x097, 2, -1⟩,
  ⟨0x007, 0, -1⟩, ⟨0x00D, 0, -1⟩, ⟨0x00E, 0, -1⟩, ⟨0x00F, 0, -1⟩, ⟨0x010, 0, -1⟩, ⟨0x01E, 0, -1⟩,
  ⟨0x02B, 0, -1⟩, ⟨0x000, 0, -1⟩, ⟨0x02E, 0, -1⟩, ⟨0x02F, 1, -1⟩, ⟨0x030, 1, -1⟩, ⟨0x035, 1, -1⟩,
  ⟨0x037, 1, -1⟩, ⟨0x045, 1, -1⟩, ⟨0x04E, 1, -1⟩, ⟨0x06C, 1, -1⟩, ⟨0x098, 2, -1⟩, ⟨0x099, 3, -1⟩,
  ⟨0x09B, 3, -1⟩, ⟨0x09C, 3, -1⟩, ⟨0x09F, 3, -1⟩, ⟨0x0A1, 3, -1⟩, ⟨0x0A2, 3, -1⟩, ⟨0x0B3, 3, -1⟩,
  ⟨0x0B4, 3, -1⟩, ⟨0x0B5, 3, -1⟩, ⟨0x0B9, 3, -1⟩, ⟨0x0BA, 3, -1⟩, ⟨0x0BB, 3, -1⟩, ⟨0x0BC, 3, -1⟩,
  ⟨0x0BD, 3, -1⟩, ⟨0x0BE, 3, -1⟩, ⟨0x0CB, 3, -1⟩, ⟨0x0CF, 4, -1⟩, ⟨0x0D0, 4, -1⟩, ⟨0x0D2, 4, -1⟩,
  ⟨0x0D4, 4, -1⟩, ⟨0x0D5, 4, 54⟩, ⟨0x0DA, 4, -1⟩, ⟨0x0DC, 4, -1⟩, ⟨0x0DE, 4, -1⟩, ⟨0x0DF, 4, -1⟩,
  ⟨0x0E5, 4, -1⟩, ⟨0x102, 4, -1⟩, ⟨0x109, 5, -1⟩, ⟨0x10A, 5, -1⟩, ⟨0x10B, 5, -1⟩, ⟨0x118, 5, -1⟩,
  ⟨0x128, 5, -1⟩, ⟨0x12C, 5, -1⟩, ⟨0x12E, 5, -1⟩, ⟨0x130, 6, -1⟩, ⟨0x133, 6, -1⟩, ⟨0x138, 6, -1⟩,
  ⟨0x141, 6, -1⟩, ⟨0x144, 6, -1⟩, ⟨0x157, 6, -1⟩, ⟨0x158, 6, -1⟩, ⟨0x159, 6, -1⟩, ⟨0x15A, 6, -1⟩,
  ⟨0x15B, 6, -1⟩, ⟨0x15C, 6, -1⟩, ⟨0x160, 6, -1⟩, ⟨0x181, 255, -1⟩, ⟨0x189, 255, -1⟩, ⟨0x18D, 255, -1⟩,
  ⟨0x18F, 255, -1⟩, ⟨0x190, 255, -1⟩, ⟨0x191, 255, -1⟩, ⟨0x195, 255, -1⟩, ⟨0x197, 255, -1⟩, ⟨0x198, 255, -1⟩,
  ⟨0x199, 255, -1⟩, ⟨0x1A1, 255, -1⟩, ⟨0x1A2, 255, -1⟩, ⟨0x1AA, 7, -1⟩, ⟨0x1AE, 7, -1⟩, ⟨0x302, 8, -1⟩,
  ⟨0x303, 8, -1⟩, ⟨0x304, 8, -1⟩, ⟨0x305, 8, -1⟩, ⟨0x306, 8, -1⟩]

/-- `CoopWorldRequirement`: at least `minimum` of the `count` ids from `first` on. -/
structure CoopWorldRequirement where
  flag : Nat
  first : Nat
  count : Nat
  minimum : Nat

/-- `coop_world_requirements`. -/
def coopWorldRequirements : List CoopWorldRequirement := [
  ⟨0x02E, 70, 1, 1⟩, ⟨0x06C, 71, 1, 1⟩, ⟨0x098, 72, 1, 1⟩, ⟨0x0CB, 73, 1, 1⟩,
  ⟨0x102, 74, 1, 1⟩, ⟨0x12E, 75, 1, 1⟩, ⟨0x160, 76, 1, 1⟩, ⟨0x189, 40, 20, 20⟩,
  ⟨0x189, 2198, 1, 1⟩, ⟨0x303, 78, 2, 2⟩, ⟨0x304, 60, 10, 4⟩]

/-! ## The id layout -/

def coopSnideFirst : Nat := 80
def coopSnideCount : Nat := 40
def coopGbFirst : Nat := 160

def coopLobby : Nat := 2145
def coopKeyTurnFirst : Nat := 2146
def coopKlumsyFree : Nat := 2154
def coopMoveFirst : Nat := 2155
def coopSlamFirst : Nat := 2170
def coopBeltFirst : Nat := 2172
def coopMelonFirst : Nat := 2189
def coopTrainingSpawned : Nat := 2191
def coopTrainingSkillFirst : Nat := 2192
def coopTrainingComplete : Nat := 2196
def coopFirstSlam : Nat := 2197
def coopWarpFirst : Nat := 2199
def coopWarpTagCount : Nat := 87
def coopBlockerFirst : Nat := coopWarpFirst + coopWarpTagCount
def coopWorldFirst : Nat := coopBlockerFirst + 8
def coopWorldFactoryFirst : Nat := 10
def coopWorldUnlockCount : Nat := 100
def coopProgressionEnd : Nat := coopWorldFirst + coopWorldUnlockCount

def coopTroffFirst : Nat := coopProgressionEnd
def coopTroffLevels : Nat := 7
def coopTroffKongs : Nat := 5
def coopTroffCapacity : Nat := 100
def coopTroffBuckets : Nat := coopTroffLevels * coopTroffKongs
def coopTroffEnd : Nat := coopTroffFirst + coopTroffBuckets * coopTroffCapacity

def coopJapesBoulderBunch : Nat := coopTroffEnd
def coopKroolDefeated : Nat := coopJapesBoulderBunch + 1
def coopArcadeCoinsPaid : Nat := coopKroolDefeated + 1
/-- `COOP_ITEMS`: the ids in use. -/
def coopItems : Nat := coopArcadeCoinsPaid + 1
def coopFactoryArcadeLever : Nat := coopWorldFirst + coopWorldFactoryFirst + 5

/-- `COOP_ITEM_WORDS`. -/
abbrev coopItemWords : Nat := 192
/-- `COOP_ITEM_PAGE_WORDS`. -/
abbrev coopItemPageWords : Nat := 24
/-- `COOP_ITEM_PAGES`. -/
abbrev coopItemPages : Nat := 8
/-- `COOP_ITEM_WIRE_WORDS`. -/
abbrev coopItemWireWords : Nat := 5 + 2 * coopItemPageWords

example : coopWarpTags.length = coopWarpTagCount ∧
    coopWorldUnlocks.length = coopWorldUnlockCount ∧ coopItems = 5897 := by decide

end Dk64Port.Coop
