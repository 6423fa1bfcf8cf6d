import Dk64Port.Coop.ItemIds
import Mathlib.Data.List.Nodup
import Mathlib.Algebra.Group.Nat.Defs

/-!
# Collectibles and permanent flags (`mod/collectible_ids.h`, `mod/items_policy.h`)

The golden bananas and the actor pickups by their flag and the counter they credit, the layout of
the ordinary pickups, and the permanent flag of an item id.

* `coopItemFlag_injective`: **no two item ids share a permanent flag.**
* `pickupBit_injective`: no two ordinary pickups share a save bit.
-/

namespace Dk64Port.Coop

/-! ## Tables -/

/-- `CoopGoldenBanana`. -/
structure CoopGoldenBanana where
  flag : Nat
  prop : Nat
  propType : Nat
  barrel : Nat
  map : Nat
  level : Nat
  kong : Nat

/-- `coop_golden_bananas`. -/
def coopGoldenBananas : List CoopGoldenBanana := [
  ⟨0x001, 0xFFFF, 0xFFFF, 0x20, 7, 0, 2⟩, ⟨0x002, 0xFFFF, 0xFFFF, 0x1F, 7, 0, 3⟩,
  ⟨0x003, 0x0001, 0x0074, 0xFF, 37, 0, 0⟩, ⟨0x004, 0x0069, 0x0074, 0xFF, 7, 0, 0⟩,
  ⟨0x005, 0x0048, 0x0074, 0xFF, 7, 0, 0⟩, ⟨0x008, 0x0068, 0x0074, 0xFF, 7, 0, 3⟩,
  ⟨0x009, 0x003F, 0x0074, 0xFF, 12, 0, 3⟩, ⟨0x00A, 0x0004, 0x0074, 0xFF, 13, 0, 2⟩,
  ⟨0x00B, 0xFFFF, 0xFFFF, 0x22, 7, 0, 2⟩, ⟨0x00C, 0x0003, 0x0074, 0xFF, 33, 0, 4⟩,
  ⟨0x012, 0x004D, 0x0074, 0xFF, 7, 0, 1⟩, ⟨0x013, 0x004F, 0x0074, 0xFF, 7, 0, 2⟩,
  ⟨0x014, 0x0044, 0x0074, 0xFF, 7, 0, 0⟩, ⟨0x015, 0x004C, 0x0074, 0xFF, 7, 0, 3⟩,
  ⟨0x016, 0x0050, 0x0074, 0xFF, 7, 0, 4⟩, ⟨0x017, 0x0052, 0x0074, 0xFF, 7, 0, 1⟩,
  ⟨0x018, 0xFFFF, 0xFFFF, 0xFF, 6, 0, 1⟩, ⟨0x019, 0xFFFF, 0xFFFF, 0xFF, 7, 0, 4⟩,
  ⟨0x01C, 0xFFFF, 0xFFFF, 0x21, 7, 0, 4⟩, ⟨0x01F, 0x001E, 0x0074, 0xFF, 7, 0, 1⟩,
  ⟨0x031, 0x0023, 0x0074, 0xFF, 38, 1, 4⟩, ⟨0x033, 0x0026, 0x0074, 0xFF, 38, 1, 0⟩,
  ⟨0x034, 0xFFFF, 0xFFFF, 0x23, 38, 1, 4⟩, ⟨0x036, 0x00A3, 0x0074, 0xFF, 38, 1, 1⟩,
  ⟨0x038, 0x0006, 0x0074, 0xFF, 21, 1, 1⟩, ⟨0x039, 0x0006, 0x0074, 0xFF, 19, 1, 0⟩,
  ⟨0x03A, 0x0006, 0x0074, 0xFF, 22, 1, 3⟩, ⟨0x03B, 0xFFFF, 0xFFFF, 0x00, 24, 1, 4⟩,
  ⟨0x03C, 0xFFFF, 0xFFFF, 0x00, 23, 1, 2⟩, ⟨0x03E, 0xFFFF, 0xFFFF, 0x21, 38, 1, 0⟩,
  ⟨0x03F, 0x00EB, 0x0074, 0xFF, 38, 1, 1⟩, ⟨0x040, 0x0009, 0x0074, 0xFF, 16, 1, 4⟩,
  ⟨0x041, 0x007E, 0x0074, 0xFF, 16, 1, 3⟩, ⟨0x043, 0x005B, 0x0074, 0xFF, 16, 1, 1⟩,
  ⟨0x044, 0xFFFF, 0xFFFF, 0xFF, 38, 1, 2⟩, ⟨0x047, 0x00AA, 0x0074, 0xFF, 20, 1, 3⟩,
  ⟨0x048, 0x002B, 0x0074, 0xFF, 20, 1, 2⟩, ⟨0x049, 0xFFFF, 0xFFFF, 0x02, 20, 1, 2⟩,
  ⟨0x04B, 0x0048, 0x0074, 0xFF, 14, 1, 3⟩, ⟨0x04D, 0x006C, 0x0074, 0xFF, 20, 1, 0⟩,
  ⟨0x070, 0x0002, 0x0074, 0xFF, 29, 2, 0⟩, ⟨0x071, 0x002C, 0x0074, 0xFF, 26, 2, 1⟩,
  ⟨0x072, 0x0029, 0x0074, 0xFF, 26, 2, 4⟩, ⟨0x073, 0x002A, 0x0074, 0xFF, 26, 2, 2⟩,
  ⟨0x074, 0xFFFF, 0xFFFF, 0x10, 26, 2, 3⟩, ⟨0x076, 0x0078, 0x0074, 0xFF, 26, 2, 2⟩,
  ⟨0x079, 0x0063, 0x0074, 0xFF, 26, 2, 4⟩, ⟨0x07A, 0x007E, 0x0074, 0xFF, 26, 2, 0⟩,
  ⟨0x07B, 0x0023, 0x0074, 0xFF, 26, 2, 3⟩, ⟨0x07C, 0x0082, 0x0074, 0xFF, 26, 2, 3⟩,
  ⟨0x07D, 0x003E, 0x0074, 0xFF, 26, 2, 2⟩, ⟨0x07E, 0x0060, 0x0074, 0xFF, 26, 2, 1⟩,
  ⟨0x07F, 0x007C, 0x0074, 0xFF, 26, 2, 4⟩, ⟨0x080, 0x0007, 0x0074, 0xFF, 36, 2, 0⟩,
  ⟨0x082, 0x0108, 0x0074, 0xFF, 26, 2, 0⟩, ⟨0x086, 0xFFFF, 0xFFFF, 0x0D, 26, 2, 1⟩,
  ⟨0x087, 0xFFFF, 0xFFFF, 0x00, 26, 2, 1⟩, ⟨0x088, 0xFFFF, 0xFFFF, 0x0E, 26, 2, 4⟩,
  ⟨0x089, 0xFFFF, 0xFFFF, 0x0F, 26, 2, 2⟩, ⟨0x08B, 0x0062, 0x0074, 0xFF, 27, 2, 3⟩,
  ⟨0x09A, 0x0032, 0x0074, 0xFF, 30, 3, 4⟩, ⟨0x09D, 0x002F, 0x0074, 0xFF, 49, 3, 0⟩,
  ⟨0x0A3, 0xFFFF, 0xFFFF, 0x06, 30, 3, 1⟩, ⟨0x0A4, 0xFFFF, 0xFFFF, 0x07, 30, 3, 2⟩,
  ⟨0x0A5, 0xFFFF, 0xFFFF, 0xFF, 39, 3, 0⟩, ⟨0x0A6, 0x0006, 0x0074, 0xFF, 31, 3, 4⟩,
  ⟨0x0A7, 0x000F, 0x0074, 0xFF, 51, 3, 1⟩, ⟨0x0B6, 0x000E, 0x0074, 0xFF, 30, 3, 4⟩,
  ⟨0x0B7, 0x0000, 0x0074, 0xFF, 47, 3, 2⟩, ⟨0x0B8, 0xFFFF, 0xFFFF, 0x00, 47, 3, 3⟩,
  ⟨0x0BF, 0x000E, 0x0074, 0xFF, 45, 3, 3⟩, ⟨0x0C0, 0x006B, 0x0074, 0xFF, 30, 3, 2⟩,
  ⟨0x0C1, 0x002E, 0x0074, 0xFF, 30, 3, 0⟩, ⟨0x0C5, 0xFFFF, 0xFFFF, 0x01, 43, 3, 4⟩,
  ⟨0x0C6, 0xFFFF, 0xFFFF, 0x00, 43, 3, 1⟩, ⟨0x0C7, 0x000E, 0x0074, 0xFF, 43, 3, 2⟩,
  ⟨0x0C8, 0xFFFF, 0xFFFF, 0x00, 46, 3, 0⟩, ⟨0x0C9, 0x0021, 0x0074, 0xFF, 46, 3, 3⟩,
  ⟨0x0CA, 0xFFFF, 0xFFFF, 0x03, 179, 3, 3⟩, ⟨0x0CC, 0x002D, 0x0074, 0xFF, 30, 3, 1⟩,
  ⟨0x0CD, 0x0000, 0x0074, 0xFF, 52, 4, 3⟩, ⟨0x0D1, 0x0050, 0x0074, 0xFF, 48, 4, 3⟩,
  ⟨0x0D3, 0xFFFF, 0xFFFF, 0x12, 48, 4, 1⟩, ⟨0x0D6, 0x0028, 0x0074, 0xFF, 48, 4, 1⟩,
  ⟨0x0D7, 0xFFFF, 0xFFFF, 0xFF, 55, 4, 4⟩, ⟨0x0D8, 0x0003, 0x0074, 0xFF, 56, 4, 1⟩,
  ⟨0x0D9, 0x0002, 0x0074, 0xFF, 58, 4, 2⟩, ⟨0x0DB, 0x002B, 0x0074, 0xFF, 48, 4, 0⟩,
  ⟨0x0DD, 0x000D, 0x0074, 0xFF, 61, 4, 4⟩, ⟨0x0E0, 0xFFFF, 0xFFFF, 0x00, 63, 4, 2⟩,
  ⟨0x0E1, 0x0002, 0x0074, 0xFF, 71, 4, 4⟩, ⟨0x0E2, 0x0000, 0x0074, 0xFF, 70, 4, 2⟩,
  ⟨0x0E3, 0xFFFF, 0xFFFF, 0x08, 64, 4, 3⟩, ⟨0x0E4, 0x0003, 0x0074, 0xFF, 64, 4, 0⟩,
  ⟨0x0EB, 0xFFFF, 0xFFFF, 0x03, 59, 4, 0⟩, ⟨0x0F7, 0x0001, 0x0074, 0xFF, 60, 4, 3⟩,
  ⟨0x0F9, 0x0057, 0x0074, 0xFF, 48, 4, 2⟩, ⟨0x0FA, 0xFFFF, 0xFFFF, 0x15, 48, 4, 1⟩,
  ⟨0x0FD, 0x003E, 0x0074, 0xFF, 48, 4, 4⟩, ⟨0x0FE, 0x0039, 0x0074, 0x16, 48, 4, 0⟩,
  ⟨0x103, 0x0001, 0x0074, 0xFF, 82, 5, 2⟩, ⟨0x104, 0x0000, 0x0074, 0xFF, 93, 5, 3⟩,
  ⟨0x105, 0x0008, 0x0074, 0xFF, 91, 5, 0⟩, ⟨0x106, 0x0001, 0x0074, 0xFF, 92, 5, 1⟩,
  ⟨0x107, 0xFFFF, 0xFFFF, 0x00, 90, 5, 4⟩, ⟨0x108, 0x0001, 0x0074, 0xFF, 94, 5, 2⟩,
  ⟨0x10C, 0x003E, 0x0074, 0xFF, 72, 5, 4⟩, ⟨0x10E, 0x0028, 0x0074, 0xFF, 72, 5, 4⟩,
  ⟨0x10F, 0x0010, 0x0074, 0xFF, 98, 5, 2⟩, ⟨0x112, 0x0001, 0x0074, 0xFF, 100, 5, 1⟩,
  ⟨0x113, 0x0001, 0x0074, 0xFF, 86, 5, 0⟩, ⟨0x114, 0x0001, 0x0074, 0xFF, 89, 5, 0⟩,
  ⟨0x116, 0x0000, 0x0074, 0xFF, 95, 5, 4⟩, ⟨0x117, 0x0002, 0x0074, 0xFF, 84, 5, 3⟩,
  ⟨0x119, 0x0003, 0x0074, 0xFF, 85, 5, 2⟩, ⟨0x125, 0x0004, 0x0074, 0xFF, 200, 5, 1⟩,
  ⟨0x126, 0xFFFF, 0xFFFF, 0x06, 72, 5, 1⟩, ⟨0x127, 0xFFFF, 0xFFFF, 0x07, 72, 5, 3⟩,
  ⟨0x129, 0x0029, 0x0074, 0xFF, 72, 5, 3⟩, ⟨0x12A, 0x0032, 0x0074, 0x13, 72, 5, 0⟩,
  ⟨0x12D, 0x001E, 0x0288, 0xFF, 189, 7, 3⟩, ⟨0x131, 0xFFFF, 0xFFFF, 0x01, 88, 6, 1⟩,
  ⟨0x132, 0xFFFF, 0xFFFF, 0x00, 105, 6, 2⟩, ⟨0x134, 0x0003, 0x0074, 0xFF, 108, 6, 2⟩,
  ⟨0x135, 0x000D, 0x0074, 0xFF, 108, 6, 3⟩, ⟨0x136, 0x0008, 0x0074, 0xFF, 112, 6, 1⟩,
  ⟨0x137, 0xFFFF, 0xFFFF, 0x00, 112, 6, 4⟩, ⟨0x139, 0x0003, 0x0074, 0xFF, 114, 6, 0⟩,
  ⟨0x13A, 0x0007, 0x0074, 0xFF, 113, 6, 4⟩, ⟨0x13B, 0xFFFF, 0xFFFF, 0x00, 151, 6, 3⟩,
  ⟨0x13C, 0xFFFF, 0xFFFF, 0x00, 163, 6, 2⟩, ⟨0x13E, 0xFFFF, 0xFFFF, 0xFF, 106, 6, 0⟩,
  ⟨0x13F, 0xFFFF, 0xFFFF, 0x00, 164, 6, 4⟩, ⟨0x140, 0x0008, 0x0074, 0xFF, 164, 6, 0⟩,
  ⟨0x142, 0x0006, 0x0074, 0xFF, 166, 6, 4⟩, ⟨0x143, 0x0001, 0x0074, 0xFF, 168, 6, 2⟩,
  ⟨0x145, 0xFFFF, 0xFFFF, 0xFF, 185, 6, 3⟩, ⟨0x146, 0x000F, 0x0074, 0xFF, 163, 6, 0⟩,
  ⟨0x15E, 0xFFFF, 0xFFFF, 0x09, 87, 6, 1⟩, ⟨0x15F, 0x0004, 0x0074, 0xFF, 167, 6, 3⟩,
  ⟨0x161, 0x000D, 0x0074, 0xFF, 163, 6, 1⟩, ⟨0x17D, 0x0004, 0x0074, 0xFF, 34, 7, 0⟩,
  ⟨0x18E, 0xFFFF, 0xFFFF, 0xFF, 34, 7, 2⟩, ⟨0x192, 0xFFFF, 0xFFFF, 0x01, 173, 7, 3⟩,
  ⟨0x193, 0x0009, 0x0074, 0xFF, 174, 7, 3⟩, ⟨0x194, 0xFFFF, 0xFFFF, 0xFF, 34, 7, 0⟩,
  ⟨0x196, 0xFFFF, 0xFFFF, 0x0A, 170, 7, 4⟩, ⟨0x19A, 0xFFFF, 0xFFFF, 0xFF, 34, 7, 1⟩,
  ⟨0x19B, 0x0005, 0x0074, 0xFF, 194, 7, 0⟩, ⟨0x19F, 0xFFFF, 0xFFFF, 0x02, 193, 7, 2⟩,
  ⟨0x1A0, 0xFFFF, 0xFFFF, 0x02, 195, 7, 1⟩, ⟨0x1A3, 0x004D, 0x0074, 0xFF, 34, 7, 0⟩,
  ⟨0x1A4, 0x002B, 0x0074, 0xFF, 34, 7, 3⟩, ⟨0x1A5, 0x002F, 0x0074, 0xFF, 34, 7, 2⟩,
  ⟨0x1A6, 0x002D, 0x0074, 0xFF, 34, 7, 4⟩, ⟨0x1A7, 0x002E, 0x0074, 0xFF, 34, 7, 1⟩,
  ⟨0x1A8, 0xFFFF, 0xFFFF, 0xFF, 34, 7, 4⟩, ⟨0x1A9, 0xFFFF, 0xFFFF, 0xFF, 34, 7, 3⟩,
  ⟨0x1AC, 0xFFFF, 0xFFFF, 0x0B, 34, 7, 1⟩, ⟨0x1AD, 0x0003, 0x0074, 0xFF, 97, 7, 2⟩,
  ⟨0x1AF, 0x0056, 0x0074, 0xFF, 34, 7, 4⟩]

/-- `CoopActorPickup`. -/
structure CoopActorPickup where
  flag : Nat
  object : Nat
  type : Nat
  map : Nat
  level : Nat
  kong : Nat
  amount : Nat

/-- `coop_actor_pickups`. -/
def coopActorPickups : List CoopActorPickup := [
  ⟨0x26C, 0x0002, 0x5B, 4, 0, 1, 10⟩, ⟨0x26D, 0x002C, 0x8B, 7, 0, 0, 0⟩,
  ⟨0x26E, 0x0023, 0x5B, 7, 0, 1, 10⟩, ⟨0x26F, 0x0014, 0x72, 7, 0, 0, 10⟩,
  ⟨0x270, 0x002E, 0x6F, 7, 0, 4, 10⟩, ⟨0x271, 0x002B, 0x71, 7, 0, 2, 10⟩,
  ⟨0x272, 0x0029, 0x5B, 7, 0, 1, 10⟩, ⟨0x273, 0x0028, 0x72, 7, 0, 0, 10⟩,
  ⟨0x274, 0x0027, 0x72, 7, 0, 0, 10⟩, ⟨0x275, 0x002A, 0x70, 7, 0, 3, 10⟩,
  ⟨0x276, 0x0026, 0x70, 7, 0, 3, 10⟩, ⟨0x277, 0x002D, 0x6F, 7, 0, 4, 10⟩,
  ⟨0x278, 0x002F, 0x6F, 7, 0, 4, 10⟩, ⟨0x279, 0x0025, 0x71, 7, 0, 2, 10⟩,
  ⟨0x27A, 0x0000, 0x70, 12, 0, 3, 10⟩, ⟨0x27B, 0x0000, 0x71, 13, 0, 2, 10⟩,
  ⟨0x27C, 0x0001, 0x70, 16, 1, 3, 10⟩, ⟨0x27D, 0x0003, 0x70, 16, 1, 3, 10⟩,
  ⟨0x27E, 0x0004, 0x6F, 16, 1, 4, 10⟩, ⟨0x27F, 0x0003, 0x70, 20, 1, 3, 10⟩,
  ⟨0x280, 0x0004, 0x71, 20, 1, 2, 10⟩, ⟨0x281, 0x0007, 0x71, 20, 1, 2, 10⟩,
  ⟨0x282, 0x0005, 0x5B, 21, 1, 1, 10⟩, ⟨0x283, 0x0001, 0x71, 23, 1, 2, 10⟩,
  ⟨0x284, 0x0002, 0x6F, 24, 1, 4, 10⟩, ⟨0x285, 0x0001, 0x6F, 24, 1, 4, 10⟩,
  ⟨0x286, 0x0003, 0x8B, 24, 1, 0, 0⟩, ⟨0x287, 0x0022, 0x6F, 26, 2, 4, 10⟩,
  ⟨0x288, 0x0020, 0x6F, 26, 2, 4, 10⟩, ⟨0x289, 0x001E, 0x71, 26, 2, 2, 10⟩,
  ⟨0x28A, 0x001C, 0x70, 26, 2, 3, 10⟩, ⟨0x28B, 0x001A, 0x5B, 26, 2, 1, 10⟩,
  ⟨0x28C, 0x0018, 0x5B, 26, 2, 1, 10⟩, ⟨0x28D, 0x0015, 0x72, 26, 2, 0, 10⟩,
  ⟨0x28E, 0x0017, 0x72, 26, 2, 0, 10⟩, ⟨0x28F, 0x0012, 0x72, 26, 2, 0, 10⟩,
  ⟨0x290, 0x0019, 0x5B, 26, 2, 1, 10⟩, ⟨0x291, 0x001B, 0x70, 26, 2, 3, 10⟩,
  ⟨0x292, 0x001D, 0x70, 26, 2, 3, 10⟩, ⟨0x293, 0x001F, 0x71, 26, 2, 2, 10⟩,
  ⟨0x294, 0x0021, 0x6F, 26, 2, 4, 10⟩, ⟨0x295, 0x0023, 0x8B, 26, 2, 0, 0⟩,
  ⟨0x296, 0x0014, 0x5B, 30, 3, 1, 10⟩, ⟨0x297, 0x001C, 0x70, 30, 3, 3, 10⟩,
  ⟨0x298, 0x001A, 0x71, 30, 3, 2, 10⟩, ⟨0x299, 0x0018, 0x71, 30, 3, 2, 10⟩,
  ⟨0x29A, 0x0016, 0x6F, 30, 3, 4, 10⟩, ⟨0x29B, 0x0013, 0x5B, 30, 3, 1, 10⟩,
  ⟨0x29C, 0x000F, 0x72, 30, 3, 0, 10⟩, ⟨0x29D, 0x000E, 0x72, 30, 3, 0, 10⟩,
  ⟨0x29E, 0x0012, 0x5B, 30, 3, 1, 10⟩, ⟨0x29F, 0x0011, 0x6F, 30, 3, 4, 10⟩,
  ⟨0x2A0, 0x0017, 0x6F, 30, 3, 4, 10⟩, ⟨0x2A1, 0x0019, 0x71, 30, 3, 2, 10⟩,
  ⟨0x2A2, 0x001B, 0x70, 30, 3, 3, 10⟩, ⟨0x2A3, 0x001D, 0x70, 30, 3, 3, 10⟩,
  ⟨0x2A4, 0x0011, 0x8B, 34, 7, 0, 0⟩, ⟨0x2A5, 0x000F, 0x8B, 34, 7, 0, 0⟩,
  ⟨0x2A6, 0x0010, 0x8B, 34, 7, 0, 0⟩, ⟨0x2A7, 0x0004, 0x71, 36, 2, 2, 10⟩,
  ⟨0x2A8, 0x001D, 0x72, 38, 1, 0, 10⟩, ⟨0x2A9, 0x0029, 0x5B, 38, 1, 1, 10⟩,
  ⟨0x2AA, 0x001E, 0x72, 38, 1, 0, 10⟩, ⟨0x2AB, 0x001F, 0x72, 38, 1, 0, 10⟩,
  ⟨0x2AC, 0x0020, 0x5B, 38, 1, 1, 10⟩, ⟨0x2AD, 0x0026, 0x8B, 38, 1, 0, 0⟩,
  ⟨0x2AE, 0x003D, 0x5B, 48, 4, 1, 10⟩, ⟨0x2AF, 0x002F, 0x8B, 48, 4, 0, 0⟩,
  ⟨0x2B0, 0x002A, 0x70, 48, 4, 3, 10⟩, ⟨0x2B1, 0x0028, 0x72, 48, 4, 0, 10⟩,
  ⟨0x2B2, 0x002E, 0x8B, 48, 4, 0, 0⟩, ⟨0x2B3, 0x003C, 0x6F, 48, 4, 4, 10⟩,
  ⟨0x2B4, 0x003E, 0x70, 48, 4, 3, 10⟩, ⟨0x2B5, 0x0000, 0x72, 49, 3, 0, 10⟩,
  ⟨0x2B6, 0x0001, 0x8B, 49, 3, 0, 0⟩, ⟨0x2B7, 0x0001, 0x5B, 57, 4, 1, 10⟩,
  ⟨0x2B8, 0x0009, 0x72, 61, 4, 0, 10⟩, ⟨0x2B9, 0x000B, 0x71, 64, 4, 2, 10⟩,
  ⟨0x2BA, 0x0009, 0x71, 64, 4, 2, 10⟩, ⟨0x2BB, 0x0001, 0x6F, 71, 4, 4, 10⟩,
  ⟨0x2BC, 0x0010, 0x5B, 72, 5, 1, 10⟩, ⟨0x2BD, 0x000A, 0x6F, 72, 5, 4, 10⟩,
  ⟨0x2BE, 0x0014, 0x70, 72, 5, 3, 10⟩, ⟨0x2BF, 0x0015, 0x8B, 72, 5, 0, 0⟩,
  ⟨0x2C0, 0x0012, 0x71, 72, 5, 2, 10⟩, ⟨0x2C1, 0x000B, 0x72, 72, 5, 0, 10⟩,
  ⟨0x2C2, 0x000F, 0x5B, 72, 5, 1, 10⟩, ⟨0x2C3, 0x0011, 0x6F, 72, 5, 4, 10⟩,
  ⟨0x2C4, 0x001D, 0x70, 72, 5, 3, 10⟩, ⟨0x2C5, 0x000E, 0x72, 72, 5, 0, 10⟩,
  ⟨0x2C6, 0x0000, 0x70, 84, 5, 3, 10⟩, ⟨0x2C7, 0x0000, 0x71, 85, 5, 2, 10⟩,
  ⟨0x2C8, 0x0000, 0x72, 86, 5, 0, 10⟩, ⟨0x2C9, 0x0008, 0x8B, 87, 6, 0, 0⟩,
  ⟨0x2CA, 0x000A, 0x5B, 87, 6, 1, 10⟩, ⟨0x2CB, 0x0003, 0x5B, 88, 6, 1, 10⟩,
  ⟨0x2CC, 0x0002, 0x70, 93, 5, 3, 10⟩, ⟨0x2CD, 0x0000, 0x6F, 95, 5, 4, 10⟩,
  ⟨0x2CE, 0x0002, 0x8B, 97, 7, 0, 0⟩, ⟨0x2CF, 0x0001, 0x71, 98, 5, 2, 10⟩,
  ⟨0x2D0, 0x000C, 0x5B, 100, 5, 1, 10⟩, ⟨0x2D1, 0x0001, 0x71, 105, 6, 2, 10⟩,
  ⟨0x2D2, 0x0008, 0x71, 108, 6, 2, 10⟩, ⟨0x2D3, 0x0005, 0x5B, 112, 6, 1, 10⟩,
  ⟨0x2D4, 0x0003, 0x72, 112, 6, 0, 10⟩, ⟨0x2D5, 0x0004, 0x70, 113, 6, 3, 10⟩,
  ⟨0x2D6, 0x0006, 0x6F, 113, 6, 4, 10⟩, ⟨0x2D7, 0x0007, 0x5B, 163, 6, 1, 10⟩,
  ⟨0x2D8, 0x0009, 0x71, 163, 6, 2, 10⟩, ⟨0x2D9, 0x0006, 0x6F, 163, 6, 4, 10⟩,
  ⟨0x2DA, 0x0008, 0x71, 163, 6, 2, 10⟩, ⟨0x2DB, 0x000A, 0x6F, 163, 6, 4, 10⟩,
  ⟨0x2DC, 0x0001, 0x72, 164, 6, 0, 10⟩, ⟨0x2DD, 0x0003, 0x6F, 164, 6, 4, 10⟩,
  ⟨0x2DE, 0x0000, 0x6F, 166, 6, 4, 10⟩, ⟨0x2DF, 0x0007, 0x8B, 176, 7, 0, 0⟩,
  ⟨0x2E0, 0x0009, 0x8B, 176, 7, 0, 0⟩, ⟨0x2E1, 0x0003, 0x5B, 183, 6, 1, 10⟩,
  ⟨0x2E2, 0x0002, 0x70, 183, 6, 3, 10⟩, ⟨0x2E3, 0x0004, 0x8B, 193, 7, 0, 0⟩]

/-- `CoopPickup`; the Kong is one of the five. -/
structure CoopPickup where
  object : Nat
  type : Nat
  map : Nat
  kong : Fin 5
  amount : Nat

/-- `coop_pickup_start`. -/
def coopPickupStart : List Nat := [0, 226, 489, 734, 979, 1250, 1444, 1697, 1700]

/-- The flags of `coop_progression_flag` below the moves. -/
def storyFlags : List Nat :=
  [0x6, 0x42, 0x46, 0x75, 0x1BB, 0x1BC, 0x1BD, 0x1BE, 0x1BF, 0x1C0, 0x1C1, 0x1C2, 0x1C3, 0x315]

/-- The flags of `coop_progression_flag` of the training. -/
def trainingFlags : List Nat := [0x17F, 0x182, 0x183, 0x184, 0x185, 0x187, 0x180, 0x179]

/-- The flags of the boss keys. -/
def keyFlags : List Nat := [0x1A, 0x4A, 0x8A, 0xA8, 0xEC, 0x124, 0x13D, 0x17C]

/-! ## Ids -/

def coopMedalFirst : Nat := 120
def coopPickupFirst : Nat := 321
def coopActorPickupFirst : Nat := 2021
def coopProgressionFirst : Nat := 2141
def coopKongFirst : Nat := 2141
def coopGunFirst : Nat := 2174
def coopGunUpgradeFirst : Nat := 2179
def coopInstrumentFirst : Nat := 2181
def coopInstrumentUpgradeFirst : Nat := 2186
def coopTrainingFirst : Nat := 2191
def coopWorldTrainingExit : Nat := coopWorldFirst + 81

/-- `coop_progression_flag`; `none` is `-1`. -/
def coopProgressionFlag (id : Nat) : Option Nat :=
  if coopWorldFirst ≤ id ∧ id < coopProgressionEnd then
    (coopWorldUnlocks[id - coopWorldFirst]?).map (·.flag)
  else if coopBlockerFirst ≤ id ∧ id < coopWorldFirst then some (0x1CD + (id - coopBlockerFirst))
  else if coopWarpFirst ≤ id ∧ id < coopBlockerFirst then
    (coopWarpTags[id - coopWarpFirst]?).map (·.flag)
  else if coopTrainingFirst ≤ id ∧ id < coopWarpFirst then trainingFlags[id - coopTrainingFirst]?
  else if coopProgressionFirst ≤ id ∧ id < coopMoveFirst then storyFlags[id - coopProgressionFirst]?
  else none

/-- `coop_item_flag`; `none` is `-1`. -/
def coopItemFlag (id : Nat) : Option Nat :=
  if id < 40 then some (0x1D5 + id)
  else if id < 60 then some (0x24D + (id - 40))
  else if id < 70 then some (0x261 + (id - 60))
  else if id < 78 then keyFlags[id - 70]?
  else if id = 78 then some 0x84
  else if id = 79 then some 0x17B
  else if id = coopJapesBoulderBunch then some 0x01D
  else if id = coopKroolDefeated then some 0x1B0
  else if id = coopArcadeCoinsPaid then some 0x083
  else if id < coopMedalFirst then some (0x1FD + (id - coopSnideFirst))
  else if id < coopGbFirst then some (0x225 + (id - coopMedalFirst))
  else if id < coopPickupFirst then (coopGoldenBananas[id - coopGbFirst]?).map (·.flag)
  else if coopActorPickupFirst ≤ id ∧ id < coopProgressionFirst then
    (coopActorPickups[id - coopActorPickupFirst]?).map (·.flag)
  else coopProgressionFlag id

/-- The ids that have a flag. -/
def flaggedIds : List Nat :=
  List.range coopPickupFirst ++ List.range' coopActorPickupFirst (coopMoveFirst - coopActorPickupFirst)
    ++ List.range' coopTrainingFirst (coopProgressionEnd - coopTrainingFirst)
    ++ List.range' coopJapesBoulderBunch 3

/-- The keys of a list are new to a mask, one after the other. -/
def newToMask : Nat → List Nat → Bool
  | _, [] => true
  | mask, key :: keys => !mask.testBit key && newToMask (mask ||| 2 ^ key) keys

theorem newToMask_spec {keys : List Nat} : ∀ {mask : Nat}, newToMask mask keys = true →
    keys.Nodup ∧ ∀ key ∈ keys, mask.testBit key = false := by
  induction keys with
  | nil => exact fun _ => ⟨.nil, fun _ h => absurd h List.not_mem_nil⟩
  | cons key keys ih =>
    intro mask h
    simp only [newToMask, Bool.and_eq_true, Bool.not_eq_true'] at h
    obtain ⟨hnodup, hnew⟩ := ih h.2
    have hrest : ∀ key' ∈ keys, mask.testBit key' = false ∧ key ≠ key' := by
      intro key' hk
      simpa [Nat.testBit_or, Nat.testBit_two_pow] using hnew key' hk
    refine ⟨List.nodup_cons.mpr ⟨fun hk => (hrest key hk).2 rfl, hnodup⟩, fun key' hk => ?_⟩
    rcases List.mem_cons.mp hk with rfl | hk
    · exact h.1
    · exact (hrest key' hk).1

theorem nodup_of_newToMask {keys : List Nat} (h : newToMask 0 keys = true) : keys.Nodup :=
  (newToMask_spec h).1

theorem flags_nodup : (flaggedIds.map fun id => (coopItemFlag id).getD 0).Nodup :=
  nodup_of_newToMask (by decide +kernel)

variable {id id' f : Nat}

theorem ids : coopSnideFirst = 80 ∧ coopMedalFirst = 120 ∧ coopGbFirst = 160
    ∧ coopPickupFirst = 321 ∧ coopActorPickupFirst = 2021 ∧ coopProgressionFirst = 2141
    ∧ coopMoveFirst = 2155 ∧ coopTrainingFirst = 2191 ∧ coopWarpFirst = 2199
    ∧ coopBlockerFirst = 2286 ∧ coopWorldFirst = 2294 ∧ coopProgressionEnd = 2394
    ∧ coopTroffFirst = 2394 ∧ coopTroffEnd = 5894 ∧ coopJapesBoulderBunch = 5894
    ∧ coopKroolDefeated = 5895 ∧ coopArcadeCoinsPaid = 5896 ∧ coopItems = 5897 := by decide

theorem coopItemFlag_eq_none (hfirst : 321 ≤ id) (hmoves : id < 2021 ∨ 2155 ≤ id)
    (htraining : id < 2191 ∨ 2394 ≤ id) (hlast : id < 5894 ∨ 5897 ≤ id) :
    coopItemFlag id = none := by
  have := ids
  rw [coopItemFlag, if_neg (by omega), if_neg (by omega), if_neg (by omega), if_neg (by omega),
    if_neg (by omega), if_neg (by omega), if_neg (by omega), if_neg (by omega), if_neg (by omega),
    if_neg (by omega), if_neg (by omega), if_neg (by omega), if_neg (by omega),
    coopProgressionFlag, if_neg (by omega), if_neg (by omega), if_neg (by omega),
    if_neg (by omega), if_neg (by omega)]

theorem mem_flaggedIds (h : coopItemFlag id = some f) : id ∈ flaggedIds := by
  have hrange : id < 321 ∨ (2021 ≤ id ∧ id < 2155) ∨ (2191 ≤ id ∧ id < 2394)
      ∨ (5894 ≤ id ∧ id < 5897) := by
    by_contra hn
    rw [coopItemFlag_eq_none (by omega) (by omega) (by omega) (by omega)] at h
    cases h
  simp only [flaggedIds, List.mem_append, List.mem_range, List.mem_range'_1]
  simp only [coopPickupFirst, coopActorPickupFirst, coopTrainingFirst, coopMoveFirst,
    coopWarpFirst, coopBlockerFirst, coopWorldFirst, coopProgressionEnd, coopWarpTagCount,
    coopWorldUnlockCount, coopJapesBoulderBunch, coopTroffEnd, coopTroffFirst, coopTroffBuckets,
    coopTroffLevels, coopTroffKongs, coopTroffCapacity]
  omega

/-- **No two item ids share a permanent flag.** -/
theorem coopItemFlag_injective (h : coopItemFlag id = some f) (h' : coopItemFlag id' = some f) :
    id = id' :=
  List.inj_on_of_nodup_map flags_nodup (mem_flaggedIds h) (mem_flaggedIds h') (by rw [h, h'])

/-! ## Where a collectible is credited -/

/-- `coop_item_gb`: the level and Kong of a golden banana or of a blueprint Snide took. -/
def coopItemGb (id : Nat) : Option (Nat × Nat) :=
  if coopSnideFirst ≤ id ∧ id < coopMedalFirst then
    some ((id - coopSnideFirst) / 5, (id - coopSnideFirst) % 5)
  else if coopGbFirst ≤ id ∧ id < coopPickupFirst then
    (coopGoldenBananas[id - coopGbFirst]?).map fun gb => (gb.level, gb.kong)
  else none

/-- The search of `coop_pickup_level` from a level on, over the starts of the later levels. -/
def levelFrom (index level : Nat) : List Nat → Nat
  | [] => level
  | start :: starts => if start ≤ index then levelFrom index (level + 1) starts else level

/-- `coop_pickup_level`: the search ends at level 7. -/
def coopPickupLevel (index : Nat) : Nat := levelFrom index 0 (coopPickupStart.tail.take 7)

/-- `coop_pickup_start[level]`. -/
def pickupStart (level : Nat) : Nat := coopPickupStart.getD level 0

/-- The save bit of an ordinary pickup: its level and its ordinal there. -/
def pickupBit (id : Nat) : Nat × Nat :=
  let index := id - coopPickupFirst
  let level := coopPickupLevel index
  (level, index - pickupStart level)

/-- `coop_snide_capacity`. -/
def coopSnideCapacity (level kong : Nat) : Nat := if level = 7 ∧ kong = 3 then 6 else 5

theorem pickupStart_le (index : Nat) : pickupStart (coopPickupLevel index) ≤ index := by
  simp only [coopPickupLevel, coopPickupStart, List.tail_cons, List.take_succ_cons, List.take_zero,
    levelFrom]
  split_ifs <;> simp only [pickupStart, coopPickupStart, List.getD_cons_zero,
    List.getD_cons_succ] <;> omega

/-- No two ordinary pickups share a save bit. -/
theorem pickupBit_injective (h : coopPickupFirst ≤ id) (h' : coopPickupFirst ≤ id')
    (heq : pickupBit id = pickupBit id') : id = id' := by
  have hle := pickupStart_le (id - coopPickupFirst)
  have hle' := pickupStart_le (id' - coopPickupFirst)
  simp only [pickupBit, Prod.mk.injEq] at heq
  obtain ⟨hlevel, hordinal⟩ := heq
  rw [hlevel] at hle hordinal
  omega

theorem level_lt_of_gb {level kong : Nat} (h : coopItemGb id = some (level, kong)) :
    level < 8 ∧ kong < 5 := by
  have hrows : ∀ gb ∈ coopGoldenBananas, gb.level < 8 ∧ gb.kong < 5 := by decide +kernel
  unfold coopItemGb at h
  split_ifs at h with hs hg
  · simp only [Option.some.injEq, Prod.mk.injEq, coopSnideFirst, coopMedalFirst] at h hs
    omega
  · obtain ⟨gb, hgb, heq⟩ := Option.map_eq_some_iff.mp h
    obtain ⟨rfl, rfl⟩ := Prod.mk.inj heq
    exact hrows gb (List.mem_of_getElem? hgb)

end Dk64Port.Coop
