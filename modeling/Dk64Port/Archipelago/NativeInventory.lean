import Dk64Port.Archipelago.Inventory
import Mathlib.Data.Finset.Insert
import Mathlib.Algebra.Group.Nat.Defs
import Mathlib.Algebra.Group.Int.Defs

/-!
# The native inventory (`native/campaign.cpp`)

The native side folds the received items over the entries of `catalog.json`. Unlike the game it
goes on behind an item without an effect and collects those items.

* `NativeInventory.countEffect`: `count_effect` of one effect, with what it throws.
* `NativeInventory.receive`, `Catalog.inventory`: the loop over the receipts.
-/

namespace Dk64Port.Archipelago

open ByteLayout (Byte)

/-! ## The native reducer -/

/-- `Error` of `native/state.hpp`. -/
inductive Error where
  | none | config | seed | slot | unsupported | storage | protocol | transport
deriving DecidableEq

/-- What the native code throws: a `Failure`, or an exception of a library. -/
inductive Thrown where
  | failure (code : Error)
  | exception
deriving DecidableEq

/-- An `int64_t`. -/
def fitsInt64 (n : Int) : Bool := -2 ^ 63 ≤ n && n < 2 ^ 63

/-- `Item`: an array of four `int64_t`; the range of the three others is checked wherever it
matters. -/
structure Item where
  item : Int
  location : Int
  player : Int
  flags : Int
  fits : fitsInt64 location
deriving DecidableEq

/-- `item_limit`. -/
def itemLimit : Nat := 4096

/-- `dkap::CampaignInventory`. -/
structure NativeInventory where
  moves : Nat → Byte := fun _ => 0
  guns : Nat → Byte := fun _ => 0
  instruments : Nat → Byte := fun _ => 0
  hints : Nat → Byte := fun _ => 0
  blueprints : Nat → Byte := fun _ => 0
  kongs : Byte := 0
  keys : Byte := 0
  abilities : Byte := 0
  special : Byte := 0
  slam : Byte := 0
  belt : Byte := 0
  instrumentUpgrades : Byte := 0
  shopkeepers : Byte := 0
  climbing : Bool := false
  goldenBananas : Word := 0
  fairies : Word := 0
  crowns : Word := 0
  medals : Word := 0
  pearls : Word := 0
  rainbowCoins : Word := 0
  junk : Word := 0
  traps : String → Word := fun _ => 0
  flags : Finset Half := ∅
  unsupported : List Int := []

/-- `get<unsigned>()`. -/
def getUnsigned : Option Int → Except Thrown Nat
  | some n => .ok (BitVec.ofInt 32 n).toNat
  | none => .error .exception

/-- An index of `std::array<…, 5>::at`, converted from JSON. -/
def getKong : Option Int → Except Thrown Nat
  | some n =>
    if (BitVec.ofInt 64 n).toNat < 5 then .ok (BitVec.ofInt 64 n).toNat else .error .exception
  | none => .error .exception

/-- A string value. -/
def getName : Option Bit → Except Thrown BitName
  | some (.name s) => .ok s
  | _ => .error .exception

/-- `masks` of `flag_moves`. -/
def moveMasks : BitName → Except Thrown Byte
  | .diving => .ok 128
  | .oranges => .ok 64
  | .barrels => .ok 32
  | .vines => .ok 16
  | .camera => .ok 8
  | .shockwave => .ok 4
  | _ => .error .exception

/-- `masks` of `special_items`. -/
def specialMasks : BitName → Except Thrown Byte
  | .nintendoCoin => .ok 1
  | .rarewareCoin => .ok 2
  | .bean => .ok 4
  | _ => .error .exception

/-- `uint8_t(std::min(cap, amount + 1))`. -/
def cappedAmount (cap : Nat) (amount : Byte) : Byte := BitVec.ofNat 8 (min cap (amount.toNat + 1))

namespace NativeInventory

/-- The branch of `count_effect` for an effect with an `"item"`. -/
def countTransfer (inv : NativeInventory) (transfer : Nat) : Except Thrown NativeInventory :=
  if transfer = 1 then .ok { inv with goldenBananas := inv.goldenBananas + 1 }
  else if transfer = 2 ∨ transfer = 51 then .ok { inv with slam := cappedAmount 3 inv.slam }
  else if 26 ≤ transfer ∧ transfer ≤ 40 then
    .ok { inv with moves := orAt inv.moves ((transfer - 26) / 3) (bit8 ((transfer - 26) % 3)) }
  else if 41 ≤ transfer ∧ transfer ≤ 45 then
    .ok { inv with instruments := orAt inv.instruments (transfer - 41) 1 }
  else if 46 ≤ transfer ∧ transfer ≤ 50 then
    .ok { inv with guns := orAt inv.guns (transfer - 46) 1 }
  else if transfer = 52 ∨ transfer = 53 then
    .ok { inv with guns := orKongs inv.guns (bit8 (transfer - 51)) }
  else if transfer = 54 then .ok { inv with belt := cappedAmount 2 inv.belt }
  else if transfer = 55 then
    let upgrades := cappedAmount 3 inv.instrumentUpgrades
    .ok { inv with
      instrumentUpgrades := upgrades
      instruments := orKongs inv.instruments (instrumentMask upgrades) }
  else .error (.failure .unsupported)

/-- `count_effect` of one effect. -/
def countEffect (inv : NativeInventory) (effect : CountEffect) : Except Thrown NativeInventory :=
  match effect.field with
  | some .kongBitfield => do
    let bit ← getUnsigned (effect.bit.bind Bit.number?)
    return { inv with kongs := inv.kongs ||| bit8 bit }
  | some .keyBitfield => do
    let bit ← getUnsigned (effect.bit.bind Bit.number?)
    return { inv with keys := inv.keys ||| bit8 bit }
  | some .flagMoves => do
    let mask ← getName effect.bit >>= moveMasks
    return { inv with abilities := inv.abilities ||| mask }
  | some .specialItems => do
    let mask ← getName effect.bit >>= specialMasks
    return { inv with special := inv.special ||| mask }
  | some .hintBitfield => do
    let kong ← getKong effect.kong
    let level ← getUnsigned effect.level
    return { inv with hints := orAt inv.hints kong (bit8 level) }
  | some .bpCount => do
    let kong ← getKong effect.kong
    return { inv with
      blueprints := Function.update inv.blueprints kong (cappedAmount 8 (inv.blueprints kong)) }
  | some .fairies => return { inv with fairies := inv.fairies + 1 }
  | some .crowns => return { inv with crowns := inv.crowns + 1 }
  | some .medals => return { inv with medals := inv.medals + 1 }
  | some .pearls => return { inv with pearls := inv.pearls + 1 }
  | some .rainbowCoins => return { inv with rainbowCoins := inv.rainbowCoins + 1 }
  | some .junkItems => return { inv with junk := inv.junk + 1 }
  | some .iceTraps =>
    match effect.iceTrapType with
    | none => throw .exception
    | some name => return { inv with traps := Function.update inv.traps name (inv.traps name + 1) }
  | some .other | none =>
    match effect.item with
    | none => throw (.failure .unsupported)
    | some item => inv.countTransfer (BitVec.ofInt 32 item).toNat

/-- A flag entry. -/
def insertFlag (inv : NativeInventory) (flag : Half) : NativeInventory :=
  { inv with
    flags := insert flag inv.flags
    climbing := if flag.toNat = 671 then true else inv.climbing
    shopkeepers :=
      if 962 ≤ flag.toNat ∧ flag.toNat ≤ 965 then inv.shopkeepers ||| bit8 (flag.toNat - 962)
      else inv.shopkeepers }

/-- The body of the loop of `CampaignCatalog::inventory`. -/
def receive (cat : Catalog) (inv : NativeInventory) (receipt : Item) :
    Except Thrown NativeInventory :=
  match cat.entry receipt.item with
  | none => throw (.failure .unsupported)
  | some definition =>
    if receipt.item = 14041089 then return inv
    else match definition.flagId with
      | some flag => return inv.insertFlag (BitVec.ofInt 16 flag)
      | none =>
        match definition.countId with
        | some source => source.entries.foldlM countEffect inv
        | none => return { inv with unsupported := inv.unsupported ++ [receipt.item] }

end NativeInventory

/-- `CampaignCatalog::inventory`. -/
def Catalog.inventory (cat : Catalog) (receipts : List Item) : Except Thrown NativeInventory :=
  if receipts.length > itemLimit then throw (.failure .protocol)
  else receipts.foldlM (NativeInventory.receive cat) {}

end Dk64Port.Archipelago
