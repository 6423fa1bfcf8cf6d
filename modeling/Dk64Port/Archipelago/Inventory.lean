import Dk64Port.Archipelago.Catalog
import Mathlib.Logic.Function.Basic

/-!
# Rebuilding the inventory in the game (`mod/campaign_inventory.c`)

The items a campaign owns are not stored: the game recomputes them from the received ids, one row
of effects at a time. The counters saturate and the progressive upgrades are capped.

* `CampaignInventory.add`, `CampaignInventory.rebuild`: the two entry points, with their results.
* `addAll`: what a prefix of supported items amounts to; `rebuild_eq_one_iff` says when a rebuild
  succeeds and that its output is this fold.
-/

namespace Dk64Port.Archipelago

open ByteLayout (Byte)

/-- `ap_campaign_inventory`; the arrays are read only at their indices. -/
structure CampaignInventory where
  moves : Nat → Byte := fun _ => 0
  guns : Nat → Byte := fun _ => 0
  instruments : Nat → Byte := fun _ => 0
  hints : Nat → Byte := fun _ => 0
  blueprints : Nat → Byte := fun _ => 0
  kongs : Byte := 0
  keys : Byte := 0
  abilities : Byte := 0
  special : Byte := 0
  slam : Byte := 0
  belt : Byte := 0
  instrumentUpgrades : Byte := 0
  shopkeepers : Byte := 0
  climbing : Byte := 0
  /-- The two padding bytes. -/
  reserved : Half := 0
  goldenBananas : Word := 0
  fairies : Word := 0
  crowns : Word := 0
  medals : Word := 0
  pearls : Word := 0
  rainbowCoins : Word := 0
  junk : Word := 0
  traps : Nat → Word := fun _ => 0
  flags : Nat → Word := fun _ => 0

/-- `increment`. -/
def increment (value : Word) : Word := if value = 0xFFFFFFFF then value else value + 1

/-- `capped_increment`. -/
def cappedIncrement (value cap : Byte) : Byte := if value < cap then value + 1 else value

/-- `(ap_uint8_t)(1u << n)`. -/
def bit8 (n : Nat) : Byte := (1#32 <<< n).setWidth 8

/-- `array[i] |= bits`. -/
def orAt (array : Nat → Byte) (i : Nat) (bits : Byte) : Nat → Byte :=
  Function.update array i (array i ||| bits)

/-- `for (kong < 5) array[kong] |= bits`. -/
def orKongs (array : Nat → Byte) (bits : Byte) : Nat → Byte :=
  fun kong => if kong < 5 then array kong ||| bits else array kong

/-- The levels an instrument upgrade count stands for. -/
def instrumentMask (upgrades : Byte) : Byte :=
  (((1#32 <<< (upgrades.toNat + 1)) - 1) &&& ~~~ 1).setWidth 8

namespace CampaignInventory

/-- `ap_campaign_inventory_has_flag`. -/
def hasFlag (inventory : CampaignInventory) (flag : Nat) : Bool :=
  flag < itemFlagWords * 32 && (inventory.flags (flag / 32)).getLsbD (flag % 32)

/-- `apply_transfer`. -/
def applyTransfer (inventory : CampaignInventory) (transfer : Nat) : CampaignInventory :=
  if transfer = 1 then
    { inventory with goldenBananas := increment inventory.goldenBananas }
  else if transfer = 2 ∨ transfer = 51 then
    { inventory with slam := cappedIncrement inventory.slam 3 }
  else if 26 ≤ transfer ∧ transfer ≤ 40 then
    { inventory with
      moves := orAt inventory.moves ((transfer - 26) / 3) (bit8 ((transfer - 26) % 3)) }
  else if 41 ≤ transfer ∧ transfer ≤ 45 then
    { inventory with instruments := orAt inventory.instruments (transfer - 41) 1 }
  else if 46 ≤ transfer ∧ transfer ≤ 50 then
    { inventory with guns := orAt inventory.guns (transfer - 46) 1 }
  else if transfer = 52 ∨ transfer = 53 then
    { inventory with guns := orKongs inventory.guns (bit8 (transfer - 51)) }
  else if transfer = 54 then
    { inventory with belt := cappedIncrement inventory.belt 2 }
  else if transfer = 55 then
    let upgrades := cappedIncrement inventory.instrumentUpgrades 3
    { inventory with
      instrumentUpgrades := upgrades
      instruments := orKongs inventory.instruments (instrumentMask upgrades) }
  else inventory

/-- `case AP_EFFECT_FLAG`. -/
def applyFlag (inventory : CampaignInventory) (flag : Nat) : CampaignInventory :=
  { inventory with
    flags := Function.update inventory.flags (flag / 32)
      (inventory.flags (flag / 32) ||| 1#32 <<< (flag % 32))
    climbing := if flag = 671 then 1 else inventory.climbing
    shopkeepers :=
      if 962 ≤ flag ∧ flag ≤ 965 then inventory.shopkeepers ||| bit8 (flag - 962)
      else inventory.shopkeepers }

/-- `apply_effect`. -/
def applyEffect (inventory : CampaignInventory) (effect : ItemEffect) : CampaignInventory :=
  match effect.kind with
  | .none | .unsupported => inventory
  | .flag => inventory.applyFlag effect.arg1.toNat
  | .kong => { inventory with kongs := inventory.kongs ||| bit8 effect.arg0.toNat }
  | .key => { inventory with keys := inventory.keys ||| bit8 effect.arg0.toNat }
  | .ability => { inventory with abilities := inventory.abilities ||| effect.arg0 }
  | .special => { inventory with special := inventory.special ||| effect.arg0 }
  | .hint =>
    { inventory with
      hints := orAt inventory.hints effect.arg0.toNat (bit8 effect.arg1.toNat) }
  | .blueprint =>
    { inventory with
      blueprints := Function.update inventory.blueprints effect.arg0.toNat
        (cappedIncrement (inventory.blueprints effect.arg0.toNat) 8) }
  | .fairy => { inventory with fairies := increment inventory.fairies }
  | .crown => { inventory with crowns := increment inventory.crowns }
  | .medal => { inventory with medals := increment inventory.medals }
  | .pearl => { inventory with pearls := increment inventory.pearls }
  | .rainbow => { inventory with rainbowCoins := increment inventory.rainbowCoins }
  | .junk => { inventory with junk := increment inventory.junk }
  | .trap =>
    { inventory with
      traps := Function.update inventory.traps effect.arg0.toNat
        (increment (inventory.traps effect.arg0.toNat)) }
  | .transfer => inventory.applyTransfer effect.arg0.toNat

/-- The two effects of a row, once they are known to be supported. -/
def addItem (inventory : CampaignInventory) (item : ItemEffectDef) : CampaignInventory :=
  item.effects.foldl applyEffect inventory

/-- The checks of `ap_campaign_inventory_add`: −1 for a corrupt effect, 0 for an unsupported one. -/
def effectsResult : List ItemEffect → Int
  | [] => 1
  | effect :: rest =>
    if effectValid effect = false then -1
    else if effect.kind = .unsupported then 0
    else effectsResult rest

/-- `ap_campaign_inventory_add`. -/
def add (cat : Catalog) (inventory : CampaignInventory) (id : Word) : Int × CampaignInventory :=
  match cat.findItem id with
  | none => (-1, inventory)
  | some item =>
    if effectsResult item.effects = 1 then (1, inventory.addItem item)
    else (effectsResult item.effects, inventory)

/-- The loop of `ap_campaign_inventory_rebuild` over the candidate. -/
def rebuildLoop (cat : Catalog) : CampaignInventory → List Word → Int × CampaignInventory
  | candidate, [] => (1, candidate)
  | candidate, id :: ids =>
    let r := candidate.add cat id
    if r.1 = 1 then rebuildLoop cat r.2 ids else r

/-- `ap_campaign_inventory_rebuild`: the result and what `*output` holds afterwards. -/
def rebuild (cat : Catalog) (output : CampaignInventory) (itemIds : List Word) :
    Int × CampaignInventory :=
  if itemIds.length > 65535 then (-1, output)
  else
    let r := rebuildLoop cat {} itemIds
    if r.1 = 1 then (1, r.2) else (r.1, output)

end CampaignInventory

/-! ## What a supported prefix amounts to -/

/-- No effect of the row is `AP_EFFECT_UNSUPPORTED`. -/
def ItemEffectDef.supported (item : ItemEffectDef) : Bool :=
  item.effects.all (·.kind != .unsupported)

/-- The catalogue has a row for the id, and the row is supported. -/
def Catalog.supports (cat : Catalog) (id : Word) : Bool := (cat.findItem id).any (·.supported)

namespace CampaignInventory

variable {cat : Catalog} {c output : CampaignInventory} {id : Word} {ids : List Word}

/-- The item of an id, or nothing. -/
def addId (cat : Catalog) (inventory : CampaignInventory) (id : Word) : CampaignInventory :=
  ((cat.findItem id).map inventory.addItem).getD inventory

/-- The inventory of a list of supported ids. -/
def addAll (cat : Catalog) (ids : List Word) : CampaignInventory := ids.foldl (addId cat) {}

theorem effectsResult_eq_one_iff {effects : List ItemEffect} :
    effectsResult effects = 1 ↔
      ∀ effect ∈ effects, effectValid effect ∧ effect.kind ≠ .unsupported := by
  induction effects with
  | nil => simp [effectsResult]
  | cons effect rest ih =>
    rw [effectsResult]
    cases hvalid : effectValid effect with
    | false => simp [hvalid]
    | true =>
      by_cases hkind : effect.kind = .unsupported
      · simp [hkind]
      · simp [hkind, hvalid, ih]

/-- In a catalogue only an unsupported effect stops an item. -/
theorem effectsResult_of_findItem {item : ItemEffectDef} (h : cat.findItem id = some item) :
    effectsResult item.effects = 1 ↔ item.supported := by
  rw [effectsResult_eq_one_iff, ItemEffectDef.supported, List.all_eq_true]
  constructor
  · intro hall effect heffect
    simpa using (hall effect heffect).2
  · intro hall effect heffect
    exact ⟨Catalog.findItem_valid h effect heffect, by simpa using hall effect heffect⟩

/-- **What `add` does**: it takes a supported item and refuses the rest unchanged. -/
theorem add_eq (cat : Catalog) (c : CampaignInventory) (id : Word) :
    (c.add cat id).2 = (if cat.supports id then addId cat c id else c) ∧
      ((c.add cat id).1 = 1 ↔ cat.supports id) := by
  unfold add Catalog.supports addId
  cases h : cat.findItem id with
  | none => simp
  | some item =>
    have hiff := effectsResult_of_findItem h
    by_cases hone : effectsResult item.effects = 1
    · simp [hone, hiff.mp hone]
    · have hsup : item.supported = false := by simpa using fun e => hone (hiff.mpr e)
      simp [hone, hsup]

theorem rebuildLoop_eq (cat : Catalog) :
    ∀ (ids : List Word) (c : CampaignInventory),
      ((rebuildLoop cat c ids).1 = 1 ↔ ∀ id ∈ ids, cat.supports id) ∧
        ((∀ id ∈ ids, cat.supports id) → (rebuildLoop cat c ids).2 = ids.foldl (addId cat) c)
  | [], c => by simp [rebuildLoop]
  | id :: ids, c => by
    obtain ⟨hadd, hone⟩ := add_eq cat c id
    rw [rebuildLoop]
    by_cases hsup : cat.supports id
    · obtain ⟨ih1, ih2⟩ := rebuildLoop_eq cat ids (addId cat c id)
      rw [if_pos hsup] at hadd
      simp only [if_pos (hone.mpr hsup), hadd, List.forall_mem_cons, hsup, true_and,
        List.foldl_cons]
      exact ⟨ih1, ih2⟩
    · have hres : (c.add cat id).1 ≠ 1 := fun e => hsup (hone.mp e)
      simp only [if_neg hres]
      exact ⟨⟨fun e => absurd e hres, fun h => absurd (h id List.mem_cons_self) hsup⟩,
        fun h => absurd (h id List.mem_cons_self) hsup⟩

/-- **When a rebuild succeeds**: exactly when there are not too many items and all are supported. -/
theorem rebuild_eq_one_iff :
    (rebuild cat output ids).1 = 1 ↔ ids.length ≤ 65535 ∧ ∀ id ∈ ids, cat.supports id := by
  obtain ⟨hone, -⟩ := rebuildLoop_eq cat ids {}
  unfold rebuild
  by_cases hlong : ids.length > 65535
  · rw [if_pos hlong]
    exact ⟨fun h => absurd h (by simp), fun h => absurd h.1 (by omega)⟩
  · rw [if_neg hlong]
    by_cases hres : (rebuildLoop cat {} ids).1 = 1
    · simp only [if_pos hres, true_iff]
      exact ⟨by omega, hone.mp hres⟩
    · simp only [if_neg hres]
      exact ⟨fun h => absurd h hres, fun h => absurd (hone.mpr h.2) hres⟩

/-- A rebuild that succeeds publishes the inventory of its list. -/
theorem rebuild_output (h : (rebuild cat output ids).1 = 1) :
    (rebuild cat output ids).2 = addAll cat ids := by
  obtain ⟨hone, heq⟩ := rebuildLoop_eq cat ids {}
  obtain ⟨hfew, hall⟩ := rebuild_eq_one_iff.mp h
  unfold rebuild
  rw [if_neg (by omega), if_pos (hone.mpr hall)]
  exact heq hall

/-- A rebuild that fails leaves its output alone. -/
theorem rebuild_failed (h : (rebuild cat output ids).1 ≠ 1) :
    (rebuild cat output ids).2 = output := by
  unfold rebuild at h ⊢
  split
  · rfl
  · rename_i hlong
    rw [if_neg hlong] at h
    by_cases hres : (rebuildLoop cat {} ids).1 = 1
    · rw [if_pos hres] at h
      exact absurd rfl h
    · rw [if_neg hres]

end CampaignInventory

end Dk64Port.Archipelago
