import Dk64Port.Archipelago.Receipts
import Dk64Port.Archipelago.Commit
import Mathlib.Algebra.BigOperators.Group.List.Basic
import Mathlib.Algebra.Group.Nat.Defs
import Mathlib.Algebra.GroupWithZero.Nat
import Mathlib.Algebra.Ring.Int.Defs

/-!
# The item queries (`mod/campaign_items.c`)

The randomizer asks how many of an item the player has. The game answers from its copy of the
inventory, as long as that copy was staged for the trailer of the current file.

* `CampaignInventory.countOf`: the switch over the queries, for an inventory.
* `Game.itemCount`, `Game.itemHasFlag`, `Game.originalItemCount`, `Game.kongOwnership`,
  `Game.hasFlagMove`: the entry points.
* `countOf_mono`: no answer falls when the inventory grows.
* `countOf_totals`: the answer for all Kongs or levels is the sum of the answers for each.
* `trapTotal_addAll`: the traps of a received list are counted one by one.
-/

namespace Dk64Port.Archipelago

open ByteLayout (Byte)

/-! ## The queries -/

/-- `AP_ITEM_QUERY_*`. -/
inductive ItemQuery where
  | kong | key | hint | blueprint | fairy | crown | companyCoin | medal | bean | pearl | rainbowCoin
  | trap | junk | move | goldenBanana | shopkeeper
deriving DecidableEq

/-- The loop of `popcount`, for at most `n` turns. -/
def popcountLoop : Nat → Word → Nat
  | 0, _ => 0
  | n + 1, value => if value = 0 then 0 else (value &&& 1).toNat + popcountLoop n (value >>> 1)

/-- `popcount`: 32 turns shift everything out. -/
def popcount (value : Word) : Nat := popcountLoop 32 value

/-- `!!(value & (1u << i))`. -/
def bitOf (value : Byte) (i : Nat) : Int := if value.getLsbD i then 1 else 0

/-- `capped`. -/
def capped (value : Word) : Int := if 0x7FFFFFFF < value then 0x7FFFFFFF else value.toNat

namespace CampaignInventory

/-- The loop over the traps, which saturates. -/
def trapTotal (c : CampaignInventory) : Word :=
  (List.range trapTypeCount).foldl
    (fun total type =>
      let next := total + c.traps type
      if next < total then 0xFFFFFFFF else next) 0

/-- The loops over the hints. -/
def hintTotal (c : CampaignInventory) (level kong : Int) : Nat :=
  ((List.range 5).map fun (k : Nat) =>
    if kong = -1 ∨ kong = k then
      (List.range 8).countP fun (l : Nat) => (level = -1 ∨ level = l) && (c.hints k).getLsbD l
    else 0).sum

/-- The rows of `AP_ITEM_QUERY_MOVE`. -/
def moveCount (c : CampaignInventory) (level kong : Int) : Int :=
  if 0 ≤ level ∧ level < 3 then
    if 0 ≤ kong ∧ kong < 5 then bitOf (c.moves kong.toNat) level.toNat else -1
  else if level = 3 then if kong = 0 then c.slam.toNat else -1
  else if level = 4 then if 0 ≤ kong ∧ kong < 5 then bitOf (c.guns kong.toNat) 0 else -1
  else if level = 5 ∨ level = 6 then if kong = 0 then bitOf (c.guns 0) (level - 4).toNat else -1
  else if level = 7 then if kong = 0 then c.belt.toNat else -1
  else if level = 8 then if 0 ≤ kong ∧ kong < 5 then bitOf (c.instruments kong.toNat) 0 else -1
  else if level = 9 then if kong = 0 then c.instrumentUpgrades.toNat else -1
  else if level = 10 then if 0 ≤ kong ∧ kong < 6 then bitOf c.abilities (7 - kong.toNat) else -1
  else if level = 11 then if kong = 0 then if c.climbing ≠ 0 then 1 else 0 else -1
  else if level = 12 then if kong = 0 then if c.abilities &&& 12 = 12 then 1 else 0 else -1
  else -1

/-- The switch of `ap_campaign_item_count`. -/
def countOf (c : CampaignInventory) (query : ItemQuery) (level kong : Int) : Int :=
  match query with
  | .kong =>
    if level ≠ -1 ∧ level ≠ 0 then -1
    else if kong = -1 then popcount (c.kongs.setWidth 32 &&& 31)
    else if 0 ≤ kong ∧ kong < 5 then bitOf c.kongs kong.toNat else -1
  | .key =>
    if kong ≠ -1 ∧ kong ≠ 0 then -1
    else if level = -1 then popcount (c.keys.setWidth 32)
    else if 0 ≤ level ∧ level < 8 then bitOf c.keys level.toNat else -1
  | .hint => if level < -1 ∨ 8 ≤ level ∨ kong < -1 ∨ 5 ≤ kong then -1 else c.hintTotal level kong
  | .blueprint =>
    if level ≠ -1 ∧ level ≠ 0 then -1
    else if kong < -1 ∨ 5 ≤ kong then -1
    else if 0 ≤ kong then (c.blueprints kong.toNat).toNat
    else (c.blueprints 0).toNat + (c.blueprints 1).toNat + (c.blueprints 2).toNat
      + (c.blueprints 3).toNat + (c.blueprints 4).toNat
  | .fairy => if level = 0 ∧ kong = 0 then capped c.fairies else -1
  | .crown => if level = 0 ∧ kong = 0 then capped c.crowns else -1
  | .companyCoin =>
    if level ≠ 0 ∨ kong < -1 ∨ 1 < kong then -1
    else if kong = 0 then bitOf c.special 0
    else if kong = 1 then bitOf c.special 1
    else bitOf c.special 0 + bitOf c.special 1
  | .medal => if level = 0 ∧ kong = 0 then capped c.medals else -1
  | .bean => if level = 0 ∧ kong = 0 then bitOf c.special 2 else -1
  | .pearl => if level = 0 ∧ kong = 0 then capped c.pearls else -1
  | .rainbowCoin => if level = 0 ∧ kong = 0 then capped c.rainbowCoins else -1
  | .trap =>
    if level ≠ -1 ∧ (level < 0 ∨ trapTypeCount ≤ level) then -1
    else if kong ≠ -1 ∧ kong ≠ 0 then -1
    else if 0 ≤ level then capped (c.traps level.toNat)
    else capped c.trapTotal
  | .junk => if level = 0 ∧ kong = 0 then capped c.junk else -1
  | .move => c.moveCount level kong
  | .goldenBanana => if level = 0 ∧ kong = 0 then capped c.goldenBananas else -1
  | .shopkeeper =>
    if level ≠ 0 then -1
    else if kong = -1 then popcount (c.shopkeepers.setWidth 32 &&& 15)
    else if 0 ≤ kong ∧ kong < 4 then bitOf c.shopkeepers kong.toNat else -1

end CampaignInventory

namespace Game

/-- `active`. -/
def itemsActive (g : Game) : Bool :=
  g.publications.items.ready && g.currentFile == 0 && g.gameplayMode &&& gameplayItems != 0 &&
    trailerRead g.currentFile g.trailer == .bound &&
    g.publications.items.identity.sameIdentity g.trailer

/-- `ap_campaign_item_count`. -/
def itemCount (g : Game) (query : ItemQuery) (level kong : Int) : Int :=
  if !g.itemsActive then -1 else g.publications.items.inventory.countOf query level kong

/-- `ap_campaign_item_has_flag`. -/
def itemHasFlag (g : Game) (flag : Nat) : Int :=
  if g.itemsActive then if g.publications.items.inventory.hasFlag flag then 1 else 0 else -1

/-- `gameplay_count`. -/
def gameplayCount (g : Game) (query : ItemQuery) (level kong : Int) : Int :=
  if g.itemCount query level kong < 0 then 0 else g.itemCount query level kong

/-- The levels of a move that there is one of, whoever asks. -/
def sharedMove (level : Int) : Bool :=
  level = 3 || level = 5 || level = 6 || level = 7 || level = 9 || level = 11 || level = 12

/-- `ap_campaign_original_item_count`. -/
def originalItemCount (g : Game) (item level kong : Int) : Int :=
  match item with
  | 1 => g.gameplayCount .kong 0 kong
  | 2 => g.gameplayCount .move level (if sharedMove level then 0 else kong)
  | 3 => g.gameplayCount .goldenBanana 0 0
  | 4 => g.gameplayCount .blueprint 0 kong
  | 5 => g.gameplayCount .fairy 0 0
  | 6 => g.gameplayCount .key level 0
  | 7 => g.gameplayCount .crown 0 0
  | 8 => g.gameplayCount .companyCoin 0 kong
  | 9 => g.gameplayCount .medal 0 0
  | 10 => g.gameplayCount .bean 0 0
  | 11 => g.gameplayCount .pearl 0 0
  | 12 => g.gameplayCount .rainbowCoin 0 0
  | 13 => g.gameplayCount .trap (-1) 0
  | 18 => g.gameplayCount .junk 0 0
  | 19 => g.gameplayCount .hint level kong
  | 20 => g.gameplayCount .shopkeeper 0 kong
  | _ => 0

/-- The flags of the Kongs. -/
def kongFlags : List Int := [0x181, 0x006, 0x046, 0x042, 0x075]

/-- `ap_campaign_get_kong_ownership_from_flag`. -/
def kongOwnership (g : Game) (flag : Int) : Int :=
  match kongFlags.idxOf? flag with
  | some kong => g.gameplayCount .kong 0 kong
  | none => 0

/-- The flags of the abilities: diving, oranges, barrels, vines, the camera, the shockwave. -/
def abilityFlags : List Int := [0x182, 0x184, 0x185, 0x183, 0x2FD, 0x179]

/-- `isFlagSet((short)flag, 0)`. -/
def isFlagSet (g : Game) (flag : Int) : Bool := g.progress.flags (BitVec.ofInt 16 flag).toNat

/-- `ap_campaign_has_flag_move`. -/
def hasFlagMove (g : Game) (flag : Int) : Bool :=
  if g.gameplayMode &&& gameplayItems = 0 then if flag = 0x2FD then false else g.isFlagSet flag
  else match abilityFlags.idxOf? flag with
    | none => g.isFlagSet flag
    | some selector => 0 < g.itemCount .move 10 selector

end Game

/-! ## Bits -/

section Bits

variable {a b : Byte} {i n : Nat} {value : Word}

theorem bitOf_nonneg (value : Byte) (i : Nat) : 0 ≤ bitOf value i := by
  unfold bitOf
  split <;> decide

/-- Every bit of `a` is one of `b`. -/
def Within (a b : Byte) : Prop := ∀ i, a.getLsbD i = true → b.getLsbD i = true

theorem Within.refl (a : Byte) : Within a a := fun _ h => h

theorem within_or (a b : Byte) : Within a (a ||| b) := fun i h => by
  rw [BitVec.getLsbD_or, h, Bool.true_or]

theorem bitOf_mono (h : Within a b) (i : Nat) : bitOf a i ≤ bitOf b i := by
  unfold bitOf
  by_cases ha : a.getLsbD i = true
  · rw [if_pos ha, if_pos (h i ha)]
  · rw [if_neg ha]
    exact bitOf_nonneg b i

theorem capped_mono {v w : Word} (h : v ≤ w) : capped v ≤ capped w := by
  have hv : (0x7FFFFFFF : Word).toNat = 0x7FFFFFFF := rfl
  unfold capped
  simp only [BitVec.lt_def, BitVec.le_def, hv] at h ⊢
  split <;> split <;> omega

theorem low_bit (value : Word) : (value &&& 1).toNat = if value.getLsbD 0 then 1 else 0 := by
  have hone : (1 : Word).toNat = 1 := rfl
  rw [BitVec.toNat_and, hone, Nat.and_one_is_mod, BitVec.getLsbD, Nat.testBit_zero]
  by_cases h : value.toNat % 2 = 1
  · simp [h]
  · have hzero : value.toNat % 2 = 0 := by omega
    simp [hzero]

/-- The loop counts the bits of a value that has no more than it takes turns. -/
theorem popcountLoop_eq (k : Nat) : ∀ (n : Nat) (value : Word), (∀ i, n ≤ i → value.getLsbD i = false) →
    popcountLoop (n + k) value = ((List.range n).map fun i => if value.getLsbD i then 1 else 0).sum
  | 0, value, h => by
    have hzero : value = 0 := BitVec.eq_of_getLsbD_eq fun i _ => by simp [h i (Nat.zero_le i)]
    cases k with
    | zero => rfl
    | succ k => simp [popcountLoop, hzero]
  | n + 1, value, h => by
    rw [Nat.succ_add, popcountLoop]
    by_cases hzero : value = 0
    · rw [if_pos hzero, hzero]
      simp
    · have hshift : ∀ i, (value >>> 1).getLsbD i = value.getLsbD (i + 1) := fun i => by
        rw [BitVec.getLsbD_ushiftRight, Nat.add_comm]
      rw [if_neg hzero, low_bit, popcountLoop_eq k n _ fun i hi => by rw [hshift, h _ (by omega)],
        List.range_succ_eq_map, List.map_cons, List.sum_cons, List.map_map]
      congr 2
      refine List.map_congr_left fun i _ => ?_
      rw [Function.comp_apply, hshift]

theorem popcount_eq (hn : n ≤ 32) (h : ∀ i, n ≤ i → value.getLsbD i = false) :
    popcount value = ((List.range n).map fun i => if value.getLsbD i then 1 else 0).sum := by
  have hloop := popcountLoop_eq (32 - n) n value h
  rwa [Nat.add_sub_cancel' hn] at hloop

/-- **The bits of a byte, counted.** -/
theorem popcount_byte {mask : Word} (hn : n ≤ 8)
    (hmask : ∀ i < 32, mask.getLsbD i = decide (i < n)) (a : Byte) :
    (popcount (a.setWidth 32 &&& mask) : Int) = ((List.range n).map (bitOf a)).sum := by
  have hbit : ∀ i, (a.setWidth 32 &&& mask).getLsbD i = (a.getLsbD i && decide (i < n)) := fun i => by
    rw [BitVec.getLsbD_and, BitVec.getLsbD_setWidth]
    by_cases hi : i < 32
    · rw [hmask i hi, decide_eq_true hi, Bool.true_and]
    · have hout : a.getLsbD i = false := BitVec.getLsbD_of_ge a i (by omega)
      rw [hout, Bool.and_false, Bool.false_and, Bool.false_and]
  rw [popcount_eq (n := n) (by omega) fun i hi => by rw [hbit, decide_eq_false (by omega), Bool.and_false]]
  have hterm : ∀ i ∈ List.range n, ((if (a.setWidth 32 &&& mask).getLsbD i then 1 else 0 : Nat) : Int)
      = bitOf a i := by
    intro i hi
    rw [hbit, decide_eq_true (List.mem_range.mp hi), Bool.and_true]
    unfold bitOf
    split <;> rfl
  generalize List.range n = l at hterm ⊢
  induction l with
  | nil => rfl
  | cons i l ih =>
    rw [List.map_cons, List.sum_cons, List.map_cons, List.sum_cons, Nat.cast_add,
      hterm i List.mem_cons_self, ih fun j hj => hterm j (List.mem_cons_of_mem _ hj)]

theorem sum_mono {f g : Nat → Int} (l : List Nat) (h : ∀ i ∈ l, f i ≤ g i) :
    (l.map f).sum ≤ (l.map g).sum := by
  induction l with
  | nil => exact Int.le_refl _
  | cons i l ih =>
    rw [List.map_cons, List.map_cons, List.sum_cons, List.sum_cons]
    exact Int.add_le_add (h i List.mem_cons_self) (ih fun j hj => h j (List.mem_cons_of_mem _ hj))

theorem popcount_mono {mask : Word} (hn : n ≤ 8) (hmask : ∀ i < 32, mask.getLsbD i = decide (i < n))
    (h : Within a b) :
    (popcount (a.setWidth 32 &&& mask) : Int) ≤ popcount (b.setWidth 32 &&& mask) := by
  rw [popcount_byte hn hmask, popcount_byte hn hmask]
  exact sum_mono _ fun i _ => bitOf_mono h i

end Bits

/-! ## Inventories that grow -/

namespace CampaignInventory

variable {c c' c'' : CampaignInventory} {cat : Catalog} {query : ItemQuery} {level kong : Int}

/-- Nothing of `c` is missing in `c'`. -/
structure Grows (c c' : CampaignInventory) : Prop where
  moves : ∀ kong, Within (c.moves kong) (c'.moves kong)
  guns : ∀ kong, Within (c.guns kong) (c'.guns kong)
  instruments : ∀ kong, Within (c.instruments kong) (c'.instruments kong)
  hints : ∀ kong, Within (c.hints kong) (c'.hints kong)
  kongs : Within c.kongs c'.kongs
  keys : Within c.keys c'.keys
  abilities : Within c.abilities c'.abilities
  special : Within c.special c'.special
  shopkeepers : Within c.shopkeepers c'.shopkeepers
  climbing : c.climbing ≠ 0 → c'.climbing ≠ 0
  blueprints : ∀ kong, c.blueprints kong ≤ c'.blueprints kong
  slam : c.slam ≤ c'.slam
  belt : c.belt ≤ c'.belt
  instrumentUpgrades : c.instrumentUpgrades ≤ c'.instrumentUpgrades
  goldenBananas : c.goldenBananas ≤ c'.goldenBananas
  fairies : c.fairies ≤ c'.fairies
  crowns : c.crowns ≤ c'.crowns
  medals : c.medals ≤ c'.medals
  pearls : c.pearls ≤ c'.pearls
  rainbowCoins : c.rainbowCoins ≤ c'.rainbowCoins
  junk : c.junk ≤ c'.junk
  traps : ∀ type, c.traps type ≤ c'.traps type

theorem Grows.refl (c : CampaignInventory) : Grows c c := by
  constructor
  case climbing => exact id
  all_goals first
    | exact Within.refl _
    | exact BitVec.le_refl _
    | exact fun _ => Within.refl _
    | exact fun _ => BitVec.le_refl _

theorem Grows.trans (h : Grows c c') (h' : Grows c' c'') : Grows c c'' where
  moves kong i hi := h'.moves kong i (h.moves kong i hi)
  guns kong i hi := h'.guns kong i (h.guns kong i hi)
  instruments kong i hi := h'.instruments kong i (h.instruments kong i hi)
  hints kong i hi := h'.hints kong i (h.hints kong i hi)
  kongs i hi := h'.kongs i (h.kongs i hi)
  keys i hi := h'.keys i (h.keys i hi)
  abilities i hi := h'.abilities i (h.abilities i hi)
  special i hi := h'.special i (h.special i hi)
  shopkeepers i hi := h'.shopkeepers i (h.shopkeepers i hi)
  climbing hc := h'.climbing (h.climbing hc)
  blueprints kong := BitVec.le_trans (h.blueprints kong) (h'.blueprints kong)
  slam := BitVec.le_trans h.slam h'.slam
  belt := BitVec.le_trans h.belt h'.belt
  instrumentUpgrades := BitVec.le_trans h.instrumentUpgrades h'.instrumentUpgrades
  goldenBananas := BitVec.le_trans h.goldenBananas h'.goldenBananas
  fairies := BitVec.le_trans h.fairies h'.fairies
  crowns := BitVec.le_trans h.crowns h'.crowns
  medals := BitVec.le_trans h.medals h'.medals
  pearls := BitVec.le_trans h.pearls h'.pearls
  rainbowCoins := BitVec.le_trans h.rainbowCoins h'.rainbowCoins
  junk := BitVec.le_trans h.junk h'.junk
  traps type := BitVec.le_trans (h.traps type) (h'.traps type)

theorem le_increment (value : Word) : value ≤ increment value := by
  unfold increment
  split
  · exact BitVec.le_refl _
  · rename_i hne
    have hone : (1 : Word).toNat = 1 := rfl
    have hlt : value.toNat ≠ 0xFFFFFFFF := fun h => hne (BitVec.eq_of_toNat_eq h)
    have := value.isLt
    rw [BitVec.le_def, BitVec.toNat_add, hone, Nat.mod_eq_of_lt (by omega)]
    omega

theorem le_cappedIncrement (value cap : Byte) : value ≤ cappedIncrement value cap := by
  unfold cappedIncrement
  split
  · rename_i hlt
    have hone : (1 : Byte).toNat = 1 := rfl
    have := cap.isLt
    rw [BitVec.lt_def] at hlt
    rw [BitVec.le_def, BitVec.toNat_add, hone, Nat.mod_eq_of_lt (by omega)]
    omega
  · exact BitVec.le_refl _

theorem within_orAt (array : Nat → Byte) (i : Nat) (bits : Byte) (kong : Nat) :
    Within (array kong) (orAt array i bits kong) := by
  unfold orAt
  by_cases h : kong = i
  · subst h
    rw [Function.update_self]
    exact within_or _ _
  · rw [Function.update_of_ne h]
    exact Within.refl _

theorem within_orKongs (array : Nat → Byte) (bits : Byte) (kong : Nat) :
    Within (array kong) (orKongs array bits kong) := by
  unfold orKongs
  split
  · exact within_or _ _
  · exact Within.refl _

theorem grows_applyTransfer (c : CampaignInventory) (transfer : Nat) :
    Grows c (c.applyTransfer transfer) := by
  have h := Grows.refl c
  unfold applyTransfer
  split
  · exact { h with goldenBananas := le_increment _ }
  split
  · exact { h with slam := le_cappedIncrement _ _ }
  split
  · exact { h with moves := within_orAt _ _ _ }
  split
  · exact { h with instruments := within_orAt _ _ _ }
  split
  · exact { h with guns := within_orAt _ _ _ }
  split
  · exact { h with guns := within_orKongs _ _ }
  split
  · exact { h with belt := le_cappedIncrement _ _ }
  split
  · exact { h with
      instrumentUpgrades := le_cappedIncrement _ _
      instruments := within_orKongs _ _ }
  · exact h

theorem grows_applyFlag (c : CampaignInventory) (flag : Nat) : Grows c (c.applyFlag flag) := by
  refine { Grows.refl c with climbing := fun hc => ?climbing, shopkeepers := ?shopkeepers }
  case climbing =>
    change (if flag = 671 then (1 : Byte) else c.climbing) ≠ 0
    split
    · decide
    · exact hc
  case shopkeepers =>
    change Within c.shopkeepers
      (if 962 ≤ flag ∧ flag ≤ 965 then c.shopkeepers ||| bit8 (flag - 962) else c.shopkeepers)
    split
    · exact within_or _ _
    · exact Within.refl _

theorem grows_applyEffect (c : CampaignInventory) (effect : ItemEffect) :
    Grows c (c.applyEffect effect) := by
  have h := Grows.refl c
  obtain ⟨kind, arg0, arg1⟩ := effect
  cases kind with
  | none | unsupported => exact h
  | flag => exact grows_applyFlag c arg1.toNat
  | kong => exact { h with kongs := within_or _ _ }
  | key => exact { h with keys := within_or _ _ }
  | ability => exact { h with abilities := within_or _ _ }
  | special => exact { h with special := within_or _ _ }
  | hint => exact { h with hints := within_orAt _ _ _ }
  | blueprint =>
    refine { h with blueprints := fun kong => ?_ }
    change c.blueprints kong ≤ Function.update c.blueprints arg0.toNat _ kong
    by_cases hk : kong = arg0.toNat
    · rw [hk, Function.update_self]
      exact le_cappedIncrement _ _
    · rw [Function.update_of_ne hk]
      exact BitVec.le_refl _
  | fairy => exact { h with fairies := le_increment _ }
  | crown => exact { h with crowns := le_increment _ }
  | medal => exact { h with medals := le_increment _ }
  | pearl => exact { h with pearls := le_increment _ }
  | rainbow => exact { h with rainbowCoins := le_increment _ }
  | junk => exact { h with junk := le_increment _ }
  | trap =>
    refine { h with traps := fun type => ?_ }
    change c.traps type ≤ Function.update c.traps arg0.toNat _ type
    by_cases hk : type = arg0.toNat
    · rw [hk, Function.update_self]
      exact le_increment _
    · rw [Function.update_of_ne hk]
      exact BitVec.le_refl _
  | transfer => exact grows_applyTransfer c arg0.toNat

theorem grows_addId (c : CampaignInventory) (cat : Catalog) (id : Word) : Grows c (c.addId cat id) := by
  unfold addId
  cases cat.findItem id with
  | none => exact Grows.refl c
  | some item => exact (grows_applyEffect c item.first).trans (grows_applyEffect _ item.second)

/-- **A longer received list is worth no less.** -/
theorem grows_addAll (cat : Catalog) {ids ids' : List Word} (h : ids <+: ids') :
    Grows (addAll cat ids) (addAll cat ids') := by
  obtain ⟨rest, rfl⟩ := h
  unfold addAll
  rw [List.foldl_append]
  generalize ids.foldl (addId cat) {} = c
  induction rest generalizing c with
  | nil => exact Grows.refl c
  | cons id rest ih => exact (grows_addId c cat id).trans (ih _)

end CampaignInventory

/-! ## What the answers mean -/

namespace CampaignInventory

variable {c c' : CampaignInventory} {cat : Catalog} {query : ItemQuery} {level kong : Int}

/-- The sum that saturates. -/
theorem trapTotal_toNat (c : CampaignInventory) : c.trapTotal.toNat =
    min ((List.range trapTypeCount).map fun type => (c.traps type).toNat).sum (2 ^ 32 - 1) := by
  have hfold : ∀ (l : List Nat) (total : Word),
      (l.foldl (fun total type =>
        let next := total + c.traps type
        if next < total then 0xFFFFFFFF else next) total).toNat =
      min (total.toNat + (l.map fun type => (c.traps type).toNat).sum) (2 ^ 32 - 1) := by
    intro l
    induction l with
    | nil =>
      intro total
      have := total.isLt
      rw [List.foldl_nil, List.map_nil, List.sum_nil]
      omega
    | cons type l ih =>
      intro total
      have htop : (0xFFFFFFFF : Word).toNat = 2 ^ 32 - 1 := rfl
      have htotal := total.isLt
      have htype := (c.traps type).isLt
      rw [List.foldl_cons, ih, List.map_cons, List.sum_cons]
      dsimp only
      by_cases hlt : total + c.traps type < total
      · rw [if_pos hlt, htop]
        rw [BitVec.lt_def, BitVec.toNat_add] at hlt
        omega
      · rw [if_neg hlt]
        rw [BitVec.lt_def, BitVec.toNat_add] at hlt
        rw [BitVec.toNat_add]
        omega
  have hzero : (0 : Word).toNat = 0 := rfl
  have h := hfold (List.range trapTypeCount) 0
  rw [hzero, Nat.zero_add] at h
  exact h

theorem nat_sum_mono {f g : Nat → Nat} (l : List Nat) (h : ∀ i ∈ l, f i ≤ g i) :
    (l.map f).sum ≤ (l.map g).sum := by
  induction l with
  | nil => exact Nat.le_refl _
  | cons i l ih =>
    rw [List.map_cons, List.map_cons, List.sum_cons, List.sum_cons]
    exact Nat.add_le_add (h i List.mem_cons_self) (ih fun j hj => h j (List.mem_cons_of_mem _ hj))

theorem Grows.trapTotal (h : Grows c c') : c.trapTotal ≤ c'.trapTotal := by
  rw [BitVec.le_def, trapTotal_toNat, trapTotal_toNat]
  have hsum := nat_sum_mono (List.range trapTypeCount) fun type _ => BitVec.le_def.mp (h.traps type)
  omega

theorem Grows.hintTotal (h : Grows c c') (level kong : Int) :
    c.hintTotal level kong ≤ c'.hintTotal level kong := by
  refine nat_sum_mono _ fun k _ => ?_
  split
  · refine List.countP_mono_left fun l _ hl => ?_
    rw [Bool.and_eq_true] at hl ⊢
    exact ⟨hl.1, h.hints k l hl.2⟩
  · exact Nat.le_refl _

theorem byte_mono {a b : Byte} (h : a ≤ b) : (a.toNat : Int) ≤ b.toNat := Int.ofNat_le.mpr (BitVec.le_def.mp h)

theorem ite_mono {p : Prop} [Decidable p] {x x' y y' : Int} (hx : p → x ≤ x') (hy : ¬ p → y ≤ y') :
    (if p then x else y) ≤ if p then x' else y' := by
  by_cases h : p
  · rw [if_pos h, if_pos h]
    exact hx h
  · rw [if_neg h, if_neg h]
    exact hy h

/-- An answer behind its check. -/
theorem valid_mono {p : Prop} [Decidable p] {x x' : Int} (hx : x ≤ x') :
    (if p then x else -1) ≤ if p then x' else -1 := ite_mono (fun _ => hx) fun _ => Int.le_refl _

theorem Grows.both (h : Grows c c') :
    (if c.abilities &&& 12 = 12 then 1 else 0 : Int) ≤ if c'.abilities &&& 12 = 12 then 1 else 0 := by
  have hbits : ∀ a : Byte, a &&& 12 = 12 ↔ a.getLsbD 2 = true ∧ a.getLsbD 3 = true := by decide
  simp only [hbits]
  by_cases hc : c.abilities.getLsbD 2 = true ∧ c.abilities.getLsbD 3 = true
  · rw [if_pos hc, if_pos ⟨h.abilities 2 hc.1, h.abilities 3 hc.2⟩]
  · rw [if_neg hc]
    split <;> decide

theorem Grows.climbs (h : Grows c c') :
    (if c.climbing ≠ 0 then 1 else 0 : Int) ≤ if c'.climbing ≠ 0 then 1 else 0 := by
  by_cases hc : c.climbing ≠ 0
  · rw [if_pos hc, if_pos (h.climbing hc)]
  · rw [if_neg hc]
    split <;> decide

theorem Grows.moveCount (h : Grows c c') (level kong : Int) :
    c.moveCount level kong ≤ c'.moveCount level kong := by
  unfold CampaignInventory.moveCount
  refine ite_mono (fun _ => valid_mono (bitOf_mono (h.moves _) _)) fun _ => ?_
  refine ite_mono (fun _ => valid_mono (byte_mono h.slam)) fun _ => ?_
  refine ite_mono (fun _ => valid_mono (bitOf_mono (h.guns _) _)) fun _ => ?_
  refine ite_mono (fun _ => valid_mono (bitOf_mono (h.guns _) _)) fun _ => ?_
  refine ite_mono (fun _ => valid_mono (byte_mono h.belt)) fun _ => ?_
  refine ite_mono (fun _ => valid_mono (bitOf_mono (h.instruments _) _)) fun _ => ?_
  refine ite_mono (fun _ => valid_mono (byte_mono h.instrumentUpgrades)) fun _ => ?_
  refine ite_mono (fun _ => valid_mono (bitOf_mono h.abilities _)) fun _ => ?_
  refine ite_mono (fun _ => valid_mono h.climbs) fun _ => ?_
  exact ite_mono (fun _ => valid_mono h.both) fun _ => Int.le_refl _

theorem mask_kongs : ∀ i < 32, (31 : Word).getLsbD i = decide (i < 5) := by decide

theorem mask_shopkeepers : ∀ i < 32, (15 : Word).getLsbD i = decide (i < 4) := by decide

theorem mask_keys : ∀ i < 32, (255 : Word).getLsbD i = decide (i < 8) := by decide

/-- The bits of a byte are the low ones. -/
theorem and_byte (a : Byte) : a.setWidth 32 &&& 255 = a.setWidth 32 := by
  refine BitVec.eq_of_getLsbD_eq fun i hi => ?_
  rw [BitVec.getLsbD_and, mask_keys i hi, BitVec.getLsbD_setWidth]
  by_cases h : i < 8
  · rw [decide_eq_true h, Bool.and_true]
  · rw [BitVec.getLsbD_of_ge a i (by omega), Bool.and_false, Bool.false_and]

theorem popcount_keys (a : Byte) : (popcount (a.setWidth 32) : Int) = ((List.range 8).map (bitOf a)).sum := by
  rw [← and_byte, popcount_byte (by decide) mask_keys]

/-- **No answer falls when the inventory grows.** -/
theorem countOf_mono (h : Grows c c') (query : ItemQuery) (level kong : Int) :
    c.countOf query level kong ≤ c'.countOf query level kong := by
  cases query with
  | kong =>
    refine ite_mono (fun _ => Int.le_refl _) fun _ => ite_mono (fun _ => ?_) fun _ => ?_
    · exact popcount_mono (by decide) mask_kongs h.kongs
    · exact valid_mono (bitOf_mono h.kongs _)
  | key =>
    refine ite_mono (fun _ => Int.le_refl _) fun _ => ite_mono (fun _ => ?_) fun _ => ?_
    · rw [popcount_keys, popcount_keys]
      exact sum_mono _ fun i _ => bitOf_mono h.keys i
    · exact valid_mono (bitOf_mono h.keys _)
  | hint => exact ite_mono (fun _ => Int.le_refl _) fun _ => Int.ofNat_le.mpr (h.hintTotal level kong)
  | blueprint =>
    refine ite_mono (fun _ => Int.le_refl _) fun _ => ite_mono (fun _ => Int.le_refl _) fun _ =>
      ite_mono (fun _ => byte_mono (h.blueprints _)) fun _ => ?_
    have h0 := byte_mono (h.blueprints 0)
    have h1 := byte_mono (h.blueprints 1)
    have h2 := byte_mono (h.blueprints 2)
    have h3 := byte_mono (h.blueprints 3)
    have h4 := byte_mono (h.blueprints 4)
    omega
  | fairy => exact valid_mono (capped_mono h.fairies)
  | crown => exact valid_mono (capped_mono h.crowns)
  | companyCoin =>
    refine ite_mono (fun _ => Int.le_refl _) fun _ => ite_mono (fun _ => bitOf_mono h.special 0) fun _ =>
      ite_mono (fun _ => bitOf_mono h.special 1) fun _ => ?_
    exact Int.add_le_add (bitOf_mono h.special 0) (bitOf_mono h.special 1)
  | medal => exact valid_mono (capped_mono h.medals)
  | bean => exact valid_mono (bitOf_mono h.special 2)
  | pearl => exact valid_mono (capped_mono h.pearls)
  | rainbowCoin => exact valid_mono (capped_mono h.rainbowCoins)
  | trap =>
    exact ite_mono (fun _ => Int.le_refl _) fun _ => ite_mono (fun _ => Int.le_refl _) fun _ =>
      ite_mono (fun _ => capped_mono (h.traps _)) fun _ => capped_mono h.trapTotal
  | junk => exact valid_mono (capped_mono h.junk)
  | move => exact h.moveCount level kong
  | goldenBanana => exact valid_mono (capped_mono h.goldenBananas)
  | shopkeeper =>
    refine ite_mono (fun _ => Int.le_refl _) fun _ => ite_mono (fun _ => ?_) fun _ => ?_
    · exact popcount_mono (by decide) mask_shopkeepers h.shopkeepers
    · exact valid_mono (bitOf_mono h.shopkeepers _)

end CampaignInventory

/-! ## Totals -/

/-- The Kongs a query can be asked for together. -/
def ItemQuery.kongs : ItemQuery → Option Nat
  | .kong | .hint | .blueprint => some 5
  | .companyCoin => some 2
  | .shopkeeper => some 4
  | _ => none

/-- The levels a query can be asked for together. -/
def ItemQuery.levels : ItemQuery → Option Nat
  | .key | .hint => some 8
  | _ => none

namespace CampaignInventory

variable {c : CampaignInventory} {cat : Catalog} {query : ItemQuery} {level kong : Int} {n m : Nat}

theorem invalid {p : Prop} [Decidable p] {x : Int} (h : 0 ≤ if p then -1 else x) :
    ¬ p ∧ (if p then -1 else x) = x := by
  by_cases hp : p
  · rw [if_pos hp] at h
    exact absurd h (by decide)
  · exact ⟨hp, if_neg hp⟩

theorem sum_single (f : Nat → Nat) : ∀ (n k : Nat), k < n →
    ((List.range n).map fun i => if (k : Int) = -1 ∨ (k : Int) = (i : Nat) then f i else 0).sum = f k
  | 0, k, h => absurd h (Nat.not_lt_zero k)
  | n + 1, k, h => by
    rw [List.range_succ, List.map_append, List.sum_append, List.map_singleton, List.sum_singleton]
    by_cases hk : k = n
    · have hzero : ((List.range n).map fun i => if (k : Int) = -1 ∨ (k : Int) = (i : Nat) then f i else 0).sum
          = 0 := by
        refine List.sum_eq_zero fun x hx => ?_
        obtain ⟨i, hi, rfl⟩ := List.mem_map.mp hx
        have := List.mem_range.mp hi
        rw [if_neg (by omega)]
      rw [hzero, if_pos (by omega), Nat.zero_add, hk]
    · rw [sum_single f n k (by omega), if_neg (by omega), Nat.add_zero]

theorem natCast_sum (l : List Nat) (f : Nat → Nat) :
    ((l.map f).sum : Int) = (l.map fun i => (f i : Int)).sum := by
  induction l with
  | nil => rfl
  | cons i l ih => rw [List.map_cons, List.sum_cons, List.map_cons, List.sum_cons, Nat.cast_add, ih]

/-- **The answer for all Kongs is the sum over the Kongs.** -/
theorem countOf_kongs (hq : query.kongs = some n) (hvalid : 0 ≤ c.countOf query level (-1)) :
    c.countOf query level (-1) = ((List.range n).map fun (k : Nat) => c.countOf query level k).sum := by
  cases query with
  | kong =>
    obtain rfl : 5 = n := Option.some.inj hq
    obtain ⟨hlevel, -⟩ := invalid hvalid
    unfold countOf
    dsimp only
    rw [if_neg hlevel, if_pos rfl, popcount_byte (by decide) mask_kongs]
    congr 1
    refine List.map_congr_left fun k hk => ?_
    have := List.mem_range.mp hk
    rw [if_neg hlevel, if_neg (by omega), if_pos (by omega), Int.toNat_natCast]
  | hint =>
    obtain rfl : 5 = n := Option.some.inj hq
    obtain ⟨hlevel, -⟩ := invalid hvalid
    unfold countOf
    dsimp only
    rw [if_neg hlevel]
    unfold hintTotal
    rw [natCast_sum]
    congr 1
    refine List.map_congr_left fun k hk => ?_
    have := List.mem_range.mp hk
    rw [if_pos (.inl rfl), if_neg (by omega),
      sum_single (fun i => (List.range 8).countP fun (l : Nat) => (level = -1 ∨ level = l) &&
        (c.hints i).getLsbD l) 5 k this]
  | blueprint =>
    obtain rfl : 5 = n := Option.some.inj hq
    obtain ⟨hlevel, -⟩ := invalid hvalid
    have hsum : (List.range 5).map (fun (k : Nat) => c.countOf .blueprint level k)
        = (List.range 5).map fun k => ((c.blueprints k).toNat : Int) := by
      refine List.map_congr_left fun k hk => ?_
      have := List.mem_range.mp hk
      unfold countOf
      dsimp only
      rw [if_neg hlevel, if_neg (by omega), if_pos (by omega), Int.toNat_natCast]
    rw [hsum]
    unfold countOf
    dsimp only
    rw [if_neg hlevel, if_neg (by decide), if_neg (by decide), List.range_succ, List.range_succ,
      List.range_succ, List.range_succ, List.range_succ]
    simp only [List.range_zero, List.nil_append, List.cons_append, List.map_cons, List.map_nil,
      List.sum_cons, List.sum_nil]
    omega
  | companyCoin =>
    obtain rfl : 2 = n := Option.some.inj hq
    obtain ⟨hlevel, -⟩ := invalid hvalid
    unfold countOf
    dsimp only
    rw [if_neg hlevel, if_neg (by decide), if_neg (by decide), List.range_succ, List.range_succ]
    simp only [List.range_zero, List.nil_append, List.cons_append, List.map_cons, List.map_nil,
      List.sum_cons, List.sum_nil]
    have hz : level = 0 := by omega
    simp [hz]
  | shopkeeper =>
    obtain rfl : 4 = n := Option.some.inj hq
    obtain ⟨hlevel, -⟩ := invalid hvalid
    unfold countOf
    dsimp only
    rw [if_neg hlevel, if_pos rfl, popcount_byte (by decide) mask_shopkeepers]
    congr 1
    refine List.map_congr_left fun k hk => ?_
    have := List.mem_range.mp hk
    rw [if_neg hlevel, if_neg (by omega), if_pos (by omega), Int.toNat_natCast]
  | _ => cases hq

end CampaignInventory

namespace CampaignInventory

variable {c : CampaignInventory} {cat : Catalog} {query : ItemQuery} {level kong : Int} {n m : Nat}

theorem countP_eq_sum (p : Nat → Bool) (l : List Nat) :
    l.countP p = (l.map fun i => if p i = true then 1 else 0).sum := by
  induction l with
  | nil => rfl
  | cons i l ih => rw [List.countP_cons, List.map_cons, List.sum_cons, ih, Nat.add_comm]

/-- The hints of one level. -/
theorem countP_level (a : Byte) {level : Nat} (h : level < 8) :
    ((List.range 8).countP fun (l : Nat) => ((level : Int) = -1 ∨ (level : Int) = l) && a.getLsbD l)
      = if a.getLsbD level = true then 1 else 0 := by
  rw [countP_eq_sum, ← sum_single (fun l => if a.getLsbD l = true then 1 else 0) 8 level h]
  congr 1
  refine List.map_congr_left fun l _ => ?_
  by_cases hl : (level : Int) = -1 ∨ (level : Int) = l
  · rw [if_pos hl, decide_eq_true hl, Bool.true_and]
  · rw [if_neg hl, decide_eq_false hl, Bool.false_and, if_neg Bool.false_ne_true]

theorem hintTotal_levels (c : CampaignInventory) (kong : Int) :
    c.hintTotal (-1) kong = ((List.range 8).map fun (l : Nat) => c.hintTotal l kong).sum := by
  unfold hintTotal
  induction List.range 5 with
  | nil => rfl
  | cons k ks ih =>
    simp only [List.map_cons, List.sum_cons] at ih ⊢
    rw [List.sum_map_add, ih]
    congr 1
    by_cases hk : kong = -1 ∨ kong = k
    · simp only [if_pos hk]
      rw [countP_eq_sum]
      congr 1
      refine List.map_congr_left fun l hl => ?_
      rw [countP_level (c.hints k) (List.mem_range.mp hl)]
      simp
    · simp only [if_neg hk]
      rfl

/-- **The answer for all levels is the sum over the levels.** -/
theorem countOf_levels (hq : query.levels = some n) (hvalid : 0 ≤ c.countOf query (-1) kong) :
    c.countOf query (-1) kong = ((List.range n).map fun (l : Nat) => c.countOf query l kong).sum := by
  cases query with
  | key =>
    obtain rfl : 8 = n := Option.some.inj hq
    obtain ⟨hkong, -⟩ := invalid hvalid
    unfold countOf
    dsimp only
    rw [if_neg hkong, if_pos rfl, popcount_keys]
    congr 1
    refine List.map_congr_left fun l hl => ?_
    have := List.mem_range.mp hl
    rw [if_neg hkong, if_neg (by omega), if_pos (by omega), Int.toNat_natCast]
  | hint =>
    obtain rfl : 8 = n := Option.some.inj hq
    obtain ⟨hkong, -⟩ := invalid hvalid
    unfold countOf
    dsimp only
    rw [if_neg hkong, hintTotal_levels, natCast_sum]
    congr 1
    refine List.map_congr_left fun l hl => ?_
    have := List.mem_range.mp hl
    rw [if_neg (by omega)]
  | _ => cases hq

/-! ## The traps of a received list -/

/-- The traps, of all types. -/
def trapSum (c : CampaignInventory) : Nat :=
  ((List.range trapTypeCount).map fun type => (c.traps type).toNat).sum

theorem sum_update (f : Nat → Nat) (type value : Nat) : ∀ (l : List Nat), l.Nodup → type ∈ l →
    (l.map (Function.update f type value)).sum + f type = (l.map f).sum + value
  | b :: l, hnodup, hmem => by
    obtain ⟨hfresh, hnodup⟩ := List.nodup_cons.mp hnodup
    rw [List.map_cons, List.map_cons, List.sum_cons, List.sum_cons]
    by_cases heq : b = type
    · subst heq
      have hrest : l.map (Function.update f b value) = l.map f :=
        List.map_congr_left fun i hi => Function.update_of_ne (by rintro rfl; exact hfresh hi) _ _
      rw [Function.update_self, hrest]
      omega
    · have hrest : type ∈ l := (List.mem_cons.mp hmem).resolve_left fun e => heq e.symm
      have ih := sum_update f type value l hnodup hrest
      rw [Function.update_of_ne heq]
      omega

theorem traps_applyEffect {effect : ItemEffect} (h : effect.kind ≠ .trap) :
    (c.applyEffect effect).traps = c.traps := by
  obtain ⟨kind, arg0, arg1⟩ := effect
  cases kind with
  | trap => exact absurd rfl h
  | transfer =>
    change (c.applyTransfer arg0.toNat).traps = c.traps
    unfold applyTransfer
    repeat' split
    all_goals rfl
  | _ => rfl

theorem trapSum_applyEffect {effect : ItemEffect} (hc : Counted m c) (hm : m < 2 ^ 32 - 1)
    (hvalid : effectValid effect) :
    (c.applyEffect effect).trapSum = c.trapSum + if effect.kind = .trap then 1 else 0 := by
  by_cases hkind : effect.kind = .trap
  · obtain ⟨kind, arg0, arg1⟩ := effect
    obtain rfl : kind = .trap := hkind
    have htype : arg0.toNat ∈ List.range trapTypeCount := List.mem_range.mpr (of_decide_eq_true hvalid)
    have hone : (1 : Word).toNat = 1 := rfl
    have hbound := hc.traps arg0.toNat
    have hstep : (increment (c.traps arg0.toNat)).toNat = (c.traps arg0.toNat).toNat + 1 := by
      rw [increment_eq (by omega), BitVec.toNat_add, hone, Nat.mod_eq_of_lt (by omega)]
    have hsum := sum_update (fun type => (c.traps type).toNat) arg0.toNat
      ((c.traps arg0.toNat).toNat + 1) _ List.nodup_range htype
    have hmap : (fun type => ((c.applyEffect ⟨.trap, arg0, arg1⟩).traps type).toNat)
        = Function.update (fun type => (c.traps type).toNat) arg0.toNat
          ((c.traps arg0.toNat).toNat + 1) := by
      funext type
      change (Function.update c.traps arg0.toNat (increment (c.traps arg0.toNat)) type).toNat = _
      by_cases h : type = arg0.toNat
      · rw [h, Function.update_self, Function.update_self, hstep]
      · rw [Function.update_of_ne h, Function.update_of_ne h]
    unfold trapSum
    rw [hmap, if_pos rfl]
    omega
  · unfold trapSum
    rw [traps_applyEffect hkind, if_neg hkind, Nat.add_zero]

theorem trapSum_addId {id : Word} (hc : Counted m c) (hm : m + 1 < 2 ^ 32 - 1) :
    (c.addId cat id).trapSum = c.trapSum + (cat.trapsOf id).length := by
  unfold addId Catalog.trapsOf
  cases hfind : cat.findItem id with
  | none => simp
  | some item =>
    have hvalid := Catalog.findItem_valid hfind
    have hfirst := trapSum_applyEffect hc (by omega) (hvalid item.first List.mem_cons_self)
    have hsecond := trapSum_applyEffect (applyEffect_counted hc item.first) hm
      (hvalid item.second (List.mem_cons_of_mem _ List.mem_cons_self))
    have htraps : (trapsOf item.effects).length = (if item.first.kind = .trap then 1 else 0)
        + if item.second.kind = .trap then 1 else 0 := by
      unfold ItemEffectDef.effects
      rw [trapsOf_cons, trapsOf_cons]
      split <;> split <;> rfl
    have hitem : c.addItem item = (c.applyEffect item.first).applyEffect item.second := rfl
    rw [Option.map_some, Option.getD_some, Option.map_some, Option.getD_some, hitem, hsecond, hfirst, htraps,
      Nat.add_assoc]

/-- **The traps of a received list are counted one by one.** -/
theorem trapTotal_addAll (cat : Catalog) {ids : List Word} (h : 2 * ids.length < 2 ^ 31) :
    capped (addAll cat ids).trapTotal = ((ids.flatMap cat.trapsOf).length : Int) := by
  have hsum : ∀ ids : List Word, 2 * ids.length < 2 ^ 31 →
      (addAll cat ids).trapSum = (ids.flatMap cat.trapsOf).length
        ∧ (ids.flatMap cat.trapsOf).length ≤ 2 * ids.length := by
    intro ids
    induction ids using List.reverseRecOn with
    | nil => exact fun _ => ⟨by simp [addAll, trapSum], Nat.le_refl _⟩
    | append_singleton ids id ih =>
      intro hlen
      rw [List.length_append, List.length_singleton] at hlen
      obtain ⟨hih, hle⟩ := ih (by omega)
      have hadd : addAll cat (ids ++ [id]) = (addAll cat ids).addId cat id := List.foldl_append
      have hfew : (cat.trapsOf id).length ≤ 2 := by
        unfold Catalog.trapsOf
        cases cat.findItem id with
        | none => exact Nat.zero_le _
        | some item => exact (List.length_filterMap_le _ _)
      rw [hadd, trapSum_addId (addAll_counted cat ids) (by omega), hih, List.flatMap_append,
        List.flatMap_singleton, List.length_append, List.length_append, List.length_singleton]
      exact ⟨rfl, by omega⟩
  obtain ⟨heq, hle⟩ := hsum ids h
  have htop : (0x7FFFFFFF : Word).toNat = 0x7FFFFFFF := rfl
  have htotal := trapTotal_toNat (addAll cat ids)
  rw [← trapSum, heq] at htotal
  unfold capped
  rw [if_neg (by rw [BitVec.lt_def, htop]; omega), htotal, Nat.min_eq_left (by omega)]

end CampaignInventory

end Dk64Port.Archipelago
