import Dk64Port.Archipelago.Game
import Dk64Port.Archipelago.Reducers
import Mathlib.Algebra.Group.Nat.Defs

/-!
# What one receipt changes

The inventory of a received list is that of the list before, with one row more. A commit reads off
it whether the row brings a golden banana or rainbow coins, and which levels a Kong has.

* `Low`: the levels fit in the bits that a commit writes them to.
* `goldenBananas_lt_iff`, `rainbowCoins_lt_iff`: a counter is raised exactly by the rows that count.
* `addAll_take_succ`: one receipt more.
-/

namespace Dk64Port.Archipelago

open ByteLayout (Byte)

/-! ## The levels -/

/-- The levels stay inside their bits. -/
structure Low (c : CampaignInventory) : Prop where
  moves : ∀ kong, c.moves kong &&& 7 = c.moves kong
  guns : ∀ kong, c.guns kong &&& 7 = c.guns kong
  instruments : ∀ kong, c.instruments kong &&& 15 = c.instruments kong
  upgrades : c.instrumentUpgrades.toNat ≤ 3

variable {cat : Catalog} {c : CampaignInventory} {effect : ItemEffect} {id : Word} {m : Nat}

/-- An empty inventory. -/
theorem low_empty : Low {} :=
  ⟨fun _ => BitVec.zero_and, fun _ => BitVec.zero_and, fun _ => BitVec.zero_and, Nat.zero_le _⟩

/-- Setting masked bits of one Kong. -/
theorem masked_orAt {array : Nat → Byte} {mask bits : Byte} {i : Nat}
    (h : ∀ kong, array kong &&& mask = array kong) (hbits : bits &&& mask = bits) (kong : Nat) :
    orAt array i bits kong &&& mask = orAt array i bits kong := by
  unfold orAt
  by_cases hkong : kong = i
  · subst hkong
    rw [Function.update_self, BitVec.and_or_distrib_right, h, hbits]
  · rw [Function.update_of_ne hkong, h]

/-- Setting them for all Kongs. -/
theorem masked_orKongs {array : Nat → Byte} {mask bits : Byte}
    (h : ∀ kong, array kong &&& mask = array kong) (hbits : bits &&& mask = bits) (kong : Nat) :
    orKongs array bits kong &&& mask = orKongs array bits kong := by
  unfold orKongs
  split
  · rw [BitVec.and_or_distrib_right, h, hbits]
  · exact h kong

/-- The four levels of an instrument upgrade. -/
theorem masked_instrumentMask {upgrades : Byte} (h : upgrades.toNat ≤ 3) :
    instrumentMask upgrades &&& 15 = instrumentMask upgrades := by
  have hcases : ∀ n ≤ 3, instrumentMask (BitVec.ofNat 8 n) &&& 15 =
      instrumentMask (BitVec.ofNat 8 n) := by decide
  have hupgrades : upgrades = BitVec.ofNat 8 upgrades.toNat := by simp
  rw [hupgrades]
  exact hcases _ h

theorem masked_bit8 {n : Nat} (h : n < 3) : bit8 n &&& 7 = bit8 n := by
  have hcases : ∀ n < 3, bit8 n &&& 7 = bit8 n := by decide
  exact hcases n h

/-- **A transfer keeps the levels inside their bits**, branch by branch. -/
theorem Low.applyTransfer (h : Low c) (transfer : Nat) : Low (c.applyTransfer transfer) := by
  unfold CampaignInventory.applyTransfer
  split
  · exact { h with }
  split
  · exact { h with }
  split
  · exact { h with moves := masked_orAt h.moves (masked_bit8 (Nat.mod_lt _ (by decide))) }
  split
  · exact { h with instruments := masked_orAt h.instruments (by decide) }
  split
  · exact { h with guns := masked_orAt h.guns (by decide) }
  split
  · exact { h with guns := masked_orKongs h.guns (masked_bit8 (by omega)) }
  split
  · exact { h with }
  split
  · have hupgrades : (cappedIncrement c.instrumentUpgrades 3).toNat ≤ 3 :=
      cappedIncrement_le h.upgrades
    exact { h with
      instruments := masked_orKongs h.instruments (masked_instrumentMask hupgrades)
      upgrades := hupgrades }
  · exact h

/-- So does every effect: no other one touches them. -/
theorem Low.applyEffect (h : Low c) (effect : ItemEffect) : Low (c.applyEffect effect) := by
  obtain ⟨kind, arg0, arg1⟩ := effect
  cases kind with
  | unsupported | none => exact h
  | transfer => exact h.applyTransfer arg0.toNat
  | _ => exact { h with }

theorem Low.addId (h : Low c) (cat : Catalog) (id : Word) : Low (c.addId cat id) := by
  unfold CampaignInventory.addId
  cases cat.findItem id with
  | none => exact h
  | some item => exact (h.applyEffect item.first).applyEffect item.second

/-- **And a whole list.** -/
theorem low_addAll (cat : Catalog) (ids : List Word) : Low (CampaignInventory.addAll cat ids) := by
  induction ids using List.reverseRecOn with
  | nil => exact low_empty
  | append_singleton ids id ih =>
    rw [CampaignInventory.addAll, List.foldl_append]
    exact ih.addId cat id

/-! ## The counters -/

/-- The effect of a golden banana. -/
def ItemEffect.isBanana (effect : ItemEffect) : Bool :=
  effect.kind == .transfer && effect.arg0 == 1

/-- The effect of rainbow coins. -/
def ItemEffect.isRainbow (effect : ItemEffect) : Bool := effect.kind == .rainbow

namespace Catalog

/-- A golden-banana receipt. -/
def givesBanana (cat : Catalog) (id : Word) : Bool :=
  (cat.findItem id).any fun item => item.effects.any ItemEffect.isBanana

/-- A rainbow receipt. -/
def givesRainbow (cat : Catalog) (id : Word) : Bool :=
  (cat.findItem id).any fun item => item.effects.any ItemEffect.isRainbow

/-- The traps of a receipt. -/
def trapsOf (cat : Catalog) (id : Word) : List Byte :=
  ((cat.findItem id).map fun item => Archipelago.trapsOf item.effects).getD []

end Catalog

/-- Only a banana counts as one. -/
theorem goldenBananas_applyEffect (c : CampaignInventory) (effect : ItemEffect) :
    (c.applyEffect effect).goldenBananas =
      if effect.isBanana then increment c.goldenBananas else c.goldenBananas := by
  obtain ⟨kind, arg0, arg1⟩ := effect
  cases kind with
  | transfer =>
    have harg : (arg0.toNat = 1) ↔ arg0 = 1 := by
      rw [← BitVec.toNat_inj]
      exact Iff.rfl
    by_cases h : arg0 = 1
    · subst h
      rfl
    · have hbanana : ItemEffect.isBanana ⟨.transfer, arg0, arg1⟩ = false := beq_false_of_ne h
      rw [hbanana, if_neg Bool.false_ne_true]
      simp only [CampaignInventory.applyEffect, CampaignInventory.applyTransfer,
        if_neg (mt harg.mp h)]
      repeat' split
      all_goals rfl
  | _ => rfl

/-- Only rainbow coins count as such. -/
theorem rainbowCoins_applyEffect (c : CampaignInventory) (effect : ItemEffect) :
    (c.applyEffect effect).rainbowCoins =
      if effect.isRainbow then increment c.rainbowCoins else c.rainbowCoins := by
  obtain ⟨kind, arg0, arg1⟩ := effect
  cases kind with
  | transfer =>
    show (c.applyTransfer arg0.toNat).rainbowCoins = c.rainbowCoins
    unfold CampaignInventory.applyTransfer
    repeat' split
    all_goals rfl
  | _ => rfl

/-- A counter that two effects may raise. -/
theorem lt_raised_iff {value : Word} (h : value.toNat + 2 < 2 ^ 32) (first second : Bool) :
    value < (if second then increment (if first then increment value else value)
      else if first then increment value else value) ↔ first ∨ second := by
  have hone : (1 : Word).toNat = 1 := rfl
  have hsucc : ∀ v : Word, v.toNat + 1 < 2 ^ 32 → (increment v).toNat = v.toNat + 1 := by
    intro v hv
    rw [increment_eq (by omega), BitVec.toNat_add, hone, Nat.mod_eq_of_lt hv]
  have h1 := hsucc value (by omega)
  have h2 := hsucc (increment value) (by omega)
  have hlt1 : value < increment value := BitVec.lt_def.mpr (by omega)
  have hlt2 : value < increment (increment value) := BitVec.lt_def.mpr (by omega)
  cases first <;> cases second <;> simp [hlt1, hlt2]

/-- **The bananas go up exactly for a golden-banana receipt.** -/
theorem goldenBananas_lt_iff (hc : Counted m c) (hm : m + 2 < 2 ^ 32) :
    c.goldenBananas < (c.addId cat id).goldenBananas ↔ cat.givesBanana id := by
  have hbound := hc.goldenBananas
  unfold CampaignInventory.addId Catalog.givesBanana
  cases cat.findItem id with
  | none => simp
  | some item =>
    show c.goldenBananas < ((c.applyEffect item.first).applyEffect item.second).goldenBananas ↔ _
    rw [goldenBananas_applyEffect, goldenBananas_applyEffect, lt_raised_iff (by omega)]
    simp [ItemEffectDef.effects]

/-- **The rainbow coins go up exactly for a rainbow receipt.** -/
theorem rainbowCoins_lt_iff (hc : Counted m c) (hm : m + 2 < 2 ^ 32) :
    c.rainbowCoins < (c.addId cat id).rainbowCoins ↔ cat.givesRainbow id := by
  have hbound := hc.rainbowCoins
  unfold CampaignInventory.addId Catalog.givesRainbow
  cases cat.findItem id with
  | none => simp
  | some item =>
    show c.rainbowCoins < ((c.applyEffect item.first).applyEffect item.second).rainbowCoins ↔ _
    rw [rainbowCoins_applyEffect, rainbowCoins_applyEffect, lt_raised_iff (by omega)]
    simp [ItemEffectDef.effects]

/-! ## A received list -/

/-- A receipt raises no counter by more than two. -/
theorem addId_counted (hc : Counted m c) (cat : Catalog) (id : Word) :
    Counted (m + 2) (c.addId cat id) := by
  unfold CampaignInventory.addId
  cases cat.findItem id with
  | none => exact hc.mono (by omega)
  | some item => exact applyEffect_counted (applyEffect_counted hc item.first) item.second

/-- So a list raises none by more than twice its length. -/
theorem addAll_counted (cat : Catalog) (ids : List Word) :
    Counted (2 * ids.length) (CampaignInventory.addAll cat ids) := by
  induction ids using List.reverseRecOn with
  | nil => exact counted_empty
  | append_singleton ids id ih =>
    rw [CampaignInventory.addAll, List.foldl_append, List.length_append]
    exact addId_counted ih cat id

/-- One receipt more. -/
theorem addAll_take_succ {ids : List Word} {n : Nat} (h : ids[n]? = some id) :
    CampaignInventory.addAll cat (ids.take (n + 1)) =
      (CampaignInventory.addAll cat (ids.take n)).addId cat id := by
  obtain ⟨hlen, rfl⟩ := List.getElem?_eq_some_iff.mp h
  rw [List.take_succ_eq_append_getElem hlen, CampaignInventory.addAll, List.foldl_append]
  rfl

end Dk64Port.Archipelago
