import Dk64Port.Archipelago.NativeInventory
import Mathlib.Algebra.Group.Nat.Defs
import Mathlib.Algebra.Group.Int.Defs

/-!
# The two inventory reducers agree

The game folds ids over compiled rows, the native side folds receipts over the entries the rows
were compiled from.

* `Agrees`, `Counted`: the simulation, and the bounds under which counters that wrap and counters
  that saturate are the same counters.
* `countEffect_agrees`: one effect, one case for each kind of entry.
* `receive_agrees`: one receipt; an item without an effect is recorded as unsupported.
* `reducers_agree`: the game accepts a list exactly when the native reducer reports nothing
  unsupported, and then every field is the same.
-/

namespace Dk64Port.Archipelago

open ByteLayout (Byte)

variable {cat : Catalog} {trapTypes : List String} {c : CampaignInventory} {inv : NativeInventory}
  {m : Nat}

/-- Every field of the two inventories is the same; traps are counted by index and by name. -/
structure Agrees (trapTypes : List String) (c : CampaignInventory) (inv : NativeInventory) :
    Prop where
  moves : c.moves = inv.moves
  guns : c.guns = inv.guns
  instruments : c.instruments = inv.instruments
  hints : c.hints = inv.hints
  blueprints : c.blueprints = inv.blueprints
  kongs : c.kongs = inv.kongs
  keys : c.keys = inv.keys
  abilities : c.abilities = inv.abilities
  special : c.special = inv.special
  slam : c.slam = inv.slam
  belt : c.belt = inv.belt
  instrumentUpgrades : c.instrumentUpgrades = inv.instrumentUpgrades
  shopkeepers : c.shopkeepers = inv.shopkeepers
  climbing : c.climbing = if inv.climbing then 1 else 0
  goldenBananas : c.goldenBananas = inv.goldenBananas
  fairies : c.fairies = inv.fairies
  crowns : c.crowns = inv.crowns
  medals : c.medals = inv.medals
  pearls : c.pearls = inv.pearls
  rainbowCoins : c.rainbowCoins = inv.rainbowCoins
  junk : c.junk = inv.junk
  traps : ∀ i name, trapTypes[i]? = some name → c.traps i = inv.traps name
  foreign : ∀ name, name ∉ trapTypes → inv.traps name = 0
  unused : ∀ i, trapTypes.length ≤ i → c.traps i = 0
  flags : ∀ flag : Half, flag ∈ inv.flags ↔ c.hasFlag flag.toNat

/-- The capped counters are below their caps, the others count at most `m`. -/
structure Counted (m : Nat) (c : CampaignInventory) : Prop where
  slam : c.slam.toNat ≤ 3
  belt : c.belt.toNat ≤ 2
  instrumentUpgrades : c.instrumentUpgrades.toNat ≤ 3
  blueprints : ∀ kong, (c.blueprints kong).toNat ≤ 8
  goldenBananas : c.goldenBananas.toNat ≤ m
  fairies : c.fairies.toNat ≤ m
  crowns : c.crowns.toNat ≤ m
  medals : c.medals.toNat ≤ m
  pearls : c.pearls.toNat ≤ m
  rainbowCoins : c.rainbowCoins.toNat ≤ m
  junk : c.junk.toNat ≤ m
  traps : ∀ i, (c.traps i).toNat ≤ m

theorem agrees_empty (trapTypes : List String) : Agrees trapTypes {} {} := by
  constructor <;> intros <;> simp [CampaignInventory.hasFlag]

theorem counted_empty : Counted 0 {} := by
  constructor <;> intros <;> simp

/-! ## The counters -/

theorem increment_toNat_le (value : Word) : (increment value).toNat ≤ value.toNat + 1 := by
  unfold increment
  split
  · omega
  · have hone : (1 : Word).toNat = 1 := rfl
    rw [BitVec.toNat_add, hone]
    exact Nat.mod_le _ _

/-- Below the top a saturating counter counts. -/
theorem increment_eq {value : Word} (h : value.toNat < 2 ^ 32 - 1) :
    increment value = value + 1 := by
  unfold increment
  rw [if_neg]
  rintro rfl
  simp at h

theorem cappedIncrement_le {value cap : Byte} (h : value.toNat ≤ cap.toNat) :
    (cappedIncrement value cap).toNat ≤ cap.toNat := by
  unfold cappedIncrement
  split
  · rename_i hlt
    rw [BitVec.lt_def] at hlt
    have hone : (1 : Byte).toNat = 1 := rfl
    rw [BitVec.toNat_add, hone]
    exact (Nat.mod_le _ _).trans hlt
  · exact h

/-- `value < cap ? value + 1 : value` is `min(cap, value + 1)` for a value that is not above. -/
theorem cappedIncrement_eq {value cap : Byte} (h : value.toNat ≤ cap.toNat) :
    cappedIncrement value cap = cappedAmount cap.toNat value := by
  have hcap := cap.isLt
  have hone : (1 : Byte).toNat = 1 := rfl
  unfold cappedIncrement cappedAmount
  apply BitVec.eq_of_toNat_eq
  rw [BitVec.toNat_ofNat]
  split
  · rename_i hlt
    rw [BitVec.lt_def] at hlt
    rw [BitVec.toNat_add, hone, Nat.min_eq_right (by omega)]
  · rename_i hlt
    rw [BitVec.lt_def] at hlt
    rw [Nat.min_eq_left (by omega), Nat.mod_eq_of_lt hcap]
    omega

theorem Counted.mono {m n : Nat} (h : Counted m c) (hmn : m ≤ n) : Counted n c :=
  { h with
    goldenBananas := h.goldenBananas.trans hmn
    fairies := h.fairies.trans hmn
    crowns := h.crowns.trans hmn
    medals := h.medals.trans hmn
    pearls := h.pearls.trans hmn
    rainbowCoins := h.rainbowCoins.trans hmn
    junk := h.junk.trans hmn
    traps := fun i => (h.traps i).trans hmn }

theorem counted_step {value : Word} (h : value.toNat ≤ m) : (increment value).toNat ≤ m + 1 :=
  (increment_toNat_le value).trans (Nat.succ_le_succ h)

theorem applyTransfer_counted (h : Counted m c) (transfer : Nat) :
    Counted (m + 1) (c.applyTransfer transfer) := by
  have h' := h.mono (Nat.le_succ m)
  unfold CampaignInventory.applyTransfer
  split
  · exact { h' with goldenBananas := counted_step h.goldenBananas }
  split
  · exact { h' with slam := cappedIncrement_le h.slam }
  split
  · exact { h' with }
  split
  · exact { h' with }
  split
  · exact { h' with }
  split
  · exact { h' with }
  split
  · exact { h' with belt := cappedIncrement_le h.belt }
  split
  · exact { h' with instrumentUpgrades := cappedIncrement_le h.instrumentUpgrades }
  · exact h'

/-- One effect raises a counter by at most one. -/
theorem applyEffect_counted (h : Counted m c) (effect : ItemEffect) :
    Counted (m + 1) (c.applyEffect effect) := by
  have h' := h.mono (Nat.le_succ m)
  obtain ⟨kind, arg0, arg1⟩ := effect
  cases kind with
  | unsupported | none => exact h'
  | flag | kong | key | ability | special | hint => exact { h' with }
  | blueprint =>
    refine { h' with blueprints := fun kong => ?_ }
    show (Function.update c.blueprints arg0.toNat _ kong).toNat ≤ 8
    rw [Function.update_apply]
    split
    · exact cappedIncrement_le (h.blueprints _)
    · exact h.blueprints kong
  | fairy => exact { h' with fairies := counted_step h.fairies }
  | crown => exact { h' with crowns := counted_step h.crowns }
  | medal => exact { h' with medals := counted_step h.medals }
  | pearl => exact { h' with pearls := counted_step h.pearls }
  | rainbow => exact { h' with rainbowCoins := counted_step h.rainbowCoins }
  | junk => exact { h' with junk := counted_step h.junk }
  | trap =>
    refine { h' with traps := fun i => ?_ }
    show (Function.update c.traps arg0.toNat _ i).toNat ≤ m + 1
    rw [Function.update_apply]
    split
    · exact counted_step (h.traps _)
    · exact h'.traps i
  | transfer => exact applyTransfer_counted h arg0.toNat

/-! ## The flags -/

theorem getLsbD_one_shiftLeft {i j : Nat} (hi : i < 32) :
    (1#32 <<< i).getLsbD j = decide (j = i) := by
  rw [BitVec.getLsbD_shiftLeft, BitVec.getLsbD_one]
  by_cases h : j = i
  · subst h
    simp [hi]
  · simp [h]
    omega

/-- The bit of a flag, and no other, is set. -/
theorem hasFlag_applyFlag {flag other : Nat} (h : flag < itemFlagWords * 32) :
    (c.applyFlag flag).hasFlag other ↔ other = flag ∨ c.hasFlag other := by
  unfold CampaignInventory.hasFlag CampaignInventory.applyFlag
  simp only [Bool.and_eq_true, decide_eq_true_eq]
  by_cases hword : other / 32 = flag / 32
  · rw [hword, Function.update_self, BitVec.getLsbD_or,
      getLsbD_one_shiftLeft (Nat.mod_lt _ (by decide))]
    simp only [Bool.or_eq_true, decide_eq_true_eq]
    constructor
    · rintro ⟨hlt, hbit | hbit⟩
      · exact .inr ⟨hlt, hbit⟩
      · exact .inl (by omega)
    · rintro (rfl | ⟨hlt, hbit⟩)
      · exact ⟨h, .inr rfl⟩
      · exact ⟨hlt, .inl hbit⟩
  · rw [Function.update_of_ne hword]
    constructor
    · exact .inr
    · rintro (rfl | hbit)
      · exact absurd rfl hword
      · exact hbit

theorem insertFlag_agrees (h : Agrees trapTypes c inv) {flag : Half}
    (hvalid : flag.toNat < itemFlagWords * 32) :
    Agrees trapTypes (c.applyFlag flag.toNat) (inv.insertFlag flag) :=
  { h with
    climbing := by
      show (if flag.toNat = 671 then 1 else c.climbing) =
        if (if flag.toNat = 671 then true else inv.climbing) then 1 else 0
      by_cases h671 : flag.toNat = 671
      · rw [if_pos h671, if_pos h671, if_pos rfl]
      · rw [if_neg h671, if_neg h671, h.climbing]
    shopkeepers := by
      show (if _ then c.shopkeepers ||| _ else c.shopkeepers) =
        if _ then inv.shopkeepers ||| _ else inv.shopkeepers
      rw [h.shopkeepers]
    flags := by
      intro other
      show other ∈ insert flag inv.flags ↔ (c.applyFlag flag.toNat).hasFlag other.toNat
      rw [Finset.mem_insert, hasFlag_applyFlag hvalid, h.flags, BitVec.toNat_inj] }

/-! ## One effect -/

theorem countTransfer_agrees (h : Agrees trapTypes c inv) (hc : Counted m c)
    (hm : m < 2 ^ 32 - 1) {transfer : Nat}
    (hvalid : transfer = 1 ∨ transfer = 2 ∨ (26 ≤ transfer ∧ transfer ≤ 55)) :
    ∃ inv', inv.countTransfer transfer = .ok inv' ∧ inv'.unsupported = inv.unsupported ∧
      Agrees trapTypes (c.applyTransfer transfer) inv' := by
  unfold NativeInventory.countTransfer CampaignInventory.applyTransfer
  by_cases hbanana : transfer = 1
  · simp only [if_pos hbanana]
    have hcount : increment c.goldenBananas = inv.goldenBananas + 1 := by
      rw [increment_eq (hc.goldenBananas.trans_lt hm), h.goldenBananas]
    exact ⟨_, rfl, rfl, { h with goldenBananas := hcount }⟩
  simp only [if_neg hbanana]
  by_cases hslam : transfer = 2 ∨ transfer = 51
  · simp only [if_pos hslam]
    have hcount : cappedIncrement c.slam 3 = cappedAmount 3 inv.slam := by
      rw [cappedIncrement_eq hc.slam, h.slam]; rfl
    exact ⟨_, rfl, rfl, { h with slam := hcount }⟩
  simp only [if_neg hslam]
  by_cases hmoves : 26 ≤ transfer ∧ transfer ≤ 40
  · simp only [if_pos hmoves]
    exact ⟨_, rfl, rfl, { h with moves := congrArg (orAt · _ _) h.moves }⟩
  simp only [if_neg hmoves]
  by_cases hinstruments : 41 ≤ transfer ∧ transfer ≤ 45
  · simp only [if_pos hinstruments]
    exact ⟨_, rfl, rfl, { h with instruments := congrArg (orAt · _ _) h.instruments }⟩
  simp only [if_neg hinstruments]
  by_cases hguns : 46 ≤ transfer ∧ transfer ≤ 50
  · simp only [if_pos hguns]
    exact ⟨_, rfl, rfl, { h with guns := congrArg (orAt · _ _) h.guns }⟩
  simp only [if_neg hguns]
  by_cases hshared : transfer = 52 ∨ transfer = 53
  · simp only [if_pos hshared]
    exact ⟨_, rfl, rfl, { h with guns := congrArg (orKongs · _) h.guns }⟩
  simp only [if_neg hshared]
  by_cases hbelt : transfer = 54
  · simp only [if_pos hbelt]
    have hcount : cappedIncrement c.belt 2 = cappedAmount 2 inv.belt := by
      rw [cappedIncrement_eq hc.belt, h.belt]; rfl
    exact ⟨_, rfl, rfl, { h with belt := hcount }⟩
  simp only [if_neg hbelt]
  have hupgrade : transfer = 55 := by omega
  simp only [if_pos hupgrade]
  have hcount : cappedIncrement c.instrumentUpgrades 3 = cappedAmount 3 inv.instrumentUpgrades := by
    rw [cappedIncrement_eq hc.instrumentUpgrades, h.instrumentUpgrades]; rfl
  refine ⟨_, rfl, rfl, { h with instrumentUpgrades := hcount, instruments := ?_ }⟩
  show orKongs c.instruments (instrumentMask (cappedIncrement c.instrumentUpgrades 3)) =
    orKongs inv.instruments (instrumentMask (cappedAmount 3 inv.instrumentUpgrades))
  rw [h.instruments, hcount]

theorem ofInt_toNat {w n : Nat} (h : n < 2 ^ w) : (BitVec.ofInt w (n : Int)).toNat = n := by
  rw [BitVec.ofInt_natCast, BitVec.toNat_ofNat, Nat.mod_eq_of_lt h]

/-- What passes the range check fits the bytes of an effect. -/
theorem countOp_eq_some {effect : CountEffect} {op : EffectOp}
    (h : countOp trapTypes effect = some op) :
    fieldOp trapTypes effect = some op ∧
      ∃ arg0 arg1 : Nat, op = ⟨op.kind, arg0, arg1⟩ ∧ arg0 ≤ 255 ∧ arg1 ≤ 65535 := by
  obtain ⟨hop, hrange⟩ := Option.filter_eq_some_iff.mp h
  simp only [Bool.and_eq_true, decide_eq_true_eq] at hrange
  obtain ⟨kind, arg0, arg1⟩ := op
  obtain ⟨⟨⟨h1, h2⟩, h3⟩, h4⟩ := hrange
  obtain ⟨arg0, rfl⟩ := Int.eq_ofNat_of_zero_le h1
  obtain ⟨arg1, rfl⟩ := Int.eq_ofNat_of_zero_le h3
  have h2' : (arg0 : Int) ≤ 255 := h2
  have h4' : (arg1 : Int) ≤ 65535 := h4
  exact ⟨hop, arg0, arg1, rfl, by omega, by omega⟩

/-- A counter that did not reach the top is incremented on both sides. -/
theorem Counted.increment_eq {value value' : Word} (heq : value = value') (hv : value.toNat ≤ m)
    (hm : m < 2 ^ 32 - 1) : increment value = value' + 1 := by
  rw [Archipelago.increment_eq (hv.trans_lt hm), heq]

/-- A trap counts under its index and under its name. -/
theorem countTrap_agrees (hnodup : trapTypes.Nodup) (h : Agrees trapTypes c inv)
    (hc : Counted m c) (hm : m < 2 ^ 32 - 1) {name : String} {index : Nat}
    (hindex : trapTypes[index]? = some name) :
    Agrees trapTypes
      { c with traps := Function.update c.traps index (increment (c.traps index)) }
      { inv with traps := Function.update inv.traps name (inv.traps name + 1) } := by
  have hcount : increment (c.traps index) = inv.traps name + 1 :=
    Counted.increment_eq (h.traps index name hindex) (hc.traps index) hm
  obtain ⟨hlen, hname⟩ := List.getElem?_eq_some_iff.mp hindex
  refine { h with traps := ?_, foreign := ?_, unused := ?_ }
  · intro i other hi
    show Function.update c.traps _ _ i = Function.update inv.traps _ _ other
    by_cases heq : i = index
    · subst heq
      have : other = name := by rw [hindex] at hi; exact (Option.some.inj hi).symm
      rw [this, Function.update_self, Function.update_self, hcount]
    · have hne : other ≠ name := by
        rintro rfl
        exact heq ((List.getElem?_inj (List.getElem?_eq_some_iff.mp hi).1 hnodup).mp
          (hi.trans hindex.symm))
      rw [Function.update_of_ne heq, Function.update_of_ne hne, h.traps i other hi]
  · intro other hother
    have hne : other ≠ name := by
      rintro rfl
      exact hother (List.mem_of_getElem? hindex)
    show Function.update inv.traps _ _ other = 0
    rw [Function.update_of_ne hne, h.foreign other hother]
  · intro i hi
    show Function.update c.traps _ _ i = 0
    rw [Function.update_of_ne (by omega), h.unused i hi]

/-- The masks of the game are those of the native side. -/
theorem moveMasks_of_abilityBits {name : BitName} {n : Int} (h : abilityBits name = some n) :
    ∃ mask, moveMasks name = .ok mask ∧ BitVec.ofInt 8 n = mask := by
  cases name <;> simp only [abilityBits, Option.some.injEq, reduceCtorEq] at h <;> subst h <;>
    exact ⟨_, rfl, rfl⟩

theorem specialMasks_of_specialBits {name : BitName} {n : Int} (h : specialBits name = some n) :
    ∃ mask, specialMasks name = .ok mask ∧ BitVec.ofInt 8 n = mask := by
  cases name <;> simp only [specialBits, Option.some.injEq, reduceCtorEq] at h <;> subst h <;>
    exact ⟨_, rfl, rfl⟩

theorem getName_of_name? {bit : Option Bit} {name : BitName} (h : bit.bind Bit.name? = some name) :
    getName bit = .ok name := by
  obtain ⟨b, rfl, hb⟩ := Option.bind_eq_some_iff.mp h
  cases b with
  | number n => cases hb
  | name s => cases hb; rfl

theorem getElem?_of_idxOf? {name : String} {index : Nat} (h : trapTypes.idxOf? name = some index) :
    trapTypes[index]? = some name := by
  obtain ⟨hlen, heq, -⟩ := List.findIdx?_eq_some_iff_getElem.mp h
  rw [List.getElem?_eq_getElem hlen, LawfulBEq.eq_of_beq heq]

theorem transfer_of_valid {arg : Nat} {arg0 : Byte} {arg1 : Half} (h8 : arg0.toNat = arg)
    (hvalid : effectValid ⟨.transfer, arg0, arg1⟩) : arg = 1 ∨ arg = 2 ∨ (26 ≤ arg ∧ arg ≤ 55) := by
  subst h8
  simp only [effectValid, Bool.or_eq_true, beq_iff_eq, Bool.and_eq_true, decide_eq_true_eq]
    at hvalid
  rcases hvalid with (rfl | rfl) | hrange
  · exact .inl rfl
  · exact .inr (.inl rfl)
  · exact .inr (.inr hrange)

/-- Both sides count the entry, and agree afterwards. -/
def EffectAgrees (trapTypes : List String) (c : CampaignInventory) (inv : NativeInventory)
    (effect : CountEffect) (op : EffectOp) : Prop :=
  ∃ inv', inv.countEffect effect = .ok inv' ∧ inv'.unsupported = inv.unsupported ∧
    Agrees trapTypes (c.applyEffect op.effect) inv'

section Entries

variable {effect : CountEffect} {arg arg' : Nat}

theorem countEffect_kongs (h : Agrees trapTypes c inv) (hfield : effect.field = some .kongBitfield)
    (hbit : effect.bit.bind Bit.number? = some (arg : Int)) (harg : arg ≤ 255) :
    EffectAgrees trapTypes c inv effect ⟨.kong, arg, 0⟩ := by
  have h32 : (BitVec.ofInt 32 (arg : Int)).toNat = arg := ofInt_toNat (by omega)
  have h8 : (BitVec.ofInt 8 (arg : Int)).toNat = arg := ofInt_toNat (by omega)
  refine ⟨{ inv with kongs := inv.kongs ||| bit8 arg }, ?_, rfl, { h with kongs := ?_ }⟩
  · simp only [NativeInventory.countEffect, hfield, hbit, getUnsigned, h32]
    rfl
  · show c.kongs ||| bit8 (BitVec.ofInt 8 (arg : Int)).toNat = _
    rw [h8, h.kongs]

theorem countEffect_keys (h : Agrees trapTypes c inv) (hfield : effect.field = some .keyBitfield)
    (hbit : effect.bit.bind Bit.number? = some (arg : Int)) (harg : arg ≤ 255) :
    EffectAgrees trapTypes c inv effect ⟨.key, arg, 0⟩ := by
  have h32 : (BitVec.ofInt 32 (arg : Int)).toNat = arg := ofInt_toNat (by omega)
  have h8 : (BitVec.ofInt 8 (arg : Int)).toNat = arg := ofInt_toNat (by omega)
  refine ⟨{ inv with keys := inv.keys ||| bit8 arg }, ?_, rfl, { h with keys := ?_ }⟩
  · simp only [NativeInventory.countEffect, hfield, hbit, getUnsigned, h32]
    rfl
  · show c.keys ||| bit8 (BitVec.ofInt 8 (arg : Int)).toNat = _
    rw [h8, h.keys]

theorem countEffect_abilities (h : Agrees trapTypes c inv)
    (hfield : effect.field = some .flagMoves) {n : Int}
    (hbit : (effect.bit.bind Bit.name?).bind abilityBits = some n) :
    EffectAgrees trapTypes c inv effect ⟨.ability, n, 0⟩ := by
  obtain ⟨name, hname, hbits⟩ := Option.bind_eq_some_iff.mp hbit
  obtain ⟨mask, hmask, hbyte⟩ := moveMasks_of_abilityBits hbits
  refine ⟨{ inv with abilities := inv.abilities ||| mask }, ?_, rfl, { h with abilities := ?_ }⟩
  · simp only [NativeInventory.countEffect, hfield, getName_of_name? hname]
    simp only [bind, Except.bind, hmask]
    rfl
  · show c.abilities ||| BitVec.ofInt 8 n = _
    rw [hbyte, h.abilities]

theorem countEffect_special (h : Agrees trapTypes c inv)
    (hfield : effect.field = some .specialItems) {n : Int}
    (hbit : (effect.bit.bind Bit.name?).bind specialBits = some n) :
    EffectAgrees trapTypes c inv effect ⟨.special, n, 0⟩ := by
  obtain ⟨name, hname, hbits⟩ := Option.bind_eq_some_iff.mp hbit
  obtain ⟨mask, hmask, hbyte⟩ := specialMasks_of_specialBits hbits
  refine ⟨{ inv with special := inv.special ||| mask }, ?_, rfl, { h with special := ?_ }⟩
  · simp only [NativeInventory.countEffect, hfield, getName_of_name? hname]
    simp only [bind, Except.bind, hmask]
    rfl
  · show c.special ||| BitVec.ofInt 8 n = _
    rw [hbyte, h.special]

theorem countEffect_hints (h : Agrees trapTypes c inv) (hfield : effect.field = some .hintBitfield)
    (hkong : effect.kong = some (arg : Int)) (hlevel : effect.level = some (arg' : Int))
    (harg : arg ≤ 255) (harg' : arg' ≤ 65535) (hvalid : effectValid (EffectOp.effect ⟨.hint, arg, arg'⟩)) :
    EffectAgrees trapTypes c inv effect ⟨.hint, arg, arg'⟩ := by
  have h64 : (BitVec.ofInt 64 (arg : Int)).toNat = arg := ofInt_toNat (by omega)
  have h32 : (BitVec.ofInt 32 (arg' : Int)).toNat = arg' := ofInt_toNat (by omega)
  have h8 : (BitVec.ofInt 8 (arg : Int)).toNat = arg := ofInt_toNat (by omega)
  have h16 : (BitVec.ofInt 16 (arg' : Int)).toNat = arg' := ofInt_toNat (by omega)
  simp only [effectValid, EffectOp.effect, h8, Bool.and_eq_true, decide_eq_true_eq] at hvalid
  refine ⟨{ inv with hints := orAt inv.hints arg (bit8 arg') }, ?_, rfl, { h with hints := ?_ }⟩
  · simp only [NativeInventory.countEffect, hfield, hkong, hlevel, getKong, h64, if_pos hvalid.1,
      getUnsigned, h32]
    rfl
  · show orAt c.hints (BitVec.ofInt 8 (arg : Int)).toNat
      (bit8 (BitVec.ofInt 16 (arg' : Int)).toNat) = _
    rw [h8, h16, h.hints]

theorem countEffect_blueprint (h : Agrees trapTypes c inv) (hc : Counted m c)
    (hfield : effect.field = some .bpCount) (hkong : effect.kong = some (arg : Int))
    (harg : arg ≤ 255) (hvalid : effectValid (EffectOp.effect ⟨.blueprint, arg, 0⟩)) :
    EffectAgrees trapTypes c inv effect ⟨.blueprint, arg, 0⟩ := by
  have h64 : (BitVec.ofInt 64 (arg : Int)).toNat = arg := ofInt_toNat (by omega)
  have h8 : (BitVec.ofInt 8 (arg : Int)).toNat = arg := ofInt_toNat (by omega)
  simp only [effectValid, EffectOp.effect, h8, decide_eq_true_eq] at hvalid
  have hcount : cappedIncrement (c.blueprints arg) 8 = cappedAmount 8 (inv.blueprints arg) := by
    rw [cappedIncrement_eq (hc.blueprints arg), h.blueprints]
    rfl
  refine ⟨{ inv with
    blueprints := Function.update inv.blueprints arg (cappedAmount 8 (inv.blueprints arg)) },
    ?_, rfl, { h with blueprints := ?_ }⟩
  · simp only [NativeInventory.countEffect, hfield, hkong, getKong, h64, if_pos hvalid]
    rfl
  · show Function.update c.blueprints (BitVec.ofInt 8 (arg : Int)).toNat
      (cappedIncrement (c.blueprints (BitVec.ofInt 8 (arg : Int)).toNat) 8) = _
    rw [h8, hcount, h.blueprints]

theorem countEffect_trap (hnodup : trapTypes.Nodup) (h : Agrees trapTypes c inv)
    (hc : Counted m c) (hm : m < 2 ^ 32 - 1) (hfield : effect.field = some .iceTraps)
    (htrap : effect.iceTrapType.bind trapTypes.idxOf? = some arg) (harg : arg ≤ 255) :
    EffectAgrees trapTypes c inv effect ⟨.trap, (arg : Int), 0⟩ := by
  have h8 : (BitVec.ofInt 8 (arg : Int)).toNat = arg := ofInt_toNat (by omega)
  obtain ⟨name, hname, hidx⟩ := Option.bind_eq_some_iff.mp htrap
  rw [← h8] at hidx
  refine ⟨{ inv with traps := Function.update inv.traps name (inv.traps name + 1) }, ?_, rfl,
    countTrap_agrees hnodup h hc hm (getElem?_of_idxOf? hidx)⟩
  simp only [NativeInventory.countEffect, hfield, hname]
  rfl

/-- An entry without a field that the reducers know counts by its item. -/
theorem countEffect_transfer (h : Agrees trapTypes c inv) (hc : Counted m c) (hm : m < 2 ^ 32 - 1)
    (hfield : effect.field = none ∨ effect.field = some .other)
    (hitem : effect.item = some (arg : Int)) (harg : arg ≤ 255)
    (hvalid : effectValid (EffectOp.effect ⟨.transfer, arg, 0⟩)) :
    EffectAgrees trapTypes c inv effect ⟨.transfer, arg, 0⟩ := by
  have h32 : (BitVec.ofInt 32 (arg : Int)).toNat = arg := ofInt_toNat (by omega)
  have h8 : (BitVec.ofInt 8 (arg : Int)).toNat = arg := ofInt_toNat (by omega)
  have hcount : inv.countEffect effect = inv.countTransfer arg := by
    rcases hfield with hfield | hfield <;>
      simp only [NativeInventory.countEffect, hfield, hitem, h32]
  have happly : c.applyEffect (EffectOp.effect ⟨.transfer, arg, 0⟩) = c.applyTransfer arg :=
    congrArg c.applyTransfer h8
  rw [EffectAgrees, hcount, happly]
  exact countTransfer_agrees h hc hm (transfer_of_valid h8 hvalid)

end Entries

/-- **One effect**, one case for each kind of entry. -/
theorem countEffect_agrees (hnodup : trapTypes.Nodup) (h : Agrees trapTypes c inv)
    (hc : Counted m c) (hm : m < 2 ^ 32 - 1) {effect : CountEffect} {op : EffectOp}
    (hop : countOp trapTypes effect = some op) (hvalid : effectValid op.effect) :
    EffectAgrees trapTypes c inv effect op := by
  obtain ⟨hcase, arg0, arg1, hargs, h0, h1⟩ := countOp_eq_some hop
  unfold fieldOp at hcase
  cases hfield : effect.field with
  | none =>
    rw [hfield] at hcase
    obtain ⟨item, hitem, rfl⟩ := Option.map_eq_some_iff.mp hcase
    obtain ⟨-, rfl, -⟩ := EffectOp.mk.inj hargs
    exact countEffect_transfer h hc hm (.inl hfield) hitem h0 hvalid
  | some field =>
  rw [hfield] at hcase
  cases field with
  | kongBitfield =>
    obtain ⟨n, hbit, rfl⟩ := Option.map_eq_some_iff.mp hcase
    obtain ⟨-, rfl, -⟩ := EffectOp.mk.inj hargs
    exact countEffect_kongs h hfield hbit h0
  | keyBitfield =>
    obtain ⟨n, hbit, rfl⟩ := Option.map_eq_some_iff.mp hcase
    obtain ⟨-, rfl, -⟩ := EffectOp.mk.inj hargs
    exact countEffect_keys h hfield hbit h0
  | flagMoves =>
    obtain ⟨n, hbit, rfl⟩ := Option.map_eq_some_iff.mp hcase
    exact countEffect_abilities h hfield hbit
  | specialItems =>
    obtain ⟨n, hbit, rfl⟩ := Option.map_eq_some_iff.mp hcase
    exact countEffect_special h hfield hbit
  | hintBitfield =>
    obtain ⟨kong, hkong, hcase⟩ := Option.bind_eq_some_iff.mp hcase
    obtain ⟨level, hlevel, rfl⟩ := Option.map_eq_some_iff.mp hcase
    obtain ⟨-, rfl, rfl⟩ := EffectOp.mk.inj hargs
    exact countEffect_hints h hfield hkong hlevel h0 h1 hvalid
  | bpCount =>
    obtain ⟨kong, hkong, rfl⟩ := Option.map_eq_some_iff.mp hcase
    obtain ⟨-, rfl, -⟩ := EffectOp.mk.inj hargs
    exact countEffect_blueprint h hc hfield hkong h0 hvalid
  | iceTraps =>
    obtain ⟨index, htrap, rfl⟩ := Option.map_eq_some_iff.mp hcase
    obtain ⟨-, hnat, -⟩ := EffectOp.mk.inj hargs
    obtain rfl : index = arg0 := Int.ofNat_inj.mp hnat
    exact countEffect_trap hnodup h hc hm hfield htrap h0
  | other =>
    obtain ⟨item, hitem, rfl⟩ := Option.map_eq_some_iff.mp hcase
    obtain ⟨-, rfl, -⟩ := EffectOp.mk.inj hargs
    exact countEffect_transfer h hc hm (.inr hfield) hitem h0 hvalid
  -- the counters without arguments
  | fairies =>
    obtain rfl := Option.some.inj hcase
    refine ⟨{ inv with fairies := inv.fairies + 1 }, ?_, rfl,
      { h with fairies := Counted.increment_eq h.fairies hc.fairies hm }⟩
    rw [NativeInventory.countEffect.eq_def, hfield]
    rfl
  | crowns =>
    obtain rfl := Option.some.inj hcase
    refine ⟨{ inv with crowns := inv.crowns + 1 }, ?_, rfl,
      { h with crowns := Counted.increment_eq h.crowns hc.crowns hm }⟩
    rw [NativeInventory.countEffect.eq_def, hfield]
    rfl
  | medals =>
    obtain rfl := Option.some.inj hcase
    refine ⟨{ inv with medals := inv.medals + 1 }, ?_, rfl,
      { h with medals := Counted.increment_eq h.medals hc.medals hm }⟩
    rw [NativeInventory.countEffect.eq_def, hfield]
    rfl
  | pearls =>
    obtain rfl := Option.some.inj hcase
    refine ⟨{ inv with pearls := inv.pearls + 1 }, ?_, rfl,
      { h with pearls := Counted.increment_eq h.pearls hc.pearls hm }⟩
    rw [NativeInventory.countEffect.eq_def, hfield]
    rfl
  | rainbowCoins =>
    obtain rfl := Option.some.inj hcase
    refine ⟨{ inv with rainbowCoins := inv.rainbowCoins + 1 }, ?_, rfl,
      { h with rainbowCoins := Counted.increment_eq h.rainbowCoins hc.rainbowCoins hm }⟩
    rw [NativeInventory.countEffect.eq_def, hfield]
    rfl
  | junkItems =>
    obtain rfl := Option.some.inj hcase
    refine ⟨{ inv with junk := inv.junk + 1 }, ?_, rfl,
      { h with junk := Counted.increment_eq h.junk hc.junk hm }⟩
    rw [NativeInventory.countEffect.eq_def, hfield]
    rfl

/-! ## One receipt -/

/-- The compiled effects of an entry, in order. -/
def applyOps (c : CampaignInventory) (ops : List EffectOp) : CampaignInventory :=
  ops.foldl (fun c op => c.applyEffect op.effect) c

theorem entries_agree (hnodup : trapTypes.Nodup) :
    ∀ {entries : List CountEffect} {ops : List EffectOp} {c : CampaignInventory}
      {inv : NativeInventory} {m : Nat}, Agrees trapTypes c inv → Counted m c →
      m + entries.length ≤ 2 ^ 32 - 1 → entries.mapM (countOp trapTypes) = some ops →
      (∀ op ∈ ops, effectValid op.effect) →
      ∃ inv', entries.foldlM NativeInventory.countEffect inv = .ok inv' ∧
        inv'.unsupported = inv.unsupported ∧ Agrees trapTypes (applyOps c ops) inv' ∧
        Counted (m + entries.length) (applyOps c ops) := by
  intro entries
  induction entries with
  | nil =>
    intro ops c inv m h hc _ hops _
    rw [List.mapM_nil] at hops
    obtain rfl := Option.some.inj hops
    exact ⟨inv, rfl, rfl, h, hc⟩
  | cons effect entries ih =>
    intro ops c inv m h hc hm hops hvalid
    rw [List.length_cons] at hm ⊢
    rw [List.mapM_cons] at hops
    obtain ⟨op, hop, hops⟩ := Option.bind_eq_some_iff.mp hops
    obtain ⟨rest, hrest, hops⟩ := Option.bind_eq_some_iff.mp hops
    obtain rfl := Option.some.inj hops
    rw [List.forall_mem_cons] at hvalid
    obtain ⟨inv1, hone, hun1, h1⟩ := countEffect_agrees hnodup h hc (by omega) hop hvalid.1
    obtain ⟨inv2, htwo, hun2, h2, hc2⟩ := ih h1 (applyEffect_counted hc op.effect) (by omega)
      hrest hvalid.2
    refine ⟨inv2, ?_, hun2.trans hun1, h2, ?_⟩
    · rw [List.foldlM_cons, hone]
      exact htwo
    · rw [show m + (entries.length + 1) = m + 1 + entries.length by omega]
      exact hc2

theorem fieldOp_supported {effect : CountEffect} {op : EffectOp}
    (h : fieldOp trapTypes effect = some op) : op.kind ≠ .unsupported := by
  unfold fieldOp at h
  split at h <;>
    simp only [Option.map_eq_some_iff, Option.bind_eq_some_iff, Option.some.injEq] at h
  case h_5 =>
    obtain ⟨_, -, _, -, rfl⟩ := h
    exact EffectKind.noConfusion
  case h_7 | h_8 | h_9 | h_10 | h_11 | h_12 =>
    subst h
    exact EffectKind.noConfusion
  all_goals
    obtain ⟨_, -, rfl⟩ := h
    exact EffectKind.noConfusion

theorem length_of_mapM {α β : Type} {f : α → Option β} :
    ∀ {l : List α} {l' : List β}, l.mapM f = some l' → l'.length = l.length
  | [], l', h => by
    rw [List.mapM_nil] at h
    obtain rfl := Option.some.inj h
    rfl
  | a :: l, l', h => by
    rw [List.mapM_cons] at h
    obtain ⟨b, -, h⟩ := Option.bind_eq_some_iff.mp h
    obtain ⟨rest, hrest, h⟩ := Option.bind_eq_some_iff.mp h
    obtain rfl := Option.some.inj h
    rw [List.length_cons, List.length_cons, length_of_mapM hrest]

/-- What an entry compiles to: its row applies its effects, and says whether it has one. -/
theorem row_spec {item : CatalogItem} {row : ItemEffectDef}
    (h : itemEffectDef trapTypes item = some row) :
    ∃ ops, itemEffects trapTypes item = some ops ∧ ops.length ≤ 2 ∧
      (∀ op ∈ ops, op.effect ∈ row.effects) ∧ (∀ c, c.addItem row = applyOps c ops) ∧
      (row.supported ↔ ∀ op ∈ ops, op.kind ≠ .unsupported) := by
  obtain ⟨ops, hops, rfl⟩ := Option.map_eq_some_iff.mp h
  have hlen : 1 ≤ ops.length ∧ ops.length ≤ 2 := by
    unfold itemEffects at hops
    split at hops
    · obtain rfl := Option.some.inj hops
      simp
    split at hops
    · obtain rfl := Option.some.inj hops
      simp
    split at hops
    · obtain rfl := Option.some.inj hops
      simp
    split at hops
    · rename_i hentries
      rw [Bool.and_eq_true, decide_eq_true_eq, decide_eq_true_eq] at hentries
      rw [← length_of_mapM hops] at hentries
      exact hentries
    · cases hops
  refine ⟨ops, hops, hlen.2, ?_⟩
  match ops, hlen with
  | [op], _ => simp [paddedEffects, ItemEffectDef.effects, CampaignInventory.addItem, applyOps,
      ItemEffectDef.supported, EffectOp.effect, CampaignInventory.applyEffect]
  | [op, op'], _ => simp [paddedEffects, ItemEffectDef.effects, CampaignInventory.addItem, applyOps,
      ItemEffectDef.supported, EffectOp.effect]

/-- `uint32_t(item[0])`. -/
def Item.id (receipt : Item) : Word := BitVec.ofInt 32 receipt.item

theorem mapM_countOp_supported {entries : List CountEffect} {ops : List EffectOp}
    (h : entries.mapM (countOp trapTypes) = some ops) : ∀ op ∈ ops, op.kind ≠ .unsupported := by
  induction entries generalizing ops with
  | nil =>
    rw [List.mapM_nil] at h
    obtain rfl := Option.some.inj h
    exact fun op hop => absurd hop List.not_mem_nil
  | cons effect entries ih =>
    rw [List.mapM_cons] at h
    obtain ⟨op, hop, h⟩ := Option.bind_eq_some_iff.mp h
    obtain ⟨rest, hrest, h⟩ := Option.bind_eq_some_iff.mp h
    obtain rfl := Option.some.inj h
    exact List.forall_mem_cons.mpr ⟨fieldOp_supported (countOp_eq_some hop).1, ih hrest⟩

/-- **One receipt**: a supported item keeps the simulation, another one is recorded and changes
nothing else. -/
theorem receive_agrees (h : Agrees cat.trapTypes c inv) (hc : Counted m c)
    (hm : m + 2 ≤ 2 ^ 32 - 1) {receipt : Item} (hcat : cat.catalogued receipt.item) :
    ∃ inv', NativeInventory.receive cat inv receipt = .ok inv' ∧
      inv'.unsupported =
        inv.unsupported ++ (if cat.supports receipt.id then [] else [receipt.item]) ∧
      Agrees cat.trapTypes (if cat.supports receipt.id then c.addId cat receipt.id else c) inv' ∧
      Counted (m + 2) (if cat.supports receipt.id then c.addId cat receipt.id else c) := by
  obtain ⟨item, row, hid, hentry, hrow, hfind⟩ := Catalog.lookup_of_catalogued hcat
  obtain ⟨ops, hops, hlen, heffects, hadd, hsup⟩ := row_spec hrow
  have hvalid : ∀ op ∈ ops, effectValid op.effect := fun op hop =>
    Catalog.findItem_valid hfind _ (heffects op hop)
  have hsupports : cat.supports receipt.id = row.supported := by
    rw [Catalog.supports, Item.id, hfind]
    rfl
  have haddId : c.addId cat receipt.id = applyOps c ops := by
    rw [CampaignInventory.addId, Item.id, hfind, ← hadd]
    rfl
  have hnone : receipt.item = 14041089 ↔ item.id = 14041089 := by
    rw [← hid, ← BitVec.toNat_inj]
    exact Int.ofNat_inj (n := 14041089)
  unfold NativeInventory.receive
  rw [hentry, hsupports, haddId]
  unfold itemEffects at hops
  by_cases hskip : item.id = 14041089
  · rw [if_pos hskip] at hops
    obtain rfl := Option.some.inj hops
    have hyes : row.supported = true := hsup.mpr (by simp)
    simp only [if_pos (hnone.mpr hskip), hyes, if_true, List.append_nil]
    exact ⟨inv, rfl, rfl, h, hc.mono (by omega)⟩
  rw [if_neg hskip] at hops
  simp only [if_neg (fun e => hskip (hnone.mp e))]
  cases hflag : item.flagId with
  | some flag =>
    rw [hflag] at hops
    obtain rfl := Option.some.inj hops
    have hyes : row.supported = true := hsup.mpr (by simp)
    simp only [hyes, if_true, List.append_nil]
    have hflagValid : (BitVec.ofInt 16 flag).toNat < itemFlagWords * 32 := by
      have := hvalid ⟨.flag, 0, flag⟩ List.mem_cons_self
      simpa [effectValid, EffectOp.effect] using this
    have hcounted : Counted (m + 1) (applyOps c [⟨.flag, 0, flag⟩]) :=
      applyEffect_counted hc (EffectOp.effect ⟨.flag, 0, flag⟩)
    exact ⟨_, rfl, rfl, insertFlag_agrees h hflagValid, hcounted.mono (Nat.le_succ _)⟩
  | none =>
    rw [hflag] at hops
    cases hcount : item.countId with
    | none =>
      rw [hcount] at hops
      obtain rfl := Option.some.inj hops
      have hno : row.supported = false := by
        rw [← Bool.not_eq_true, hsup]
        simp
      simp only [hno]
      exact ⟨_, rfl, rfl, { h with }, hc.mono (by omega)⟩
    | some source =>
      rw [hcount] at hops
      simp only [Option.ite_none_right_eq_some] at hops
      obtain ⟨-, hops⟩ := hops
      have hyes : row.supported = true := hsup.mpr (mapM_countOp_supported hops)
      have hentries : source.entries.length ≤ 2 := by rw [← length_of_mapM hops]; exact hlen
      obtain ⟨inv', hrun, hun, hagree, hcounted⟩ :=
        entries_agree cat.trapTypes_nodup h hc (by omega) hops hvalid
      simp only [hyes, if_true, List.append_nil]
      exact ⟨inv', hrun, hun, hagree, hcounted.mono (by omega)⟩

/-! ## A list of receipts -/

theorem receipts_agree :
    ∀ {receipts : List Item} {c : CampaignInventory} {inv : NativeInventory} {m : Nat},
      Agrees cat.trapTypes c inv → Counted m c → m + 2 * receipts.length ≤ 2 ^ 32 - 1 →
      (∀ receipt ∈ receipts, cat.catalogued receipt.item) →
      ∃ inv', receipts.foldlM (NativeInventory.receive cat) inv = .ok inv' ∧
        inv'.unsupported = inv.unsupported ++
          (receipts.filter fun receipt => !cat.supports receipt.id).map (·.item) ∧
        Agrees cat.trapTypes (((receipts.map (·.id)).filter cat.supports).foldl
          (CampaignInventory.addId cat) c) inv' := by
  intro receipts
  induction receipts with
  | nil =>
    intro c inv m h _ _ _
    exact ⟨inv, rfl, by simp, h⟩
  | cons receipt receipts ih =>
    intro c inv m h hc hm hcat
    rw [List.length_cons] at hm
    rw [List.forall_mem_cons] at hcat
    obtain ⟨inv1, hone, hun1, h1, hc1⟩ := receive_agrees h hc (by omega) hcat.1
    obtain ⟨inv2, htwo, hun2, h2⟩ := ih h1 hc1 (by omega) hcat.2
    refine ⟨inv2, ?_, ?_, ?_⟩
    · rw [List.foldlM_cons, hone]
      exact htwo
    · rw [hun2, hun1]
      cases hsup : cat.supports receipt.id <;> simp [hsup]
    · cases hsup : cat.supports receipt.id <;> simpa [hsup] using h2

/-- What the native reducer returns for catalogued receipts. -/
theorem inventory_spec {receipts : List Item} (few : receipts.length ≤ itemLimit)
    (hcat : ∀ receipt ∈ receipts, cat.catalogued receipt.item) :
    ∃ inv, cat.inventory receipts = .ok inv ∧
      inv.unsupported =
        (receipts.filter fun receipt => !cat.supports receipt.id).map (·.item) ∧
      Agrees cat.trapTypes
        (CampaignInventory.addAll cat ((receipts.map (·.id)).filter cat.supports)) inv := by
  have hlimit : itemLimit = 4096 := rfl
  obtain ⟨inv, hrun, hun, hagree⟩ := receipts_agree (agrees_empty cat.trapTypes) counted_empty
    (by omega) hcat
  refine ⟨inv, ?_, by simpa using hun, hagree⟩
  rw [Catalog.inventory, if_neg (by omega)]
  exact hrun

/-- Nothing is reported exactly when every id is supported. -/
theorem unsupported_eq_nil_iff {receipts : List Item} :
    (receipts.filter fun receipt => !cat.supports receipt.id).map (·.item) = [] ↔
      ∀ id ∈ receipts.map (·.id), cat.supports id := by
  rw [List.map_eq_nil_iff, List.filter_eq_nil_iff]
  simp

/-- **The two reducers agree**: over catalogued receipts the native one always returns; the game
rebuilds exactly the lists without an unsupported item, to the same inventory, and a rebuild that
fails leaves its output alone. -/
theorem reducers_agree (cat : Catalog) (receipts : List Item) (output : CampaignInventory)
    (few : receipts.length ≤ itemLimit)
    (hcat : ∀ receipt ∈ receipts, cat.catalogued receipt.item) :
    ∃ inv, cat.inventory receipts = .ok inv ∧
      ((CampaignInventory.rebuild cat output (receipts.map (·.id))).1 = 1 ↔
        inv.unsupported = []) ∧
      (inv.unsupported = [] →
        Agrees cat.trapTypes
          (CampaignInventory.rebuild cat output (receipts.map (·.id))).2 inv) ∧
      ((CampaignInventory.rebuild cat output (receipts.map (·.id))).1 ≠ 1 →
        (CampaignInventory.rebuild cat output (receipts.map (·.id))).2 = output) := by
  have hlimit : itemLimit = 4096 := rfl
  obtain ⟨inv, hrun, hun, hagree⟩ := inventory_spec few hcat
  have hiff : (CampaignInventory.rebuild cat output (receipts.map (·.id))).1 = 1 ↔
      inv.unsupported = [] := by
    rw [CampaignInventory.rebuild_eq_one_iff, hun, unsupported_eq_nil_iff, List.length_map]
    exact ⟨fun h => h.2, fun h => ⟨by omega, h⟩⟩
  refine ⟨inv, hrun, hiff, ?_, CampaignInventory.rebuild_failed⟩
  intro hnone
  rw [CampaignInventory.rebuild_output (hiff.mpr hnone)]
  rw [hun, unsupported_eq_nil_iff] at hnone
  rwa [List.filter_eq_self.mpr hnone] at hagree

theorem fits_pocket : fitsInt64 14041140 = true := rfl

/-- A slam upgrade, the double ability and a trap. -/
def pocketReceipts : List Item :=
  [⟨14041101, 14041140, 1, 0, fits_pocket⟩, ⟨14041142, 14041141, 1, 1, rfl⟩,
    ⟨14041274, 14041142, 2, 4, rfl⟩]

theorem reducers_agree_pocket :
    ∃ inv, pocketCatalog.inventory pocketReceipts = .ok inv ∧
      ((CampaignInventory.rebuild pocketCatalog {} (pocketReceipts.map (·.id))).1 = 1 ↔
        inv.unsupported = []) ∧
      (inv.unsupported = [] →
        Agrees trapTypeNames
          (CampaignInventory.rebuild pocketCatalog {} (pocketReceipts.map (·.id))).2 inv) ∧
      ((CampaignInventory.rebuild pocketCatalog {} (pocketReceipts.map (·.id))).1 ≠ 1 →
        (CampaignInventory.rebuild pocketCatalog {} (pocketReceipts.map (·.id))).2 = {}) :=
  reducers_agree pocketCatalog pocketReceipts {} (by decide) (by decide)

/-- The list is one of those both accept; with the victory item it is not. -/
example : (CampaignInventory.rebuild pocketCatalog {} (pocketReceipts.map (·.id))).1 = 1 ∧
    (CampaignInventory.rebuild pocketCatalog {} [14041101, 14041088]).1 = 0 := by decide

end Dk64Port.Archipelago
