import Dk64Port.Archipelago.ShopLabels
import Dk64Port.Lib.Run
import Mathlib.Logic.Function.Basic
import Mathlib.Algebra.Group.Nat.Defs

/-!
# The Archipelago shops (`mod/ap_shops.c`)

A seed offers locations in the shops, at prices the coins held so far have to reach. The game asks for
the offer of its vendor, level and Kong, keeps it in a record, and pays later; the record names
neither the vendor nor the location.

* `ShopTable`: the tables of the catalogue, with what holds of the shops in them.
* `ShopState.prepare`, `restore`, `setLabels`, `select`, `afford`, `purchase`: the calls.
* `selected_unique`: an active set has one location for a vendor, level and Kong.
* `purchase_quoted`: a record pays for the location that was quoted into it.
* `shop_ledger`: **the ledger over any sequence of calls.**

Pointers are not null.
-/

namespace Dk64Port.Archipelago

open ByteLayout (Byte)

/-- The catalogue: no two shops are in one place, and each is a location with a flag. -/
structure ShopTable extends LocationTable where
  placed : shops.Pairwise fun a b => ¬ (a.vendor = b.vendor ∧ a.level = b.level ∧ a.kong = b.kong)
  flagged : ∀ shop ∈ shops, ∃ row ∈ locations, row.id = shop.id ∧ row.flag ≠ 65535

/-- `ap_shop_offer`. -/
structure ShopOffer where
  location : Word
  price : Half
  reserved : Half := 0

/-- `ap_shop_paad`; `visited` is its byte `0xa`. -/
structure ShopPaad where
  flag : Half := 0
  kong : Byte := 0
  price : Byte := 0
  visited : Byte := 0
  itemType : Byte := 0
  level : Byte := 0
  response : Byte := 0
  melons : Byte := 0
  itemLevel : Byte := 0
deriving DecidableEq

/-- `AP_SHOP_ITEM_TYPE`. -/
def shopItemType : Byte := 21

/-- The statics of the module. A label of location zero is none. -/
structure ShopState where
  active : CheckSet := 0
  observed : CheckSet := 0
  prices : Nat → Half := fun _ => 0
  prepared : Bool := false
  labels : Nat → ShopLabel := fun _ => {}
  generation : Word := 0

/-- What the calls read of the game: `adventure` says that `game_mode` and its copy are
`GAME_MODE_ADVENTURE`, `level` is `getLevelIndex` of the map, `coins` what the player holds. -/
structure ShopScene where
  gameplayMode : Word
  file : Byte
  adventure : Bool
  /-- `unk58` of the current actor. -/
  owner : Option Word
  player : Bool
  character : Byte
  level : Byte
  /-- Flag `0x1cb`. -/
  levelsEntered : Bool
  coins : Word
  melons : Byte

/-- The coins, `func_global_asm_806F8AD4(1, 0)`, reach a price. -/
def ShopScene.affords (scene : ShopScene) (price : Byte) : Bool :=
  decide ((price.toNat : Int) ≤ scene.coins.toInt)

namespace ShopTable

variable (t : ShopTable)

/-- `shop_index`. -/
def shopIndex (id : Word) : Option Nat := t.shops.findIdx? (·.id = id)

/-- The flag of a location, `ap_locations[ap_location_index(id)].flag`. -/
def flagOf (id : Word) : Half := ((t.index id).map t.flagAt).getD 65535

/-- The shop of index `i` sells to this vendor, level and Kong. -/
def serves (vendor level kong : Word) (shop : ShopLocationDef) : Bool :=
  decide (shop.vendor.setWidth 32 = vendor ∧ shop.level.setWidth 32 = level
    ∧ (shop.kong.setWidth 32 = kong ∨ shop.kong = LocationTable.shopShared))

end ShopTable

namespace ShopState

variable (t : ShopTable)

/-! ## The plan -/

/-- The loop of `ap_prepare_ap_shops` over the offers: `none` where it returns. -/
def offered : List ShopOffer → CheckSet → Option CheckSet
  | [], active => some active
  | offer :: offers, active =>
    if t.shopIndex offer.location = none ∨ 255 < offer.price ∨ offer.reserved ≠ 0
        ∨ t.has active offer.location = true then none
    else offered offers ((t.add active offer.location).getD active)

/-- `ap_prepare_ap_shops`. -/
def prepare (s : ShopState) (gameplayMode : Word) (offers : List ShopOffer) (restored : CheckSet) :
    Bool × ShopState :=
  if gameplayMode ≠ 0 ∨ t.shops.length < offers.length then (false, s)
  else
    match offered t offers 0 with
    | none => (false, s)
    | some active =>
      if !t.distinctFlags active || !t.subset restored active then (false, s)
      else
        (true,
          { active := active
            observed := restored
            prices := offers.foldl (fun prices offer =>
              match t.shopIndex offer.location with
              | some i => Function.update prices i offer.price
              | none => prices) fun _ => 0
            prepared := true
            labels := fun i => { s.labels i with location := 0 }
            generation := if s.generation + 1 = 0 then 1 else s.generation + 1 })

/-- `ap_apshop_restore`. -/
def restore (s : ShopState) (restored : CheckSet) : Bool × ShopState :=
  if !s.prepared || !t.subset restored s.active then (false, s)
  else (true, { s with observed := s.observed ||| restored })

/-- The loop of `ap_apshop_set_labels`. -/
def labelled (active : CheckSet) : List ShopLabel → CheckSet → Bool
  | [], _ => true
  | label :: labels, seen =>
    if !labelValid label || !t.has active label.location || t.has seen label.location then false
    else labelled active labels ((t.add seen label.location).getD seen)

/-- `ap_apshop_set_labels`. -/
def setLabels (s : ShopState) (labels : List ShopLabel) : Bool × ShopState :=
  if !s.prepared || decide (t.shops.length < labels.length) || !labelled t s.active labels 0 then
    (false, s)
  else
    (true,
      { s with
        labels := labels.foldl (fun old label =>
          match t.shopIndex label.location with
          | some i => Function.update old i label
          | none => old) fun i => { s.labels i with location := 0 } })

/-! ## The offer of a scene -/

/-- `AP_GAMEPLAY_SHOPS`. -/
def gameplayShops : Word := 4

/-- `context`: vendor, level and Kong. -/
def context (s : ShopState) (scene : ShopScene) : Option (Word × Word × Word) :=
  if scene.gameplayMode &&& gameplayShops = 0 ∨ !s.prepared ∨ scene.file ≠ 0 ∨ !scene.adventure
      ∨ !scene.player then none
  else
    match scene.owner with
    | none => none
    | some owner =>
      let vendor := owner - 0xBD
      let kong := scene.character.setWidth 32
      if 3 ≤ vendor ∨ 5 ≤ kong then none
      else if scene.level < 8 then some (vendor, scene.level.setWidth 32, kong)
      else none

/-- A shop that `selected` takes. -/
def sells (s : ShopState) (vendor level kong : Word) (shop : ShopLocationDef) : Bool :=
  ShopTable.serves vendor level kong shop && t.has s.active shop.id && !t.has s.observed shop.id

/-- `selected`. -/
def selected (s : ShopState) (vendor level kong : Word) : Option Nat :=
  t.shops.findIdx? (s.sells t vendor level kong)

/-- The location of a shop. -/
def locationAt (i : Nat) : Word := ((t.shops[i]?).map (·.id)).getD 0

/-- `quote`. -/
def quote (s : ShopState) (scene : ShopScene) (paad : ShopPaad) : Option Nat :=
  match s.context scene with
  | none => none
  | some (vendor, level, kong) =>
    match s.selected t vendor level kong with
    | none => none
    | some i =>
      if paad.itemType ≠ shopItemType ∨ paad.level.setWidth 32 ≠ level
          ∨ paad.kong.setWidth 32 ≠ kong ∨ paad.price.setWidth 16 ≠ s.prices i
          ∨ paad.flag ≠ t.flagOf (locationAt t i) then none
      else some i

/-- `ap_apshop_select`: the record and the price that is shown. -/
def select (s : ShopState) (scene : ShopScene) (paad : ShopPaad) : ShopPaad × Half :=
  let paad : ShopPaad := { paad with
    itemType := 255, price := 0, flag := 0xffff, itemLevel := 0, kong := scene.character
    melons := scene.melons }
  match s.context scene with
  | none => (paad, 0)
  | some (vendor, level, kong) =>
    let paad : ShopPaad := { paad with level := level.setWidth 8 }
    match s.selected t vendor level kong with
    | none => (if scene.levelsEntered then { paad with itemType := 254 } else paad, 0)
    | some i =>
      let price := (s.prices i).setWidth 8
      ({ paad with itemType := shopItemType, price := price, flag := t.flagOf (locationAt t i) },
        price.setWidth 16)

/-- `ap_apshop_afford`: the result and the record. -/
def afford (s : ShopState) (scene : ShopScene) (paad : ShopPaad) : Nat × ShopPaad :=
  let result := if paad.itemType = 254 then 1 else 0
  let r : Nat × ShopPaad :=
    match s.quote t scene paad with
    | none => (result, { paad with response := 3 })
    | some _ =>
      if scene.affords paad.price then (2, { paad with response := 1 })
      else (3, { paad with response := 3 })
  (if r.2.visited ≠ 0 then r.1 + 4 else r.1, r.2)

/-- `ap_apshop_purchase`. -/
def purchase (s : ShopState) (scene : ShopScene) (paad : ShopPaad) : ShopState :=
  match s.quote t scene paad with
  | none => s
  | some i =>
    if !scene.affords paad.price then s
    else { s with observed := (t.add s.observed (locationAt t i)).getD s.observed }

end ShopState

variable {t : ShopTable} {s s' : ShopState} {active : CheckSet} {vendor level kong id : Word}
  {i j : Nat} {shop : ShopLocationDef}

/-! ## Distinct flags -/

theorem distinctFlags_zero (t : LocationTable) : t.distinctFlags 0 = true := by
  have hidx : ∀ i, t.hasIndex 0 i = false := by
    intro i
    rw [LocationTable.hasIndex, show (0 : CheckSet).getLsbD i = false from BitVec.getLsbD_zero,
      Bool.and_false]
  have hhas : ∀ id, t.has 0 id = false := by
    intro id
    unfold LocationTable.has
    cases t.index id with
    | none => rfl
    | some i => exact hidx i
  unfold LocationTable.distinctFlags
  simp only [hidx, hhas, Bool.not_false, Bool.true_or, Bool.or_true, List.all_eq_true,
    Bool.and_eq_true, implies_true, and_true]
  exact LocationTable.subset_valid (LocationTable.subset_zero t 0)

/-- Two active locations have one flag only where it is none. -/
theorem flags_distinct (h : t.distinctFlags active = true) (hi : t.hasIndex active i = true)
    (hj : t.hasIndex active j = true) (hf : t.flagAt i = t.flagAt j) (hflag : t.flagAt i ≠ 65535) :
    i = j := by
  unfold LocationTable.distinctFlags at h
  simp only [Bool.and_eq_true] at h
  obtain ⟨⟨-, hall⟩, -⟩ := h
  have hpair : ∀ a b, t.hasIndex active a = true → t.hasIndex active b = true →
      t.flagAt a = t.flagAt b → t.flagAt a ≠ 65535 → ¬ a < b := by
    intro a b ha hb hab hne hlt
    have hrow := List.all_eq_true.mp hall a (List.mem_range.mpr (LocationTable.hasIndex_iff.mp ha).1)
    rw [ha, Bool.not_true, Bool.false_or, beq_false_of_ne hne, Bool.false_or] at hrow
    have hcell := List.all_eq_true.mp hrow b
      (List.mem_range.mpr (LocationTable.hasIndex_iff.mp hb).1)
    rw [decide_eq_true hlt, hb, hab, beq_self_eq_true] at hcell
    exact absurd hcell (by decide)
  have h1 := hpair i j hi hj hf hflag
  have h2 := hpair j i hj hi hf.symm (hf ▸ hflag)
  omega

/-- A shared shop has its vendor and level to itself. -/
theorem shared_alone (h : t.distinctFlags active = true) {shared other : ShopLocationDef}
    (hi : t.shops[i]? = some shared) (hj : t.shops[j]? = some other)
    (hk : shared.kong = LocationTable.shopShared) (hs : t.has active shared.id = true)
    (ho : t.has active other.id = true) (hv : shared.vendor = other.vendor)
    (hl : shared.level = other.level) : i = j := by
  unfold LocationTable.distinctFlags at h
  simp only [Bool.and_eq_true] at h
  have hrow := List.all_eq_true.mp h.2 (shared, i) (List.mem_zipIdx_iff_getElem?.mpr hi)
  simp only [hk, bne_self_eq_false, hs, Bool.not_true, Bool.false_or] at hrow
  have hcell := List.all_eq_true.mp hrow (other, j) (List.mem_zipIdx_iff_getElem?.mpr hj)
  by_contra hne
  simp only [bne_iff_ne.mpr hne, hv, hl, ho, beq_self_eq_true, Bool.and_true, Bool.not_true,
    Bool.false_eq_true] at hcell

/-- Shop `i` sells an active location to this vendor, level and Kong. -/
def ShopTable.Offers (t : ShopTable) (active : CheckSet) (vendor level kong : Word) (i : Nat) : Prop :=
  ∃ shop, t.shops[i]? = some shop ∧ ShopTable.serves vendor level kong shop = true
    ∧ t.has active shop.id = true

/-- **At most one active location matches a vendor, level and Kong.** -/
theorem selected_unique (h : t.distinctFlags active = true) (hi : t.Offers active vendor level kong i)
    (hj : t.Offers active vendor level kong j) : i = j := by
  obtain ⟨a, ha, hsa, haa⟩ := hi
  obtain ⟨b, hb, hsb, hab⟩ := hj
  obtain ⟨hva, hla, hka⟩ := of_decide_eq_true hsa
  obtain ⟨hvb, hlb, hkb⟩ := of_decide_eq_true hsb
  have hinj : ∀ x y : Byte, x.setWidth 32 = y.setWidth 32 → x = y := by
    intro x y hxy
    bv_omega
  have hv := hinj _ _ (hva.trans hvb.symm)
  have hl := hinj _ _ (hla.trans hlb.symm)
  by_cases hsharedA : a.kong = LocationTable.shopShared
  · exact shared_alone h ha hb hsharedA haa hab hv hl
  by_cases hsharedB : b.kong = LocationTable.shopShared
  · exact (shared_alone h hb ha hsharedB hab haa hv.symm hl.symm).symm
  have hk := hinj _ _ ((hka.resolve_right hsharedA).trans (hkb.resolve_right hsharedB).symm)
  obtain ⟨hlta, rfl⟩ := List.getElem?_eq_some_iff.mp ha
  obtain ⟨hltb, rfl⟩ := List.getElem?_eq_some_iff.mp hb
  have hplaced := List.pairwise_iff_getElem.mp t.placed
  rcases Nat.lt_trichotomy i j with hij | hij | hij
  · exact absurd ⟨hv, hl, hk⟩ (hplaced i j hlta hltb hij)
  · exact hij
  · exact absurd ⟨hv.symm, hl.symm, hk.symm⟩ (hplaced j i hltb hlta hij)

/-- One location more. -/
theorem LocationTable.subset_add_bit {t : LocationTable} {part whole : CheckSet} {a : Nat}
    (h : t.subset part whole = true) (ha : a < t.count) (hbit : whole.getLsbD a = true) :
    t.subset (part ||| 1#896 <<< a) whole = true := by
  obtain ⟨hv, hs⟩ := LocationTable.subset_iff.mp h
  refine LocationTable.subset_iff.mpr ⟨LocationTable.valid_iff.mpr fun i hi => ?_, fun i hi => ?_⟩
  · rw [LocationTable.getLsbD_add_bit ha, LocationTable.valid_iff.mp hv i hi, Bool.false_or]
    exact decide_eq_false (by omega)
  · rw [LocationTable.getLsbD_add_bit ha, Bool.or_eq_true, decide_eq_true_eq] at hi
    rcases hi with hi | rfl
    · exact hs i hi
    · exact hbit

/-! ## Quotes and purchases -/

/-- A shop is a location, with a flag. -/
theorem shop_location (h : t.shops[i]? = some shop) : ∃ a, t.index shop.id = some a
    ∧ t.idAt a = some shop.id ∧ t.flagAt a = t.flagOf shop.id ∧ t.flagOf shop.id ≠ 65535 := by
  obtain ⟨row, hrow, hid, hflag⟩ := t.flagged shop (List.mem_of_getElem? h)
  obtain ⟨a, ha⟩ := List.mem_iff_getElem?.mp hrow
  have hindex : t.index shop.id = some a := LocationTable.index_eq_some_iff.mpr ⟨row, ha, hid⟩
  have hat : t.flagAt a = row.flag := by
    rw [LocationTable.flagAt, ha]
    rfl
  have hof : t.flagOf shop.id = row.flag := by
    rw [ShopTable.flagOf, hindex]
    exact hat
  refine ⟨a, hindex, ?_, hat.trans hof.symm, hof ▸ hflag⟩
  rw [LocationTable.idAt, ha, Option.map_some, hid]

theorem locationAt_eq (h : t.shops[i]? = some shop) : ShopState.locationAt t i = shop.id := by
  rw [ShopState.locationAt, h]
  rfl

theorem selected_spec (h : s.selected t vendor level kong = some i) : ∃ shop,
    t.shops[i]? = some shop ∧ ShopTable.serves vendor level kong shop = true
    ∧ t.has s.active shop.id = true ∧ t.has s.observed shop.id = false := by
  obtain ⟨hlt, hsells, -⟩ := List.findIdx?_eq_some_iff_getElem.mp h
  refine ⟨t.shops[i], List.getElem?_eq_getElem hlt, ?_⟩
  rw [ShopState.sells, Bool.and_eq_true, Bool.and_eq_true, Bool.not_eq_true'] at hsells
  exact ⟨hsells.1.1, hsells.1.2, hsells.2⟩

variable {scene scene' : ShopScene} {paad : ShopPaad}

/-- What a quote has checked. -/
theorem quote_spec (h : s.quote t scene paad = some i) : ∃ vendor level kong,
    s.context scene = some (vendor, level, kong) ∧ s.selected t vendor level kong = some i
    ∧ paad.itemType = shopItemType ∧ paad.price.setWidth 16 = s.prices i
    ∧ paad.flag = t.flagOf (ShopState.locationAt t i) := by
  unfold ShopState.quote at h
  cases hc : s.context scene with
  | none =>
    rw [hc] at h
    exact absurd h (by simp)
  | some place =>
    obtain ⟨vendor, level, kong⟩ := place
    rw [hc] at h
    dsimp only at h
    cases hs : s.selected t vendor level kong with
    | none =>
      rw [hs] at h
      exact absurd h (by simp)
    | some k =>
      rw [hs] at h
      dsimp only at h
      split at h
      · exact absurd h (by simp)
      · rename_i hno
        simp only [not_or, not_not] at hno
        obtain rfl := Option.some.inj h
        exact ⟨vendor, level, kong, rfl, hs, hno.1, hno.2.2.2.1, hno.2.2.2.2⟩

/-- What `ap_apshop_select` leaves in a record. -/
theorem select_spec (s : ShopState) (scene : ShopScene) (paad : ShopPaad) :
    (s.select t scene paad).1.itemType ≠ shopItemType
    ∨ ∃ vendor level kong i, s.context scene = some (vendor, level, kong)
      ∧ s.selected t vendor level kong = some i
      ∧ (s.select t scene paad).1.price = (s.prices i).setWidth 8
      ∧ (s.select t scene paad).1.flag = t.flagOf (ShopState.locationAt t i) := by
  unfold ShopState.select
  cases hc : s.context scene with
  | none => exact .inl (show (255 : Byte) ≠ 21 by decide)
  | some place =>
    obtain ⟨vendor, level, kong⟩ := place
    dsimp only
    cases hs : s.selected t vendor level kong with
    | none =>
      left
      dsimp only
      split
      · exact show (254 : Byte) ≠ 21 by decide
      · exact show (255 : Byte) ≠ 21 by decide
    | some i => exact .inr ⟨vendor, level, kong, i, rfl, hs, rfl, rfl⟩

/-- **A record pays for the location that was quoted into it**, whatever the scene has become. -/
theorem purchase_quoted (h : t.distinctFlags s.active = true) (hactive : s'.active = s.active)
    {old : ShopPaad} (hflag : paad.flag = (s.select t scene old).1.flag)
    (htype : paad.itemType = (s.select t scene old).1.itemType)
    (hprice : paad.price = (s.select t scene old).1.price)
    (hq : s'.quote t scene' paad = some j) : ∃ vendor level kong i,
    s.context scene = some (vendor, level, kong) ∧ s.selected t vendor level kong = some i
    ∧ ShopState.locationAt t j = ShopState.locationAt t i ∧ paad.price = (s.prices i).setWidth 8 := by
  obtain ⟨vendor', level', kong', -, hs', htype', -, hflag'⟩ := quote_spec hq
  rcases select_spec (t := t) s scene old with hnone | ⟨vendor, level, kong, i, hc, hs, hp, hf⟩
  · exact absurd (htype ▸ htype') hnone
  refine ⟨vendor, level, kong, i, hc, hs, ?_, hprice.trans hp⟩
  obtain ⟨a, ha, -, haa, -⟩ := selected_spec hs
  obtain ⟨b, hb, -, hab, -⟩ := selected_spec hs'
  rw [hactive] at hab
  rw [locationAt_eq ha] at hf ⊢
  rw [locationAt_eq hb] at hflag' ⊢
  obtain ⟨x, hx, hidx, hfx, hne⟩ := shop_location ha
  obtain ⟨y, hy, hidy, hfy, -⟩ := shop_location hb
  have hsame : t.flagAt x = t.flagAt y := by
    rw [hfx, hfy, ← hf, ← hflag', hflag]
  have hbit : ∀ {id : Word} {k : Nat}, t.index id = some k → t.has s.active id = true →
      t.hasIndex s.active k = true := by
    intro id k hk hhas
    rwa [LocationTable.has, hk] at hhas
  obtain rfl := flags_distinct h (hbit hx haa) (hbit hy hab) hsame (hfx ▸ hne)
  exact Option.some.inj (hidy.symm.trans hidx)

/-! ## The ledger -/

/-- A call into the module. -/
inductive ShopEvent where
  | prepare (gameplayMode : Word) (offers : List ShopOffer) (restored : CheckSet)
  | restore (restored : CheckSet)
  | setLabels (labels : List ShopLabel)
  | select (scene : ShopScene) (paad : ShopPaad)
  | afford (scene : ShopScene) (paad : ShopPaad)
  | purchase (scene : ShopScene) (paad : ShopPaad)

variable (t) in
/-- What a call leaves of the statics. -/
def shopStep (s : ShopState) : ShopEvent → ShopState
  | .prepare gameplayMode offers restored => (s.prepare t gameplayMode offers restored).2
  | .restore restored => (s.restore t restored).2
  | .setLabels labels => (s.setLabels t labels).2
  | .select _ _ | .afford _ _ => s
  | .purchase scene paad => s.purchase t scene paad

variable (t) in
/-- A call that publishes another plan. -/
def ShopEvent.replans (s : ShopState) : ShopEvent → Bool
  | .prepare gameplayMode offers restored => (s.prepare t gameplayMode offers restored).1
  | _ => false

/-- What a plan guarantees. -/
structure PlanSound (t : ShopTable) (s : ShopState) : Prop where
  distinct : t.distinctFlags s.active = true
  subset : t.subset s.observed s.active = true
  prices : ∀ i, s.prices i ≤ 255

theorem prepare_failed {gameplayMode : Word} {offers : List ShopOffer} {restored : CheckSet}
    (h : (s.prepare t gameplayMode offers restored).1 = false) :
    (s.prepare t gameplayMode offers restored).2 = s := by
  unfold ShopState.prepare at h ⊢
  split
  · rfl
  · rename_i hok
    rw [if_neg hok] at h
    cases ho : ShopState.offered t offers 0 with
    | none => rfl
    | some active =>
      rw [ho] at h
      dsimp only at h ⊢
      split
      · rfl
      · rename_i hgood
        rw [if_neg hgood] at h
        exact absurd h (by simp)

theorem restore_failed {restored : CheckSet} (h : (s.restore t restored).1 = false) :
    (s.restore t restored).2 = s := by
  unfold ShopState.restore at h ⊢
  split
  · rfl
  · rename_i hok
    rw [if_neg hok] at h
    exact absurd h (by simp)

theorem setLabels_failed {labels : List ShopLabel} (h : (s.setLabels t labels).1 = false) :
    (s.setLabels t labels).2 = s := by
  unfold ShopState.setLabels at h ⊢
  split
  · rfl
  · rename_i hok
    rw [if_neg hok] at h
    exact absurd h (by simp)

/-- The prices of the offers are bytes. -/
theorem price_le_of_offered {offers : List ShopOffer} {set set' : CheckSet}
    (h : ShopState.offered t offers set = some set') : ∀ offer ∈ offers, offer.price ≤ 255 := by
  induction offers generalizing set with
  | nil => exact fun _ ho => absurd ho List.not_mem_nil
  | cons offer offers ih =>
    rw [ShopState.offered] at h
    split at h
    · exact absurd h (by simp)
    · rename_i hok
      rw [not_or, not_or] at hok
      intro other ho
      rcases List.mem_cons.mp ho with rfl | ho
      · exact BitVec.not_lt.mp hok.2.1
      · exact ih h other ho

theorem prices_foldl {offers : List ShopOffer} (h : ∀ offer ∈ offers, offer.price ≤ 255)
    {prices : Nat → Half} (hp : ∀ i, prices i ≤ 255) (i : Nat) :
    offers.foldl (fun prices offer =>
      match t.shopIndex offer.location with
      | some i => Function.update prices i offer.price
      | none => prices) prices i ≤ 255 := by
  induction offers generalizing prices with
  | nil => exact hp i
  | cons offer offers ih =>
    rw [List.foldl_cons]
    refine ih (fun o ho => h o (List.mem_cons_of_mem _ ho)) fun k => ?_
    cases t.shopIndex offer.location with
    | none => exact hp k
    | some j =>
      by_cases hk : k = j
      · rw [hk]
        simp only [Function.update_self]
        exact h offer List.mem_cons_self
      · simp only [Function.update_of_ne hk]
        exact hp k

theorem PlanSound.prepare (h : PlanSound t s) (gameplayMode : Word) (offers : List ShopOffer)
    (restored : CheckSet) : PlanSound t (s.prepare t gameplayMode offers restored).2 := by
  unfold ShopState.prepare
  split
  · exact h
  · cases ho : ShopState.offered t offers 0 with
    | none => exact h
    | some active =>
      dsimp only
      split
      · exact h
      · rename_i hok
        rw [Bool.not_eq_true, Bool.or_eq_false_iff, Bool.not_eq_false', Bool.not_eq_false'] at hok
        exact ⟨hok.1, hok.2, prices_foldl (price_le_of_offered ho) fun _ => by decide⟩

/-- What a purchase does. -/
theorem purchase_cases (s : ShopState) (scene : ShopScene) (paad : ShopPaad) :
    s.purchase t scene paad = s
    ∨ ∃ j shop a, s.quote t scene paad = some j ∧ scene.affords paad.price = true
      ∧ t.shops[j]? = some shop ∧ t.index shop.id = some a ∧ s.active.getLsbD a = true
      ∧ t.add s.observed (ShopState.locationAt t j) = some (s.observed ||| 1#896 <<< a)
      ∧ s.purchase t scene paad = { s with observed := s.observed ||| 1#896 <<< a } := by
  unfold ShopState.purchase
  cases hq : s.quote t scene paad with
  | none => exact .inl rfl
  | some j =>
    dsimp only
    split
    · exact .inl rfl
    · rename_i hcoins
      obtain ⟨vendor, level, kong, -, hs, -⟩ := quote_spec hq
      obtain ⟨shop, hshop, -, hactive, -⟩ := selected_spec hs
      obtain ⟨a, ha, -⟩ := shop_location hshop
      have hadd : t.add s.observed (ShopState.locationAt t j) = some (s.observed ||| 1#896 <<< a) :=
        LocationTable.add_of_index (locationAt_eq hshop ▸ ha)
      rw [LocationTable.has_of_index ha] at hactive
      rw [Bool.not_eq_true, Bool.not_eq_false'] at hcoins
      exact .inr ⟨j, shop, a, rfl, hcoins, hshop, ha, hactive, hadd, by rw [hadd]; rfl⟩

/-- **One call keeps the plan.** -/
theorem PlanSound.step (h : PlanSound t s) (e : ShopEvent) : PlanSound t (shopStep t s e) := by
  cases e with
  | prepare gameplayMode offers restored => exact h.prepare gameplayMode offers restored
  | restore restored =>
    unfold shopStep ShopState.restore
    dsimp only
    split
    · exact h
    · rename_i hok
      rw [Bool.not_eq_true, Bool.or_eq_false_iff, Bool.not_eq_false', Bool.not_eq_false'] at hok
      exact ⟨h.distinct, LocationTable.subset_or h.subset hok.2, h.prices⟩
  | setLabels labels =>
    unfold shopStep ShopState.setLabels
    dsimp only
    split
    · exact h
    · exact ⟨h.distinct, h.subset, h.prices⟩
  | select scene paad => exact h
  | afford scene paad => exact h
  | purchase scene paad =>
    rcases purchase_cases (t := t) s scene paad with hsame | ⟨j, shop, a, -, -, -, ha, hbit, -, hnew⟩
    · change PlanSound t (s.purchase t scene paad)
      rw [hsame]
      exact h
    · change PlanSound t (s.purchase t scene paad)
      rw [hnew]
      exact ⟨h.distinct, LocationTable.subset_add_bit h.subset (LocationTable.index_lt ha) hbit,
        h.prices⟩

/-- Between two plans, the plan stays and observed locations stay. -/
structure SamePlan (s s' : ShopState) : Prop where
  active : s'.active = s.active
  prices : s'.prices = s.prices
  observed : ∀ i, s.observed.getLsbD i = true → s'.observed.getLsbD i = true

theorem samePlan_refl (s : ShopState) : SamePlan s s := ⟨rfl, rfl, fun _ h => h⟩

theorem SamePlan.trans {s₁ s₂ s₃ : ShopState} (h₁ : SamePlan s₁ s₂) (h₂ : SamePlan s₂ s₃) :
    SamePlan s₁ s₃ :=
  ⟨h₂.active.trans h₁.active, h₂.prices.trans h₁.prices,
    fun i hi => h₂.observed i (h₁.observed i hi)⟩

theorem samePlan_step (e : ShopEvent) (h : e.replans t s = false) : SamePlan s (shopStep t s e) := by
  have hrefl := samePlan_refl s
  have hadd : ∀ set : CheckSet, SamePlan s { s with observed := s.observed ||| set } := by
    refine fun set => ⟨rfl, rfl, fun i hi => ?_⟩
    rw [BitVec.getLsbD_or, hi, Bool.true_or]
  cases e with
  | prepare gameplayMode offers restored =>
    change SamePlan s (s.prepare t gameplayMode offers restored).2
    rw [prepare_failed h]
    exact hrefl
  | restore restored =>
    change SamePlan s (s.restore t restored).2
    unfold ShopState.restore
    split
    · exact hrefl
    · exact hadd restored
  | setLabels labels =>
    change SamePlan s (s.setLabels t labels).2
    unfold ShopState.setLabels
    split
    · exact hrefl
    · exact ⟨rfl, rfl, fun _ h => h⟩
  | select scene paad => exact hrefl
  | afford scene paad => exact hrefl
  | purchase scene paad =>
    change SamePlan s (s.purchase t scene paad)
    rcases purchase_cases (t := t) s scene paad with hsame | ⟨_, _, _, -, -, -, -, -, -, hnew⟩
    · rw [hsame]
      exact hrefl
    · rw [hnew]
      exact hadd _

theorem samePlan_run {es : List ShopEvent}
    (h : Run.Along (shopStep t) (fun s e => e.replans t s = false) s es) :
    SamePlan s (Run.run (shopStep t) s es) :=
  Run.run_mono samePlan_refl (fun _ _ _ => SamePlan.trans) (fun _ e he => samePlan_step e he) h

/-- The record as `ap_apshop_select` filled it; `ap_apshop_afford` writes the response. -/
def Filled (record paad : ShopPaad) : Prop := paad = { record with response := paad.response }

/-- What holds of the ledger `s`. -/
structure ShopLedger (t : ShopTable) (s : ShopState) : Prop where
  unique : ∀ vendor level kong i j, t.Offers s.active vendor level kong i →
    t.Offers s.active vendor level kong j → i = j
  subset : t.subset s.observed s.active = true
  grows : ∀ es, Run.Along (shopStep t) (fun s e => e.replans t s = false) s es →
    ∀ i, s.observed.getLsbD i = true → (Run.run (shopStep t) s es).observed.getLsbD i = true
  /-- The record is filled in `s`, and paid after the calls `es`. -/
  paid : ∀ scene old es, Run.Along (shopStep t) (fun s e => e.replans t s = false) s es →
    ∀ scene' paad, Filled (s.select t scene old).1 paad →
      let s' := Run.run (shopStep t) s es
      s'.purchase t scene' paad = s' ∨ ∃ vendor level kong i observed,
        s.context scene = some (vendor, level, kong) ∧ s.selected t vendor level kong = some i
        ∧ t.add s'.observed (ShopState.locationAt t i) = some observed
        ∧ s'.purchase t scene' paad = { s' with observed := observed }
        ∧ ((s.prices i).toNat : Int) ≤ scene'.coins.toInt
  prepare : ∀ gameplayMode offers restored, (s.prepare t gameplayMode offers restored).1 = false →
    (s.prepare t gameplayMode offers restored).2 = s
  restore : ∀ restored, (s.restore t restored).1 = false → (s.restore t restored).2 = s
  setLabels : ∀ labels, (s.setLabels t labels).1 = false → (s.setLabels t labels).2 = s

/-- **The ledger over any sequence of calls.** -/
theorem shop_ledger (t : ShopTable) (es : List ShopEvent) :
    ShopLedger t (Run.run (shopStep t) {} es) := by
  have h : PlanSound t (Run.run (shopStep t) {} es) :=
    Run.run_invariant_of_steps (fun _ e h => h.step e)
      ⟨distinctFlags_zero t.toLocationTable, LocationTable.subset_zero _ _,
        fun _ => show (0 : Half) ≤ 255 by decide⟩ es
  generalize Run.run (shopStep t) {} es = s at h
  refine ⟨fun _ _ _ _ _ hi hj => selected_unique h.distinct hi hj, h.subset,
    fun _ hes => (samePlan_run hes).observed, fun scene old es hes scene' paad hfilled => ?_,
    fun _ _ _ => prepare_failed, fun _ => restore_failed, fun _ => setLabels_failed⟩
  intro s'
  have hplan : SamePlan s s' := samePlan_run hes
  rcases purchase_cases (t := t) s' scene' paad with hsame | ⟨j, shop, a, hq, hcoins, -, -, -, hadd, hnew⟩
  · exact .inl hsame
  · obtain ⟨vendor, level, kong, i, hc, hs, hlocation, hprice⟩ :=
      purchase_quoted h.distinct hplan.active (by rw [hfilled]) (by rw [hfilled]) (by rw [hfilled]) hq
    refine .inr ⟨vendor, level, kong, i, _, hc, hs, hlocation ▸ hadd, hnew, ?_⟩
    have hle := of_decide_eq_true hcoins
    have hsmall : (s.prices i).toNat ≤ 255 := BitVec.le_def.mp (h.prices i)
    rw [hprice, BitVec.toNat_setWidth, Nat.mod_eq_of_lt (by omega)] at hle
    exact hle

/-! ## The shops of the catalogue -/

/-- `ap_shop_locations`, with the flags of the locations: id, flag, vendor, level and Kong. -/
def shopRows : List (Nat × Nat × Nat × Nat × Nat) :=
  [ (14041442, 835, 0, 7, 5), (14041443, 800, 0, 0, 0), (14041444, 801, 0, 0, 1), (14041445, 802, 0, 0, 2),
    (14041446, 803, 0, 0, 3), (14041447, 804, 0, 0, 4), (14041448, 840, 1, 0, 0), (14041449, 841, 1, 0, 1),
    (14041450, 842, 1, 0, 2), (14041451, 843, 1, 0, 3), (14041452, 844, 1, 0, 4), (14041453, 805, 0, 1, 0),
    (14041454, 806, 0, 1, 1), (14041455, 875, 2, 1, 0), (14041456, 876, 2, 1, 1), (14041457, 877, 2, 1, 2),
    (14041458, 878, 2, 1, 3), (14041459, 879, 2, 1, 4), (14041460, 810, 0, 2, 0), (14041461, 811, 0, 2, 1),
    (14041462, 812, 0, 2, 2), (14041463, 813, 0, 2, 3), (14041464, 814, 0, 2, 4), (14041465, 850, 1, 2, 5),
    (14041466, 885, 2, 3, 5), (14041467, 820, 0, 4, 5), (14041468, 860, 1, 4, 5), (14041469, 827, 0, 5, 2),
    (14041470, 828, 0, 5, 3), (14041471, 829, 0, 5, 4), (14041472, 865, 1, 5, 5), (14041473, 890, 2, 5, 5),
    (14041474, 830, 0, 6, 5), (14041475, 870, 1, 6, 5), (14041476, 895, 2, 6, 5), (14041478, 800, 0, 0, 5),
    (14041479, 840, 1, 0, 5), (14041480, 805, 0, 1, 5), (14041481, 807, 0, 1, 2), (14041482, 808, 0, 1, 3),
    (14041483, 809, 0, 1, 4), (14041484, 845, 1, 1, 5), (14041485, 845, 1, 1, 0), (14041486, 846, 1, 1, 1),
    (14041487, 847, 1, 1, 2), (14041488, 848, 1, 1, 3), (14041489, 849, 1, 1, 4), (14041490, 875, 2, 1, 5),
    (14041491, 810, 0, 2, 5), (14041492, 850, 1, 2, 0), (14041493, 851, 1, 2, 1), (14041494, 852, 1, 2, 2),
    (14041495, 853, 1, 2, 3), (14041496, 854, 1, 2, 4), (14041497, 880, 2, 2, 5), (14041498, 880, 2, 2, 0),
    (14041499, 881, 2, 2, 1), (14041500, 882, 2, 2, 2), (14041501, 883, 2, 2, 3), (14041502, 884, 2, 2, 4),
    (14041503, 815, 0, 3, 5), (14041504, 815, 0, 3, 0), (14041505, 816, 0, 3, 1), (14041506, 817, 0, 3, 2),
    (14041507, 818, 0, 3, 3), (14041508, 819, 0, 3, 4), (14041509, 855, 1, 3, 5), (14041510, 855, 1, 3, 0),
    (14041511, 856, 1, 3, 1), (14041512, 857, 1, 3, 2), (14041513, 858, 1, 3, 3), (14041514, 859, 1, 3, 4),
    (14041515, 885, 2, 3, 0), (14041516, 886, 2, 3, 1), (14041517, 887, 2, 3, 2), (14041518, 888, 2, 3, 3),
    (14041519, 889, 2, 3, 4), (14041520, 820, 0, 4, 0), (14041521, 821, 0, 4, 1), (14041522, 822, 0, 4, 2),
    (14041523, 823, 0, 4, 3), (14041524, 824, 0, 4, 4), (14041525, 860, 1, 4, 0), (14041526, 861, 1, 4, 1),
    (14041527, 862, 1, 4, 2), (14041528, 863, 1, 4, 3), (14041529, 864, 1, 4, 4), (14041530, 825, 0, 5, 5),
    (14041531, 825, 0, 5, 0), (14041532, 826, 0, 5, 1), (14041533, 865, 1, 5, 0), (14041534, 866, 1, 5, 1),
    (14041535, 867, 1, 5, 2), (14041536, 868, 1, 5, 3), (14041537, 869, 1, 5, 4), (14041538, 890, 2, 5, 0),
    (14041539, 891, 2, 5, 1), (14041540, 892, 2, 5, 2), (14041541, 893, 2, 5, 3), (14041542, 894, 2, 5, 4),
    (14041543, 830, 0, 6, 0), (14041544, 831, 0, 6, 1), (14041545, 832, 0, 6, 2), (14041546, 833, 0, 6, 3),
    (14041547, 834, 0, 6, 4), (14041548, 870, 1, 6, 0), (14041549, 871, 1, 6, 1), (14041550, 872, 1, 6, 2),
    (14041551, 873, 1, 6, 3), (14041552, 874, 1, 6, 4), (14041553, 895, 2, 6, 0), (14041554, 896, 2, 6, 1),
    (14041555, 897, 2, 6, 2), (14041556, 898, 2, 6, 3), (14041557, 899, 2, 6, 4), (14041558, 835, 0, 7, 0),
    (14041559, 836, 0, 7, 1), (14041560, 837, 0, 7, 2), (14041561, 838, 0, 7, 3), (14041562, 839, 0, 7, 4) ]

theorem shopRows_sorted : shopRows.Pairwise fun a b => a.1 < b.1 :=
  List.isChain_iff_pairwise.mp (by decide +kernel)

/-- No two rows have one place, read as a number. -/
theorem shopRows_apart : shopRows.Pairwise fun a b =>
    a.2.2.1 * 100 + a.2.2.2.1 * 10 + a.2.2.2.2 ≠ b.2.2.1 * 100 + b.2.2.2.1 * 10 + b.2.2.2.2 := by
  decide +kernel

theorem shopRows_bounds : ∀ row ∈ shopRows, row.1 < 2 ^ 32 ∧ row.2.1 < 65535
    ∧ row.2.2.1 < 256 ∧ row.2.2.2.1 < 256 ∧ row.2.2.2.2 < 256 := by decide

theorem ofNat_byte_inj {a b : Nat} (ha : a < 256) (hb : b < 256)
    (h : BitVec.ofNat 8 a = BitVec.ofNat 8 b) : a = b := by
  have hto := congrArg BitVec.toNat h
  rwa [BitVec.toNat_ofNat, BitVec.toNat_ofNat, Nat.mod_eq_of_lt ha, Nat.mod_eq_of_lt hb] at hto

/-- The shops of `generated/catalog.h` and their locations. -/
def shopCatalogue : ShopTable where
  locations := shopRows.map fun row =>
    { id := BitVec.ofNat 32 row.1, flag := BitVec.ofNat 16 row.2.1, detector := .shop }
  shops := shopRows.map fun row =>
    { id := BitVec.ofNat 32 row.1, vendor := BitVec.ofNat 8 row.2.2.1
      level := BitVec.ofNat 8 row.2.2.2.1, kong := BitVec.ofNat 8 row.2.2.2.2 }
  sorted := by
    refine List.pairwise_map.mpr (shopRows_sorted.imp_of_mem fun {a b} ha hb h => ?_)
    dsimp only
    rw [BitVec.toNat_ofNat, BitVec.toNat_ofNat, Nat.mod_eq_of_lt (shopRows_bounds a ha).1,
      Nat.mod_eq_of_lt (shopRows_bounds b hb).1]
    exact h
  fits := by
    rw [List.length_map]
    decide
  placed := by
    refine List.pairwise_map.mpr (shopRows_apart.imp_of_mem fun {a b} ha hb h => ?_)
    obtain ⟨-, -, hva, hla, hka⟩ := shopRows_bounds a ha
    obtain ⟨-, -, hvb, hlb, hkb⟩ := shopRows_bounds b hb
    rintro ⟨hv, hl, hk⟩
    exact h (by rw [ofNat_byte_inj hva hvb hv, ofNat_byte_inj hla hlb hl, ofNat_byte_inj hka hkb hk])
  flagged := by
    intro shop hshop
    obtain ⟨row, hrow, rfl⟩ := List.mem_map.mp hshop
    refine ⟨_, List.mem_map_of_mem hrow, rfl, fun hflag => ?_⟩
    have hto := congrArg BitVec.toNat hflag
    have hlt := (shopRows_bounds row hrow).2.1
    rw [BitVec.toNat_ofNat, Nat.mod_eq_of_lt (by omega)] at hto
    exact absurd hto (Nat.ne_of_lt hlt)

end Dk64Port.Archipelago
