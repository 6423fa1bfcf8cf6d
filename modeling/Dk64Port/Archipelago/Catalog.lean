import Dk64Port.Lib.BinarySearch
import Dk64Port.Lib.ByteLayout
import Mathlib.Data.List.Forall2

/-!
# The item catalogue (`generated/catalog.json`, `generated/catalog.h`, `tools/import-randomizer.py`)

An entry of `catalog.json` says in the words of the upstream client what an item does. The import
tool compiles it to a pair of effects, the row the game reads.

* `itemEffects`: the compilation of one entry; `none` where the tool raises.
* `Catalog`: the entries and the rows compiled from them, sorted by id.
* `Catalog.find_item`: the game finds the row of exactly the catalogued ids.
-/

namespace Dk64Port.Archipelago

open ByteLayout (Byte)

abbrev Half := BitVec 16
abbrev Word := BitVec 32

/-! ## What the game reads -/

/-- `AP_EFFECT_*`. -/
inductive EffectKind where
  | unsupported | none | flag | kong | key | ability | special | hint | blueprint | fairy
  | crown | medal | pearl | rainbow | junk | trap | transfer
deriving DecidableEq

/-- `ap_item_effect`. -/
structure ItemEffect where
  kind : EffectKind
  arg0 : Byte := 0
  arg1 : Half := 0
deriving DecidableEq

/-- `ap_item_effect_def`. -/
structure ItemEffectDef where
  id : Word
  first : ItemEffect
  second : ItemEffect
deriving DecidableEq

/-- The two effects, in the order of the loops over them. -/
def ItemEffectDef.effects (item : ItemEffectDef) : List ItemEffect := [item.first, item.second]

/-- `AP_TRAP_TYPE_COUNT`. -/
def trapTypeCount : Nat := 16
/-- `AP_ITEM_FLAG_WORDS`. -/
def itemFlagWords : Nat := 31

/-- `effect_valid`. -/
def effectValid (effect : ItemEffect) : Bool :=
  match effect.kind with
  | .unsupported | .none | .fairy | .crown | .medal | .pearl | .rainbow | .junk => true
  | .flag => effect.arg1.toNat < itemFlagWords * 32
  | .kong => effect.arg0.toNat < 5
  | .key => effect.arg0.toNat < 8
  | .ability => effect.arg0 != 0 && effect.arg0 &&& 3 == 0
  | .special => effect.arg0 != 0 && effect.arg0 &&& ~~~ 7 == 0
  | .hint => effect.arg0.toNat < 5 && effect.arg1.toNat < 8
  | .blueprint => effect.arg0.toNat < 5
  | .trap => effect.arg0.toNat < trapTypeCount
  | .transfer =>
    effect.arg0 == 1 || effect.arg0 == 2 || (26 ≤ effect.arg0.toNat && effect.arg0.toNat ≤ 55)

/-! ## What the entry says -/

/-- The name under `"field"`. -/
inductive CountField where
  | kongBitfield | keyBitfield | flagMoves | specialItems | hintBitfield | bpCount
  | fairies | crowns | medals | pearls | rainbowCoins | junkItems | iceTraps
  | other
deriving DecidableEq

/-- The names under `"bit"`. -/
inductive BitName where
  | diving | oranges | barrels | vines | camera | shockwave
  | nintendoCoin | rarewareCoin | bean
  | other
deriving DecidableEq

/-- What stands under `"bit"`. -/
inductive Bit where
  | number (value : Int)
  | name (name : BitName)
deriving DecidableEq

/-- One entry of `"count_id"`; an absent key is `none`. -/
structure CountEffect where
  field : Option CountField := none
  bit : Option Bit := none
  kong : Option Int := none
  level : Option Int := none
  item : Option Int := none
  iceTrapType : Option String := none
deriving DecidableEq

/-- `"count_id"` holds one effect or a list of them. -/
inductive CountId where
  | one (effect : CountEffect)
  | list (effects : List CountEffect)
deriving DecidableEq

/-- An entry of `"items"`; `null` is `none`. -/
structure CatalogItem where
  id : Word
  flagId : Option Int := none
  countId : Option CountId := none
deriving DecidableEq

/-! ## The compilation -/

/-- `ABILITY_BITS`. -/
def abilityBits : BitName → Option Int
  | .diving => some 128
  | .oranges => some 64
  | .barrels => some 32
  | .vines => some 16
  | .camera => some 8
  | .shockwave => some 4
  | _ => none

/-- `SPECIAL_BITS`. -/
def specialBits : BitName → Option Int
  | .nintendoCoin => some 1
  | .rarewareCoin => some 2
  | .bean => some 4
  | _ => none

/-- `op`: a kind and two numbers. -/
structure EffectOp where
  kind : EffectKind
  arg0 : Int := 0
  arg1 : Int := 0
deriving DecidableEq

def Bit.number? : Bit → Option Int
  | .number n => some n
  | .name _ => none

def Bit.name? : Bit → Option BitName
  | .number _ => none
  | .name s => some s

/-- The chain over `field`, before the range check. -/
def fieldOp (trapTypes : List String) (effect : CountEffect) : Option EffectOp :=
  match effect.field with
  | some .kongBitfield => (effect.bit.bind Bit.number?).map fun n => ⟨.kong, n, 0⟩
  | some .keyBitfield => (effect.bit.bind Bit.number?).map fun n => ⟨.key, n, 0⟩
  | some .flagMoves =>
    ((effect.bit.bind Bit.name?).bind abilityBits).map fun n => ⟨.ability, n, 0⟩
  | some .specialItems =>
    ((effect.bit.bind Bit.name?).bind specialBits).map fun n => ⟨.special, n, 0⟩
  | some .hintBitfield =>
    effect.kong.bind fun kong => effect.level.map fun level => ⟨.hint, kong, level⟩
  | some .bpCount => effect.kong.map fun kong => ⟨.blueprint, kong, 0⟩
  -- `SCALAR_EFFECTS`
  | some .fairies => some ⟨.fairy, 0, 0⟩
  | some .crowns => some ⟨.crown, 0, 0⟩
  | some .medals => some ⟨.medal, 0, 0⟩
  | some .pearls => some ⟨.pearl, 0, 0⟩
  | some .rainbowCoins => some ⟨.rainbow, 0, 0⟩
  | some .junkItems => some ⟨.junk, 0, 0⟩
  | some .iceTraps =>
    (effect.iceTrapType.bind trapTypes.idxOf?).map fun index : Nat =>
      ⟨.trap, (index : Int), 0⟩
  | some .other | none => effect.item.map fun item => ⟨.transfer, item, 0⟩

/-- One turn of the loop over `entries`. -/
def countOp (trapTypes : List String) (effect : CountEffect) : Option EffectOp :=
  (fieldOp trapTypes effect).filter fun op =>
    0 ≤ op.arg0 && op.arg0 ≤ 255 && 0 ≤ op.arg1 && op.arg1 ≤ 65535

def CountId.entries : CountId → List CountEffect
  | .one effect => [effect]
  | .list effects => effects

/-- `item_effects`. -/
def itemEffects (trapTypes : List String) (item : CatalogItem) : Option (List EffectOp) :=
  if item.id = 14041089 then some [⟨.none, 0, 0⟩]
  else match item.flagId with
    | some flag => some [⟨.flag, 0, flag⟩]
    | none =>
      match item.countId with
      | none => some [⟨.unsupported, 0, 0⟩]
      | some source =>
        if 1 ≤ source.entries.length && source.entries.length ≤ 2 then
          source.entries.mapM (countOp trapTypes)
        else none

/-- The initialiser of an `ap_item_effect`. -/
def EffectOp.effect (op : EffectOp) : ItemEffect :=
  ⟨op.kind, BitVec.ofInt 8 op.arg0, BitVec.ofInt 16 op.arg1⟩

/-- `effects += [("NONE", 0, 0)] * (2 - len(effects))`, then the first two. -/
def paddedEffects : List EffectOp → ItemEffect × ItemEffect
  | [] => (⟨.none, 0, 0⟩, ⟨.none, 0, 0⟩)
  | [op] => (op.effect, ⟨.none, 0, 0⟩)
  | op :: op' :: _ => (op.effect, op'.effect)

/-- The row of `ap_item_effects` for an entry. -/
def itemEffectDef (trapTypes : List String) (item : CatalogItem) : Option ItemEffectDef :=
  (itemEffects trapTypes item).map fun ops =>
    ⟨item.id, (paddedEffects ops).1, (paddedEffects ops).2⟩

/-! ## The catalogue -/

/-- The two generated files. -/
structure Catalog where
  /-- `trap_types`, the index of a name is its trap type. -/
  trapTypes : List String
  /-- `"items"` of `catalog.json`. -/
  items : List CatalogItem
  /-- `ap_item_effects`. -/
  table : List ItemEffectDef
  /-- `sorted({…})`. -/
  trapTypes_nodup : trapTypes.Nodup
  /-- `sorted(items.items())`, over the keys of a dictionary. -/
  sorted : BinarySearch.Sorted (·.id.toNat) items
  /-- Each row is compiled from the entry at its place. -/
  compiled : List.Forall₂ (fun item row => itemEffectDef trapTypes item = some row) items table
  valid : ∀ row ∈ table, ∀ effect ∈ row.effects, effectValid effect

namespace Catalog

variable {cat : Catalog} {id : Word}

/-- `find_item`. -/
def findItem (cat : Catalog) (id : Word) : Option ItemEffectDef :=
  (BinarySearch.find (·.id.toNat) cat.table id.toNat).bind (cat.table[·]?)

/-- `CampaignCatalog::items_`, filled in the order of the file. -/
def entry (cat : Catalog) (id : Int) : Option CatalogItem :=
  cat.items.find? fun item => (item.id.toNat : Int) = id

theorem itemEffectDef_id {trapTypes : List String} {item : CatalogItem} {row : ItemEffectDef}
    (h : itemEffectDef trapTypes item = some row) : row.id = item.id := by
  obtain ⟨ops, -, rfl⟩ := Option.map_eq_some_iff.mp h
  rfl

/-- The rows carry the ids of the entries. -/
theorem table_ids (cat : Catalog) : cat.table.map (·.id) = cat.items.map (·.id) := by
  have h := cat.compiled
  generalize cat.items = items, cat.table = table at h
  induction h with
  | nil => rfl
  | cons h _ ih => rw [List.map_cons, List.map_cons, itemEffectDef_id h, ih]

theorem table_sorted (cat : Catalog) : BinarySearch.Sorted (·.id.toNat) cat.table := by
  have hids : cat.table.map (·.id.toNat) = cat.items.map (·.id.toNat) := by
    have := congrArg (List.map BitVec.toNat) cat.table_ids
    rwa [List.map_map, List.map_map] at this
  have h : (cat.items.map (·.id.toNat)).Pairwise (· < ·) :=
    (List.pairwise_map).mpr cat.sorted
  rw [← hids] at h
  exact (List.pairwise_map).mp h

/-- An entry and the row compiled from it stand at one place. -/
theorem row_of_item {item : CatalogItem} (h : item ∈ cat.items) :
    ∃ row ∈ cat.table, itemEffectDef cat.trapTypes item = some row := by
  obtain ⟨i, hi⟩ := List.getElem?_of_mem h
  obtain ⟨hlen, rfl⟩ := List.getElem?_eq_some_iff.mp hi
  have hlen' : i < cat.table.length := cat.compiled.length_eq ▸ hlen
  exact ⟨cat.table[i], List.getElem_mem hlen', cat.compiled.get hlen hlen'⟩

/-- **The search of the game finds a row exactly by its id.** -/
theorem findItem_eq_some_iff {row : ItemEffectDef} :
    cat.findItem id = some row ↔ row ∈ cat.table ∧ row.id = id := by
  unfold findItem
  rw [Option.bind_eq_some_iff]
  constructor
  · rintro ⟨i, hi, hrow⟩
    obtain ⟨a, ha, hk⟩ := (BinarySearch.find_eq_some_iff cat.table_sorted).mp hi
    rw [hrow, Option.some.injEq] at ha
    subst ha
    exact ⟨List.mem_of_getElem? hrow, BitVec.eq_of_toNat_eq hk⟩
  · rintro ⟨hmem, rfl⟩
    obtain ⟨i, hi⟩ := List.getElem?_of_mem hmem
    exact ⟨i, (BinarySearch.find_eq_some_iff cat.table_sorted).mpr ⟨row, hi, rfl⟩, hi⟩

theorem findItem_valid {row : ItemEffectDef} (h : cat.findItem id = some row) :
    ∀ effect ∈ row.effects, effectValid effect :=
  cat.valid row (findItem_eq_some_iff.mp h).1

/-- An entry has the id; the seed and the journal write ids as numbers. -/
def catalogued (cat : Catalog) (id : Int) : Prop :=
  ∃ item ∈ cat.items, (item.id.toNat : Int) = id

instance (cat : Catalog) (id : Int) : Decidable (cat.catalogued id) :=
  inferInstanceAs (Decidable (∃ item ∈ cat.items, _))

theorem entry_isSome_iff {id : Int} : (cat.entry id).isSome ↔ cat.catalogued id := by
  simp [entry, catalogued]

/-- **Both sides look up the same entry**: the native side the entry, the game its row. -/
theorem lookup_of_catalogued {id : Int} (h : cat.catalogued id) :
    ∃ item row, (item.id.toNat : Int) = id ∧ cat.entry id = some item ∧
      itemEffectDef cat.trapTypes item = some row ∧
      cat.findItem (BitVec.ofInt 32 id) = some row := by
  obtain ⟨item, hitem⟩ := Option.isSome_iff_exists.mp (entry_isSome_iff.mpr h)
  have hmem : item ∈ cat.items := List.mem_of_find?_eq_some hitem
  have hid : (item.id.toNat : Int) = id := by simpa using List.find?_some hitem
  obtain ⟨row, hrow, hcompiled⟩ := row_of_item hmem
  have hword : BitVec.ofInt 32 id = item.id := by
    rw [← hid]
    simp
  exact ⟨item, row, hid, hitem, hcompiled,
    findItem_eq_some_iff.mpr ⟨hrow, by rw [itemEffectDef_id hcompiled, hword]⟩⟩

end Catalog

/-! ## A catalogue of seven entries -/

/-- `ap_trap_type_names`. -/
def trapTypeNames : List String :=
  ["animal", "bubble", "disable_a", "disable_b", "disable_c_up", "disable_z", "disabletag", "dry",
    "flip", "get_out", "icefloor", "paper", "reverse", "rockfall", "slip", "slow"]

/-- Victory, No Item, Climbing, Slam, Camera and Shockwave, Golden Banana, Disable A Trap. -/
def pocketCatalog : Catalog where
  trapTypes := trapTypeNames
  items :=
    [{ id := 14041088 },
      { id := 14041089, flagId := some 0 },
      { id := 14041100, flagId := some 671 },
      { id := 14041101, countId := some (.one { item := some 2, level := some 3 }) },
      { id := 14041142
        countId := some (.list
          [{ field := some .flagMoves, bit := some (.name .camera) },
            { field := some .flagMoves, bit := some (.name .shockwave) }]) },
      { id := 14041270, countId := some (.one { item := some 1, level := some 1 }) },
      { id := 14041274
        countId := some (.one { field := some .iceTraps, iceTrapType := some "disable_a" }) }]
  table :=
    [⟨14041088, ⟨.unsupported, 0, 0⟩, ⟨.none, 0, 0⟩⟩,
      ⟨14041089, ⟨.none, 0, 0⟩, ⟨.none, 0, 0⟩⟩,
      ⟨14041100, ⟨.flag, 0, 671⟩, ⟨.none, 0, 0⟩⟩,
      ⟨14041101, ⟨.transfer, 2, 0⟩, ⟨.none, 0, 0⟩⟩,
      ⟨14041142, ⟨.ability, 8, 0⟩, ⟨.ability, 4, 0⟩⟩,
      ⟨14041270, ⟨.transfer, 1, 0⟩, ⟨.none, 0, 0⟩⟩,
      ⟨14041274, ⟨.trap, 2, 0⟩, ⟨.none, 0, 0⟩⟩]
  trapTypes_nodup := by decide
  sorted := by decide
  compiled := .cons rfl (.cons rfl (.cons rfl (.cons rfl (.cons rfl (.cons rfl (.cons rfl .nil))))))
  valid := by decide

end Dk64Port.Archipelago
