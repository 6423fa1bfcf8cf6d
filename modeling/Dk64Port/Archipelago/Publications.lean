import Dk64Port.Archipelago.CampaignSave
import Dk64Port.Archipelago.Checks
import Dk64Port.Archipelago.Inventory

/-!
# What the game publishes (`mod/campaign_checks.c`, `campaign_inventory_stage.c`, `campaign_items.c`,
`campaign_transaction.c`)

Four modules of the game keep a copy of a native snapshot: the check ledger, the inventory, the item
queries and the pending transaction. Each remembers the identity it was staged for and refuses one
that is not the trailer of the current file.

* `Scene`: what the modules read, `Publications`: what they keep.
* `checksPrepare`, `inventoryStage`, `itemsStage`, `transactionStage`: the four steps of a staging.
* `buildTransaction_isSome_iff`, `buildTransaction_plans`: when there is a plan for the next receipt,
  and what it says.
-/

namespace Dk64Port.Archipelago

open ByteLayout (Byte)

/-- What staging reads of the game. -/
structure Scene where
  currentFile : Byte
  gameplayMode : Word
  trailer : CampaignSave

/-- `ap_campaign_transaction`. -/
structure Transaction where
  magic : Word := 0
  format : Half := 0
  classes : Half := 0
  itemId : Word := 0
  reserved : Word := 0
  current : CampaignSave := {}
  next : CampaignSave := {}
  before : CampaignInventory := {}
  after : CampaignInventory := {}

/-- The statics of `campaign_checks.c`. -/
structure ChecksPublication where
  selected : CheckSet := 0
  observed : CheckSet := 0
  identity : CampaignSave := {}
  ready : Bool := false

/-- The statics of `campaign_inventory_stage.c`, and those of `campaign_items.c`. -/
structure InventoryPublication where
  inventory : CampaignInventory := {}
  identity : CampaignSave := {}
  ready : Bool := false

/-- The statics of `campaign_transaction.c`. -/
structure TransactionPublication where
  published : Transaction := {}
  identity : CampaignSave := {}
  ready : Bool := false
  hasItem : Bool := false

/-- The four publications. -/
structure Publications where
  checks : ChecksPublication := {}
  inventory : InventoryPublication := {}
  items : InventoryPublication := {}
  transaction : TransactionPublication := {}

/-- `!((unsigned int)pointer & 3u)`. -/
def aligned (pointer : Word) : Bool := pointer &&& 3 == 0

namespace Scene

/-- `current_identity`: the identity is supported and is the trailer of the file. -/
def currentIdentity (s : Scene) (identity : CampaignSave) : Bool :=
  identity.supported && trailerRead s.currentFile s.trailer == .bound &&
    identity.sameIdentity s.trailer

/-- File 0, and every gameplay capability off. -/
def quiet (s : Scene) : Bool := s.currentFile == 0 && s.gameplayMode == 0

variable {s : Scene} {identity : CampaignSave}

theorem currentIdentity_iff :
    s.currentIdentity identity ↔ s.currentFile = 0 ∧ identity.supported ∧ identity = s.trailer := by
  simp only [currentIdentity, Bool.and_eq_true, beq_iff_eq, trailerRead_bound_iff,
    CampaignSave.sameIdentity_iff]
  constructor
  · rintro ⟨⟨hsup, hfile, -⟩, rfl⟩
    exact ⟨hfile, hsup, rfl⟩
  · rintro ⟨hfile, hsup, rfl⟩
    exact ⟨⟨hsup, hfile, hsup⟩, rfl⟩

theorem quiet_iff : s.quiet ↔ s.currentFile = 0 ∧ s.gameplayMode = 0 := by
  simp [quiet]

end Scene

/-! ## The check ledger -/

/-- `validate`, at the addresses of its three arguments. -/
def checksValidate (t : LocationTable) (s : Scene) (identityAt selectedAt restoredAt : Word)
    (identity : CampaignSave) (selected restored : CheckSet) : Bool :=
  aligned identityAt && aligned selectedAt && aligned restoredAt && s.quiet &&
    s.currentIdentity identity && t.valid selected && t.distinctFlags selected &&
    t.subset restored selected

/-- `ap_campaign_checks_prepare`. -/
def checksPrepare (t : LocationTable) (s : Scene) (p : Publications)
    (identityAt selectedAt restoredAt : Word) (identity : CampaignSave)
    (selected restored : CheckSet) : Bool × Publications :=
  if checksValidate t s identityAt selectedAt restoredAt identity selected restored then
    (true, { p with checks := ⟨selected, restored, identity, true⟩ })
  else (false, p)

/-! ## The inventory and the item queries -/

/-- `ap_campaign_inventory_stage`. -/
def inventoryStage (cat : Catalog) (s : Scene) (p : Publications) (identity : CampaignSave)
    (itemIdsAt : Word) (itemIds : List Word) : Bool × Publications :=
  if !s.quiet || itemIds.length > 65535 || (!itemIds.isEmpty && !aligned itemIdsAt) then (false, p)
  else if identity.counter.toNat != itemIds.length || !s.currentIdentity identity then (false, p)
  else
    let r := CampaignInventory.rebuild cat {} itemIds
    if r.1 = 1 then (true, { p with inventory := ⟨r.2, identity, true⟩ }) else (false, p)

/-- `ap_campaign_inventory_snapshot`. -/
def inventorySnapshot (s : Scene) (p : Publications) (identity : CampaignSave) :
    Option CampaignInventory :=
  if s.currentFile != 0 || !p.inventory.ready then none
  else if !identity.supported || !identity.sameIdentity p.inventory.identity ||
      !s.currentIdentity identity then none
  else some p.inventory.inventory

/-- `ap_campaign_items_stage`. -/
def itemsStage (s : Scene) (p : Publications) (identity : CampaignSave) : Bool × Publications :=
  if !s.quiet then (false, p)
  else match inventorySnapshot s p identity with
    | none => (false, p)
    | some inventory => (true, { p with items := ⟨inventory, identity, true⟩ })

/-! ## The pending transaction -/

/-- `AP_CAMPAIGN_TRANSACTION_MAGIC`, "APT1". -/
def campaignTransactionMagic : Word := 0x41505431
/-- `AP_CAMPAIGN_TRANSACTION_FORMAT`. -/
def campaignTransactionFormat : Half := 1

/-- `AP_TRANSACTION_*`. -/
def transactionNoop : Half := 1
def transactionOwnership : Half := 2
def transactionCounted : Half := 4
def transactionTrap : Half := 8

/-- `effect_class`; `none` is the mark `0x100`. -/
def effectClass (effect : ItemEffect) : Option Half :=
  match effect.kind with
  | .none => some 0
  | .flag | .kong | .key | .ability | .special | .hint => some transactionOwnership
  | .blueprint | .fairy | .crown | .medal | .pearl | .rainbow | .junk => some transactionCounted
  | .trap => some transactionTrap
  | .transfer => some (if effect.arg0 = 1 then transactionCounted else transactionOwnership)
  | .unsupported => none

/-- The loop over the two effects. -/
def itemClasses (item : ItemEffectDef) : Option Half :=
  (effectClass item.first).bind fun first =>
    (effectClass item.second).map fun second =>
      if first ||| second = 0 then transactionNoop else first ||| second

/-- `ap_campaign_transaction_build`; of its three pointers only `identity` is not a local of the
caller. -/
def buildTransaction (cat : Catalog) (identityAt : Word) (identity : CampaignSave)
    (before : CampaignInventory) (itemId : Word) : Option Transaction :=
  if !aligned identityAt || !identity.supported || identity.counter == 0xFFFF then none
  else match cat.findItem itemId with
    | none => none
    | some item =>
      match itemClasses item with
      | none => none
      | some classes =>
        let r := before.add cat itemId
        if r.1 = 1 then
          some
            { magic := campaignTransactionMagic
              format := campaignTransactionFormat
              classes := classes
              itemId := itemId
              reserved := 0
              current := identity
              next := { identity with counter := identity.counter + 1 }.sealSave
              before := before
              after := r.2 }
        else none

/-- `ap_campaign_transaction_stage`. -/
def transactionStage (cat : Catalog) (s : Scene) (p : Publications) (identityAt : Word)
    (identity : CampaignSave) (before : CampaignInventory) (itemId : Word) (hasItem : Half) :
    Bool × Publications :=
  if !aligned identityAt || 1 < hasItem || !s.quiet || !s.currentIdentity identity then (false, p)
  else if hasItem != 0 then
    match buildTransaction cat identityAt identity before itemId with
    | none => (false, p)
    | some candidate => (true, { p with transaction := ⟨candidate, identity, true, true⟩ })
  else
    (true, { p with transaction := ⟨p.transaction.published, identity, true, false⟩ })

/-- What `ap_campaign_transaction_snapshot` returns. -/
inductive Snapshot where
  /-- 0. -/
  | unavailable
  /-- 2. -/
  | complete
  /-- 1. -/
  | pending (transaction : Transaction)

/-- `ap_campaign_transaction_snapshot`. -/
def transactionSnapshot (s : Scene) (p : TransactionPublication) (identity : CampaignSave) :
    Snapshot :=
  if !identity.supported || s.currentFile != 0 || !p.ready || !identity.sameIdentity p.identity ||
      trailerRead s.currentFile s.trailer != .bound || !identity.sameIdentity s.trailer then
    .unavailable
  else if p.hasItem then .pending p.published else .complete

/-! ## When a step is taken -/

variable {cat : Catalog} {t : LocationTable} {s : Scene} {p : Publications}
  {identity : CampaignSave} {before : CampaignInventory} {identityAt itemId : Word}
  {tr : Transaction}

theorem effectClass_isSome {effect : ItemEffect} :
    (effectClass effect).isSome ↔ effect.kind ≠ .unsupported := by
  unfold effectClass
  cases effect.kind <;> simp

theorem itemClasses_isSome {item : ItemEffectDef} : (itemClasses item).isSome ↔ item.supported := by
  have hfirst : (effectClass item.first).isSome ↔ item.first.kind ≠ .unsupported :=
    effectClass_isSome
  have hsecond : (effectClass item.second).isSome ↔ item.second.kind ≠ .unsupported :=
    effectClass_isSome
  have hsup : item.supported ↔
      item.first.kind ≠ .unsupported ∧ item.second.kind ≠ .unsupported := by
    simp [ItemEffectDef.supported, ItemEffectDef.effects]
  rw [hsup, ← hfirst, ← hsecond, itemClasses]
  cases effectClass item.first <;> cases effectClass item.second <;> simp

/-- **The plan of the next receipt** exists for the supported items of a header that can advance. -/
theorem buildTransaction_isSome_iff :
    (buildTransaction cat identityAt identity before itemId).isSome ↔
      aligned identityAt ∧ identity.supported ∧ identity.counter ≠ 0xFFFF ∧
        cat.supports itemId := by
  obtain ⟨-, hone⟩ := CampaignInventory.add_eq cat before itemId
  unfold buildTransaction
  cases haligned : aligned identityAt with
  | false => simp
  | true =>
  cases hid : identity.supported with
  | false => simp
  | true =>
  by_cases hlast : identity.counter = 0xFFFF
  · simp [hlast]
  have hguard : (!true || !true || identity.counter == 0xFFFF) = false :=
    beq_false_of_ne hlast
  simp only [hguard, Bool.false_eq_true, if_false, true_and, ne_eq, hlast, not_false_eq_true]
  cases hfind : cat.findItem itemId with
  | none => simp [Catalog.supports, hfind]
  | some item =>
    have hsup : cat.supports itemId = item.supported := by simp [Catalog.supports, hfind]
    have hclasses : (itemClasses item).isSome ↔ cat.supports itemId := by
      rw [hsup, itemClasses_isSome]
    cases hc : itemClasses item with
    | none =>
      rw [hc] at hclasses
      simpa [hc] using hclasses
    | some classes =>
      rw [hc] at hclasses
      have hyes : cat.supports itemId := hclasses.mp rfl
      simp [hc, hone.mpr hyes, hyes]

/-- What a plan says. -/
structure Plans (cat : Catalog) (identity : CampaignSave) (before : CampaignInventory)
    (itemId : Word) (tr : Transaction) : Prop where
  itemId_eq : tr.itemId = itemId
  current_eq : tr.current = identity
  next_eq : tr.next = { identity with counter := identity.counter + 1 }.sealSave
  before_eq : tr.before = before
  after_eq : tr.after = before.addId cat itemId
  supports : cat.supports itemId
  last : identity.counter ≠ 0xFFFF

theorem buildTransaction_plans
    (h : buildTransaction cat identityAt identity before itemId = some tr) :
    Plans cat identity before itemId tr := by
  obtain ⟨-, -, hlast, hsup⟩ := buildTransaction_isSome_iff.mp (Option.isSome_iff_exists.mpr ⟨tr, h⟩)
  obtain ⟨hadd, -⟩ := CampaignInventory.add_eq cat before itemId
  rw [if_pos hsup] at hadd
  unfold buildTransaction at h
  split at h
  · cases h
  split at h
  · cases h
  split at h
  · cases h
  simp only [Option.ite_none_right_eq_some, Option.some.injEq] at h
  obtain ⟨-, rfl⟩ := h
  exact ⟨rfl, rfl, rfl, rfl, hadd, hsup, hlast⟩

end Dk64Port.Archipelago
