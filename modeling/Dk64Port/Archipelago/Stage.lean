import Dk64Port.Archipelago.Publications

/-!
# Staging a native snapshot (`mod/campaign_stage.c`)

The native side hands the game a block of memory: the identity of the save, the check sets, the
received ids up to the counter and the next one. The game checks the whole block before it updates
its four publications one after the other, each of which checks again.

* `Stageable`: what the preflight accepts; `stageApply_iff`.
* `stageApply_of_stageable`: behind the preflight no update refuses, one lemma for each of them.
* `stageApply_all_or_nothing`: all four publications are bound to the block, or none is touched.
-/

namespace Dk64Port.Archipelago

open ByteLayout (Byte)

/-- `ap_campaign_stage_wire`; the array is what follows the header in memory. -/
structure CampaignStageWire where
  magic : Word
  format : Half
  reserved : Half
  identity : CampaignSave
  selected : CheckSet
  observed : CheckSet
  itemCount : Word
  nextItemId : Word
  nextItemValid : Half
  transactionReserved : Half
  itemIds : Nat → Word

/-- `AP_CAMPAIGN_STAGE_MAGIC`, "APS1". -/
def campaignStageMagic : Word := 0x41505331
/-- `AP_CAMPAIGN_STAGE_FORMAT`. -/
def campaignStageFormat : Half := 2
/-- `AP_CAMPAIGN_RECEIPT_LIMIT`. -/
def campaignReceiptLimit : Nat := 4096

/-- `item_ids[0 .. item_count)`. -/
def CampaignStageWire.receipts (wire : CampaignStageWire) : List Word :=
  (List.range wire.itemCount.toNat).map wire.itemIds

/-- The offsets of the fields that are passed by address. -/
def identityOffset : Word := 8
def selectedOffset : Word := 40
def observedOffset : Word := 152
def itemIdsOffset : Word := 276

/-- The first test of `ap_campaign_stage_apply`. -/
def headerAccepted (s : Scene) (address : Word) (wire : CampaignStageWire) : Bool :=
  address != 0 && aligned address && s.currentFile == 0 && s.gameplayMode == 0 &&
    wire.magic == campaignStageMagic && wire.format == campaignStageFormat &&
    wire.reserved == 0 && wire.transactionReserved == 0 && wire.nextItemValid ≤ 1 &&
    wire.itemCount.toNat ≤ campaignReceiptLimit &&
    wire.identity.counter.toNat == wire.itemCount.toNat

/-- `ap_campaign_stage_apply`. -/
def stageApply (cat : Catalog) (t : LocationTable) (s : Scene) (p : Publications) (address : Word)
    (wire : CampaignStageWire) : Bool × Publications :=
  if !headerAccepted s address wire then (false, p)
  else if !checksValidate t s (address + identityOffset) (address + selectedOffset)
      (address + observedOffset) wire.identity wire.selected wire.observed then (false, p)
  else
    let rebuilt := CampaignInventory.rebuild cat {} wire.receipts
    if rebuilt.1 ≠ 1 then (false, p)
    else if wire.nextItemValid != 0 &&
        (buildTransaction cat (address + identityOffset) wire.identity rebuilt.2
          wire.nextItemId).isNone then (false, p)
    else
      -- from here on a refusal would leave what the steps before it wrote
      let prepared := checksPrepare t s p (address + identityOffset) (address + selectedOffset)
        (address + observedOffset) wire.identity wire.selected wire.observed
      if !prepared.1 then prepared
      else
        let inventory := inventoryStage cat s prepared.2 wire.identity (address + itemIdsOffset)
          wire.receipts
        if !inventory.1 then inventory
        else
          let items := itemsStage s inventory.2 wire.identity
          if !items.1 then items
          else
            transactionStage cat s items.2 (address + identityOffset) wire.identity rebuilt.2
              wire.nextItemId wire.nextItemValid

variable {cat : Catalog} {t : LocationTable} {s : Scene} {p : Publications} {address : Word}
  {wire : CampaignStageWire}

/-! ## The preflight -/

/-- What the checks before the first write amount to. -/
structure Stageable (cat : Catalog) (t : LocationTable) (s : Scene) (address : Word)
    (wire : CampaignStageWire) : Prop where
  address_ne : address ≠ 0
  aligned : aligned address
  file : s.currentFile = 0
  mode : s.gameplayMode = 0
  magic : wire.magic = campaignStageMagic
  format : wire.format = campaignStageFormat
  reserved : wire.reserved = 0
  transactionReserved : wire.transactionReserved = 0
  flag : wire.nextItemValid ≤ 1
  few : wire.itemCount.toNat ≤ campaignReceiptLimit
  counter : wire.identity.counter.toNat = wire.itemCount.toNat
  identity : wire.identity.supported
  trailer : wire.identity = s.trailer
  selected : t.valid wire.selected
  distinct : t.distinctFlags wire.selected
  observed : t.subset wire.observed wire.selected
  supported : ∀ id ∈ wire.receipts, cat.supports id
  next : wire.nextItemValid ≠ 0 → cat.supports wire.nextItemId

theorem aligned_iff {pointer : Word} : aligned pointer ↔ pointer.toNat % 4 = 0 := by
  have hmask : (pointer &&& 3#32).toNat = pointer.toNat % 4 := by
    rw [BitVec.toNat_and]
    exact Nat.and_two_pow_sub_one_eq_mod pointer.toNat 2
  rw [aligned, beq_iff_eq, ← BitVec.toNat_inj]
  exact ⟨fun h => hmask.symm.trans h, fun h => hmask.trans h⟩

/-- Fields at offsets divisible by four are aligned with the block. -/
theorem aligned_add {offset : Word} (h : aligned address) (ho : aligned offset) :
    aligned (address + offset) := by
  rw [aligned_iff] at h ho ⊢
  rw [BitVec.toNat_add]
  omega

theorem quiet_of_stageable (h : Stageable cat t s address wire) : s.quiet :=
  Scene.quiet_iff.mpr ⟨h.file, h.mode⟩

theorem currentIdentity_of_stageable (h : Stageable cat t s address wire) :
    s.currentIdentity wire.identity :=
  Scene.currentIdentity_iff.mpr ⟨h.file, h.identity, h.trailer⟩

theorem headerAccepted_iff :
    headerAccepted s address wire ↔
      address ≠ 0 ∧ aligned address ∧ s.currentFile = 0 ∧ s.gameplayMode = 0 ∧
        wire.magic = campaignStageMagic ∧ wire.format = campaignStageFormat ∧
        wire.reserved = 0 ∧ wire.transactionReserved = 0 ∧ wire.nextItemValid ≤ 1 ∧
        wire.itemCount.toNat ≤ campaignReceiptLimit ∧
        wire.identity.counter.toNat = wire.itemCount.toNat := by
  simp only [headerAccepted, Bool.and_eq_true, bne_iff_ne, beq_iff_eq, decide_eq_true_eq,
    and_assoc]

theorem checksValidate_iff (haligned : aligned address) {identity : CampaignSave}
    {selected restored : CheckSet} :
    checksValidate t s (address + identityOffset) (address + selectedOffset)
        (address + observedOffset) identity selected restored ↔
      s.currentFile = 0 ∧ s.gameplayMode = 0 ∧ identity.supported ∧ identity = s.trailer ∧
        t.valid selected ∧ t.distinctFlags selected ∧ t.subset restored selected := by
  have h1 : aligned (address + identityOffset) := aligned_add haligned rfl
  have h2 : aligned (address + selectedOffset) := aligned_add haligned rfl
  have h3 : aligned (address + observedOffset) := aligned_add haligned rfl
  simp only [checksValidate, h1, h2, h3, Bool.and_eq_true, Scene.quiet_iff,
    Scene.currentIdentity_iff, true_and]
  constructor
  · rintro ⟨⟨⟨⟨⟨hfile, hmode⟩, -, hsup, htrailer⟩, hvalid⟩, hdistinct⟩, hsubset⟩
    exact ⟨hfile, hmode, hsup, htrailer, hvalid, hdistinct, hsubset⟩
  · rintro ⟨hfile, hmode, hsup, htrailer, hvalid, hdistinct, hsubset⟩
    exact ⟨⟨⟨⟨⟨hfile, hmode⟩, hfile, hsup, htrailer⟩, hvalid⟩, hdistinct⟩, hsubset⟩

theorem receipts_length : wire.receipts.length = wire.itemCount.toNat := by
  rw [CampaignStageWire.receipts, List.length_map, List.length_range]

/-- A block that is not stageable is refused by one of the checks before the first write. -/
theorem stageApply_of_not_stageable (h : ¬ Stageable cat t s address wire) :
    stageApply cat t s p address wire = (false, p) := by
  unfold stageApply
  by_cases hheader : headerAccepted s address wire
  · obtain ⟨hne, haligned, hfile, hmode, hmagic, hformat, hreserved, htreserved, hflag, hfew,
      hcounter⟩ := headerAccepted_iff.mp hheader
    rw [hheader, Bool.not_true, if_neg Bool.false_ne_true]
    by_cases hchecks : checksValidate t s (address + identityOffset) (address + selectedOffset)
        (address + observedOffset) wire.identity wire.selected wire.observed
    · obtain ⟨-, -, hsup, htrailer, hvalid, hdistinct, hsubset⟩ :=
        (checksValidate_iff haligned).mp hchecks
      rw [hchecks, Bool.not_true, if_neg Bool.false_ne_true]
      by_cases hrebuilt : (CampaignInventory.rebuild cat {} wire.receipts).1 = 1
      · obtain ⟨-, hall⟩ := CampaignInventory.rebuild_eq_one_iff.mp hrebuilt
        have hnext : wire.nextItemValid ≠ 0 ∧ ¬ cat.supports wire.nextItemId := by
          by_contra hcontra
          refine h ⟨hne, haligned, hfile, hmode, hmagic, hformat, hreserved, htreserved, hflag,
            hfew, hcounter, hsup, htrailer, hvalid, hdistinct, hsubset, hall, ?_⟩
          exact fun hn => by_contra fun e => hcontra ⟨hn, e⟩
        have hbuild : (buildTransaction cat (address + identityOffset) wire.identity
            (CampaignInventory.rebuild cat {} wire.receipts).2 wire.nextItemId).isNone := by
          rw [Option.isNone_iff_eq_none, ← Option.not_isSome_iff_eq_none,
            buildTransaction_isSome_iff]
          exact fun e => hnext.2 e.2.2.2
        simp only [hrebuilt, ne_eq, not_true, if_false, bne_iff_ne.mpr hnext.1, hbuild,
          Bool.and_true, if_true]
      · simp only [ne_eq, hrebuilt, not_false_eq_true, if_true]
    · simp only [hchecks, Bool.not_false, if_true]
  · simp only [hheader, Bool.not_false, if_true]

/-! ## Behind the preflight -/

/-- The four publications are bound to the identity of the block and to its receipts. -/
structure StagedFor (cat : Catalog) (wire : CampaignStageWire) (p : Publications) : Prop where
  counter : wire.identity.counter.toNat = wire.receipts.length
  checks : p.checks = ⟨wire.selected, wire.observed, wire.identity, true⟩
  inventory : p.inventory = ⟨CampaignInventory.addAll cat wire.receipts, wire.identity, true⟩
  items : p.items = ⟨CampaignInventory.addAll cat wire.receipts, wire.identity, true⟩
  transaction_ready : p.transaction.ready
  transaction_identity : p.transaction.identity = wire.identity
  hasItem : p.transaction.hasItem ↔ wire.nextItemValid ≠ 0
  pending : p.transaction.hasItem →
    Plans cat wire.identity (CampaignInventory.addAll cat wire.receipts) wire.nextItemId
      p.transaction.published

theorem rebuild_of_stageable (h : Stageable cat t s address wire) :
    CampaignInventory.rebuild cat {} wire.receipts =
      (1, CampaignInventory.addAll cat wire.receipts) := by
  have hlimit : campaignReceiptLimit = 4096 := rfl
  have hfew := h.few
  have hone : (CampaignInventory.rebuild cat {} wire.receipts).1 = 1 :=
    CampaignInventory.rebuild_eq_one_iff.mpr ⟨by rw [receipts_length]; omega, h.supported⟩
  exact Prod.ext hone (CampaignInventory.rebuild_output hone)

theorem checksPrepare_of_stageable (h : Stageable cat t s address wire) :
    checksPrepare t s p (address + identityOffset) (address + selectedOffset)
        (address + observedOffset) wire.identity wire.selected wire.observed =
      (true, { p with checks := ⟨wire.selected, wire.observed, wire.identity, true⟩ }) := by
  rw [checksPrepare, if_pos]
  exact (checksValidate_iff h.aligned).mpr
    ⟨h.file, h.mode, h.identity, h.trailer, h.selected, h.distinct, h.observed⟩

theorem inventoryStage_of_stageable (h : Stageable cat t s address wire) :
    inventoryStage cat s p wire.identity (address + itemIdsOffset) wire.receipts =
      (true, { p with
        inventory := ⟨CampaignInventory.addAll cat wire.receipts, wire.identity, true⟩ }) := by
  have hlimit : campaignReceiptLimit = 4096 := rfl
  have hfew := h.few
  have hshort : ¬ wire.receipts.length > 65535 := by rw [receipts_length]; omega
  have hcounter : wire.identity.counter.toNat = wire.receipts.length := by
    rw [receipts_length, h.counter]
  have haligned : aligned (address + itemIdsOffset) := aligned_add h.aligned rfl
  unfold inventoryStage
  rw [rebuild_of_stageable h]
  simp [quiet_of_stageable h, currentIdentity_of_stageable h, hshort, hcounter, haligned]

theorem itemsStage_of_stageable {inventory : CampaignInventory}
    (h : Stageable cat t s address wire) (hp : p.inventory = ⟨inventory, wire.identity, true⟩) :
    itemsStage s p wire.identity =
      (true, { p with items := ⟨inventory, wire.identity, true⟩ }) := by
  have hsame : wire.identity.sameIdentity wire.identity := CampaignSave.sameIdentity_iff.mpr rfl
  have hsnap : inventorySnapshot s p wire.identity = some inventory := by
    unfold inventorySnapshot
    rw [hp]
    simp [h.file, h.identity, hsame, currentIdentity_of_stageable h]
  unfold itemsStage
  rw [hsnap, quiet_of_stageable h]
  rfl

/-- The last step builds the plan the preflight has built. -/
theorem transactionStage_of_stageable (h : Stageable cat t s address wire)
    (before : CampaignInventory) :
    ∃ transaction, transactionStage cat s p (address + identityOffset) wire.identity before
        wire.nextItemId wire.nextItemValid = (true, { p with transaction := transaction }) ∧
      transaction.ready ∧ transaction.identity = wire.identity ∧
      (transaction.hasItem ↔ wire.nextItemValid ≠ 0) ∧
      (transaction.hasItem →
        Plans cat wire.identity before wire.nextItemId transaction.published) := by
  have hlimit : campaignReceiptLimit = 4096 := rfl
  have haligned : aligned (address + identityOffset) := aligned_add h.aligned rfl
  have hflag : wire.nextItemValid ≤ 1#16 := h.flag
  unfold transactionStage
  rw [if_neg (by simp [haligned, hflag, quiet_of_stageable h, currentIdentity_of_stageable h])]
  by_cases hnext : wire.nextItemValid = 0
  · rw [if_neg (by simpa using hnext)]
    exact ⟨_, rfl, rfl, rfl, by simp [hnext], fun e => absurd e Bool.false_ne_true⟩
  · rw [if_pos (by simpa using hnext)]
    have hlast : wire.identity.counter ≠ 0xFFFF := by
      intro e
      have hcounter := h.counter
      have hfew := h.few
      have h65535 : (0xFFFF : Half).toNat = 65535 := rfl
      rw [e, h65535] at hcounter
      omega
    have hsome : (buildTransaction cat (address + identityOffset) wire.identity before
        wire.nextItemId).isSome :=
      buildTransaction_isSome_iff.mpr ⟨haligned, h.identity, hlast, h.next hnext⟩
    obtain ⟨tr, htr⟩ := Option.isSome_iff_exists.mp hsome
    rw [htr]
    exact ⟨_, rfl, rfl, rfl, ⟨fun _ => hnext, fun _ => rfl⟩, fun _ => buildTransaction_plans htr⟩

/-- **Behind the preflight nothing refuses**, and all four publications are bound. -/
theorem stageApply_of_stageable (h : Stageable cat t s address wire) :
    ∃ p', stageApply cat t s p address wire = (true, p') ∧ StagedFor cat wire p' := by
  have hheader : headerAccepted s address wire := headerAccepted_iff.mpr
    ⟨h.address_ne, h.aligned, h.file, h.mode, h.magic, h.format, h.reserved,
      h.transactionReserved, h.flag, h.few, h.counter⟩
  have hchecks : checksValidate t s (address + identityOffset) (address + selectedOffset)
      (address + observedOffset) wire.identity wire.selected wire.observed :=
    (checksValidate_iff h.aligned).mpr
      ⟨h.file, h.mode, h.identity, h.trailer, h.selected, h.distinct, h.observed⟩
  have hbuild : ¬ (wire.nextItemValid != 0 &&
      (buildTransaction cat (address + identityOffset) wire.identity
        (CampaignInventory.addAll cat wire.receipts) wire.nextItemId).isNone) := by
    rw [Bool.and_eq_true, bne_iff_ne]
    rintro ⟨hnext, hnone⟩
    obtain ⟨transaction, hstage, -, -, hitem, -⟩ := transactionStage_of_stageable (p := p) h
      (CampaignInventory.addAll cat wire.receipts)
    unfold transactionStage at hstage
    rw [Option.isNone_iff_eq_none.mp hnone, if_pos (bne_iff_ne.mpr hnext)] at hstage
    split at hstage <;> exact absurd (congrArg Prod.fst hstage) Bool.false_ne_true
  unfold stageApply
  rw [hheader, hchecks, rebuild_of_stageable h]
  simp only [Bool.not_true, Bool.false_eq_true, if_false, ne_eq, not_true]
  rw [if_neg hbuild, checksPrepare_of_stageable h]
  simp only [Bool.not_true, Bool.false_eq_true, if_false]
  rw [inventoryStage_of_stageable h]
  simp only [Bool.not_true, Bool.false_eq_true, if_false]
  rw [itemsStage_of_stageable h rfl]
  simp only [Bool.not_true, Bool.false_eq_true, if_false]
  obtain ⟨transaction, hstage, hready, hidentity, hitem, hplans⟩ :=
    transactionStage_of_stageable h (CampaignInventory.addAll cat wire.receipts)
  rw [hstage]
  exact ⟨_, rfl, ⟨by rw [receipts_length, h.counter], rfl, rfl, rfl, hready, hidentity, hitem, hplans⟩⟩

/-- **A block is staged exactly when it is stageable.** -/
theorem stageApply_iff :
    (stageApply cat t s p address wire).1 ↔ Stageable cat t s address wire := by
  constructor
  · intro haccepted
    by_contra h
    rw [stageApply_of_not_stageable h] at haccepted
    exact absurd haccepted Bool.false_ne_true
  · intro h
    obtain ⟨p', heq, -⟩ := stageApply_of_stageable (p := p) h
    rw [heq]

/-- **Staging is all or nothing**: the four publications are bound to the block, or none of them is
touched. -/
theorem stageApply_all_or_nothing (cat : Catalog) (t : LocationTable) (s : Scene)
    (p : Publications) (address : Word) (wire : CampaignStageWire) :
    ((stageApply cat t s p address wire).1 = true ∧
        StagedFor cat wire (stageApply cat t s p address wire).2) ∨
      ((stageApply cat t s p address wire).1 = false ∧
        (stageApply cat t s p address wire).2 = p) := by
  by_cases h : Stageable cat t s address wire
  · obtain ⟨p', heq, hstaged⟩ := stageApply_of_stageable (p := p) h
    rw [heq]
    exact .inl ⟨rfl, hstaged⟩
  · rw [stageApply_of_not_stageable h]
    exact .inr ⟨rfl, rfl⟩

end Dk64Port.Archipelago
