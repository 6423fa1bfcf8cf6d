import Dk64Port.Archipelago.CampaignJournal
import Dk64Port.Archipelago.Reducers
import Dk64Port.Archipelago.Stage
import Mathlib.Algebra.Group.Nat.Defs

/-!
# The native producer of the stage (`native/campaign_journal.cpp`, `native/rdram.cpp`)

For the header it reads from the save, the native side cuts the journal into the receipts that are
processed and the next one, and writes the block the game stages. It refuses processed receipts
without an effect, but not a next one.

* `CampaignJournalState.stage`, `writeCampaignStage`: the producer.
* `stage_spec`, `writeCampaignStage_eq_ok_iff`: what a block that is produced looks like.
* `staged_iff_next_supported`: the game stages such a block exactly when the next receipt, if there
  is one, has an effect.
* `victory_not_staged`: the victory item is one that has none.
-/

namespace Dk64Port.Archipelago

open ByteLayout (Byte)

/-- `CampaignStageSnapshot`. -/
structure CampaignStageSnapshot where
  identity : CampaignSave
  itemIds : List Word
  nextItem : Option Word
  selected : CheckSet
  observed : CheckSet

/-- `CampaignJournalState::stage`. -/
def CampaignJournalState.stage (cat : Catalog) (state : CampaignJournalState)
    (identity : CampaignSave) : Except Thrown (Option CampaignStageSnapshot) :=
  match campaignReceipts cat state.items with
  | .error e => throw e
  | .ok _ =>
    match receiptsNext state.seed.binding state.items identity with
    | .error e => throw e
    | .ok .unbound => return none
    | .ok step =>
      let items := state.items.take identity.counter.toNat
      match cat.inventory items with
      | .error e => throw e
      | .ok inventory =>
        if inventory.unsupported ≠ [] then throw (.failure .unsupported)
        else
          return some
            { identity := identity
              itemIds := items.map (·.id)
              nextItem := step.item?.map (·.id)
              selected := state.selected
              observed := state.observed }

/-- `validate_rdram_span`. -/
def validSpan (address : Word) (size : Nat) : Bool :=
  0x80000000 ≤ address.toNat && address.toNat - 0x80000000 + size ≤ 0x20000000

/-- What `write_rdram_campaign_stage` writes, field after field; `behind` is what the memory holds
after the block. -/
def CampaignStageSnapshot.block (snapshot : CampaignStageSnapshot) (behind : Nat → Word) :
    CampaignStageWire where
  magic := campaignStageMagic
  format := campaignStageFormat
  reserved := 0
  identity := snapshot.identity
  selected := snapshot.selected
  observed := snapshot.observed
  itemCount := BitVec.ofNat 32 snapshot.itemIds.length
  nextItemId := snapshot.nextItem.getD 0
  nextItemValid := if snapshot.nextItem.isSome then 1 else 0
  transactionReserved := 0
  itemIds := fun i => (snapshot.itemIds[i]?).getD (behind i)

/-- `write_rdram_campaign_stage`: the block the game finds at `address`. -/
def writeCampaignStage (t : LocationTable) (address : Word) (behind : Nat → Word)
    (snapshot : CampaignStageSnapshot) : Except Thrown CampaignStageWire :=
  if address &&& 3 != 0 || snapshot.itemIds.length > campaignReceiptLimit ||
      snapshot.identity.counter.toNat != snapshot.itemIds.length ||
      !snapshot.identity.valid || snapshot.identity.magic != campaignSaveMagic ||
      snapshot.identity.format != campaignSaveFormat || !t.valid snapshot.selected ||
      !t.distinctFlags snapshot.selected || !t.valid snapshot.observed ||
      snapshot.observed &&& ~~~ snapshot.selected != 0#896 ||
      !validSpan address (itemIdsOffset.toNat + 4 * snapshot.itemIds.length) then
    throw (.failure .config)
  else return snapshot.block behind

variable {cat : Catalog} {t : LocationTable} {state : CampaignJournalState}
  {identity : CampaignSave} {snapshot : CampaignStageSnapshot} {address : Word}
  {behind : Nat → Word} {wire : CampaignStageWire}

/-! ## What is produced -/

/-- **What the producer stages**: the processed receipts, all with an effect, and the next one. -/
theorem stage_spec (h : state.stage cat identity = .ok (some snapshot)) :
    identity.supported ∧ snapshot.identity = identity ∧
      snapshot.selected = state.selected ∧ snapshot.observed = state.observed ∧
      (∀ id ∈ snapshot.itemIds, cat.supports id) ∧
      snapshot.nextItem = (state.items[identity.counter.toNat]?).map (·.id) := by
  unfold CampaignJournalState.stage at h
  split at h
  · cases h
  rename_i hreceipts
  split at h
  · cases h
  · cases h
  rename_i step hbound hstep
  obtain ⟨hsup, -, -, hitem⟩ := receiptsNext_spec hstep hbound
  obtain ⟨hlen, hall⟩ := campaignReceipts_eq_ok_iff.mp hreceipts
  have hfew : (state.items.take identity.counter.toNat).length ≤ itemLimit :=
    (List.length_take_le' _ _).trans hlen
  obtain ⟨inv, hinv, hun, -⟩ := inventory_spec hfew fun receipt hmem =>
    (checkReceipt_ok (hall receipt (List.mem_of_mem_take hmem))).2.2.2.2
  simp only [hinv, ne_eq, ite_not] at h
  split at h
  · rename_i hnone
    obtain rfl := Option.some.inj (Except.ok.inj h)
    rw [hun, unsupported_eq_nil_iff] at hnone
    exact ⟨hsup, rfl, rfl, rfl, hnone, by rw [hitem]⟩
  · cases h

/-- What `write_rdram_campaign_stage` checks. -/
structure Written (t : LocationTable) (address : Word) (snapshot : CampaignStageSnapshot) : Prop where
  aligned : aligned address
  few : snapshot.itemIds.length ≤ campaignReceiptLimit
  counter : snapshot.identity.counter.toNat = snapshot.itemIds.length
  supported : snapshot.identity.supported
  selected : t.valid snapshot.selected
  distinct : t.distinctFlags snapshot.selected
  observed : t.subset snapshot.observed snapshot.selected
  span : validSpan address (itemIdsOffset.toNat + 4 * snapshot.itemIds.length)

theorem writeCampaignStage_eq_ok_iff :
    writeCampaignStage t address behind snapshot = .ok wire ↔
      Written t address snapshot ∧ wire = snapshot.block behind := by
  have hguard : Written t address snapshot ↔
      ¬ (address &&& 3 != 0 || snapshot.itemIds.length > campaignReceiptLimit ||
      snapshot.identity.counter.toNat != snapshot.itemIds.length ||
      !snapshot.identity.valid || snapshot.identity.magic != campaignSaveMagic ||
      snapshot.identity.format != campaignSaveFormat || !t.valid snapshot.selected ||
      !t.distinctFlags snapshot.selected || !t.valid snapshot.observed ||
      snapshot.observed &&& ~~~ snapshot.selected != 0#896 ||
      !validSpan address (itemIdsOffset.toNat + 4 * snapshot.itemIds.length)) := by
    simp only [Bool.or_eq_true, not_or, Bool.not_eq_true, Bool.not_eq_false', bne_eq_false_iff_eq,
      decide_eq_false_iff_not, Nat.not_lt]
    constructor
    · intro h
      obtain ⟨hvalid, hmagic, hformat⟩ := CampaignSave.supported_iff.mp h.supported
      obtain ⟨hobserved, hsubset⟩ := (Bool.and_eq_true _ _).mp h.observed
      exact ⟨⟨⟨⟨⟨⟨⟨⟨⟨⟨LawfulBEq.eq_of_beq h.aligned, h.few⟩, h.counter⟩, hvalid⟩, hmagic⟩,
        hformat⟩, h.selected⟩, h.distinct⟩, hobserved⟩, LawfulBEq.eq_of_beq hsubset⟩, h.span⟩
    · rintro ⟨⟨⟨⟨⟨⟨⟨⟨⟨⟨haligned, hfew⟩, hcounter⟩, hvalid⟩, hmagic⟩, hformat⟩, hselected⟩,
        hdistinct⟩, hobserved⟩, hsubset⟩, hspan⟩
      exact ⟨beq_of_eq haligned, hfew, hcounter,
        CampaignSave.supported_iff.mpr ⟨hvalid, hmagic, hformat⟩, hselected, hdistinct,
        (Bool.and_eq_true _ _).mpr ⟨hobserved, beq_of_eq hsubset⟩, hspan⟩
  rw [hguard]
  unfold writeCampaignStage
  split
  · rename_i hrefused
    exact ⟨(fun h => nomatch h), fun h => absurd hrefused h.1⟩
  · rename_i haccepted
    exact ⟨fun h => ⟨haccepted, (Except.ok.inj h).symm⟩, fun h => congrArg Except.ok h.2.symm⟩

/-! ## What is staged -/

/-- The receipts of the block are those of the snapshot. -/
theorem receipts_block (behind : Nat → Word) (hfew : snapshot.itemIds.length ≤ campaignReceiptLimit) :
    (snapshot.block behind).itemCount.toNat = snapshot.itemIds.length ∧
      (snapshot.block behind).receipts = snapshot.itemIds := by
  have hlimit : campaignReceiptLimit = 4096 := rfl
  have hlen : (snapshot.block behind).itemCount.toNat = snapshot.itemIds.length := by
    show (BitVec.ofNat 32 snapshot.itemIds.length).toNat = _
    rw [BitVec.toNat_ofNat, Nat.mod_eq_of_lt (by omega)]
  refine ⟨hlen, List.ext_getElem ?_ ?_⟩
  · rw [receipts_length, hlen]
  · intro i h1 h2
    simp only [CampaignStageWire.receipts, List.getElem_map, List.getElem_range]
    show (snapshot.itemIds[i]?).getD (behind i) = _
    rw [List.getElem?_eq_getElem h2, Option.getD_some]

/-- **The game stages a block the native side produced for its trailer exactly when the next
receipt, if there is one, has an effect.** -/
theorem staged_iff_next_supported (cat : Catalog) (t : LocationTable)
    (state : CampaignJournalState) (identity : CampaignSave) (snapshot : CampaignStageSnapshot)
    (address : Word) (behind : Nat → Word) (wire : CampaignStageWire) (s : Scene)
    (p : Publications) (hstage : state.stage cat identity = .ok (some snapshot))
    (hwrite : writeCampaignStage t address behind snapshot = .ok wire)
    (hfile : s.currentFile = 0) (hmode : s.gameplayMode = 0) (htrailer : s.trailer = identity) :
    (stageApply cat t s p address wire).1 = true ↔
      ∀ receipt, state.items[identity.counter.toNat]? = some receipt →
        cat.supports receipt.id := by
  obtain ⟨hsup, hidentity, -, -, hall, hnext⟩ := stage_spec hstage
  obtain ⟨hw, rfl⟩ := writeCampaignStage_eq_ok_iff.mp hwrite
  obtain ⟨hcount, hreceipts⟩ := receipts_block behind hw.few
  rw [stageApply_iff]
  constructor
  · intro h receipt hreceipt
    rw [hreceipt, Option.map_some] at hnext
    have hsupports := h.next (by
      show (if snapshot.nextItem.isSome then (1 : Half) else 0) ≠ 0
      rw [hnext, Option.isSome_some, if_pos rfl]
      decide)
    have hid : (snapshot.block behind).nextItemId = receipt.id := by
      show snapshot.nextItem.getD 0 = _
      rw [hnext, Option.getD_some]
    rwa [hid] at hsupports
  · intro h
    refine ⟨?_, hw.aligned, hfile, hmode, rfl, rfl, rfl, rfl, ?_, ?_, ?_, ?_, ?_, hw.selected,
      hw.distinct, hw.observed, ?_, ?_⟩
    · rintro rfl
      have hspan := (Bool.and_eq_true _ _).mp hw.span
      exact absurd hspan.1 (by decide)
    · show (if snapshot.nextItem.isSome then (1 : Half) else 0) ≤ 1
      split <;> decide
    · rw [hcount]
      exact hw.few
    · rw [hcount]
      exact hw.counter
    · show snapshot.identity.supported
      rw [hidentity, hsup]
    · exact hidentity.trans htrailer.symm
    · rw [hreceipts]
      exact hall
    · intro hvalid
      cases hget : state.items[identity.counter.toNat]? with
      | none =>
        rw [hget, Option.map_none] at hnext
        exact absurd (show (if snapshot.nextItem.isSome then (1 : Half) else 0) = 0 by
          rw [hnext]; rfl) hvalid
      | some receipt =>
        rw [hget, Option.map_some] at hnext
        show cat.supports (snapshot.nextItem.getD 0)
        rw [hnext]
        exact h receipt hget

/-! ## A receipt without an effect -/

/-- A table without locations. -/
def emptyTable : LocationTable := ⟨[], [], List.Pairwise.nil, by decide⟩

/-- The header of a save that has processed nothing. -/
def freshHeader : CampaignSave :=
  { magic := campaignSaveMagic, format := campaignSaveFormat : CampaignSave }.sealSave

/-- A journal whose first receipt is the victory item. -/
def victoryJournal : CampaignJournalState :=
  { seed := ⟨Vector.replicate 16 0, []⟩, items := [⟨14041088, 14041140, 1, 0, fits_pocket⟩] }

theorem freshHeader_supported : freshHeader.supported :=
  CampaignSave.supported_iff.mpr ⟨CampaignSave.sealSave_valid _, rfl, rfl⟩

theorem victoryJournal_stage :
    victoryJournal.stage pocketCatalog freshHeader =
      .ok (some ⟨freshHeader, [], some 14041088, 0, 0⟩) := by
  have hzero : freshHeader.allZero = false :=
    CampaignSave.allZero_false_of_supported freshHeader_supported
  have hvalid : freshHeader.valid = true := CampaignSave.sealSave_valid _
  have hreceipts : campaignReceipts pocketCatalog victoryJournal.items = .ok () := rfl
  have hnext : receiptsNext victoryJournal.seed.binding victoryJournal.items freshHeader =
      .ok (.receipt 0 ⟨14041088, 14041140, 1, 0, rfl⟩) := by
    unfold receiptsNext
    rw [hzero, hvalid]
    rfl
  unfold CampaignJournalState.stage
  rw [hreceipts, hnext]
  rfl

/-- The empty table is written without a selection or a check. -/
theorem emptyTable_writes : emptyTable.valid 0 = true ∧ emptyTable.distinctFlags 0 = true
    ∧ emptyTable.subset 0 0 = true := by
  decide +kernel

/-- The blocks of one receipt can be written. -/
theorem written_pocket (next : Option Word) :
    Written emptyTable 0x80001000 ⟨freshHeader, [], next, 0, 0⟩ :=
  ⟨rfl, Nat.zero_le _, rfl, freshHeader_supported, emptyTable_writes.1, emptyTable_writes.2.1,
    emptyTable_writes.2.2, (by decide : validSpan 0x80001000 276 = true)⟩

/-- The native side produces a block for it, and the game refuses to stage it. -/
theorem victory_not_staged :
    ∃ snapshot wire, victoryJournal.stage pocketCatalog freshHeader = .ok (some snapshot) ∧
      writeCampaignStage emptyTable 0x80001000 (fun _ => 0) snapshot = .ok wire ∧
      (stageApply pocketCatalog emptyTable ⟨0, 0, freshHeader⟩ {} 0x80001000 wire).1 = false := by
  refine ⟨_, _, victoryJournal_stage,
    writeCampaignStage_eq_ok_iff.mpr ⟨written_pocket (some 14041088), rfl⟩, ?_⟩
  have hno : ¬ Stageable pocketCatalog emptyTable ⟨0, 0, freshHeader⟩ 0x80001000
      (CampaignStageSnapshot.block ⟨freshHeader, [], some 14041088, 0, 0⟩ fun _ => 0) := by
    intro h
    exact absurd (h.next (by decide)) (by decide)
  rw [stageApply_of_not_stageable hno]

/-- The header of a save that has processed one receipt. -/
def spentHeader : CampaignSave :=
  { magic := campaignSaveMagic, format := campaignSaveFormat, counter := 1 : CampaignSave }.sealSave

/-- A journal with Climbing, and a golden banana behind it. -/
def climbingJournal : CampaignJournalState :=
  { seed := ⟨Vector.replicate 16 0, []⟩
    items := [⟨14041100, 14041140, 1, 0, fits_pocket⟩, ⟨14041270, 14041140, 1, 0, fits_pocket⟩] }

theorem spentHeader_supported : spentHeader.supported :=
  CampaignSave.supported_iff.mpr ⟨CampaignSave.sealSave_valid _, rfl, rfl⟩

theorem climbingJournal_stage :
    climbingJournal.stage pocketCatalog spentHeader =
      .ok (some ⟨spentHeader, [14041100], some 14041270, 0, 0⟩) := by
  have hzero : spentHeader.allZero = false :=
    CampaignSave.allZero_false_of_supported spentHeader_supported
  have hvalid : spentHeader.valid = true := CampaignSave.sealSave_valid _
  have hreceipts : campaignReceipts pocketCatalog climbingJournal.items = .ok () := rfl
  have hnext : receiptsNext climbingJournal.seed.binding climbingJournal.items spentHeader =
      .ok (.receipt 1 ⟨14041270, 14041140, 1, 0, rfl⟩) := by
    unfold receiptsNext
    rw [hzero, hvalid]
    rfl
  unfold CampaignJournalState.stage
  rw [hreceipts, hnext]
  rfl

theorem written_climbing :
    Written emptyTable 0x80001000 ⟨spentHeader, [14041100], some 14041270, 0, 0⟩ :=
  ⟨rfl, (by decide : 1 ≤ campaignReceiptLimit), rfl, spentHeader_supported, emptyTable_writes.1,
    emptyTable_writes.2.1, emptyTable_writes.2.2, (by decide : validSpan 0x80001000 280 = true)⟩

/-- Behind Climbing a golden banana is staged; Victory is not. -/
theorem staged_iff_next_supported_pocket :
    (stageApply pocketCatalog emptyTable ⟨0, 0, spentHeader⟩ {} 0x80001000
        (CampaignStageSnapshot.block ⟨spentHeader, [14041100], some 14041270, 0, 0⟩
          fun _ => 0)).1 = true ∧
    ((stageApply pocketCatalog emptyTable ⟨0, 0, freshHeader⟩ {} 0x80001000
        (CampaignStageSnapshot.block ⟨freshHeader, [], some 14041088, 0, 0⟩ fun _ => 0)).1 = true ↔
      ∀ receipt, victoryJournal.items[freshHeader.counter.toNat]? = some receipt →
        pocketCatalog.supports receipt.id) := by
  constructor
  · refine (staged_iff_next_supported pocketCatalog emptyTable climbingJournal spentHeader _ 0x80001000
      (fun _ => 0) _ ⟨0, 0, spentHeader⟩ {} climbingJournal_stage
      (writeCampaignStage_eq_ok_iff.mpr ⟨written_climbing, rfl⟩) rfl rfl rfl).mpr ?_
    intro receipt hreceipt
    have hbanana : climbingJournal.items[spentHeader.counter.toNat]? =
        some ⟨14041270, 14041140, 1, 0, fits_pocket⟩ := rfl
    obtain rfl := Option.some.inj (hbanana.symm.trans hreceipt)
    decide
  · exact staged_iff_next_supported pocketCatalog emptyTable victoryJournal freshHeader _ 0x80001000
      (fun _ => 0) _ ⟨0, 0, freshHeader⟩ {} victoryJournal_stage
      (writeCampaignStage_eq_ok_iff.mpr ⟨written_pocket (some 14041088), rfl⟩) rfl rfl rfl

end Dk64Port.Archipelago
