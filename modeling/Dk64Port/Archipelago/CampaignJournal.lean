import Dk64Port.Archipelago.CampaignSave
import Dk64Port.Archipelago.Checks
import Dk64Port.Archipelago.NativeInventory
import Dk64Port.Lib.AtomicFile
import Mathlib.Algebra.Group.Nat.Defs

/-!
# The campaign journal (`native/receipts.cpp`, `native/campaign_journal.cpp`, `native/journal.cpp`)

The native side keeps the received items and the observed checks of one seed in a JSON file that it
replaces as a whole. What the JSON library and the system do comes from a `Platform`.

* `campaignReceipts`, `receiptsNext`: the validation of a received list, and the receipt a save
  header asks for.
* `CampaignJournalState.document`, `loadDocument`: what is written, and what is read back.
* `JournalStorage.opened`, `JournalStorage.receive`, `JournalStorage.record`: the constructor and
  the two mutators over the memory and the file.
-/

namespace Dk64Port.Archipelago

open ByteLayout (Byte)
open AtomicFile

/-- What the journal uses of a `CampaignSeed`. -/
structure CampaignSeed where
  binding : Vector Byte 16
  locations : List Int

/-! ## The receipts -/

/-- The loop body of the constructor of `CampaignReceipts`. -/
def checkReceipt (cat : Catalog) (receipt : Item) : Except Thrown Unit :=
  if receipt.player < 0 ∨ 65535 < receipt.player ∨ receipt.flags < 0 ∨ 7 < receipt.flags then
    throw (.failure .protocol)
  else match cat.entry receipt.item with
    | none => throw (.failure .unsupported)
    | some _ => return ()

/-- The constructor of `CampaignReceipts`. -/
def campaignReceipts (cat : Catalog) (receipts : List Item) : Except Thrown Unit :=
  if receipts.length > itemLimit then throw (.failure .protocol)
  else forM receipts (checkReceipt cat)

/-- `CampaignReceiptStep`. -/
inductive CampaignReceiptStep where
  | unbound
  | receipt (index : Half) (item : Item)
  | complete (index : Half)

/-- `step.item`. -/
def CampaignReceiptStep.item? : CampaignReceiptStep → Option Item
  | .receipt _ item => some item
  | _ => none

/-- `CampaignReceipts::next`. -/
def receiptsNext (binding : Vector Byte 16) (receipts : List Item) (save : CampaignSave) :
    Except Thrown CampaignReceiptStep :=
  if save.allZero then return .unbound
  else if !save.valid then throw (.failure .storage)
  else if save.magic != campaignSaveMagic || save.format != campaignSaveFormat then
    throw (.failure .storage)
  else if binding != save.binding then throw (.failure .seed)
  else if save.counter.toNat > receipts.length then throw (.failure .storage)
  else match receipts[save.counter.toNat]? with
    | none => return .complete save.counter
    | some item => return .receipt save.counter item

/-! ## What the validation says -/

variable {cat : Catalog} {identity : CampaignSave}

theorem checkReceipt_ok {receipt : Item} (h : checkReceipt cat receipt = .ok ()) :
    0 ≤ receipt.player ∧ receipt.player ≤ 65535 ∧ 0 ≤ receipt.flags ∧ receipt.flags ≤ 7 ∧
      cat.catalogued receipt.item := by
  unfold checkReceipt at h
  split at h
  · cases h
  · rename_i hrange
    split at h
    · cases h
    · rename_i item hentry
      have hcat := Catalog.entry_isSome_iff.mp (Option.isSome_iff_exists.mpr ⟨item, hentry⟩)
      exact ⟨by omega, by omega, by omega, by omega, hcat⟩

theorem forM_eq_ok_iff {receipts : List Item} :
    forM receipts (checkReceipt cat) = .ok () ↔
      ∀ receipt ∈ receipts, checkReceipt cat receipt = .ok () := by
  induction receipts with
  | nil => exact ⟨fun _ _ hmem => absurd hmem List.not_mem_nil, fun _ => rfl⟩
  | cons receipt receipts ih =>
    rw [List.forM_cons, List.forall_mem_cons]
    cases hone : checkReceipt cat receipt with
    | error e => exact ⟨(fun h => nomatch h), fun h => nomatch h.1⟩
    | ok u => exact ⟨fun h => ⟨rfl, ih.mp h⟩, fun h => ih.mpr h.2⟩

/-- What the constructor of `CampaignReceipts` checks. -/
theorem campaignReceipts_eq_ok_iff {receipts : List Item} :
    campaignReceipts cat receipts = .ok () ↔
      receipts.length ≤ itemLimit ∧ ∀ receipt ∈ receipts, checkReceipt cat receipt = .ok () := by
  unfold campaignReceipts
  split
  · exact ⟨(fun h => nomatch h), fun h => by omega⟩
  · rename_i hlen
    rw [forM_eq_ok_iff]
    exact ⟨fun h => ⟨by omega, h⟩, fun h => h.2⟩

/-- A step for a bound save: the header is the header of this seed, at a place in the list. -/
theorem receiptsNext_spec {binding : Vector Byte 16} {receipts : List Item}
    {step : CampaignReceiptStep} (h : receiptsNext binding receipts identity = .ok step)
    (hbound : step ≠ .unbound) :
    identity.supported ∧ identity.binding = binding ∧
      identity.counter.toNat ≤ receipts.length ∧
      step.item? = receipts[identity.counter.toNat]? := by
  unfold receiptsNext at h
  split at h
  · exact absurd (Except.ok.inj h).symm hbound
  split at h
  · cases h
  split at h
  · cases h
  split at h
  · cases h
  split at h
  · cases h
  rename_i hvalid hmagic hbinding hcounter
  rw [Bool.not_eq_true, Bool.not_eq_false'] at hvalid
  rw [Bool.not_eq_true, Bool.or_eq_false_iff, bne_eq_false_iff_eq, bne_eq_false_iff_eq] at hmagic
  rw [Bool.not_eq_true, bne_eq_false_iff_eq] at hbinding
  refine ⟨CampaignSave.supported_iff.mpr ⟨hvalid, hmagic⟩, hbinding.symm, by omega, ?_⟩
  split at h
  · rename_i hget
    rw [hget, ← Except.ok.inj h]
    rfl
  · rename_i hget
    rw [hget, ← Except.ok.inj h]
    rfl

/-! ## The document -/

/-- `nlohmann::json`; an object has its keys in order. -/
inductive Json where
  | null
  | boolean (value : Bool)
  | number (value : Int)
  | string (value : String)
  | array (values : List Json)
  | object (fields : List (String × Json))

namespace Json

/-- `find`. -/
def field (key : String) : List (String × Json) → Option Json
  | [] => none
  | (name, value) :: fields => if name = key then some value else field key fields

/-- `integer`. -/
def integer (low high : Int) : Json → Option Int
  | .number n => if low ≤ n ∧ n ≤ high then some n else none
  | _ => none

end Json

/-- One digit. -/
def hexDigit (n : Nat) : Char := ("0123456789abcdef".toList[n]?).getD '0'

/-- `binding_hex`. -/
def CampaignSeed.bindingHex (seed : CampaignSeed) : String :=
  String.ofList (seed.binding.toList.flatMap fun byte =>
    [hexDigit (byte.toNat / 16), hexDigit (byte.toNat % 16)])

/-- What is stored of an item. -/
def Item.stored (item : Item) : Json :=
  .array [.number item.item, .number item.location, .number item.player, .number item.flags]

/-- The argument of `journal_.commit`. -/
def journalDocument (t : LocationTable) (seed : CampaignSeed) (items : List Item)
    (observed : CheckSet) : Json :=
  .object [("binding", .string seed.bindingHex),
    ("checks", .array ((t.ids observed).map fun id => .number id.toNat)),
    ("format", .number 1), ("items", .array (items.map Item.stored))]

/-- `stored_item`. -/
def storedItem : Json → Option Item
  | .array [item, location, player, flags] =>
    (item.integer 0 4294967295).bind fun item =>
      (location.integer (-2 ^ 63) (2 ^ 63 - 1)).bind fun location =>
        (player.integer 0 65535).bind fun player =>
          (flags.integer 0 7).bind fun flags =>
            if h : fitsInt64 location then some ⟨item, location, player, flags, h⟩ else none
  | _ => none

/-- One turn of the loop over `"checks"`. -/
def storedCheck (t : LocationTable) (selected observed : CheckSet) (value : Json) :
    Option CheckSet :=
  (value.integer 0 4294967295).bind fun id =>
    let id := BitVec.ofInt 32 id
    if !t.has selected id || t.has observed id then none else t.add observed id

/-- The loop over `seed_.locations`. -/
def selectedChecks (t : LocationTable) (seed : CampaignSeed) : Option CheckSet :=
  seed.locations.foldlM (fun selected id =>
    if id < 0 ∨ 4294967295 < id then none else t.add selected (BitVec.ofInt 32 id)) 0

/-- The body of the `try` of the constructor, for a file that holds something. -/
def loadDocument (cat : Catalog) (t : LocationTable) (seed : CampaignSeed) (selected : CheckSet) :
    Json → Option (List Item × CheckSet)
  | .object fields =>
    if fields.length ≠ 4 then none
    else match Json.field "format" fields, Json.field "binding" fields, Json.field "items" fields,
        Json.field "checks" fields with
      | some (.number format), some (.string binding), some (.array items), some (.array checks) =>
        if format ≠ 1 ∨ binding ≠ seed.bindingHex ∨ items.length > itemLimit ∨
            checks.length > seed.locations.length then none
        else
          (items.mapM storedItem).bind fun items =>
            match campaignReceipts cat items with
            | .error _ => none
            | .ok _ => (checks.foldlM (storedCheck t selected) 0).map fun observed =>
              (items, observed)
      | _, _, _, _ => none
  | _ => none

/-! ## The file -/

/-- `message_limit`. -/
def messageLimit : Nat := 1024 * 1024

/-- The JSON library, and how far the commits get. -/
structure Platform where
  dump : Json → List Byte
  /-- `Json::parse` under the depth limit of `parse_bounded`. -/
  parse : List Byte → Option Json
  attempts : Nat → Attempt
  /-- After the rename, the directory is opened and synced. -/
  settled : Nat → Bool := fun _ => true

/-- The fields of a `CampaignJournalState` besides the journal. -/
structure CampaignJournalState where
  seed : CampaignSeed
  items : List Item := []
  selected : CheckSet := 0
  observed : CheckSet := 0

/-- What the memory amounts to on disk. -/
def CampaignJournalState.document (t : LocationTable) (state : CampaignJournalState) : Json :=
  journalDocument t state.seed state.items state.observed

/-- The memory and the file beside it. -/
structure JournalStorage where
  state : CampaignJournalState
  disk : Disk Byte
  /-- Commits so far. -/
  tried : Nat := 0

namespace JournalStorage

variable (pf : Platform) (cat : Catalog) (t : LocationTable)

/-- `Journal::commit`: it keeps its temporary file when it fails. -/
def commit (data : Json) (w : JournalStorage) : Bool × JournalStorage :=
  let bytes := pf.dump data
  if bytes.length > messageLimit then (false, w)
  else
    let attempt := { pf.attempts w.tried with removed := false }
    (attempt.succeeds && pf.settled w.tried,
      { w with disk := w.disk.replace attempt bytes, tried := w.tried + 1 })

/-- `Journal::load`: `none` where it throws. -/
def load (bytes : Option (List Byte)) : Option Json :=
  match bytes with
  | none => some .null
  | some bytes => if bytes.length > messageLimit then none else pf.parse bytes

/-- `persist`. -/
def persist (items : List Item) (observed : CheckSet) (w : JournalStorage) :
    Bool × JournalStorage :=
  w.commit pf (journalDocument t w.state.seed items observed)

/-- The constructor: `none` where it throws. -/
def opened (seed : CampaignSeed) (disk : Disk Byte) : Option JournalStorage :=
  (selectedChecks t seed).bind fun selected =>
    let w : JournalStorage := { state := { seed := seed, selected := selected }, disk := disk }
    match load pf disk.target with
    | none => none
    | some .null =>
      let r := w.persist pf t [] 0
      if r.1 then some r.2 else none
    | some saved =>
      (loadDocument cat t seed selected saved).map fun loaded =>
        { w with state := { w.state with items := loaded.1, observed := loaded.2 } }

/-- `CampaignJournalState::receive`. -/
def receive (index : Nat) (incoming : List Item) (w : JournalStorage) :
    Except Thrown Bool × JournalStorage :=
  let items := w.state.items
  if index > itemLimit ∨ incoming.length > itemLimit - index then
    (throw (.failure .protocol), w)
  else match campaignReceipts cat incoming with
    | .error e => (throw e, w)
    | .ok _ =>
      if index > items.length ∨ index = 0 ∧ incoming.length < items.length then
        (throw (.failure .protocol), w)
      else
        let overlap := min incoming.length (items.length - index)
        if incoming.take overlap ≠ (items.drop index).take overlap then
          (throw (.failure .protocol), w)
        else
          let updated := items ++ incoming.drop overlap
          if updated = items then (return false, w)
          else
            -- disk is authoritative before publication
            let r := w.persist pf t updated w.state.observed
            if r.1 then (return true, { r.2 with state := { r.2.state with items := updated } })
            else (throw (.failure .storage), r.2)

/-- `CampaignJournalState::record`. -/
def record (observed : CheckSet) (w : JournalStorage) : Except Thrown Bool × JournalStorage :=
  if !t.subset observed w.state.selected then (throw (.failure .protocol), w)
  else
    let updated := w.state.observed ||| observed
    if updated = w.state.observed then (return false, w)
    else
      -- never acknowledge volatile observations first
      let r := w.persist pf t w.state.items updated
      if r.1 then (return true, { r.2 with state := { r.2.state with observed := updated } })
      else (throw (.failure .storage), r.2)

end JournalStorage

end Dk64Port.Archipelago
