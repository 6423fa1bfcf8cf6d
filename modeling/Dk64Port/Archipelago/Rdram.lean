import Dk64Port.Archipelago.StageNative
import Dk64Port.Lib.CrashLogic
import Dk64Port.Lib.SwappedMemory

/-!
# Blocks in guest memory (`native/rdram.cpp`)

The native side reads and writes guest structures byte by byte: the byte of address `a` is at
`(a - 0x80000000) ^ 3` of the host memory. A write throws at the first byte outside the window, so the
callers check the whole span before.

* `writeByte`, `writeHalf`, `writeWord`, `readRdramCampaignSave`, `writeRdramCampaignSave`,
  `writeRdramCampaignStage`: the code, with one step for each byte.
* `writeRdramCampaignSave_spec`, `writeRdramCampaignStage_spec`: the image of the memory they leave.
* `rdram_codec`: **what was written reads back, the rest of the memory is as before, and a write that
  is refused has written nothing.**
-/

namespace Dk64Port.Archipelago

open ByteLayout CrashLogic SwappedMemory

/-- The host memory, at the offsets from the start of the window. -/
abbrev Rdram := ByteLayout.Image

/-- Code that writes guest memory. -/
abbrev RdramProgram (α : Type) := Prog Rdram Thrown α

/-- The index of a guest address, before the swap. -/
def guestOffset (address : Word) : Nat := (address - 0x80000000).toNat

/-- `validate_rdram_span`, which throws. -/
def validateRdramSpan (address : Word) (size : Nat) : RdramProgram Unit :=
  Prog.failIf (!validSpan address size) (.failure .config)

/-- `write_byte`. -/
def writeByte (address : Word) (value : Byte) : RdramProgram Unit := do
  validateRdramSpan address 1
  Prog.step fun m => Function.update m (guestOffset address ^^^ 3) value

/-- `write_half`. -/
def writeHalf (address : Word) (value : Half) : RdramProgram Unit := do
  writeByte address ((value >>> 8).setWidth 8)
  writeByte (address + 1) (value.setWidth 8)

/-- `write_word`. -/
def writeWord (address : Word) (value : Word) : RdramProgram Unit := do
  writeByte address ((value >>> 24).setWidth 8)
  writeByte (address + 1) ((value >>> 16).setWidth 8)
  writeByte (address + 2) ((value >>> 8).setWidth 8)
  writeByte (address + 3) (value.setWidth 8)

/-- The fields of an `ap_campaign_save`, as both writers have them. -/
def writeSaveFields (address : Word) (save : CampaignSave) : RdramProgram Unit := do
  writeWord address save.magic
  writeHalf (address + 4) save.format
  writeHalf (address + 6) save.counter
  Prog.forEach (List.finRange 16) fun i =>
    writeByte (address + 8 + BitVec.ofNat 32 i) save.binding[i]
  writeWord (address + 24) save.reserved
  writeWord (address + 28) save.checksum

/-- `write_rdram_campaign_save`. -/
def writeRdramCampaignSave (address : Word) (save : CampaignSave) : RdramProgram Unit := do
  Prog.failIf (address &&& 3 != 0) (.failure .config)
  validateRdramSpan address 32
  writeSaveFields address save

/-- `read_byte` of the readers. -/
def readByte (m : Rdram) (address : Word) : Byte := m (guestOffset address ^^^ 3)

/-- `read_half`. -/
def readHalf (m : Rdram) (address : Word) : Half :=
  ((readByte m address).setWidth 16 <<< 8) ||| (readByte m (address + 1)).setWidth 16

/-- `read_word`. -/
def readWord (m : Rdram) (address : Word) : Word :=
  ((readByte m address).setWidth 32 <<< 24) ||| ((readByte m (address + 1)).setWidth 32 <<< 16)
    ||| ((readByte m (address + 2)).setWidth 32 <<< 8) ||| (readByte m (address + 3)).setWidth 32

/-- `read_rdram_campaign_save`. -/
def readRdramCampaignSave (m : Rdram) (address : Word) : Except Thrown CampaignSave :=
  if address &&& 3 != 0 then .error (.failure .config)
  else if !validSpan address 32 then .error (.failure .config)
  else .ok
    { magic := readWord m address
      format := readHalf m (address + 4)
      counter := readHalf m (address + 6)
      binding := Vector.ofFn fun i => readByte m (address + 8 + BitVec.ofNat 32 i)
      reserved := readWord m (address + 24)
      checksum := readWord m (address + 28) }

/-- A word of an `ap_check_set`. -/
def checkWord (set : CheckSet) (i : Nat) : Word := set.extractLsb' (32 * i) 32

/-- The tests of `write_rdram_campaign_stage` on the snapshot. -/
def stageRefused (t : LocationTable) (address : Word) (snapshot : CampaignStageSnapshot) : Bool :=
  address &&& 3 != 0 || snapshot.itemIds.length > campaignReceiptLimit ||
    snapshot.identity.counter.toNat != snapshot.itemIds.length || !snapshot.identity.valid ||
    snapshot.identity.magic != campaignSaveMagic || snapshot.identity.format != campaignSaveFormat ||
    !t.valid snapshot.selected || !t.distinctFlags snapshot.selected || !t.valid snapshot.observed

/-- The fields of an `ap_campaign_stage_wire`. -/
def writeStageFields (address : Word) (snapshot : CampaignStageSnapshot) : RdramProgram Unit := do
  writeWord address campaignStageMagic
  writeHalf (address + 4) campaignStageFormat
  writeHalf (address + 6) 0
  writeSaveFields (address + identityOffset) snapshot.identity
  Prog.forEach (List.finRange 28) fun (i : Fin 28) => do
    writeWord (address + selectedOffset + BitVec.ofNat 32 (4 * i)) (checkWord snapshot.selected i)
    writeWord (address + observedOffset + BitVec.ofNat 32 (4 * i)) (checkWord snapshot.observed i)
  writeWord (address + 264) (BitVec.ofNat 32 snapshot.itemIds.length)
  writeWord (address + 268) (snapshot.nextItem.getD 0)
  writeHalf (address + 272) (if snapshot.nextItem.isSome then 1 else 0)
  writeHalf (address + 274) 0
  Prog.forEach (List.finRange snapshot.itemIds.length) fun i =>
    writeWord (address + itemIdsOffset + BitVec.ofNat 32 (4 * i)) snapshot.itemIds[i]

/-- `write_rdram_campaign_stage`. -/
def writeRdramCampaignStage (t : LocationTable) (address : Word) (snapshot : CampaignStageSnapshot) :
    RdramProgram Unit := do
  Prog.failIf (stageRefused t address snapshot) (.failure .config)
  Prog.forEach (List.range 28) fun i =>
    Prog.failIf (checkWord snapshot.observed i &&& ~~~ checkWord snapshot.selected i != 0)
      (.failure .config)
  validateRdramSpan address (276 + 4 * snapshot.itemIds.length)
  writeStageFields address snapshot

/-! ## What the guest sees -/

/-- The set of the words of an `ap_check_set`. -/
def checkSetOfWords (words : Fin 28 → Word) : CheckSet :=
  (List.finRange 28).foldl (fun set i => set ||| (words i).setWidth 896 <<< (32 * i.val)) 0#896

/-- The words of an `ap_check_set`. -/
def getCheckSet (b : ByteLayout.Image) (off : Nat) : CheckSet := checkSetOfWords (getWords 28 b off)

/-- The fields of an `ap_campaign_save`. -/
def getCampaignSave (b : ByteLayout.Image) (off : Nat) : CampaignSave where
  magic := get32 b off
  format := get16 b (off + 4)
  counter := get16 b (off + 6)
  binding := Vector.ofFn fun i => b (off + 8 + i)
  reserved := get32 b (off + 24)
  checksum := get32 b (off + 28)

/-- The fields of an `ap_campaign_stage_wire`, at the offsets of the struct. -/
def getCampaignStageWire (b : ByteLayout.Image) (off : Nat) : CampaignStageWire where
  magic := get32 b off
  format := get16 b (off + 4)
  reserved := get16 b (off + 6)
  identity := getCampaignSave b (off + 8)
  selected := getCheckSet b (off + 40)
  observed := getCheckSet b (off + 152)
  itemCount := get32 b (off + 264)
  nextItemId := get32 b (off + 268)
  nextItemValid := get16 b (off + 272)
  transactionReserved := get16 b (off + 274)
  itemIds := fun i => get32 b (off + 276 + 4 * i)

/-- The snapshot that a block holds. -/
def CampaignStageWire.snapshot (wire : CampaignStageWire) : CampaignStageSnapshot where
  identity := wire.identity
  itemIds := wire.receipts
  nextItem := if wire.nextItemValid = 0 then none else some wire.nextItemId
  selected := wire.selected
  observed := wire.observed

theorem getLsbD_foldl_words {n : Nat} (words : Fin n → Word) (j : Nat) (hj : j < 896) :
    ∀ (l : List (Fin n)) (set : CheckSet),
      (l.foldl (fun set i => set ||| (words i).setWidth 896 <<< (32 * i.val)) set).getLsbD j
        = (set.getLsbD j || l.any fun i =>
          decide (32 * i.val ≤ j) && (words i).getLsbD (j - 32 * i.val))
  | [], set => by rw [List.foldl_nil, List.any_nil, Bool.or_false]
  | i :: l, set => by
    rw [List.foldl_cons, getLsbD_foldl_words words j hj l, List.any_cons, ← Bool.or_assoc]
    congr 1
    have hlt : j - 32 * i.val < 896 := by omega
    rw [BitVec.getLsbD_or, BitVec.getLsbD_shiftLeft, BitVec.getLsbD_setWidth, decide_eq_true hj,
      decide_eq_true hlt, Bool.true_and, Bool.true_and]
    by_cases h : 32 * i.val ≤ j
    · have hge : ¬ j < 32 * i.val := by omega
      simp [h, hge]
    · have hge : j < 32 * i.val := by omega
      simp [h, hge]

/-- **A set is its words.** -/
theorem checkSetOfWords_checkWord (set : CheckSet) :
    checkSetOfWords (fun i => checkWord set i) = set := by
  refine BitVec.eq_of_getLsbD_eq fun j hj => ?_
  unfold checkSetOfWords
  rw [getLsbD_foldl_words _ j hj, BitVec.getLsbD_zero, Bool.false_or, Bool.eq_iff_iff, List.any_eq_true]
  unfold checkWord
  constructor
  · rintro ⟨i, -, hbit⟩
    obtain ⟨hle, hbit⟩ := (Bool.and_eq_true _ _).mp hbit
    rw [BitVec.getLsbD_extractLsb', Bool.and_eq_true, Nat.add_sub_cancel' (of_decide_eq_true hle)] at hbit
    exact hbit.2
  · intro hbit
    refine ⟨⟨j / 32, by omega⟩, List.mem_finRange _, ?_⟩
    have hle : 32 * (j / 32) ≤ j := by omega
    have hlt : j - 32 * (j / 32) < 32 := by omega
    rw [BitVec.getLsbD_extractLsb', Nat.add_sub_cancel' hle, hbit, decide_eq_true hle, decide_eq_true hlt]
    rfl

/-! ## Fields and loops of the memory -/

/-- The address of an offset in the window. -/
def guest (off : Nat) : Word := 0x80000000 + BitVec.ofNat 32 off

theorem guest_add (off k : Nat) : guest off + BitVec.ofNat 32 k = guest (off + k) := by
  unfold guest
  rw [BitVec.add_assoc, BitVec.ofNat_add_ofNat]

theorem toNat_guest {off : Nat} (h : off ≤ 0x20000000) : (guest off).toNat = 0x80000000 + off := by
  unfold guest
  rw [BitVec.toNat_add, BitVec.toNat_ofNat]
  change (0x80000000 + off % 2 ^ 32) % 2 ^ 32 = _
  omega

@[simp] theorem guestOffset_guest {off : Nat} (h : off ≤ 0x20000000) : guestOffset (guest off) = off := by
  unfold guestOffset
  rw [BitVec.toNat_sub, toNat_guest h]
  change (2 ^ 32 - 0x80000000 + (0x80000000 + off)) % 2 ^ 32 = off
  omega

/-- An address whose span is in the window. -/
theorem validSpan_iff {address : Word} {size : Nat} :
    validSpan address size = true ↔ ∃ off, address = guest off ∧ off + size ≤ 0x20000000 := by
  unfold validSpan
  rw [Bool.and_eq_true, decide_eq_true_eq, decide_eq_true_eq]
  constructor
  · rintro ⟨hlow, hhigh⟩
    refine ⟨address.toNat - 0x80000000, BitVec.eq_of_toNat_eq ?_, hhigh⟩
    rw [toNat_guest (by omega)]
    omega
  · rintro ⟨off, rfl, hspan⟩
    rw [toNat_guest (by omega)]
    omega

/-- The program writes `f` to what the guest sees. -/
def Writes (p : RdramProgram Unit) (f : ByteLayout.Image → ByteLayout.Image) : Prop :=
  ∀ b, Spec (fun m => logical m = b) (fun _ => True) p (fun _ m => logical m = f b) fun _ _ => False

theorem Writes.bind {p q : RdramProgram Unit} {f g : ByteLayout.Image → ByteLayout.Image} (hp : Writes p f)
    (hq : Writes q g) : Writes (p >>= fun _ => q) (fun b => g (f b)) :=
  fun b => (hp b).bind fun _ => hq (f b)

theorem Writes.forEach {α : Type} {l : List α} {p : α → RdramProgram Unit}
    {f : ByteLayout.Image → α → ByteLayout.Image} (h : ∀ a ∈ l, Writes (p a) fun b => f b a) :
    Writes (Prog.forEach l p) fun b => l.foldl f b := by
  intro b
  refine (Spec.forEach (l := l) (f := p) (fun seen m => logical m = seen.foldl f b)
    fun seen a rest hl => ?_)
  rw [List.foldl_append]
  exact h a (by rw [hl]; exact List.mem_append_right _ List.mem_cons_self) (seen.foldl f b)

variable {off : Nat}

theorem writes_validateRdramSpan {address : Word} {size : Nat} (h : validSpan address size = true) :
    Writes (validateRdramSpan address size) fun b => b := by
  intro b
  unfold validateRdramSpan
  rw [h]
  exact Spec.pure fun _ hm => hm

theorem writes_writeByte (value : Byte) (h : off + 1 ≤ 0x20000000) :
    Writes (writeByte (guest off) value) fun b => Function.update b off value := by
  refine (writes_validateRdramSpan (validSpan_iff.mpr ⟨off, rfl, h⟩)).bind fun b => ?_
  refine Spec.step (fun _ _ => trivial) fun m hm => ?_
  rw [guestOffset_guest (by omega), logical_write, hm]

theorem writes_writeHalf (value : Half) (h : off + 2 ≤ 0x20000000) :
    Writes (writeHalf (guest off) value) fun b => put16 b off value := by
  unfold writeHalf
  rw [show guest off + 1 = guest (off + 1) from guest_add off 1]
  simp only [← update_update_eq_put16]
  exact (writes_writeByte _ (by omega)).bind (writes_writeByte _ (by omega))

theorem writes_writeWord (value : Word) (h : off + 4 ≤ 0x20000000) :
    Writes (writeWord (guest off) value) fun b => put32 b off value := by
  unfold writeWord
  rw [show guest off + 1 = guest (off + 1) from guest_add off 1,
    show guest off + 2 = guest (off + 2) from guest_add off 2,
    show guest off + 3 = guest (off + 2 + 1) from guest_add off 3]
  have hbytes : (fun b => put32 b off value) = fun b => Function.update (Function.update
      (Function.update (Function.update b off ((value >>> 24).setWidth 8)) (off + 1)
        ((value >>> 16).setWidth 8)) (off + 2) ((value >>> 8).setWidth 8)) (off + 2 + 1)
        (value.setWidth 8) := by
    funext b
    unfold put32
    rw [← update_update_eq_put16, ← update_update_eq_put16, high_byte_of_word, second_byte_of_word,
      third_byte_of_word, last_byte_of_word]
  rw [hbytes]
  exact (writes_writeByte _ (by omega)).bind ((writes_writeByte _ (by omega)).bind
    ((writes_writeByte _ (by omega)).bind (writes_writeByte _ (by omega))))

/-! ## The save header -/

/-- The header in the image. -/
def putCampaignSave (b : ByteLayout.Image) (off : Nat) (save : CampaignSave) : ByteLayout.Image :=
  put32 (put32 (putBytes (put16 (put16 (put32 b off save.magic) (off + 4) save.format) (off + 6)
    save.counter) (off + 8) save.binding) (off + 24) save.reserved) (off + 28) save.checksum

theorem putCampaignSave_of_outside {b : ByteLayout.Image} {k : Nat} (save : CampaignSave)
    (h : k < off ∨ off + 32 ≤ k) : putCampaignSave b off save k = b k := by
  unfold putCampaignSave
  rw [put32_of_outside _ (by omega), put32_of_outside _ (by omega), putBytes_of_outside _ (by omega),
    put16_of_outside _ (by omega), put16_of_outside _ (by omega), put32_of_outside _ (by omega)]

/-- **The header reads back.** -/
theorem getCampaignSave_putCampaignSave (b : ByteLayout.Image) (off : Nat) (save : CampaignSave) :
    getCampaignSave (putCampaignSave b off save) off = save := by
  have hbinding : (Vector.ofFn fun i : Fin 16 => putCampaignSave b off save (off + 8 + i))
      = save.binding := by
    refine Vector.ext fun i hi => ?_
    rw [Vector.getElem_ofFn]
    unfold putCampaignSave
    rw [put32_of_outside _ (by dsimp only; omega), put32_of_outside _ (by dsimp only; omega)]
    exact putBytes_self _ _ save.binding ⟨i, hi⟩
  have hmagic : get32 (putCampaignSave b off save) off = save.magic := by
    unfold putCampaignSave
    rw [get32_put32_of_disjoint _ (by omega), get32_put32_of_disjoint _ (by omega),
      get32_congr fun k _ _ => putBytes_of_outside _ (by omega), get32_put16_of_disjoint _ (by omega),
      get32_put16_of_disjoint _ (by omega), get32_put32_self]
  have hformat : get16 (putCampaignSave b off save) (off + 4) = save.format := by
    unfold putCampaignSave
    rw [get16_put32_of_disjoint _ (by omega), get16_put32_of_disjoint _ (by omega),
      get16_congr fun k _ _ => putBytes_of_outside _ (by omega), get16_put16_of_disjoint _ (by omega),
      get16_put16_self]
  have hcounter : get16 (putCampaignSave b off save) (off + 6) = save.counter := by
    unfold putCampaignSave
    rw [get16_put32_of_disjoint _ (by omega), get16_put32_of_disjoint _ (by omega),
      get16_congr fun k _ _ => putBytes_of_outside _ (by omega), get16_put16_self]
  have hreserved : get32 (putCampaignSave b off save) (off + 24) = save.reserved := by
    unfold putCampaignSave
    rw [get32_put32_of_disjoint _ (by omega), get32_put32_self]
  have hchecksum : get32 (putCampaignSave b off save) (off + 28) = save.checksum := get32_put32_self _ _ _
  unfold getCampaignSave
  rw [hbinding, hmagic, hformat, hcounter, hreserved, hchecksum]

theorem getCampaignSave_congr {b b' : ByteLayout.Image}
    (h : ∀ k, off ≤ k → k < off + 32 → b k = b' k) :
    getCampaignSave b off = getCampaignSave b' off := by
  have hbinding : (Vector.ofFn fun i : Fin 16 => b (off + 8 + i))
      = Vector.ofFn fun i : Fin 16 => b' (off + 8 + i) := by
    refine congrArg Vector.ofFn (funext fun i => h _ (by omega) (by omega))
  have hword : ∀ k, k ≤ 28 → get32 b (off + k) = get32 b' (off + k) :=
    fun k hk => get32_congr fun j _ _ => h j (by omega) (by omega)
  have hhalf : ∀ k, k ≤ 30 → get16 b (off + k) = get16 b' (off + k) :=
    fun k hk => get16_congr fun j _ _ => h j (by omega) (by omega)
  have hmagic : get32 b off = get32 b' off := hword 0 (by omega)
  unfold getCampaignSave
  rw [hbinding, hmagic, hhalf 4 (by omega), hhalf 6 (by omega), hword 24 (by omega), hword 28 (by omega)]

theorem writes_writeSaveFields (save : CampaignSave) (h : off + 32 ≤ 0x20000000) :
    Writes (writeSaveFields (guest off) save) fun b => putCampaignSave b off save := by
  have hbytes : Writes (Prog.forEach (List.finRange 16) fun i =>
      writeByte (guest off + 8 + BitVec.ofNat 32 i) save.binding[i])
      fun b => putBytes b (off + 8) save.binding :=
    Writes.forEach fun i _ => by
      rw [show guest off + 8 = guest (off + 8) from guest_add off 8, guest_add]
      exact writes_writeByte _ (by omega)
  unfold writeSaveFields
  rw [show guest off + 4 = guest (off + 4) from guest_add off 4,
    show guest off + 6 = guest (off + 6) from guest_add off 6,
    show guest off + 24 = guest (off + 24) from guest_add off 24,
    show guest off + 28 = guest (off + 28) from guest_add off 28]
  exact (writes_writeWord _ (by omega)).bind ((writes_writeHalf _ (by omega)).bind
    ((writes_writeHalf _ (by omega)).bind (hbytes.bind ((writes_writeWord _ (by omega)).bind
      (writes_writeWord _ (by omega))))))

theorem readByte_guest (m : Rdram) (h : off ≤ 0x20000000) : readByte m (guest off) = logical m off := by
  unfold readByte logical
  rw [guestOffset_guest h]

theorem readHalf_guest (m : Rdram) (h : off + 1 ≤ 0x20000000) :
    readHalf m (guest off) = get16 (logical m) off := by
  unfold readHalf get16
  rw [show guest off + 1 = guest (off + 1) from guest_add off 1, readByte_guest m (by omega),
    readByte_guest m h]

theorem readWord_guest (m : Rdram) (h : off + 3 ≤ 0x20000000) :
    readWord m (guest off) = get32 (logical m) off := by
  unfold readWord
  rw [show guest off + 1 = guest (off + 1) from guest_add off 1,
    show guest off + 2 = guest (off + 2) from guest_add off 2,
    show guest off + 3 = guest (off + 3) from guest_add off 3, readByte_guest m (by omega),
    readByte_guest m (by omega), readByte_guest m (by omega), readByte_guest m h, get32_eq_bytes]

/-- What the reader reads is what the guest has there. -/
theorem readRdramCampaignSave_guest (m : Rdram) (haligned : aligned (guest off) = true)
    (h : off + 32 ≤ 0x20000000) :
    readRdramCampaignSave m (guest off) = .ok (getCampaignSave (logical m) off) := by
  have hmask : (guest off &&& 3 != 0) = false := by
    rw [bne_eq_false_iff_eq]
    exact LawfulBEq.eq_of_beq haligned
  have hbinding : (Vector.ofFn fun i : Fin 16 => readByte m (guest off + 8 + BitVec.ofNat 32 i))
      = Vector.ofFn fun i : Fin 16 => logical m (off + 8 + i) := by
    refine congrArg Vector.ofFn (funext fun i => ?_)
    rw [show guest off + 8 = guest (off + 8) from guest_add off 8, guest_add, readByte_guest m (by omega)]
  unfold readRdramCampaignSave getCampaignSave
  rw [hmask, validSpan_iff.mpr ⟨off, rfl, h⟩, hbinding,
    show guest off + 4 = guest (off + 4) from guest_add off 4,
    show guest off + 6 = guest (off + 6) from guest_add off 6,
    show guest off + 24 = guest (off + 24) from guest_add off 24,
    show guest off + 28 = guest (off + 28) from guest_add off 28, readWord_guest m (by omega),
    readHalf_guest m (by omega), readHalf_guest m (by omega), readWord_guest m (by omega),
    readWord_guest m (by omega)]
  rfl

/-! ## The stage -/

/-- The two sets in the image. -/
def putCheckSets (b : ByteLayout.Image) (off : Nat) (selected observed : CheckSet) : ByteLayout.Image :=
  (List.finRange 28).foldl (fun b (i : Fin 28) => put32 (put32 b (off + 40 + 4 * i)
    (checkWord selected i)) (off + 152 + 4 * i) (checkWord observed i)) b

/-- The stage in the image. -/
def stageImage (b : ByteLayout.Image) (off : Nat) (snapshot : CampaignStageSnapshot) : ByteLayout.Image :=
  let b := put16 (put16 (put32 b off campaignStageMagic) (off + 4) campaignStageFormat) (off + 6) 0
  let b := putCampaignSave b (off + 8) snapshot.identity
  let b := putCheckSets b off snapshot.selected snapshot.observed
  let b := put32 b (off + 264) (BitVec.ofNat 32 snapshot.itemIds.length)
  let b := put32 b (off + 268) (snapshot.nextItem.getD 0)
  let b := put16 (put16 b (off + 272) (if snapshot.nextItem.isSome then 1 else 0)) (off + 274) 0
  putWords b (off + 276) fun i : Fin snapshot.itemIds.length => snapshot.itemIds[i]

theorem putCheckSets_of_outside {b : ByteLayout.Image} {k : Nat} (selected observed : CheckSet)
    (h : k < off + 40 ∨ off + 264 ≤ k) : putCheckSets b off selected observed k = b k :=
  foldl_of_outside (fun b i => by
    rw [put32_of_outside _ (by omega), put32_of_outside _ (by omega)]) b _

theorem getCheckSet_selected (b : ByteLayout.Image) (off : Nat) (selected observed : CheckSet) :
    getCheckSet (putCheckSets b off selected observed) (off + 40) = selected := by
  have hwords : getWords 28 (putCheckSets b off selected observed) (off + 40)
      = fun i : Fin 28 => checkWord selected i := by
    funext i
    refine foldl_of_write (fun b => get32 b (off + 40 + 4 * i)) (i := i) (fun b => ?_)
      (fun b j hj => ?_) b
    · rw [get32_put32_of_disjoint _ (by omega), get32_put32_self]
    · have hne : j.val ≠ i.val := fun h => hj (Fin.ext h)
      rw [get32_put32_of_disjoint _ (by omega), get32_put32_of_disjoint _ (by omega)]
  unfold getCheckSet
  rw [hwords, checkSetOfWords_checkWord]

theorem getCheckSet_observed (b : ByteLayout.Image) (off : Nat) (selected observed : CheckSet) :
    getCheckSet (putCheckSets b off selected observed) (off + 152) = observed := by
  have hwords : getWords 28 (putCheckSets b off selected observed) (off + 152)
      = fun i : Fin 28 => checkWord observed i := by
    funext i
    refine foldl_of_write (fun b => get32 b (off + 152 + 4 * i)) (i := i) (fun b => ?_)
      (fun b j hj => ?_) b
    · rw [get32_put32_self]
    have hne : j.val ≠ i.val := fun h => hj (Fin.ext h)
    rw [get32_put32_of_disjoint _ (by omega), get32_put32_of_disjoint _ (by omega)]
  unfold getCheckSet
  rw [hwords, checkSetOfWords_checkWord]

theorem getCheckSet_congr {b b' : ByteLayout.Image} (h : ∀ k, off ≤ k → k < off + 112 → b k = b' k) :
    getCheckSet b off = getCheckSet b' off := by
  unfold getCheckSet
  refine congrArg checkSetOfWords (funext fun i => get32_congr fun k _ _ => h k (by omega) (by omega))

theorem stageImage_of_outside {b : ByteLayout.Image} {k : Nat} (snapshot : CampaignStageSnapshot)
    (h : k < off ∨ off + (276 + 4 * snapshot.itemIds.length) ≤ k) : stageImage b off snapshot k = b k := by
  unfold stageImage
  rw [putWords_of_outside _ (by omega), put16_of_outside _ (by omega), put16_of_outside _ (by omega),
    put32_of_outside _ (by omega), put32_of_outside _ (by omega), putCheckSets_of_outside _ _ (by omega),
    putCampaignSave_of_outside _ (by omega), put16_of_outside _ (by omega),
    put16_of_outside _ (by omega), put32_of_outside _ (by omega)]

/-- **The stage reads back**, with what the memory holds behind it. -/
theorem getCampaignStageWire_stageImage (b : ByteLayout.Image) (off : Nat) (snapshot : CampaignStageSnapshot) :
    getCampaignStageWire (stageImage b off snapshot) off
      = snapshot.block fun i => get32 b (off + 276 + 4 * i) := by
  have hmagic : get32 (stageImage b off snapshot) off = campaignStageMagic := by
    unfold stageImage
    rw [get32_putWords_of_disjoint _ (by omega), get32_put16_of_disjoint _ (by omega),
      get32_put16_of_disjoint _ (by omega), get32_put32_of_disjoint _ (by omega),
      get32_put32_of_disjoint _ (by omega), get32_congr fun k _ _ => putCheckSets_of_outside _ _ (by omega),
      get32_congr fun k _ _ => putCampaignSave_of_outside _ (by omega),
      get32_put16_of_disjoint _ (by omega), get32_put16_of_disjoint _ (by omega), get32_put32_self]
  have hformat : get16 (stageImage b off snapshot) (off + 4) = campaignStageFormat := by
    unfold stageImage
    rw [get16_putWords_of_disjoint _ (by omega), get16_put16_of_disjoint _ (by omega),
      get16_put16_of_disjoint _ (by omega), get16_put32_of_disjoint _ (by omega),
      get16_put32_of_disjoint _ (by omega), get16_congr fun k _ _ => putCheckSets_of_outside _ _ (by omega),
      get16_congr fun k _ _ => putCampaignSave_of_outside _ (by omega),
      get16_put16_of_disjoint _ (by omega), get16_put16_self]
  have hreserved : get16 (stageImage b off snapshot) (off + 6) = 0 := by
    unfold stageImage
    rw [get16_putWords_of_disjoint _ (by omega), get16_put16_of_disjoint _ (by omega),
      get16_put16_of_disjoint _ (by omega), get16_put32_of_disjoint _ (by omega),
      get16_put32_of_disjoint _ (by omega), get16_congr fun k _ _ => putCheckSets_of_outside _ _ (by omega),
      get16_congr fun k _ _ => putCampaignSave_of_outside _ (by omega), get16_put16_self]
  have hidentity : getCampaignSave (stageImage b off snapshot) (off + 8) = snapshot.identity := by
    unfold stageImage
    rw [getCampaignSave_congr fun k _ _ => by
      rw [putWords_of_outside _ (by omega), put16_of_outside _ (by omega), put16_of_outside _ (by omega),
        put32_of_outside _ (by omega), put32_of_outside _ (by omega),
        putCheckSets_of_outside _ _ (by omega)]]
    exact getCampaignSave_putCampaignSave _ _ _
  have hselected : getCheckSet (stageImage b off snapshot) (off + 40) = snapshot.selected := by
    unfold stageImage
    rw [getCheckSet_congr fun k _ _ => by
      rw [putWords_of_outside _ (by omega), put16_of_outside _ (by omega), put16_of_outside _ (by omega),
        put32_of_outside _ (by omega), put32_of_outside _ (by omega)]]
    exact getCheckSet_selected _ _ _ _
  have hobserved : getCheckSet (stageImage b off snapshot) (off + 152) = snapshot.observed := by
    unfold stageImage
    rw [getCheckSet_congr fun k _ _ => by
      rw [putWords_of_outside _ (by omega), put16_of_outside _ (by omega), put16_of_outside _ (by omega),
        put32_of_outside _ (by omega), put32_of_outside _ (by omega)]]
    exact getCheckSet_observed _ _ _ _
  have hcount : get32 (stageImage b off snapshot) (off + 264) = BitVec.ofNat 32 snapshot.itemIds.length := by
    unfold stageImage
    rw [get32_putWords_of_disjoint _ (by omega), get32_put16_of_disjoint _ (by omega),
      get32_put16_of_disjoint _ (by omega), get32_put32_of_disjoint _ (by omega), get32_put32_self]
  have hnext : get32 (stageImage b off snapshot) (off + 268) = snapshot.nextItem.getD 0 := by
    unfold stageImage
    rw [get32_putWords_of_disjoint _ (by omega), get32_put16_of_disjoint _ (by omega),
      get32_put16_of_disjoint _ (by omega), get32_put32_self]
  have hvalid : get16 (stageImage b off snapshot) (off + 272)
      = if snapshot.nextItem.isSome then 1 else 0 := by
    unfold stageImage
    rw [get16_putWords_of_disjoint _ (by omega), get16_put16_of_disjoint _ (by omega), get16_put16_self]
  have htransaction : get16 (stageImage b off snapshot) (off + 274) = 0 := by
    unfold stageImage
    rw [get16_putWords_of_disjoint _ (by omega), get16_put16_self]
  have hitems : (fun i => get32 (stageImage b off snapshot) (off + 276 + 4 * i))
      = fun i => (snapshot.itemIds[i]?).getD (get32 b (off + 276 + 4 * i)) := by
    funext i
    by_cases hi : i < snapshot.itemIds.length
    · rw [List.getElem?_eq_getElem hi]
      exact get32_putWords_self _ (off + 276) _ (⟨i, hi⟩ : Fin snapshot.itemIds.length)
    · rw [List.getElem?_eq_none (by omega), Option.getD_none]
      exact get32_congr fun k _ _ => stageImage_of_outside snapshot (by omega)
  unfold getCampaignStageWire CampaignStageSnapshot.block
  rw [hmagic, hformat, hreserved, hidentity, hselected, hobserved, hcount, hnext, hvalid, htransaction,
    hitems]

/-- The snapshot is in the block. -/
theorem snapshot_block {snapshot : CampaignStageSnapshot} (behind : Nat → Word)
    (hfew : snapshot.itemIds.length ≤ campaignReceiptLimit) :
    (snapshot.block behind).snapshot = snapshot := by
  have hreceipts := (receipts_block behind hfew).2
  have hnext : (if (snapshot.block behind).nextItemValid = 0 then none
      else some (snapshot.block behind).nextItemId) = snapshot.nextItem := by
    change (if (if snapshot.nextItem.isSome then (1 : Half) else 0) = 0 then none
      else some (snapshot.nextItem.getD 0)) = snapshot.nextItem
    cases snapshot.nextItem with
    | none => rfl
    | some id => rfl
  unfold CampaignStageWire.snapshot
  rw [hreceipts, hnext]
  rfl

theorem writes_stageSets (snapshot : CampaignStageSnapshot) (h : off + 264 ≤ 0x20000000) :
    Writes (Prog.forEach (List.finRange 28) fun (i : Fin 28) => do
        writeWord (guest off + selectedOffset + BitVec.ofNat 32 (4 * i)) (checkWord snapshot.selected i)
        writeWord (guest off + observedOffset + BitVec.ofNat 32 (4 * i)) (checkWord snapshot.observed i))
      fun b => putCheckSets b off snapshot.selected snapshot.observed := by
  refine Writes.forEach fun i _ => ?_
  rw [show guest off + selectedOffset = guest (off + 40) from guest_add off 40,
    show guest off + observedOffset = guest (off + 152) from guest_add off 152, guest_add, guest_add]
  exact (writes_writeWord _ (by omega)).bind (writes_writeWord _ (by omega))

theorem writes_stageItems {snapshot : CampaignStageSnapshot}
    (h : off + (276 + 4 * snapshot.itemIds.length) ≤ 0x20000000) :
    Writes (Prog.forEach (List.finRange snapshot.itemIds.length) fun i =>
        writeWord (guest off + itemIdsOffset + BitVec.ofNat 32 (4 * i)) snapshot.itemIds[i])
      fun b => putWords b (off + 276) fun i : Fin snapshot.itemIds.length => snapshot.itemIds[i] := by
  refine Writes.forEach fun i _ => ?_
  rw [show guest off + itemIdsOffset = guest (off + 276) from guest_add off 276, guest_add]
  exact writes_writeWord _ (by omega)

theorem writes_writeStageFields {snapshot : CampaignStageSnapshot}
    (h : off + (276 + 4 * snapshot.itemIds.length) ≤ 0x20000000) :
    Writes (writeStageFields (guest off) snapshot) fun b => stageImage b off snapshot := by
  have hmagic := writes_writeWord campaignStageMagic (show off + 4 ≤ 0x20000000 by omega)
  have hformat := writes_writeHalf campaignStageFormat (show off + 4 + 2 ≤ 0x20000000 by omega)
  have hreserved := writes_writeHalf 0 (show off + 6 + 2 ≤ 0x20000000 by omega)
  have hidentity := writes_writeSaveFields snapshot.identity (show off + 8 + 32 ≤ 0x20000000 by omega)
  have hsets := writes_stageSets snapshot (show off + 264 ≤ 0x20000000 by omega)
  have hcount := writes_writeWord (BitVec.ofNat 32 snapshot.itemIds.length)
    (show off + 264 + 4 ≤ 0x20000000 by omega)
  have hnext := writes_writeWord (snapshot.nextItem.getD 0) (show off + 268 + 4 ≤ 0x20000000 by omega)
  have hvalid := writes_writeHalf (if snapshot.nextItem.isSome then 1 else 0)
    (show off + 272 + 2 ≤ 0x20000000 by omega)
  have htransaction := writes_writeHalf 0 (show off + 274 + 2 ≤ 0x20000000 by omega)
  unfold writeStageFields
  rw [show guest off + 4 = guest (off + 4) from guest_add off 4,
    show guest off + 6 = guest (off + 6) from guest_add off 6,
    show guest off + identityOffset = guest (off + 8) from guest_add off 8,
    show guest off + 264 = guest (off + 264) from guest_add off 264,
    show guest off + 268 = guest (off + 268) from guest_add off 268,
    show guest off + 272 = guest (off + 272) from guest_add off 272,
    show guest off + 274 = guest (off + 274) from guest_add off 274]
  have hall := hmagic.bind (hformat.bind (hreserved.bind (hidentity.bind (hsets.bind (hcount.bind
    (hnext.bind (hvalid.bind (htransaction.bind (writes_stageItems h)))))))))
  refine (congrArg₂ Writes ?_ ?_).mp hall
  · congr 1
  · rfl

/-! ## What is refused -/

theorem checkWord_zero (i : Nat) : checkWord 0#896 i = 0#32 := BitVec.extractLsb'_zero

theorem checkWord_eq_zero_iff {set : CheckSet} :
    (∀ i ∈ List.range 28, checkWord set i = 0#32) ↔ set = 0#896 := by
  constructor
  · intro h
    have hwords : (fun i : Fin 28 => checkWord set i) = fun i : Fin 28 => checkWord 0#896 i := by
      funext i
      rw [h i (List.mem_range.mpr i.isLt), checkWord_zero]
    rw [← checkSetOfWords_checkWord set, hwords, checkSetOfWords_checkWord]
  · rintro rfl i -
    exact checkWord_zero i

theorem checkWord_and_not (a b : CheckSet) (i : Nat) (hi : i < 28) :
    checkWord a i &&& ~~~ checkWord b i = checkWord (a &&& ~~~ b) i := by
  refine BitVec.eq_of_getLsbD_eq fun j hj => ?_
  have hbound : 32 * i + j < 896 := by omega
  unfold checkWord
  simp [hj, hbound]

/-- The tests, with the loop over the words as one. -/
theorem written_iff (t : LocationTable) (address : Word) (snapshot : CampaignStageSnapshot) :
    Written t address snapshot ↔ stageRefused t address snapshot = false ∧
      ((List.range 28).any fun i =>
        checkWord snapshot.observed i &&& ~~~ checkWord snapshot.selected i != 0) = false ∧
      validSpan address (276 + 4 * snapshot.itemIds.length) = true := by
  have hany : ((List.range 28).any fun i =>
      checkWord snapshot.observed i &&& ~~~ checkWord snapshot.selected i != 0) = false ↔
      (snapshot.observed &&& ~~~ snapshot.selected != 0#896) = false := by
    rw [List.any_eq_false, bne_eq_false_iff_eq, ← checkWord_eq_zero_iff]
    refine forall₂_congr fun i hi => ?_
    rw [checkWord_and_not _ _ _ (List.mem_range.mp hi), bne_iff_ne, not_not]
    rfl
  have hguard : (Written t address snapshot ∧ snapshot.block (fun _ => 0) = snapshot.block fun _ => 0) ↔
      (stageRefused t address snapshot || snapshot.observed &&& ~~~ snapshot.selected != 0#896 ||
        !validSpan address (itemIdsOffset.toNat + 4 * snapshot.itemIds.length)) = false := by
    rw [← writeCampaignStage_eq_ok_iff]
    unfold writeCampaignStage
    split
    · rename_i hrefused
      exact ⟨(fun h => nomatch h), fun h => absurd (hrefused.symm.trans h) (by decide)⟩
    · rename_i haccepted
      exact ⟨fun _ => Bool.eq_false_of_not_eq_true haccepted, fun _ => rfl⟩
  rw [Bool.or_eq_false_iff, Bool.or_eq_false_iff, Bool.not_eq_false', and_assoc, ← hany] at hguard
  exact ⟨fun h => hguard.mp ⟨h, rfl⟩, fun h => (hguard.mpr h).1⟩

/-! ## The codec -/

/-- Nothing was written. -/
theorem untouched_of_spec {p : RdramProgram Unit} {m : Rdram}
    (h : Spec (· = m) (fun _ => False) p (fun _ _ => False)
      fun e n => e = .failure .config ∧ n = m) :
    (p m).result = .error (.failure .config) ∧ (p m).states = [] ∧ (p m).final = m := by
  obtain ⟨hstates, hend⟩ := h m rfl
  have hnil : (p m).states = [] := List.eq_nil_iff_forall_not_mem.mpr hstates
  cases hresult : (p m).result with
  | ok a =>
    rw [hresult] at hend
    exact absurd hend id
  | error e =>
    rw [hresult] at hend
    exact ⟨by rw [hend.1], hnil, hend.2⟩

theorem ok_of_writes {p : RdramProgram Unit} {f : ByteLayout.Image → ByteLayout.Image}
    (h : Writes p f) (m : Rdram) :
    (p m).result = .ok () ∧ logical (p m).final = f (logical m) := by
  obtain ⟨-, hend⟩ := h (logical m) m rfl
  cases hresult : (p m).result with
  | ok a =>
    rw [hresult] at hend
    exact ⟨rfl, hend⟩
  | error e =>
    rw [hresult] at hend
    exact absurd hend id

/-- A test that passes writes nothing. -/
theorem writes_failIf {p : RdramProgram Unit} {f : ByteLayout.Image → ByteLayout.Image}
    {c : Bool} {e : Thrown} (hc : c = false) (hp : Writes p f) : Writes (Prog.failIf c e >>= fun _ => p) f := by
  intro b
  rw [hc]
  exact hp b

/-- A test that fails writes nothing. -/
theorem spec_failIf {p : RdramProgram Unit} {m : Rdram} {c : Bool}
    (hp : c = false → Spec (· = m) (fun _ => False) p (fun _ _ => False)
      fun e n => e = .failure .config ∧ n = m) :
    Spec (· = m) (fun _ => False) (Prog.failIf c (.failure .config) >>= fun _ => p) (fun _ _ => False)
      fun e n => e = .failure .config ∧ n = m := by
  cases c with
  | true => exact Spec.fail fun _ hn => ⟨rfl, hn⟩
  | false => exact hp rfl

/-- **A header is written whole.** -/
theorem writeRdramCampaignSave_spec {address : Word} (save : CampaignSave)
    (haligned : aligned address = true) (hspan : validSpan address 32 = true) :
    Writes (writeRdramCampaignSave address save) fun b =>
      putCampaignSave b (guestOffset address) save := by
  obtain ⟨off, rfl, h⟩ := validSpan_iff.mp hspan
  rw [guestOffset_guest (by omega)]
  refine writes_failIf ?_ (writes_failIf ?_ (writes_writeSaveFields save h))
  · rw [bne_eq_false_iff_eq]
    exact LawfulBEq.eq_of_beq haligned
  · rw [hspan]
    rfl

/-- **A snapshot is written whole.** -/
theorem writeRdramCampaignStage_spec {t : LocationTable} {address : Word}
    {snapshot : CampaignStageSnapshot} (h : Written t address snapshot) :
    Writes (writeRdramCampaignStage t address snapshot) fun b =>
      stageImage b (guestOffset address) snapshot := by
  obtain ⟨hrefused, hany, hspan⟩ := (written_iff t address snapshot).mp h
  obtain ⟨off, rfl, hoff⟩ := validSpan_iff.mp hspan
  rw [guestOffset_guest (by omega)]
  unfold writeRdramCampaignStage
  rw [Prog.forEach_failIf]
  refine writes_failIf hrefused (writes_failIf hany (writes_failIf ?_ (writes_writeStageFields hoff)))
  rw [hspan]
  rfl

/-- **The codec of guest memory.** A header that is written reads back, and so does a snapshot at the
offsets of the struct; every byte outside the span is as before; and where the span or the snapshot is
refused, no byte has been written. -/
theorem rdram_codec (t : LocationTable) (m : Rdram) (address : Word) :
    (∀ save,
      (aligned address = true ∧ validSpan address 32 = true →
        (writeRdramCampaignSave address save m).result = .ok () ∧
        readRdramCampaignSave (writeRdramCampaignSave address save m).final address = .ok save ∧
        ∀ k, k < guestOffset address ∨ guestOffset address + 32 ≤ k →
          logical (writeRdramCampaignSave address save m).final k = logical m k) ∧
      (¬ (aligned address = true ∧ validSpan address 32 = true) →
        (writeRdramCampaignSave address save m).result = .error (.failure .config) ∧
        (writeRdramCampaignSave address save m).states = [] ∧
        (writeRdramCampaignSave address save m).final = m)) ∧
    ∀ snapshot,
      (Written t address snapshot →
        (writeRdramCampaignStage t address snapshot m).result = .ok () ∧
        getCampaignStageWire (logical (writeRdramCampaignStage t address snapshot m).final)
          (guestOffset address)
            = snapshot.block (fun i => get32 (logical m) (guestOffset address + 276 + 4 * i)) ∧
        (getCampaignStageWire (logical (writeRdramCampaignStage t address snapshot m).final)
          (guestOffset address)).snapshot = snapshot ∧
        ∀ k, k < guestOffset address ∨
            guestOffset address + (276 + 4 * snapshot.itemIds.length) ≤ k →
          logical (writeRdramCampaignStage t address snapshot m).final k = logical m k) ∧
      (¬ Written t address snapshot →
        (writeRdramCampaignStage t address snapshot m).result = .error (.failure .config) ∧
        (writeRdramCampaignStage t address snapshot m).states = [] ∧
        (writeRdramCampaignStage t address snapshot m).final = m) := by
  refine ⟨fun save => ⟨fun ⟨haligned, hspan⟩ => ?_, fun hrefused => untouched_of_spec ?_⟩,
    fun snapshot => ⟨fun hwritten => ?_, fun hrefused => untouched_of_spec ?_⟩⟩
  · obtain ⟨hok, hfinal⟩ := ok_of_writes (writeRdramCampaignSave_spec save haligned hspan) m
    refine ⟨hok, ?_, fun k hk => ?_⟩
    · obtain ⟨off, rfl, hoff⟩ := validSpan_iff.mp hspan
      rw [guestOffset_guest (by omega)] at hfinal
      rw [readRdramCampaignSave_guest _ haligned hoff, hfinal, getCampaignSave_putCampaignSave]
    · rw [hfinal, putCampaignSave_of_outside save hk]
  · refine spec_failIf fun hmask => spec_failIf fun hspan => absurd ⟨?_, ?_⟩ hrefused
    · exact beq_of_eq (bne_eq_false_iff_eq.mp hmask)
    · exact (Bool.not_eq_false' _).mp hspan
  · obtain ⟨hok, hfinal⟩ := ok_of_writes (writeRdramCampaignStage_spec hwritten) m
    refine ⟨hok, ?_, ?_, fun k hk => ?_⟩
    · rw [hfinal, getCampaignStageWire_stageImage]
    · rw [hfinal, getCampaignStageWire_stageImage, snapshot_block _ hwritten.few]
    · rw [hfinal, stageImage_of_outside snapshot hk]
  · unfold writeRdramCampaignStage
    rw [Prog.forEach_failIf]
    refine spec_failIf fun h => spec_failIf fun hany => spec_failIf fun hspan => absurd ?_ hrefused
    exact (written_iff t address snapshot).mpr ⟨h, hany, (Bool.not_eq_false' _).mp hspan⟩

/-- The header of a fresh save, at the end of the window. -/
theorem rdram_codec_end :
    (writeRdramCampaignSave 0x9FFFFFE0 freshHeader fun _ => 0).result = .ok () ∧
      readRdramCampaignSave (writeRdramCampaignSave 0x9FFFFFE0 freshHeader fun _ => 0).final 0x9FFFFFE0
        = .ok freshHeader := by
  have haligned : aligned 0x9FFFFFE0 = true := by decide
  have hspan : validSpan 0x9FFFFFE0 32 = true := by decide
  obtain ⟨hok, hread, -⟩ :=
    ((rdram_codec emptyTable (fun _ => 0) 0x9FFFFFE0).1 freshHeader).1 ⟨haligned, hspan⟩
  exact ⟨hok, hread⟩

end Dk64Port.Archipelago
