import Dk64Port.Recomp.U32Slotmap

/-!
# Object extensions (`recomp_extension_api.cpp`)

Mods register data for every object of a type, for one subtype or for all. An object gets one block when
it is created: the generic data first, behind it that of its subtype. Where an extension's data is in the
block is computed from the totals when it is looked up. A registration for a subtype is refused once an
object was created; a generic one is not.

* `Extensions`, `ExtensionCall`, `Extensions.step`: the code, the game and the mods around it.
* `Layout`: the extensions of a type lie one behind the other; `Objects`: every object has its block.
* `Isolated`, `Stable`: what mods rely on.
* `extensions_isolated`: **it holds in every state of a run without a late generic registration.**
* `late_generic_registration`: such a registration moves the data of objects that are there.
-/

namespace Dk64Port.Recomp

open ByteLayout (Byte)
open SwappedMemory

/-- `ExtensionInfo`, and the size that was registered (nothing reads it). -/
structure ExtensionInfo where
  subtypeIndex : Word := 0
  dataOffset : Word := 0
  size : Word := 0
deriving DecidableEq

/-- `ExtensionData`; nothing reads the last three fields: the subtype, the size of the block, and the
extensions that were written through. -/
structure ExtensionData where
  objectSpawnIndex : Word
  dataAddr : Word
  subtypeIndex : Word
  blockSize : Word
  written : List Word := []

/-- `ExtensionContext`, and the handles that were issued and destroyed since it was cleared. -/
structure ExtensionContext where
  dataSizes : List Word := []
  genericDataSize : Word := 0
  extensions : List ExtensionInfo := [{}]
  extensionData : LockedSlotmap ExtensionData := ∅
  spawnCount : Word := 0
  issued : List Word := []
  destroyed : List Word := []

/-- The contexts of the types, after `init_extended_object_data`, and the blocks that are allocated. -/
structure Extensions where
  contexts : Nat → ExtensionContext := fun _ => {}
  canRegister : Bool := true
  memory : Rdram
  heap : List (Nat × Nat) := []
  /-- The process was ended. -/
  exited : Bool := false

/-- `0xFFFFFFFF`. -/
def genericIndex : Word := 0xFFFFFFFF

/-- `round_up_16`. -/
def roundUp16 (value : Word) : Word := (value + 15) &&& ~~~ 15

namespace ExtensionContext

/-- `data_sizes`, with room for a subtype. -/
def resized (c : ExtensionContext) (subtype : Word) : List Word :=
  if c.dataSizes.length ≤ subtype.toNat then
    c.dataSizes ++ List.replicate (subtype.toNat + 1 - c.dataSizes.length) 0
  else c.dataSizes

/-- What `recomp_register_object_extension` does to the context. -/
def register (c : ExtensionContext) (subtype size : Word) : ExtensionContext :=
  let dataOffset := (c.resized subtype).getD subtype.toNat 0
  { c with
    dataSizes := (c.resized subtype).set subtype.toNat (dataOffset + roundUp16 size)
    extensions := c.extensions ++ [⟨subtype, dataOffset, size⟩] }

/-- What `recomp_register_object_extension_generic` does to the context. -/
def registerGeneric (c : ExtensionContext) (size : Word) : ExtensionContext :=
  { c with
    genericDataSize := c.genericDataSize + roundUp16 size
    extensions := c.extensions ++ [⟨genericIndex, c.genericDataSize, size⟩] }

end ExtensionContext

namespace Extensions

def setContext (s : Extensions) (type : Nat) (c : ExtensionContext) : Extensions :=
  { s with contexts := Function.update s.contexts type c }

/-- `recomp_register_object_extension`. -/
def register (s : Extensions) (type : Nat) (subtype size : Word) : Extensions :=
  if !s.canRegister then { s with exited := true }
  else s.setContext type ((s.contexts type).register subtype size)

/-- `recomp_register_object_extension_generic`. -/
def registerGeneric (s : Extensions) (type : Nat) (size : Word) : Extensions :=
  s.setContext type ((s.contexts type).registerGeneric size)

/-- `clear_all_object_data`. -/
def clear (s : Extensions) (type : Nat) : Extensions :=
  s.setContext type
    { s.contexts type with extensionData := ∅, spawnCount := 0, issued := [], destroyed := [] }

/-- `alloc_size`. -/
def allocSize (c : ExtensionContext) (subtype : Word) : Word :=
  if subtype.toNat < c.dataSizes.length then c.genericDataSize + c.dataSizes.getD subtype.toNat 0
  else c.genericDataSize

/-- `recomp_create_object_data`, where `alloc` gives the block at `off` and the slot map the handle. -/
def create (s : Extensions) (type : Nat) (subtype : Word) (off : Nat) (handle : Word) : Extensions :=
  let c := s.contexts type
  let size := allocSize c subtype
  let dataAddr : Word := if size ≠ 0 then guestAddress off else 0
  let data : ExtensionData := ⟨c.spawnCount, dataAddr, subtype, size, []⟩
  let s :=
    if size ≠ 0 then
      { s with
        memory := zeroBlock s.memory (hostOffset dataAddr) size.toNat
        heap := (off, size.toNat) :: s.heap }
    else s
  { s with canRegister := false }.setContext type
    { c with
      extensionData := c.extensionData.create handle data
      spawnCount := c.spawnCount + 1
      issued := handle :: c.issued }

/-- `recomp_destroy_object_data`. -/
def destroy (s : Extensions) (type : Nat) (handle : Word) : Extensions :=
  let c := s.contexts type
  match c.extensionData.get handle with
  | none => s
  | some data =>
    let s :=
      if data.dataAddr ≠ 0 then
        { s with heap := s.heap.filter fun block => block.1 ≠ hostOffset data.dataAddr }
      else s
    s.setContext type
      { c with
        extensionData := (c.extensionData.erase handle).2
        destroyed := handle :: c.destroyed }

/-- `recomp_get_object_data`. -/
def getData (s : Extensions) (type : Nat) (subtype handle extension : Word) : Word :=
  let c := s.contexts type
  if extension = 0 ∨ c.extensions.length ≤ extension.toNat then 0
  else
    let info := c.extensions.getD extension.toNat {}
    let generic := info.subtypeIndex == genericIndex
    if !generic && info.subtypeIndex != subtype then 0
    else
      match c.extensionData.get handle with
      | none => 0
      | some data =>
        data.dataAddr + (info.dataOffset + if generic then 0 else c.genericDataSize)

/-- `recomp_get_object_spawn_index`. -/
def getSpawnIndex (s : Extensions) (type : Nat) (handle : Word) : Word :=
  match (s.contexts type).extensionData.get handle with
  | none => 0xFFFFFFFF
  | some data => data.objectSpawnIndex

/-- A mod writes byte `i` of the data that `recomp_get_object_data` gave it. -/
def writeData (s : Extensions) (type : Nat) (subtype handle extension : Word) (i : Nat) (value : Byte) :
    Extensions :=
  let c := s.contexts type
  match c.extensionData.get handle with
  | none => s
  | some data =>
    { s with
      memory := storeB s.memory (hostOffset (s.getData type subtype handle extension) + i) value
      }.setContext type
      { c with
        extensionData :=
          c.extensionData.write handle { data with written := extension :: data.written } }

end Extensions

/-- What mods and the game do. -/
inductive ExtensionCall where
  | register (type : Nat) (subtype size : Word)
  | registerGeneric (type : Nat) (size : Word)
  | clear (type : Nat)
  | create (type : Nat) (subtype : Word) (off : Nat) (handle : Word)
  | destroy (type : Nat) (handle : Word)
  | writeData (type : Nat) (subtype handle extension : Word) (i : Nat) (value : Byte)
  /-- The game writes a byte somewhere else. -/
  | touch (k : Nat) (value : Byte)

/-- A call; none runs after the process has ended. -/
def Extensions.step (s : Extensions) (e : ExtensionCall) : Extensions :=
  if s.exited then s
  else
    match e with
    | .register type subtype size => s.register type subtype size
    | .registerGeneric type size => s.registerGeneric type size
    | .clear type => s.clear type
    | .create type subtype off handle => s.create type subtype off handle
    | .destroy type handle => s.destroy type handle
    | .writeData type subtype handle extension i value =>
      s.writeData type subtype handle extension i value
    | .touch k value => { s with memory := storeB s.memory k value }

/-! ## What mods rely on -/

/-- An object that is live. -/
def Extensions.object (s : Extensions) (type : Nat) (handle : Word) : Option ExtensionData :=
  (s.contexts type).extensionData.get handle

/-- An extension that applies to the objects of a subtype. -/
def Extensions.applies (s : Extensions) (type : Nat) (subtype extension : Word) (info : ExtensionInfo) :
    Prop :=
  extension ≠ 0 ∧ (s.contexts type).extensions[extension.toNat]? = some info ∧
    (info.subtypeIndex = genericIndex ∨ info.subtypeIndex = subtype)

/-- Offset `k` is in the data that a call gives, which has `size` bytes. -/
def InData (address : Word) (size k : Nat) : Prop :=
  hostOffset address ≤ k ∧ k < hostOffset address + size

/-- The data of every object is its own: it is inside a block that is allocated, no two extensions share
a byte, and what was not written through is zero. A handle that is not live gives null. -/
structure Isolated (s : Extensions) : Prop where
  inside : ∀ type handle data, s.object type handle = some data → ∀ extension info k,
    s.applies type data.subtypeIndex extension info →
    InData (s.getData type data.subtypeIndex handle extension) info.size.toNat k →
      (hostOffset data.dataAddr, data.blockSize.toNat) ∈ s.heap ∧
        InData data.dataAddr data.blockSize.toNat k
  disjoint : ∀ type handle data, s.object type handle = some data → ∀ extension info extension' info' k,
    s.applies type data.subtypeIndex extension info → s.applies type data.subtypeIndex extension' info' →
    InData (s.getData type data.subtypeIndex handle extension) info.size.toNat k →
    InData (s.getData type data.subtypeIndex handle extension') info'.size.toNat k →
      extension = extension'
  zero : ∀ type handle data, s.object type handle = some data → ∀ extension info k,
    s.applies type data.subtypeIndex extension info → extension ∉ data.written →
    InData (s.getData type data.subtypeIndex handle extension) info.size.toNat k →
      logical s.memory k = 0
  null : ∀ type handle, handle ∉ (s.contexts type).issued ∨ handle ∈ (s.contexts type).destroyed →
    ∀ subtype extension, s.getData type subtype handle extension = 0

/-- The data of an object stays where it is. -/
def Stable (s s' : Extensions) : Prop :=
  ∀ type handle data data', s.object type handle = some data → s'.object type handle = some data' →
    ∀ extension info, s.applies type data.subtypeIndex extension info →
      s'.getData type data.subtypeIndex handle extension
        = s.getData type data.subtypeIndex handle extension

/-- What is promised of the calls: no subtype is the generic one, the totals are below `2^32`, a block is
in the window and apart from every other, a handle is new, mods write through their extensions and the
game outside the blocks. -/
def ExtensionCall.promised (s : Extensions) : ExtensionCall → Prop
  | .register type subtype size => subtype ≠ genericIndex ∧
      ((s.contexts type).dataSizes.getD subtype.toNat 0).toNat + (size.toNat + 15) / 16 * 16 < 2 ^ 32
  | .registerGeneric type size =>
      (s.contexts type).genericDataSize.toNat + (size.toNat + 15) / 16 * 16 < 2 ^ 32
  | .clear _ => True
  | .create type subtype off handle => subtype ≠ genericIndex ∧
      (s.contexts type).genericDataSize.toNat
        + ((s.contexts type).dataSizes.getD subtype.toNat 0).toNat < 2 ^ 32 ∧
      off + (Extensions.allocSize (s.contexts type) subtype).toNat ≤ 0x20000000 ∧
      (∀ block ∈ s.heap, ∀ k, ¬ (block.1 ≤ k ∧ k < block.1 + block.2 ∧ off ≤ k ∧
        k < off + (Extensions.allocSize (s.contexts type) subtype).toNat)) ∧
      handle ∉ (s.contexts type).issued
  | .destroy _ _ => True
  | .writeData type subtype handle extension i _ => ∃ data info,
      s.object type handle = some data ∧ data.subtypeIndex = subtype ∧
        s.applies type subtype extension info ∧ i < info.size.toNat
  | .touch k _ => ∀ block ∈ s.heap, ¬ (block.1 ≤ k ∧ k < block.1 + block.2)

/-- A generic registration comes while no object of the type is live, or adds nothing. -/
def ExtensionCall.timely (s : Extensions) : ExtensionCall → Prop
  | .registerGeneric type size => size = 0 ∨ (s.contexts type).extensionData = ∅
  | _ => True

/-! ## The layout of a type -/

namespace Extensions

variable {s s' : Extensions} {type : Nat} {handle extension : Word} {data : ExtensionData}
  {info : ExtensionInfo} {c : ExtensionContext}

/-- The bytes that are registered for a subtype, or for all. -/
def extent (c : ExtensionContext) (subtype : Word) : Nat :=
  if subtype = genericIndex then c.genericDataSize.toNat
  else (c.dataSizes.getD subtype.toNat 0).toNat

/-- The extensions of one subtype lie one behind the other. -/
structure Layout (c : ExtensionContext) : Prop where
  dummy : 0 < c.extensions.length
  bound : ∀ (i : Nat) (info : ExtensionInfo), i ≠ 0 → c.extensions[i]? = some info →
    info.dataOffset.toNat + info.size.toNat ≤ extent c info.subtypeIndex
  apart : ∀ (i j : Nat) (info info' : ExtensionInfo), i ≠ 0 → i < j → c.extensions[i]? = some info →
    c.extensions[j]? = some info' → info.subtypeIndex = info'.subtypeIndex →
      info.dataOffset.toNat + info.size.toNat ≤ info'.dataOffset.toNat

theorem roundUp16_toNat (size : Word) (h : (size.toNat + 15) / 16 * 16 < 2 ^ 32) :
    (roundUp16 size).toNat = (size.toNat + 15) / 16 * 16 := by
  have hadd : (size + 15).toNat = size.toNat + 15 := by
    rw [BitVec.toNat_add]
    change (size.toNat + 15) % 2 ^ 32 = _
    have := size.isLt
    omega
  have hmask : ∀ v : Word, (v &&& ~~~ 15#32).toNat = v.toNat / 16 * 16 := by
    intro v
    have hlow : ∀ i, i < 32 → (15#32).getLsbD i = decide (i < 4) := by decide
    have hsplit : v &&& ~~~ 15#32 = (v >>> 4) <<< 4 := by
      refine BitVec.eq_of_getLsbD_eq fun i hi => ?_
      rw [BitVec.getLsbD_and, BitVec.getLsbD_not, hlow i hi, BitVec.getLsbD_shiftLeft,
        BitVec.getLsbD_ushiftRight]
      by_cases h4 : i < 4
      · simp [h4]
      · have hback : 4 + (i - 4) = i := by omega
        simp [h4, hi, hback]
    rw [hsplit, BitVec.toNat_shiftLeft, BitVec.toNat_ushiftRight, Nat.shiftRight_eq_div_pow,
      Nat.shiftLeft_eq]
    have := v.isLt
    omega
  exact (hmask _).trans (by rw [hadd])

/-- **An extension that is registered at the end of its bytes keeps the layout.** -/
theorem Layout.register (h : Layout c) {c' : ExtensionContext} {subtype dataOffset size : Word}
    (hextensions : c'.extensions = c.extensions ++ [⟨subtype, dataOffset, size⟩])
    (hoffset : dataOffset.toNat = extent c subtype)
    (hgrow : extent c subtype + size.toNat ≤ extent c' subtype)
    (hkeep : ∀ other, other ≠ subtype → extent c' other = extent c other) : Layout c' := by
  have hmono : ∀ other, extent c other ≤ extent c' other := by
    intro other
    by_cases ho : other = subtype
    · rw [ho]
      omega
    · rw [hkeep other ho]
  have hsplit : ∀ {i : Nat} {info : ExtensionInfo}, c'.extensions[i]? = some info →
      c.extensions[i]? = some info ∨ i = c.extensions.length ∧ info = ⟨subtype, dataOffset, size⟩ := by
    intro i info hi
    rw [hextensions] at hi
    rcases Nat.lt_trichotomy i c.extensions.length with hlt | heq | hgt
    · rw [List.getElem?_append_left hlt] at hi
      exact .inl hi
    · rw [heq, List.getElem?_append_right (Nat.le_refl _), Nat.sub_self] at hi
      exact .inr ⟨heq, (Option.some.inj hi).symm⟩
    · rw [List.getElem?_eq_none (by rw [List.length_append, List.length_singleton]; omega)] at hi
      cases hi
  refine ⟨?_, fun i info hne hi => ?_, fun i j info info' hne hlt hi hj hsame => ?_⟩
  · rw [hextensions, List.length_append]
    exact Nat.lt_add_right _ h.dummy
  · rcases hsplit hi with hold | ⟨-, rfl⟩
    · exact (h.bound i info hne hold).trans (hmono _)
    · change dataOffset.toNat + size.toNat ≤ extent c' subtype
      omega
  · rcases hsplit hj with hold | ⟨hlast, rfl⟩
    · rcases hsplit hi with hold' | ⟨hlast, -⟩
      · exact h.apart i j info info' hne hlt hold' hold hsame
      · have := (List.getElem?_eq_some_iff.mp hold).1
        omega
    · rcases hsplit hi with hold' | ⟨hlast', -⟩
      · change info.dataOffset.toNat + info.size.toNat ≤ dataOffset.toNat
        rw [hoffset]
        have hbound := h.bound i info hne hold'
        change info.subtypeIndex = subtype at hsame
        rwa [hsame] at hbound
      · omega

/-! ## Contexts that are set -/

@[simp] theorem setContext_self : (s.setContext type c).contexts type = c := Function.update_self _ _ _

theorem setContext_of_ne {other : Nat} (h : other ≠ type) :
    (s.setContext type c).contexts other = s.contexts other := Function.update_of_ne h _ _

/-! ## Where data is -/

/-- The place of an extension in a block. -/
def place (c : ExtensionContext) (info : ExtensionInfo) : Nat :=
  info.dataOffset.toNat + if info.subtypeIndex = genericIndex then 0 else c.genericDataSize.toNat

/-- What a lookup of an extension that applies gives. -/
theorem getData_of_applies (hobject : s.object type handle = some data)
    (happlies : s.applies type data.subtypeIndex extension info) :
    s.getData type data.subtypeIndex handle extension = data.dataAddr + (info.dataOffset +
      if info.subtypeIndex = genericIndex then 0 else (s.contexts type).genericDataSize) := by
  obtain ⟨hne, hinfo, hsubtype⟩ := happlies
  have hlt := (List.getElem?_eq_some_iff.mp hinfo).1
  have hvalid : ¬ (extension = 0 ∨ (s.contexts type).extensions.length ≤ extension.toNat) :=
    fun h => h.elim hne (Nat.not_le.mpr hlt)
  have hgetD : (s.contexts type).extensions.getD extension.toNat {} = info := by
    rw [List.getD_eq_getElem?_getD, hinfo, Option.getD_some]
  have happlies : (!(info.subtypeIndex == genericIndex) && info.subtypeIndex != data.subtypeIndex)
      = false := by
    rcases hsubtype with h | h
    · rw [beq_iff_eq.mpr h]
      rfl
    · rw [h]
      simp
  unfold getData
  rw [if_neg hvalid]
  dsimp only
  rw [hgetD, happlies, if_neg Bool.false_ne_true, show (s.contexts type).extensionData.get handle
    = some data from hobject]
  simp only [beq_iff_eq]

theorem hostOffset_add {address offset : Word} (h : hostOffset address + offset.toNat < 2 ^ 32) :
    hostOffset (address + offset) = hostOffset address + offset.toNat := by
  have hswap : address + offset - 0x80000000 = address - 0x80000000 + offset := by
    rw [BitVec.sub_eq_add_neg, BitVec.sub_eq_add_neg, BitVec.add_assoc, BitVec.add_comm offset,
      BitVec.add_assoc]
  unfold hostOffset at h ⊢
  rw [hswap, BitVec.toNat_add, Nat.mod_eq_of_lt h]

/-! ## Every object has its block -/

/-- The blocks of the objects, under the layout of their types. -/
structure Blocks (s : Extensions) : Prop where
  layout : ∀ type, Layout (s.contexts type)
  unspawned : s.canRegister = true → ∀ type handle, s.object type handle = none
  specific : ∀ type handle data, s.object type handle = some data → data.subtypeIndex ≠ genericIndex
  sized : ∀ type handle data, s.object type handle = some data → data.blockSize.toNat
    = (s.contexts type).genericDataSize.toNat + extent (s.contexts type) data.subtypeIndex
  block : ∀ type handle data, s.object type handle = some data → data.blockSize ≠ 0 →
    data.dataAddr ≠ 0 ∧ (hostOffset data.dataAddr, data.blockSize.toNat) ∈ s.heap ∧
      hostOffset data.dataAddr + data.blockSize.toNat ≤ 0x20000000
  blockless : ∀ type handle data, s.object type handle = some data → data.blockSize = 0 →
    data.dataAddr = 0
  apart : ∀ type handle data type' handle' data' k, s.object type handle = some data →
    s.object type' handle' = some data' → InData data.dataAddr data.blockSize.toNat k →
    InData data'.dataAddr data'.blockSize.toNat k → type = type' ∧ handle = handle'
  issued : ∀ type handle data, s.object type handle = some data →
    handle ∈ (s.contexts type).issued ∧ handle ∉ (s.contexts type).destroyed
  destroyed : ∀ type handle, handle ∈ (s.contexts type).destroyed → handle ∈ (s.contexts type).issued

/-- And what was not written through is zero. -/
structure Objects (s : Extensions) : Prop extends Blocks s where
  zero : ∀ type handle data, s.object type handle = some data → ∀ extension info k,
    s.applies type data.subtypeIndex extension info → extension ∉ data.written →
    InData (s.getData type data.subtypeIndex handle extension) info.size.toNat k →
      logical s.memory k = 0

/-- An extension is in the bytes of the block. -/
theorem place_le (h : Blocks s) (hobject : s.object type handle = some data)
    (happlies : s.applies type data.subtypeIndex extension info) :
    place (s.contexts type) info + info.size.toNat ≤ data.blockSize.toNat := by
  obtain ⟨hne, hinfo, hsubtype⟩ := happlies
  have hindex : extension.toNat ≠ 0 := fun h0 => hne (BitVec.eq_of_toNat_eq h0)
  have hbound := (h.layout type).bound _ _ hindex hinfo
  have hsized := h.sized _ _ _ hobject
  unfold place
  by_cases hgeneric : info.subtypeIndex = genericIndex
  · rw [if_pos hgeneric]
    unfold extent at hbound
    rw [if_pos hgeneric] at hbound
    omega
  · rw [if_neg hgeneric]
    rw [hsubtype.resolve_left hgeneric] at hbound
    omega

/-- Two extensions have no byte in common. -/
theorem place_apart (h : Blocks s) {extension' : Word} {info' : ExtensionInfo}
    (happlies : s.applies type data.subtypeIndex extension info)
    (happlies' : s.applies type data.subtypeIndex extension' info') (hne : extension ≠ extension') :
    place (s.contexts type) info + info.size.toNat ≤ place (s.contexts type) info' ∨
      place (s.contexts type) info' + info'.size.toNat ≤ place (s.contexts type) info := by
  obtain ⟨hzero, hinfo, hsubtype⟩ := happlies
  obtain ⟨hzero', hinfo', hsubtype'⟩ := happlies'
  have hindex : extension.toNat ≠ 0 := fun h0 => hzero (BitVec.eq_of_toNat_eq h0)
  have hindex' : extension'.toNat ≠ 0 := fun h0 => hzero' (BitVec.eq_of_toNat_eq h0)
  have hbound := (h.layout type).bound _ _ hindex hinfo
  have hbound' := (h.layout type).bound _ _ hindex' hinfo'
  have hdiffer : extension.toNat ≠ extension'.toNat := fun he => hne (BitVec.eq_of_toNat_eq he)
  -- In one subtype they lie one behind the other; generic data lies before the other.
  have horder : info.subtypeIndex = info'.subtypeIndex →
      info.dataOffset.toNat + info.size.toNat ≤ info'.dataOffset.toNat ∨
        info'.dataOffset.toNat + info'.size.toNat ≤ info.dataOffset.toNat := by
    intro hsame
    rcases Nat.lt_or_gt_of_ne hdiffer with hlt | hgt
    · exact .inl ((h.layout type).apart _ _ _ _ hindex hlt hinfo hinfo' hsame)
    · exact .inr ((h.layout type).apart _ _ _ _ hindex' hgt hinfo' hinfo hsame.symm)
  unfold place
  unfold extent at hbound hbound'
  by_cases hg : info.subtypeIndex = genericIndex
  · by_cases hg' : info'.subtypeIndex = genericIndex
    · rw [if_pos hg, if_pos hg']
      have := horder (hg.trans hg'.symm)
      omega
    · rw [if_pos hg] at hbound ⊢
      rw [if_neg hg']
      omega
  · by_cases hg' : info'.subtypeIndex = genericIndex
    · rw [if_pos hg'] at hbound' ⊢
      rw [if_neg hg]
      omega
    · rw [if_neg hg, if_neg hg']
      have := horder ((hsubtype.resolve_left hg).trans (hsubtype'.resolve_left hg').symm)
      omega

/-- A byte of an extension is at its place in the block. -/
theorem inData_place (h : Blocks s) {k : Nat} (hobject : s.object type handle = some data)
    (happlies : s.applies type data.subtypeIndex extension info)
    (hk : InData (s.getData type data.subtypeIndex handle extension) info.size.toNat k) :
    data.blockSize ≠ 0 ∧ hostOffset data.dataAddr + place (s.contexts type) info ≤ k ∧
      k < hostOffset data.dataAddr + place (s.contexts type) info + info.size.toNat := by
  have hplace := place_le h hobject happlies
  obtain ⟨hlow, hhigh⟩ := hk
  have hsize : data.blockSize ≠ 0 := by
    intro h0
    rw [h0] at hplace
    change _ ≤ 0 at hplace
    omega
  obtain ⟨-, -, hwindow⟩ := h.block _ _ _ hobject hsize
  have hgen : (if info.subtypeIndex = genericIndex then (0 : Word)
      else (s.contexts type).genericDataSize).toNat
      = if info.subtypeIndex = genericIndex then 0 else (s.contexts type).genericDataSize.toNat := by
    split <;> rfl
  have hsum : (info.dataOffset + if info.subtypeIndex = genericIndex then (0 : Word)
      else (s.contexts type).genericDataSize).toNat = place (s.contexts type) info := by
    rw [BitVec.toNat_add, hgen]
    exact Nat.mod_eq_of_lt (by unfold place at hplace; omega)
  have haddress : hostOffset (s.getData type data.subtypeIndex handle extension)
      = hostOffset data.dataAddr + place (s.contexts type) info := by
    rw [getData_of_applies hobject happlies, hostOffset_add (by rw [hsum]; omega), hsum]
  rw [haddress] at hlow hhigh
  exact ⟨hsize, hlow, hhigh⟩

/-- A byte of an extension is in the block. -/
theorem inData_block (h : Blocks s) {k : Nat} (hobject : s.object type handle = some data)
    (happlies : s.applies type data.subtypeIndex extension info)
    (hk : InData (s.getData type data.subtypeIndex handle extension) info.size.toNat k) :
    (hostOffset data.dataAddr, data.blockSize.toNat) ∈ s.heap ∧
      InData data.dataAddr data.blockSize.toNat k := by
  obtain ⟨hsize, hlow, hhigh⟩ := inData_place h hobject happlies hk
  have hplace := place_le h hobject happlies
  exact ⟨(h.block _ _ _ hobject hsize).2.1, by omega, by omega⟩

theorem getData_of_dead (hdead : s.object type handle = none) (subtype extension : Word) :
    s.getData type subtype handle extension = 0 := by
  unfold getData
  dsimp only
  rw [show (s.contexts type).extensionData.get handle = none from hdead]
  split
  · rfl
  · split <;> rfl

/-- **The data of every object is its own.** -/
theorem isolated_of_objects (h : Objects s) : Isolated s where
  inside := fun _ _ _ hobject _ _ _ happlies hk => inData_block h.toBlocks hobject happlies hk
  disjoint := fun type handle data hobject extension info extension' info' k happlies happlies' hk hk' => by
    by_contra hne
    obtain ⟨-, hlow, hhigh⟩ := inData_place h.toBlocks hobject happlies hk
    obtain ⟨-, hlow', hhigh'⟩ := inData_place h.toBlocks hobject happlies' hk'
    have hapart := place_apart h.toBlocks happlies happlies' hne
    omega
  zero := h.zero
  null := fun type handle hgone subtype extension => by
    refine getData_of_dead ?_ subtype extension
    cases hobject : s.object type handle with
    | none => rfl
    | some data =>
      obtain ⟨hissued, hdestroyed⟩ := h.issued _ _ _ hobject
      exact hgone.elim (absurd hissued) (absurd · hdestroyed)

/-! ## Steps -/

/-- What the objects that stay keep: their block, and the registrations that apply to them. -/
structure Keeps (s s' : Extensions) : Prop where
  extensions : ∀ type handle data, s.object type handle = some data → ∀ (i : Nat) info,
    (s.contexts type).extensions[i]? = some info → (s'.contexts type).extensions[i]? = some info
  generic : ∀ type handle data, s.object type handle = some data →
    (s'.contexts type).genericDataSize = (s.contexts type).genericDataSize
  data : ∀ type handle data data', s.object type handle = some data → s'.object type handle = some data' →
    data'.dataAddr = data.dataAddr ∧ data'.subtypeIndex = data.subtypeIndex

theorem applies_of_keeps (hkeeps : Keeps s s') (hobject : s.object type handle = some data) {subtype : Word}
    (happlies : s.applies type subtype extension info) : s'.applies type subtype extension info :=
  ⟨happlies.1, hkeeps.extensions _ _ _ hobject _ _ happlies.2.1, happlies.2.2⟩

theorem getData_of_keeps (hkeeps : Keeps s s') {data' : ExtensionData}
    (hobject : s.object type handle = some data) (hobject' : s'.object type handle = some data')
    (happlies : s.applies type data.subtypeIndex extension info) :
    s'.getData type data.subtypeIndex handle extension
      = s.getData type data.subtypeIndex handle extension := by
  obtain ⟨haddr, hsubtype⟩ := hkeeps.data _ _ _ _ hobject hobject'
  have happlies' := applies_of_keeps hkeeps hobject happlies
  rw [getData_of_applies hobject happlies, ← hsubtype, getData_of_applies hobject' (hsubtype ▸ happlies'),
    haddr, hkeeps.generic _ _ _ hobject]

theorem stable_of_keeps (hkeeps : Keeps s s') : Stable s s' :=
  fun _ _ _ _ hobject hobject' _ _ happlies => getData_of_keeps hkeeps hobject hobject' happlies

/-- A step that leaves the contexts alone. -/
theorem keeps_of_contexts_eq (h : s'.contexts = s.contexts) : Keeps s s' where
  extensions := fun _ _ _ _ _ _ hi => by rwa [h]
  generic := fun _ _ _ _ => by rw [h]
  data := fun type handle data data' hobject hobject' => by
    unfold object at hobject hobject'
    rw [h, hobject] at hobject'
    rw [Option.some.inj hobject']
    exact ⟨rfl, rfl⟩

theorem resized_getD (c : ExtensionContext) (subtype : Word) (i : Nat) :
    (c.resized subtype).getD i 0 = c.dataSizes.getD i 0 := by
  unfold ExtensionContext.resized
  split
  · rename_i hle
    rw [List.getD_eq_getElem?_getD, List.getD_eq_getElem?_getD]
    by_cases hi : i < c.dataSizes.length
    · rw [List.getElem?_append_left hi]
    · rw [List.getElem?_append_right (Nat.le_of_not_lt hi), List.getElem?_replicate,
        List.getElem?_eq_none (Nat.le_of_not_lt hi)]
      split <;> rfl
  · rfl

theorem resized_length (c : ExtensionContext) (subtype : Word) :
    subtype.toNat < (c.resized subtype).length := by
  unfold ExtensionContext.resized
  split
  · rw [List.length_append, List.length_replicate]
    omega
  · omega

/-- **A registration for a subtype keeps the layout.** -/
theorem layout_register (h : Layout c) {subtype size : Word} (hsubtype : subtype ≠ genericIndex)
    (hfits : (c.dataSizes.getD subtype.toNat 0).toNat + (size.toNat + 15) / 16 * 16 < 2 ^ 32) :
    Layout (c.register subtype size) := by
  have hround := roundUp16_toNat size (by omega)
  have hextent : extent c subtype = (c.dataSizes.getD subtype.toNat 0).toNat := if_neg hsubtype
  have hnew : extent (c.register subtype size) subtype
      = (c.dataSizes.getD subtype.toNat 0).toNat + (size.toNat + 15) / 16 * 16 := by
    unfold extent ExtensionContext.register
    rw [if_neg hsubtype, List.getD_eq_getElem?_getD, List.getElem?_set_self (resized_length c subtype),
      Option.getD_some, resized_getD, BitVec.toNat_add, hround]
    exact Nat.mod_eq_of_lt hfits
  refine h.register rfl ?_ (by omega) fun other hother => ?_
  · rw [resized_getD, hextent]
  · unfold extent ExtensionContext.register
    by_cases hgeneric : other = genericIndex
    · rw [if_pos hgeneric, if_pos hgeneric]
    · have hne : subtype.toNat ≠ other.toNat := fun he => hother (BitVec.eq_of_toNat_eq he.symm)
      rw [if_neg hgeneric, if_neg hgeneric, List.getD_eq_getElem?_getD, List.getElem?_set_ne hne,
        ← List.getD_eq_getElem?_getD, resized_getD]

/-- **A generic registration keeps the layout.** -/
theorem layout_registerGeneric (h : Layout c) {size : Word}
    (hfits : c.genericDataSize.toNat + (size.toNat + 15) / 16 * 16 < 2 ^ 32) :
    Layout (c.registerGeneric size) := by
  have hround := roundUp16_toNat size (by omega)
  have hnew : extent (c.registerGeneric size) genericIndex
      = c.genericDataSize.toNat + (size.toNat + 15) / 16 * 16 := by
    unfold extent ExtensionContext.registerGeneric
    rw [if_pos rfl, BitVec.toNat_add, hround]
    exact Nat.mod_eq_of_lt hfits
  have hold : extent c genericIndex = c.genericDataSize.toNat := if_pos rfl
  refine h.register rfl hold.symm (by omega) fun other hother => ?_
  unfold extent ExtensionContext.registerGeneric
  rw [if_neg hother, if_neg hother]

/-- What a registration changes of a type whose objects it does not concern. -/
structure Registers (s : Extensions) (type : Nat) (c : ExtensionContext) : Prop where
  layout : Layout c
  extensionData : c.extensionData = (s.contexts type).extensionData
  issued : c.issued = (s.contexts type).issued
  destroyed : c.destroyed = (s.contexts type).destroyed
  kept : ∀ handle data, s.object type handle = some data →
    c.genericDataSize = (s.contexts type).genericDataSize ∧
      c.dataSizes = (s.contexts type).dataSizes ∧
      ∃ added, c.extensions = (s.contexts type).extensions ++ added ∧
        ∀ info ∈ added, info.size = 0

theorem object_of_registers (hc : Registers s type c) (other : Nat) (handle : Word) :
    (s.setContext type c).object other handle = s.object other handle := by
  unfold object
  by_cases ho : other = type
  · rw [ho, setContext_self, hc.extensionData]
  · rw [setContext_of_ne ho]

theorem keeps_of_registers (hc : Registers s type c) : Keeps s (s.setContext type c) where
  extensions := fun other handle data hobject i info hi => by
    by_cases ho : other = type
    · subst ho
      obtain ⟨-, -, added, hadded, -⟩ := hc.kept handle data hobject
      rw [setContext_self, hadded, List.getElem?_append_left (List.getElem?_eq_some_iff.mp hi).1]
      exact hi
    · rwa [setContext_of_ne ho]
  generic := fun other handle data hobject => by
    by_cases ho : other = type
    · subst ho
      rw [setContext_self]
      exact (hc.kept handle data hobject).1
    · rw [setContext_of_ne ho]
  data := fun other handle data data' hobject hobject' => by
    rw [object_of_registers hc, hobject] at hobject'
    rw [Option.some.inj hobject']
    exact ⟨rfl, rfl⟩

/-- **A registration that concerns no object keeps the blocks.** -/
theorem objects_of_registers (h : Objects s) (hc : Registers s type c) : Objects (s.setContext type c) where
  layout := fun other => by
    by_cases ho : other = type
    · subst ho
      rw [setContext_self]
      exact hc.layout
    · rw [setContext_of_ne ho]
      exact h.layout other
  unspawned := fun hcan other handle => by
    rw [object_of_registers hc]
    exact h.unspawned hcan other handle
  specific := fun other handle data hobject => by
    rw [object_of_registers hc] at hobject
    exact h.specific other handle data hobject
  sized := fun other handle data hobject => by
    rw [object_of_registers hc] at hobject
    rw [h.sized other handle data hobject]
    by_cases ho : other = type
    · subst ho
      obtain ⟨hgeneric, hsizes, -⟩ := hc.kept handle data hobject
      unfold extent
      rw [setContext_self, hgeneric, hsizes]
    · rw [setContext_of_ne ho]
  block := fun other handle data hobject => by
    rw [object_of_registers hc] at hobject
    exact h.block other handle data hobject
  blockless := fun other handle data hobject => by
    rw [object_of_registers hc] at hobject
    exact h.blockless other handle data hobject
  apart := fun other handle data other' handle' data' k hobject hobject' => by
    rw [object_of_registers hc] at hobject hobject'
    exact h.apart other handle data other' handle' data' k hobject hobject'
  zero := fun other handle data hobject extension info k happlies hwritten hk => by
    rw [object_of_registers hc] at hobject
    have hold : s.applies other data.subtypeIndex extension info := by
      by_cases ho : other = type
      · subst ho
        obtain ⟨-, -, added, hadded, hempty⟩ := hc.kept handle data hobject
        obtain ⟨hne, hinfo, hsubtype⟩ := happlies
        rw [setContext_self, hadded] at hinfo
        refine ⟨hne, ?_, hsubtype⟩
        -- what was added has no bytes
        by_cases hlt : extension.toNat < (s.contexts other).extensions.length
        · rwa [List.getElem?_append_left hlt] at hinfo
        · rw [List.getElem?_append_right (Nat.le_of_not_lt hlt)] at hinfo
          have hsize := hempty info (List.mem_of_getElem? hinfo)
          rw [hsize] at hk
          have := hk.1
          have := hk.2
          change k < _ + 0 at this
          omega
      · obtain ⟨hne, hinfo, hsubtype⟩ := happlies
        rw [setContext_of_ne ho] at hinfo
        exact ⟨hne, hinfo, hsubtype⟩
    rw [getData_of_keeps (keeps_of_registers hc) hobject (by rw [object_of_registers hc]; exact hobject)
      hold] at hk
    exact h.zero other handle data hobject extension info k hold hwritten hk
  issued := fun other handle data hobject => by
    rw [object_of_registers hc] at hobject
    have hold := h.issued other handle data hobject
    by_cases ho : other = type
    · subst ho
      rwa [setContext_self, hc.issued, hc.destroyed]
    · rwa [setContext_of_ne ho]
  destroyed := fun other handle => by
    by_cases ho : other = type
    · subst ho
      rw [setContext_self, hc.issued, hc.destroyed]
      exact h.destroyed other handle
    · rw [setContext_of_ne ho]
      exact h.destroyed other handle

theorem objects_register (h : Objects s) {subtype size : Word}
    (hpromised : (ExtensionCall.register type subtype size).promised s) :
    Objects (s.register type subtype size) ∧ Keeps s (s.register type subtype size) := by
  obtain ⟨hsubtype, hfits⟩ := hpromised
  unfold register
  by_cases hcan : s.canRegister = true
  · rw [if_neg (by rw [hcan]; decide)]
    have hc : Registers s type ((s.contexts type).register subtype size) :=
      ⟨layout_register (h.layout type) hsubtype hfits, rfl, rfl, rfl, fun handle data hobject =>
        nomatch (h.unspawned hcan type handle).symm.trans hobject⟩
    exact ⟨objects_of_registers h hc, keeps_of_registers hc⟩
  · have hno : s.canRegister = false := Bool.eq_false_of_not_eq_true hcan
    have hexit : Objects { s with exited := true } :=
      ⟨⟨h.layout, h.unspawned, h.specific, h.sized, h.block, h.blockless, h.apart, h.issued,
        h.destroyed⟩, h.zero⟩
    rw [if_pos (by rw [hno]; rfl)]
    exact ⟨hexit, keeps_of_contexts_eq rfl⟩

theorem objects_registerGeneric (h : Objects s) {size : Word}
    (hpromised : (ExtensionCall.registerGeneric type size).promised s)
    (htimely : (ExtensionCall.registerGeneric type size).timely s) :
    Objects (s.registerGeneric type size) ∧ Keeps s (s.registerGeneric type size) := by
  have hc : Registers s type ((s.contexts type).registerGeneric size) := by
    refine ⟨layout_registerGeneric (h.layout type) hpromised, rfl, rfl, rfl, fun handle data hobject => ?_⟩
    rcases htimely with rfl | hempty
    · have hround : roundUp16 0 = 0 := by decide
      refine ⟨?_, rfl, _, rfl, fun info hinfo => ?_⟩
      · change _ + roundUp16 0 = _
        rw [hround]
        exact BitVec.add_zero _
      · rw [List.mem_singleton.mp hinfo]
    · unfold object at hobject
      rw [hempty] at hobject
      nomatch hobject
  exact ⟨objects_of_registers h hc, keeps_of_registers hc⟩

/-- The objects of one type change, and with them the memory and the blocks. -/
def change (s : Extensions) (type : Nat) (c : ExtensionContext) (m : Rdram) (heap : List (Nat × Nat))
    (can : Bool) : Extensions :=
  { s with memory := m, heap := heap, canRegister := can }.setContext type c

variable {m : Rdram} {heap : List (Nat × Nat)} {can : Bool}

theorem change_object_self (handle : Word) :
    (s.change type c m heap can).object type handle = c.extensionData.get handle := by
  unfold object change
  rw [setContext_self]

theorem change_object_of_ne {other : Nat} (h : other ≠ type) (handle : Word) :
    (s.change type c m heap can).object other handle = s.object other handle := by
  unfold object change
  rw [setContext_of_ne h]

/-- The registrations of a context are those of the type. -/
structure SameRegistrations (s : Extensions) (type : Nat) (c : ExtensionContext) : Prop where
  extensions : c.extensions = (s.contexts type).extensions
  generic : c.genericDataSize = (s.contexts type).genericDataSize
  sizes : c.dataSizes = (s.contexts type).dataSizes

theorem change_extensions (hsame : SameRegistrations s type c) (other : Nat) :
    ((s.change type c m heap can).contexts other).extensions = (s.contexts other).extensions := by
  unfold change
  by_cases ho : other = type
  · rw [ho, setContext_self, hsame.extensions]
  · rw [setContext_of_ne ho]

theorem change_generic (hsame : SameRegistrations s type c) (other : Nat) :
    ((s.change type c m heap can).contexts other).genericDataSize = (s.contexts other).genericDataSize := by
  unfold change
  by_cases ho : other = type
  · rw [ho, setContext_self, hsame.generic]
  · rw [setContext_of_ne ho]

theorem change_sizes (hsame : SameRegistrations s type c) (other : Nat) :
    ((s.change type c m heap can).contexts other).dataSizes = (s.contexts other).dataSizes := by
  unfold change
  by_cases ho : other = type
  · rw [ho, setContext_self, hsame.sizes]
  · rw [setContext_of_ne ho]

theorem change_layout (h : Objects s) (hsame : SameRegistrations s type c) (other : Nat) :
    Layout ((s.change type c m heap can).contexts other) := by
  have hextent : ∀ subtype, extent ((s.change type c m heap can).contexts other) subtype
      = extent (s.contexts other) subtype := by
    intro subtype
    unfold extent
    rw [change_generic hsame, change_sizes hsame]
  obtain ⟨hdummy, hbound, hapart⟩ := h.layout other
  refine ⟨?_, fun i info hne hi => ?_, fun i j info info' hne hlt hi hj => ?_⟩
  · rwa [change_extensions hsame]
  · rw [change_extensions hsame] at hi
    rw [hextent]
    exact hbound i info hne hi
  · rw [change_extensions hsame] at hi hj
    exact hapart i j info info' hne hlt hi hj

theorem change_applies (hsame : SameRegistrations s type c) {other : Nat} {subtype : Word} :
    (s.change type c m heap can).applies other subtype extension info
      ↔ s.applies other subtype extension info := by
  unfold applies
  rw [change_extensions hsame]

/-- An object is one that was there, written through some more. -/
def FromOld (s : Extensions) (type : Nat) (c : ExtensionContext) : Prop :=
  ∀ handle data', c.extensionData.get handle = some data' → ∃ data, s.object type handle = some data ∧
    data'.dataAddr = data.dataAddr ∧ data'.subtypeIndex = data.subtypeIndex ∧
    data'.blockSize = data.blockSize ∧ ∀ extension ∈ data.written, extension ∈ data'.written

theorem object_of_fromOld (hold : FromOld s type c) {other : Nat} {data' : ExtensionData}
    (hobject : (s.change type c m heap can).object other handle = some data') :
    ∃ data, s.object other handle = some data ∧ data'.dataAddr = data.dataAddr ∧
      data'.subtypeIndex = data.subtypeIndex ∧ data'.blockSize = data.blockSize ∧
      ∀ extension ∈ data.written, extension ∈ data'.written := by
  by_cases ho : other = type
  · subst ho
    rw [change_object_self] at hobject
    exact hold handle data' hobject
  · rw [change_object_of_ne ho] at hobject
    exact ⟨data', hobject, rfl, rfl, rfl, fun _ h => h⟩

theorem keeps_of_change (hsame : SameRegistrations s type c)
    (hdata : ∀ handle data data', s.object type handle = some data →
      c.extensionData.get handle = some data' →
      data'.dataAddr = data.dataAddr ∧ data'.subtypeIndex = data.subtypeIndex) :
    Keeps s (s.change type c m heap can) where
  extensions := fun other handle data _ i info hi => by rwa [change_extensions hsame]
  generic := fun other handle data _ => change_generic hsame other
  data := fun other handle data data' hobject hobject' => by
    by_cases ho : other = type
    · subst ho
      rw [change_object_self] at hobject'
      exact hdata handle data data' hobject hobject'
    · rw [change_object_of_ne ho, hobject] at hobject'
      rw [Option.some.inj hobject']
      exact ⟨rfl, rfl⟩

theorem keeps_of_fromOld (hsame : SameRegistrations s type c) (hold : FromOld s type c) :
    Keeps s (s.change type c m heap can) :=
  keeps_of_change hsame fun handle data data' hobject hobject' => by
    obtain ⟨data₀, hobject₀, haddr, hsubtype, -⟩ := hold handle data' hobject'
    obtain rfl : data₀ = data := Option.some.inj (hobject₀.symm.trans hobject)
    exact ⟨haddr, hsubtype⟩

/-- **Objects go, are written through, or stay.** -/
theorem objects_of_fromOld (h : Objects s) (hsame : SameRegistrations s type c) (hold : FromOld s type c)
    (hheap : ∀ other handle data, (s.change type c m heap s.canRegister).object other handle = some data →
      data.blockSize ≠ 0 → (hostOffset data.dataAddr, data.blockSize.toNat) ∈ s.heap →
      (hostOffset data.dataAddr, data.blockSize.toNat) ∈ heap)
    (hmemory : ∀ other handle data data' extension info k,
      (s.change type c m heap s.canRegister).object other handle = some data' →
      s.object other handle = some data → s.applies other data.subtypeIndex extension info →
      extension ∉ data'.written →
      InData (s.getData other data.subtypeIndex handle extension) info.size.toNat k →
      logical m k = logical s.memory k)
    (hissued : ∀ handle data, c.extensionData.get handle = some data →
      handle ∈ c.issued ∧ handle ∉ c.destroyed)
    (hdestroyed : ∀ handle ∈ c.destroyed, handle ∈ c.issued) :
    Objects (s.change type c m heap s.canRegister) where
  layout := change_layout h hsame
  unspawned := fun hcan other handle => by
    cases hobject : (s.change type c m heap s.canRegister).object other handle with
    | none => rfl
    | some data' =>
      obtain ⟨data, hobject', -⟩ := object_of_fromOld hold hobject
      nomatch (h.unspawned hcan other handle).symm.trans hobject'
  specific := fun other handle data' hobject => by
    obtain ⟨data, hobject', -, hsubtype, -⟩ := object_of_fromOld hold hobject
    rw [hsubtype]
    exact h.specific _ _ _ hobject'
  sized := fun other handle data' hobject => by
    obtain ⟨data, hobject', -, hsubtype, hsize, -⟩ := object_of_fromOld hold hobject
    have hsized := h.sized _ _ _ hobject'
    unfold extent at hsized ⊢
    rw [change_generic hsame, change_sizes hsame, hsubtype, hsize, hsized]
  block := fun other handle data' hobject hne => by
    obtain ⟨data, hobject', haddr, -, hsize, -⟩ := object_of_fromOld hold hobject
    have hin := hheap _ _ _ hobject hne
    rw [haddr, hsize] at hin ⊢
    rw [hsize] at hne
    obtain ⟨hnull, hmem, hwindow⟩ := h.block _ _ _ hobject' hne
    exact ⟨hnull, hin hmem, hwindow⟩
  blockless := fun other handle data' hobject hnone => by
    obtain ⟨data, hobject', haddr, -, hsize, -⟩ := object_of_fromOld hold hobject
    rw [haddr]
    exact h.blockless _ _ _ hobject' (hsize ▸ hnone)
  apart := fun other handle data other' handle' data' k hobject hobject' hk hk' => by
    obtain ⟨data₁, hobject₁, haddr₁, -, hsize₁, -⟩ := object_of_fromOld hold hobject
    obtain ⟨data₂, hobject₂, haddr₂, -, hsize₂, -⟩ := object_of_fromOld hold hobject'
    rw [haddr₁, hsize₁] at hk
    rw [haddr₂, hsize₂] at hk'
    exact h.apart _ _ _ _ _ _ k hobject₁ hobject₂ hk hk'
  zero := fun other handle data' hobject extension info k happlies hwritten hk => by
    obtain ⟨data, hobject', -, hsubtype, -, hmore⟩ := object_of_fromOld hold hobject
    rw [hsubtype] at happlies hk
    rw [change_applies hsame] at happlies
    rw [getData_of_keeps (keeps_of_fromOld hsame hold) hobject' hobject happlies] at hk
    change logical m k = 0
    rw [hmemory other handle data data' extension info k hobject hobject' happlies hwritten hk]
    exact h.zero _ _ _ hobject' _ _ _ happlies (fun hin => hwritten (hmore _ hin)) hk
  issued := fun other handle data' hobject => by
    by_cases ho : other = type
    · subst ho
      rw [change_object_self] at hobject
      unfold change
      rw [setContext_self]
      exact hissued handle data' hobject
    · rw [change_object_of_ne ho] at hobject
      unfold change
      rw [setContext_of_ne ho]
      exact h.issued _ _ _ hobject
  destroyed := fun other handle hin => by
    unfold change at hin ⊢
    by_cases ho : other = type
    · subst ho
      rw [setContext_self] at hin ⊢
      exact hdestroyed handle hin
    · rw [setContext_of_ne ho] at hin ⊢
      exact h.destroyed _ _ hin

theorem objects_clear (h : Objects s) : Objects (s.clear type) ∧ Keeps s (s.clear type) := by
  have hsame : SameRegistrations s type { s.contexts type with
      extensionData := ∅, spawnCount := 0, issued := [], destroyed := [] } := ⟨rfl, rfl, rfl⟩
  have hold : FromOld s type { s.contexts type with
      extensionData := ∅, spawnCount := 0, issued := [], destroyed := [] } := fun _ _ hnone => nomatch hnone
  have hobjects := objects_of_fromOld (m := s.memory) h hsame hold (fun _ _ _ _ _ hin => hin)
    (fun _ _ _ _ _ _ _ _ _ _ _ _ => rfl) (fun _ _ hnone => nomatch hnone) nofun
  exact ⟨hobjects, keeps_of_fromOld (m := s.memory) hsame hold⟩

/-- A handle that is erased is not live, and the others are as before. -/
theorem fromOld_erase (s : Extensions) (type : Nat) (handle : Word) (c : ExtensionContext)
    (hc : c.extensionData = ((s.contexts type).extensionData.erase handle).2) :
    FromOld s type c ∧ ∀ other data, c.extensionData.get other = some data →
      other ≠ handle ∧ s.object type other = some data := by
  have hget : ∀ other data, c.extensionData.get other = some data →
      other ≠ handle ∧ s.object type other = some data := by
    intro other data hdata
    rw [hc, LockedSlotmap.get_erase] at hdata
    have hne : other ≠ handle := by
      rintro rfl
      rw [Function.update_self] at hdata
      nomatch hdata
    rw [Function.update_of_ne hne] at hdata
    exact ⟨hne, hdata⟩
  exact ⟨fun other data hdata => ⟨data, (hget other data hdata).2, rfl, rfl, rfl, fun _ hin => hin⟩, hget⟩

theorem objects_destroy (h : Objects s) :
    Objects (s.destroy type handle) ∧ Keeps s (s.destroy type handle) := by
  cases hobject : (s.contexts type).extensionData.get handle with
  | none =>
    have hnone : s.destroy type handle = s := by
      unfold destroy
      dsimp only
      rw [hobject]
    rw [hnone]
    exact ⟨h, keeps_of_contexts_eq rfl⟩
  | some data =>
    let c : ExtensionContext := { s.contexts type with
      extensionData := ((s.contexts type).extensionData.erase handle).2
      destroyed := handle :: (s.contexts type).destroyed }
    let heap := if data.dataAddr ≠ 0 then
      s.heap.filter fun block => block.1 ≠ hostOffset data.dataAddr else s.heap
    have hsame : SameRegistrations s type c := ⟨rfl, rfl, rfl⟩
    obtain ⟨hold, hget⟩ := fromOld_erase s type handle c rfl
    have hchange : s.destroy type handle = s.change type c s.memory heap s.canRegister := by
      unfold destroy
      dsimp only
      rw [hobject]
      by_cases hnull : data.dataAddr ≠ 0
      · simp only [heap, if_pos hnull]
        rfl
      · simp only [heap, if_neg hnull]
        rfl
    rw [hchange]
    refine ⟨objects_of_fromOld h hsame hold (fun other handle' data' hobject' hsize hin => ?_)
      (fun _ _ _ _ _ _ _ _ _ _ _ _ => rfl) (fun handle' data' hdata => ?_) (fun handle' hin => ?_),
      keeps_of_fromOld hsame hold⟩
    · -- the block of another object has another offset
      by_cases hnull : data.dataAddr ≠ 0
      · simp only [heap, if_pos hnull]
        refine List.mem_filter.mpr ⟨hin, decide_eq_true fun heq => ?_⟩
        have hsize₀ : data.blockSize ≠ 0 := fun h0 => hnull (h.blockless _ _ _ hobject h0)
        have hpos : ∀ v : Word, v ≠ 0 → 0 < v.toNat := fun v hv =>
          Nat.pos_of_ne_zero fun h0 => hv (BitVec.eq_of_toNat_eq h0)
        obtain ⟨data₀, hobject₀, haddr, -, hsame', -⟩ := object_of_fromOld hold hobject'
        have hk : InData data₀.dataAddr data₀.blockSize.toNat (hostOffset data.dataAddr) := by
          rw [← haddr, ← hsame']
          dsimp only at heq
          have := hpos _ hsize
          exact ⟨by omega, by omega⟩
        have hk' : InData data.dataAddr data.blockSize.toNat (hostOffset data.dataAddr) :=
          ⟨Nat.le_refl _, Nat.lt_add_of_pos_right (hpos _ hsize₀)⟩
        obtain ⟨rfl, rfl⟩ := h.apart _ _ _ _ _ _ _ hobject₀ hobject hk hk'
        rw [change_object_self] at hobject'
        exact (hget _ _ hobject').1 rfl
      · simp only [heap, if_neg hnull]
        exact hin
    · obtain ⟨hne, hlive⟩ := hget handle' data' hdata
      obtain ⟨hissued, hdestroyed⟩ := h.issued _ _ _ hlive
      exact ⟨hissued, List.not_mem_cons_of_ne_of_not_mem hne hdestroyed⟩
    · rcases List.mem_cons.mp hin with rfl | hin
      · exact (h.issued _ _ _ hobject).1
      · exact h.destroyed _ _ hin

theorem objects_writeData (h : Objects s) {subtype : Word} {i : Nat} {value : Byte}
    (hpromised : (ExtensionCall.writeData type subtype handle extension i value).promised s) :
    Objects (s.writeData type subtype handle extension i value) ∧
      Keeps s (s.writeData type subtype handle extension i value) := by
  obtain ⟨data, info, hobject, rfl, happlies, hi⟩ := hpromised
  let c : ExtensionContext := { s.contexts type with
    extensionData := (s.contexts type).extensionData.write handle
      { data with written := extension :: data.written } }
  let m := storeB s.memory (hostOffset (s.getData type data.subtypeIndex handle extension) + i) value
  have hchange : s.writeData type data.subtypeIndex handle extension i value
      = s.change type c m s.heap s.canRegister := by
    unfold writeData
    dsimp only
    rw [show (s.contexts type).extensionData.get handle = some data from hobject]
    rfl
  have hget : c.extensionData.get = Function.update (s.contexts type).extensionData.get handle
      (some { data with written := extension :: data.written }) :=
    funext fun other => LockedSlotmap.get_insert _ handle other _
  have hself : c.extensionData.get handle = some { data with written := extension :: data.written } := by
    rw [hget, Function.update_self]
  have hother : ∀ other, other ≠ handle → c.extensionData.get other = s.object type other := by
    intro other hne
    rw [hget, Function.update_of_ne hne]
    rfl
  have hold : FromOld s type c := by
    intro other data' hdata
    by_cases ho : other = handle
    · subst ho
      rw [hself] at hdata
      obtain rfl := Option.some.inj hdata
      exact ⟨data, hobject, rfl, rfl, rfl, fun _ hin => List.mem_cons_of_mem _ hin⟩
    · rw [hother other ho] at hdata
      exact ⟨data', hdata, rfl, rfl, rfl, fun _ hin => hin⟩
  have hsame : SameRegistrations s type c := ⟨rfl, rfl, rfl⟩
  have hwrites : InData (s.getData type data.subtypeIndex handle extension) info.size.toNat
      (hostOffset (s.getData type data.subtypeIndex handle extension) + i) := ⟨by omega, by omega⟩
  rw [hchange]
  refine ⟨objects_of_fromOld h hsame hold (fun _ _ _ _ _ hin => hin)
    (fun type' handle' data₁ data' extension' info' k hobject' hobject₁ happlies' hwritten hk => ?_)
    (fun handle' data' hdata => ?_) (fun _ hin => h.destroyed _ _ hin), keeps_of_fromOld hsame hold⟩
  · -- what was not written through is another extension, or another object's
    have hne : k ≠ hostOffset (s.getData type data.subtypeIndex handle extension) + i := by
      rintro rfl
      obtain ⟨-, hblock⟩ := inData_block h.toBlocks hobject happlies hwrites
      obtain ⟨-, hblock'⟩ := inData_block h.toBlocks hobject₁ happlies' hk
      obtain ⟨rfl, rfl⟩ := h.apart _ _ _ _ _ _ _ hobject₁ hobject hblock' hblock
      obtain rfl := Option.some.inj (hobject₁.symm.trans hobject)
      have hext := (isolated_of_objects h).disjoint _ _ _ hobject _ _ _ _ _ happlies' happlies hk hwrites
      rw [change_object_self, hself] at hobject'
      obtain rfl := Option.some.inj hobject'
      exact hwritten (hext ▸ List.mem_cons_self)
    rw [logical_storeB, Function.update_of_ne hne]
  · obtain ⟨data₁, hobject₁, -⟩ := hold handle' data' hdata
    exact h.issued _ _ _ hobject₁

theorem objects_touch (h : Objects s) {k : Nat} {value : Byte}
    (hpromised : (ExtensionCall.touch k value).promised s) :
    Objects { s with memory := storeB s.memory k value } := by
  refine ⟨⟨h.layout, h.unspawned, h.specific, h.sized, h.block, h.blockless, h.apart, h.issued, h.destroyed⟩,
    fun type handle data hobject extension info k' happlies hwritten hk => ?_⟩
  obtain ⟨hin, hblock⟩ := inData_block h.toBlocks hobject happlies hk
  have hne : k' ≠ k := by
    rintro rfl
    exact hpromised _ hin hblock
  change logical (storeB s.memory k value) k' = 0
  rw [logical_storeB, Function.update_of_ne hne]
  exact h.zero _ _ _ hobject _ _ _ happlies hwritten hk

/-- The bytes of a block, with the totals below `2^32`. -/
theorem allocSize_toNat {subtype : Word} (hsubtype : subtype ≠ genericIndex)
    (hfits : c.genericDataSize.toNat + (c.dataSizes.getD subtype.toNat 0).toNat < 2 ^ 32) :
    (allocSize c subtype).toNat = c.genericDataSize.toNat + extent c subtype := by
  unfold allocSize extent
  rw [if_neg hsubtype]
  split
  · rw [BitVec.toNat_add, Nat.mod_eq_of_lt hfits]
  · rename_i hout
    rw [List.getD_eq_getElem?_getD, List.getElem?_eq_none (Nat.le_of_not_lt hout)]
    rfl

/-- The context of a type with one more object. -/
structure NewObject (s : Extensions) (type : Nat) (c : ExtensionContext) (handle : Word)
    (data : ExtensionData) : Prop where
  same : SameRegistrations s type c
  get : c.extensionData.get = Function.update (s.contexts type).extensionData.get handle (some data)
  issued : c.issued = handle :: (s.contexts type).issued
  destroyed : c.destroyed = (s.contexts type).destroyed
  new : handle ∉ (s.contexts type).issued
  specific : data.subtypeIndex ≠ genericIndex
  sized : data.blockSize.toNat
    = (s.contexts type).genericDataSize.toNat + extent (s.contexts type) data.subtypeIndex

/-- The memory with the block of one more object. -/
structure NewBlock (s : Extensions) (m : Rdram) (heap : List (Nat × Nat)) (data : ExtensionData) : Prop where
  block : data.blockSize ≠ 0 → data.dataAddr ≠ 0 ∧ (hostOffset data.dataAddr, data.blockSize.toNat) ∈ heap ∧
    hostOffset data.dataAddr + data.blockSize.toNat ≤ 0x20000000
  blockless : data.blockSize = 0 → data.dataAddr = 0
  heap : ∀ block ∈ s.heap, block ∈ heap
  /-- The block has no byte of another one. -/
  free : ∀ block ∈ s.heap, ∀ k, InData data.dataAddr data.blockSize.toNat k →
    ¬ (block.1 ≤ k ∧ k < block.1 + block.2)
  memory : ∀ k, InData data.dataAddr data.blockSize.toNat k ∧ logical m k = 0 ∨
    ¬ InData data.dataAddr data.blockSize.toNat k ∧ logical m k = logical s.memory k

theorem object_of_new (hc : NewObject s type c handle data) {other : Nat} {handle' : Word}
    {data' : ExtensionData} (hobject : (s.change type c m heap can).object other handle' = some data') :
    (other = type ∧ handle' = handle ∧ data' = data) ∨ s.object other handle' = some data' := by
  by_cases ho : other = type
  · subst ho
    rw [change_object_self, hc.get] at hobject
    by_cases hh : handle' = handle
    · subst hh
      rw [Function.update_self] at hobject
      exact .inl ⟨rfl, rfl, (Option.some.inj hobject).symm⟩
    · rw [Function.update_of_ne hh] at hobject
      exact .inr hobject
  · rw [change_object_of_ne ho] at hobject
    exact .inr hobject

theorem keeps_of_new (h : Objects s) (hc : NewObject s type c handle data) (m : Rdram)
    (heap : List (Nat × Nat)) : Keeps s (s.change type c m heap can) :=
  keeps_of_change hc.same fun handle' data' data'' hobject hobject' => by
    rw [hc.get] at hobject'
    have hne : handle' ≠ handle := by
      rintro rfl
      exact hc.new (h.issued _ _ _ hobject).1
    rw [Function.update_of_ne hne] at hobject'
    rw [Option.some.inj (hobject'.symm.trans hobject)]
    exact ⟨rfl, rfl⟩

/-- The new block has no byte of another object's. -/
theorem apart_of_new (h : Objects s) (hb : NewBlock s m heap data) {other : Nat} {handle' : Word}
    {data' : ExtensionData} {k : Nat} (hobject : s.object other handle' = some data')
    (hk : InData data'.dataAddr data'.blockSize.toNat k) : ¬ InData data.dataAddr data.blockSize.toNat k := by
  intro hnew
  have hne : data'.blockSize ≠ 0 := by
    intro hnone
    obtain ⟨hlow, hhigh⟩ := hk
    rw [hnone] at hhigh
    change k < _ + 0 at hhigh
    omega
  exact hb.free _ (h.block _ _ _ hobject hne).2.1 k hnew hk

theorem blocks_of_new (h : Objects s) (hc : NewObject s type c handle data) (hb : NewBlock s m heap data) :
    Blocks (s.change type c m heap false) where
  layout := change_layout h hc.same
  unspawned := nofun
  specific := fun other handle' data' hobject => by
    rcases object_of_new hc hobject with ⟨rfl, rfl, rfl⟩ | hold
    · exact hc.specific
    · exact h.specific _ _ _ hold
  sized := fun other handle' data' hobject => by
    have hextent : extent ((s.change type c m heap false).contexts other) data'.subtypeIndex
        = extent (s.contexts other) data'.subtypeIndex := by
      unfold extent
      rw [change_generic hc.same, change_sizes hc.same]
    rw [change_generic hc.same, hextent]
    rcases object_of_new hc hobject with ⟨rfl, rfl, rfl⟩ | hold
    · exact hc.sized
    · exact h.sized _ _ _ hold
  block := fun other handle' data' hobject hne => by
    rcases object_of_new hc hobject with ⟨rfl, rfl, rfl⟩ | hold
    · exact hb.block hne
    · obtain ⟨hnonnull, hin, hbound⟩ := h.block _ _ _ hold hne
      exact ⟨hnonnull, hb.heap _ hin, hbound⟩
  blockless := fun other handle' data' hobject hnone => by
    rcases object_of_new hc hobject with ⟨rfl, rfl, rfl⟩ | hold
    · exact hb.blockless hnone
    · exact h.blockless _ _ _ hold hnone
  apart := fun type₁ handle₁ data₁ type₂ handle₂ data₂ k h₁ h₂ hk₁ hk₂ => by
    rcases object_of_new hc h₁ with ⟨rfl, rfl, rfl⟩ | hold₁
    · rcases object_of_new hc h₂ with ⟨rfl, rfl, rfl⟩ | hold₂
      · exact ⟨rfl, rfl⟩
      · exact absurd hk₁ (apart_of_new h hb hold₂ hk₂)
    · rcases object_of_new hc h₂ with ⟨rfl, rfl, rfl⟩ | hold₂
      · exact absurd hk₂ (apart_of_new h hb hold₁ hk₁)
      · exact h.apart _ _ _ _ _ _ _ hold₁ hold₂ hk₁ hk₂
  issued := fun other handle' data' hobject => by
    unfold change
    by_cases ho : other = type
    · subst ho
      rw [setContext_self, hc.issued, hc.destroyed]
      rcases object_of_new hc hobject with ⟨-, rfl, -⟩ | hold
      · exact ⟨List.mem_cons_self, fun hin => hc.new (h.destroyed _ _ hin)⟩
      · obtain ⟨hin, hout⟩ := h.issued _ _ _ hold
        exact ⟨List.mem_cons_of_mem _ hin, hout⟩
    · rw [change_object_of_ne ho] at hobject
      rw [setContext_of_ne ho]
      exact h.issued _ _ _ hobject
  destroyed := fun other handle' hin => by
    unfold change at hin ⊢
    by_cases ho : other = type
    · subst ho
      rw [setContext_self] at hin ⊢
      rw [hc.destroyed] at hin
      rw [hc.issued]
      exact List.mem_cons_of_mem _ (h.destroyed _ _ hin)
    · rw [setContext_of_ne ho] at hin ⊢
      exact h.destroyed _ _ hin

/-- **One more object, with its zeros.** -/
theorem objects_of_new (h : Objects s) (hc : NewObject s type c handle data) (hb : NewBlock s m heap data) :
    Objects (s.change type c m heap false) where
  toBlocks := blocks_of_new h hc hb
  zero := fun other handle' data' hobject extension info k happlies hwritten hk => by
    obtain ⟨-, hblock⟩ := inData_block (blocks_of_new h hc hb) hobject happlies hk
    change logical m k = 0
    rcases object_of_new hc hobject with ⟨rfl, rfl, rfl⟩ | hold
    · exact (hb.memory k).elim (·.2) fun hno => absurd hblock hno.1
    · rw [((hb.memory k).resolve_left fun hin => apart_of_new h hb hold hblock hin.1).2]
      rw [change_applies hc.same] at happlies
      rw [getData_of_keeps (keeps_of_new h hc m heap) hold hobject happlies] at hk
      exact h.zero _ _ _ hold _ _ _ happlies hwritten hk

/-- A block at `off`, cleared. -/
theorem newBlock_cleared {off : Nat} (hne : data.blockSize ≠ 0) (haddr : data.dataAddr = guestAddress off)
    (hwindow : off + data.blockSize.toNat ≤ 0x20000000)
    (hfree : ∀ block ∈ s.heap, ∀ k, ¬ (block.1 ≤ k ∧ k < block.1 + block.2 ∧ off ≤ k ∧
      k < off + data.blockSize.toNat)) :
    NewBlock s (zeroBlock s.memory (hostOffset data.dataAddr) data.blockSize.toNat)
      ((off, data.blockSize.toNat) :: s.heap) data := by
  have hoff : hostOffset data.dataAddr = off := by
    rw [haddr]
    exact hostOffset_guestAddress (by omega)
  refine ⟨fun _ => ⟨?_, ?_, ?_⟩, fun hnone => absurd hnone hne, fun _ hin => List.mem_cons_of_mem _ hin,
    fun block hin k hk hother => ?_, fun k => ?_⟩
  · intro h0
    rw [h0] at hoff
    change 0x80000000 = off at hoff
    omega
  · rw [hoff]
    exact List.mem_cons_self
  · rwa [hoff]
  · obtain ⟨hlow, hhigh⟩ := hk
    rw [hoff] at hlow hhigh
    exact hfree block hin k ⟨hother.1, hother.2, hlow, hhigh⟩
  · rw [logical_zeroBlock]
    by_cases hk : InData data.dataAddr data.blockSize.toNat k
    · exact .inl ⟨hk, if_pos hk⟩
    · exact .inr ⟨hk, if_neg hk⟩

/-- An object without data has no block. -/
theorem newBlock_empty (hnone : data.blockSize = 0) (hnull : data.dataAddr = 0) :
    NewBlock s s.memory s.heap data := by
  have hempty : ∀ k, ¬ InData data.dataAddr data.blockSize.toNat k := by
    rintro k ⟨hlow, hhigh⟩
    rw [hnone] at hhigh
    change k < _ + 0 at hhigh
    omega
  exact ⟨fun hne => absurd hnone hne, fun _ => hnull, fun _ hin => hin, fun _ _ k hk => absurd hk (hempty k),
    fun k => .inr ⟨hempty k, rfl⟩⟩

theorem objects_create (h : Objects s) {subtype : Word} {off : Nat}
    (hpromised : (ExtensionCall.create type subtype off handle).promised s) :
    Objects (s.create type subtype off handle) ∧ Keeps s (s.create type subtype off handle) := by
  obtain ⟨hsubtype, hfits, hwindow, hfree, hnew⟩ := hpromised
  have hobject : ∀ data : ExtensionData, data.subtypeIndex = subtype →
      data.blockSize = allocSize (s.contexts type) subtype →
      NewObject s type { s.contexts type with
        extensionData := (s.contexts type).extensionData.create handle data
        spawnCount := (s.contexts type).spawnCount + 1
        issued := handle :: (s.contexts type).issued } handle data := by
    rintro data rfl hsize
    exact ⟨⟨rfl, rfl, rfl⟩, funext fun other => LockedSlotmap.get_insert _ handle other _, rfl, rfl, hnew,
      hsubtype, hsize ▸ allocSize_toNat hsubtype hfits⟩
  unfold create
  dsimp only
  generalize hsize : allocSize (s.contexts type) subtype = size at hwindow hfree ⊢
  by_cases hempty : size = 0
  · let data : ExtensionData := ⟨(s.contexts type).spawnCount, 0, subtype, size, []⟩
    have hc := hobject data rfl hsize.symm
    have hb : NewBlock s s.memory s.heap data := newBlock_empty hempty rfl
    have hobjects := objects_of_new h hc hb
    rw [if_neg (not_not.mpr hempty), if_neg (not_not.mpr hempty)]
    exact ⟨hobjects, keeps_of_new h hc s.memory s.heap⟩
  · let data : ExtensionData := ⟨(s.contexts type).spawnCount, guestAddress off, subtype, size, []⟩
    have hc := hobject data rfl hsize.symm
    have hb : NewBlock s _ _ data := newBlock_cleared hempty rfl hwindow hfree
    have hobjects := objects_of_new h hc hb
    rw [if_pos hempty, if_pos hempty]
    exact ⟨hobjects, keeps_of_new h hc _ _⟩

/-! ## Runs -/

/-- **Every call that keeps its promise keeps the objects.** -/
theorem objects_step (h : Objects s) {e : ExtensionCall} (hpromised : e.promised s) (htimely : e.timely s) :
    Objects (s.step e) ∧ Keeps s (s.step e) := by
  unfold step
  by_cases hexited : s.exited = true
  · rw [if_pos hexited]
    exact ⟨h, keeps_of_contexts_eq rfl⟩
  · rw [if_neg hexited]
    cases e with
    | register type subtype size => exact objects_register h hpromised
    | registerGeneric type size => exact objects_registerGeneric h hpromised htimely
    | clear type => exact objects_clear h
    | create type subtype off handle => exact objects_create h hpromised
    | destroy type handle => exact objects_destroy h
    | writeData type subtype handle extension i value => exact objects_writeData h hpromised
    | touch k value => exact ⟨objects_touch h hpromised, keeps_of_contexts_eq rfl⟩

theorem objects_init (memory : Rdram) : Objects { memory := memory } := by
  have hempty : ∀ type handle data,
      ({ memory := memory } : Extensions).object type handle ≠ some data := nofun
  refine ⟨⟨fun type => ⟨Nat.zero_lt_one, fun i info hne hi => ?_, fun i j info info' _ hlt _ hj => ?_⟩,
    fun _ _ _ => rfl, nofun, nofun, nofun, nofun, nofun, nofun, nofun⟩, nofun⟩
  · rw [List.getElem?_eq_none (by change 1 ≤ i; omega)] at hi
    nomatch hi
  · rw [List.getElem?_eq_none (by change 1 ≤ j; omega)] at hj
    nomatch hj

end Extensions

/-- **Object extensions are isolated** in every state of a run without a late generic registration. -/
theorem extensions_isolated (memory : Rdram) (calls : List ExtensionCall)
    (h : Run.Along Extensions.step (fun s e => e.promised s ∧ e.timely s) { memory := memory } calls) :
    Run.Along Extensions.step (fun s e => Isolated (s.step e) ∧ Stable s (s.step e))
      { memory := memory } calls :=
  Run.along_of_invariant (I := Extensions.Objects)
    (fun _ _ hcall hobjects => (Extensions.objects_step hobjects hcall.1 hcall.2).1)
    (fun _ _ hcall hobjects =>
      have ⟨hafter, hkeeps⟩ := Extensions.objects_step hobjects hcall.1 hcall.2
      ⟨Extensions.isolated_of_objects hafter, Extensions.stable_of_keeps hkeeps⟩)
    (Extensions.objects_init memory) h

/-- A generic and a specific extension, an object, and a byte that is written. -/
theorem extensions_isolated_one :
    Run.Along Extensions.step (fun s e => Isolated (s.step e) ∧ Stable s (s.step e))
      { memory := fun _ => 0 }
      [.registerGeneric 0 4, .register 0 1 16, .create 0 1 0 1024, .writeData 0 1 1024 2 3 7,
        .destroy 0 1024] :=
  extensions_isolated _ _ ⟨⟨by change (_ : Nat) < _; decide, .inr rfl⟩, ⟨⟨by decide, by decide⟩, trivial⟩,
    ⟨⟨by decide, by decide, by decide, nofun, nofun⟩, trivial⟩,
    ⟨⟨_, _, rfl, rfl, ⟨by decide, rfl, .inr rfl⟩, by decide⟩, trivial⟩, ⟨trivial, trivial⟩, trivial⟩

/-- **A late generic registration**: the data of the object that is live moves. -/
theorem late_generic_registration :
    Run.Along Extensions.step (fun s e => e.promised s) { memory := fun _ => 0 }
        [.register 0 1 16, .create 0 1 0 1024, .registerGeneric 0 16] ∧
      ¬ Run.Along Extensions.step (fun s e => Isolated (s.step e) ∧ Stable s (s.step e))
        { memory := fun _ => 0 } [.register 0 1 16, .create 0 1 0 1024, .registerGeneric 0 16] := by
  refine ⟨⟨⟨by decide, by decide⟩, ⟨by decide, by decide, by decide, nofun, nofun⟩,
    by change (_ : Nat) < _; decide, trivial⟩, fun h => ?_⟩
  have hstable := h.2.2.1.2
  have hmoved := hstable 0 1024 _ _ rfl rfl 1 _ ⟨by decide, rfl, .inr rfl⟩
  exact absurd hmoved (by decide)

end Dk64Port.Recomp
