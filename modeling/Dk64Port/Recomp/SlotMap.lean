import Dk64Port.Lib.GenerationalSlots
import Dk64Port.Recomp.U32Slotmap

/-!
# The slot map behind the containers (`lib/SlotMap/slot_map.h`)

`dod::slot_map32` keeps values in slots and gives out 32-bit keys: the index of a slot and the version it
had. The version of a slot grows when its value is erased, up to `kMaxVersion`, which is one more than
the bits of a key hold: **the key of a slot with that version is spent when it is given out.**

* `SlotMap32`: the slots of all pages, and `emplace`, `get`, `has_key`, `erase` and `size` over them.
* `LockedSlotmap` of the models of the containers is what the map should be; `Handles` keeps it beside
  the keys given out.
* `slot_map_keys`: **on the keys it gave out, the slot map is the locked map of its values, no key is
  given out twice, and none is spent before 66495 erasures.**

Left out: `clear`, `reset`, `pop`, copies and iterators, which the containers do not call on the maps of
handles, and the release of the memory of a page.
-/

namespace Dk64Port.Recomp

open GenerationalSlots (Slots Sound KeyLedger)

/-- A version, and `tag_t`. -/
abbrev Half := BitVec 16

/-! ## Keys -/

namespace SlotKey

/-- `kMaxVersion`. -/
def maxVersion : Half := 0x0400
/-- `kMinVersion`. -/
def minVersion : Half := 1
/-- `kInvalidVersion`. -/
def invalidVersion : Half := 0
/-- `kIndexMask`. -/
def indexMask : Word := 0x000fffff
/-- `kVersionMask`. -/
def versionMask : Word := 0x3ff00000
/-- `kHandleTagMask`. -/
def handleTagMask : Word := 0xc0000000

/-- `make`. -/
def make (version : Half) (index : Word) : Word :=
  ((version.setWidth 32 <<< 20) &&& versionMask) ||| (index &&& indexMask)

/-- `clearTagAndUpdateVersion`. -/
def clearTagAndUpdateVersion (key : Word) (version : Half) : Word :=
  ((key &&& ~~~versionMask) ||| ((version.setWidth 32 <<< 20) &&& versionMask)) &&& ~~~handleTagMask

/-- `toIndex`. -/
def toIndex (key : Word) : Word := key &&& indexMask

/-- `toVersion`. -/
def toVersion (key : Word) : Half := ((key &&& versionMask) >>> 20).setWidth 16

/-- The version of the key is the invalid one. -/
def spent (key : Word) : Bool := toVersion key == invalidVersion

/-! ### The fields of a key -/

theorem indexMask_bit (j : Nat) : indexMask.getLsbD j = decide (j < 20) := by
  have hlow : ∀ j < 32, indexMask.getLsbD j = decide (j < 20) := by decide
  by_cases hj : j < 32
  · exact hlow j hj
  · rw [BitVec.getLsbD_of_ge _ j (by omega), eq_comm, decide_eq_false_iff_not]
    omega

theorem versionMask_bit (j : Nat) : versionMask.getLsbD j = decide (20 ≤ j ∧ j < 30) := by
  have hlow : ∀ j < 32, versionMask.getLsbD j = decide (20 ≤ j ∧ j < 30) := by decide
  by_cases hj : j < 32
  · exact hlow j hj
  · rw [BitVec.getLsbD_of_ge _ j (by omega), eq_comm, decide_eq_false_iff_not]
    omega

theorem handleTagMask_bit : ∀ j < 32, handleTagMask.getLsbD j = decide (30 ≤ j) := by decide

theorem toIndex_make (version : Half) (index : Word) :
    toIndex (make version index) = index &&& indexMask := by
  refine BitVec.eq_of_getLsbD_eq fun j _ => ?_
  simp only [toIndex, make, BitVec.getLsbD_and, BitVec.getLsbD_or, indexMask_bit, versionMask_bit]
  by_cases h : j < 20
  · simp [h, show ¬ 20 ≤ j by omega]
  · simp [h]

theorem toVersion_make (version : Half) (index : Word) :
    toVersion (make version index) = version &&& 0x3ff := by
  have hbit : ∀ j < 16, (0x3ff : Half).getLsbD j = decide (j < 10) := by decide
  refine BitVec.eq_of_getLsbD_eq fun j hj => ?_
  simp only [toVersion, make, BitVec.getLsbD_setWidth, BitVec.getLsbD_ushiftRight, BitVec.getLsbD_and,
    BitVec.getLsbD_or, BitVec.getLsbD_shiftLeft, hbit j hj, indexMask_bit, versionMask_bit]
  have hsub : 20 + j - 20 = j := by omega
  have h20 : ¬ 20 + j < 20 := by omega
  have hle : 20 ≤ 20 + j := by omega
  rw [hsub]
  by_cases h : j < 10
  · have h32 : 20 + j < 32 := by omega
    have h30 : 20 + j < 30 := by omega
    simp [h, h20, hle, h30, h32, hj, show j < 32 by omega]
  · have h30 : ¬ 20 + j < 30 := by omega
    simp [h, h30]

theorem clearTagAndUpdateVersion_make (version version' : Half) (index : Word) :
    clearTagAndUpdateVersion (make version index) version' = make version' index := by
  refine BitVec.eq_of_getLsbD_eq fun j hj => ?_
  simp only [clearTagAndUpdateVersion, make, BitVec.getLsbD_and, BitVec.getLsbD_or, BitVec.getLsbD_not,
    indexMask_bit, versionMask_bit, handleTagMask_bit j hj, hj, decide_true, Bool.true_and]
  by_cases h : j < 20
  · simp [h, show ¬ 20 ≤ j by omega, show ¬ 30 ≤ j by omega]
  · by_cases h' : j < 30
    · simp [h, h', show 20 ≤ j by omega, show ¬ 30 ≤ j by omega]
    · simp [h, h']

/-- The word of an index and a generation. -/
def keyWord (k : GenerationalSlots.Key) : Word := make (BitVec.ofNat 16 k.2) (BitVec.ofNat 32 k.1)

variable {k k' : GenerationalSlots.Key}

theorem toIndex_keyWord (hk : k.1 < 2 ^ 20) : (toIndex (keyWord k)).toNat = k.1 := by
  have hmask : indexMask.toNat = 2 ^ 20 - 1 := rfl
  rw [keyWord, toIndex_make, BitVec.toNat_and, hmask, Nat.and_two_pow_sub_one_eq_mod, BitVec.toNat_ofNat]
  omega

theorem toVersion_keyWord : (toVersion (keyWord k)).toNat = k.2 % 1024 := by
  have hmask : (0x3ff : Half).toNat = 2 ^ 10 - 1 := rfl
  rw [keyWord, toVersion_make, BitVec.toNat_and, hmask, Nat.and_two_pow_sub_one_eq_mod, BitVec.toNat_ofNat]
  omega

/-- Up to 1024 generations of a slot have words of their own. -/
theorem keyWord_injective (hk : k.1 < 2 ^ 20) (hk' : k'.1 < 2 ^ 20) (hpos : 1 ≤ k.2) (hpos' : 1 ≤ k'.2)
    (hle : k.2 ≤ 1024) (hle' : k'.2 ≤ 1024) (h : keyWord k = keyWord k') : k = k' := by
  have hindex := toIndex_keyWord hk
  have hversion := toVersion_keyWord (k := k)
  rw [h, toIndex_keyWord hk'] at hindex
  rw [h, toVersion_keyWord] at hversion
  refine Prod.ext hindex.symm ?_
  omega

/-- The last generation has the invalid version. -/
theorem spent_keyWord (hpos : 1 ≤ k.2) (hle : k.2 ≤ 1024) : spent (keyWord k) = true ↔ k.2 = 1024 := by
  rw [spent, beq_iff_eq, ← BitVec.toNat_inj, toVersion_keyWord]
  change k.2 % 1024 = 0 ↔ _
  omega

end SlotKey

open SlotKey

/-! ## The slot map -/

/-- A slot: `Meta`, and the storage of the value, which keeps what was erased. -/
structure VersionedSlot (α : Type) where
  version : Half
  tombstone : Bool
  inactive : Bool
  value : α

/-- `slot_map32`: the slots of all pages by their index, the indices to use again, and `numItems`. -/
structure SlotMap32 (α : Type) where
  slots : List (VersionedSlot α) := []
  freeIndices : List Word := []
  numItems : Word := 0

namespace SlotMap32

variable {α : Type}

/-- `kPageSize`. -/
def pageSize : Nat := 4096
/-- `kMinFreeIndices`. -/
def minFreeIndices : Nat := 64

/-- `isActivePage`: a page is released when all of its slots are inactive. -/
def isActivePage (m : SlotMap32 α) (index : Nat) : Bool :=
  ((m.slots.drop (index / pageSize * pageSize)).take pageSize).countP (·.inactive) != pageSize

/-- `get`. -/
def get (m : SlotMap32 α) (k : Word) : Option α :=
  m.slots[(toIndex k).toNat]?.bind fun slot =>
    if !m.isActivePage (toIndex k).toNat then none
    else if slot.version ≠ toVersion k then none
    else some slot.value

/-- `has_key`. -/
def hasKey (m : SlotMap32 α) (k : Word) : Bool :=
  m.slots[(toIndex k).toNat]?.any fun slot =>
    m.isActivePage (toIndex k).toNat && slot.version == toVersion k

/-- `appendElement`, and what `emplace` does with the new slot. -/
def appendElement (m : SlotMap32 α) (value : α) : Word × SlotMap32 α :=
  (make minVersion (BitVec.ofNat 32 m.slots.length),
    { m with slots := m.slots ++ [⟨minVersion, false, false, value⟩], numItems := m.numItems + 1 })

/-- `emplace`. -/
def emplace (m : SlotMap32 α) (value : α) : Word × SlotMap32 α :=
  match m.freeIndices with
  | [] => m.appendElement value
  | k :: rest =>
    if minFreeIndices < (k :: rest).length then
      (k, { m with
        slots := m.slots.modify (toIndex k).toNat fun slot => { slot with tombstone := false, value := value }
        freeIndices := rest
        numItems := m.numItems + 1 })
    else m.appendElement value

/-- `eraseImpl<true>` on the slot of the key. -/
def eraseSlot (m : SlotMap32 α) (k : Word) (slot : VersionedSlot α) : SlotMap32 α :=
  let index := (toIndex k).toNat
  if slot.version = maxVersion then
    { m with
      slots := m.slots.modify index fun slot => { slot with inactive := true, tombstone := true }
      numItems := m.numItems - 1 }
  else
    let slotVersion := slot.version + 1
    { m with
      slots := m.slots.modify index fun slot => { slot with version := slotVersion, tombstone := true }
      freeIndices := m.freeIndices ++ [clearTagAndUpdateVersion k slotVersion]
      numItems := m.numItems - 1 }

/-- `erase`. -/
def erase (m : SlotMap32 α) (k : Word) : SlotMap32 α :=
  match m.slots[(toIndex k).toNat]? with
  | none => m
  | some slot =>
    if !m.isActivePage (toIndex k).toNat then m
    else if slot.tombstone then m
    else if slot.version ≠ toVersion k ∨ slot.version = invalidVersion ∨ toVersion k = invalidVersion then
      m
    else m.eraseSlot k slot

/-- `LockedSlotmap::erase`. -/
def lockedErase (m : SlotMap32 α) (k : Word) : Bool × SlotMap32 α :=
  if !m.hasKey k then (false, m) else (true, m.erase k)

/-- A write through the pointer of `get`. -/
def write (m : SlotMap32 α) (k : Word) (value : α) : SlotMap32 α :=
  if (m.get k).isSome then
    { m with slots := m.slots.modify (toIndex k).toNat fun slot => { slot with value := value } }
  else m

/-- `size`. -/
def size (m : SlotMap32 α) : Word := m.numItems

end SlotMap32

/-! ## The slots of the map -/

section Stores

variable {α : Type} {a : Slots α} {m : SlotMap32 α} {h : KeyLedger α} {k : GenerationalSlots.Key} {i : Nat}

/-- A slot of the map for a slot of its generation. -/
def stored (s : GenerationalSlots.Slot α) : VersionedSlot α :=
  ⟨BitVec.ofNat 16 s.generation, !s.taken, false, s.value⟩

/-- The map keeps the slots. -/
structure Stores (a : Slots α) (m : SlotMap32 α) : Prop where
  slots : m.slots = a.slots.map stored
  free : m.freeIndices = a.free.map fun i => keyWord (i, a.generation i)
  items : m.numItems = BitVec.ofNat 32 a.taken

/-- The slots, and the keys given out, of a map that is not too large. -/
structure Kept (h : KeyLedger α) (a : Slots α) (m : SlotMap32 α) : Prop where
  sound : Sound 64 1024 h a
  stores : Stores a m
  small : a.slots.length ≤ 2 ^ 20

theorem Stores.getElem? (st : Stores a m) (i : Nat) : m.slots[i]? = a.slots[i]?.map stored := by
  rw [st.slots, List.getElem?_map]

/-- No slot is inactive, so no page is released. -/
theorem Stores.isActivePage (st : Stores a m) (i : Nat) : m.isActivePage i = true := by
  have hzero : ((m.slots.drop (i / SlotMap32.pageSize * SlotMap32.pageSize)).take
      SlotMap32.pageSize).countP (·.inactive) = 0 := by
    refine List.countP_eq_zero.mpr fun slot hslot => ?_
    have hmem := List.mem_of_mem_drop (List.mem_of_mem_take hslot)
    rw [st.slots] at hmem
    obtain ⟨s, -, rfl⟩ := List.mem_map.mp hmem
    exact Bool.false_ne_true
  rw [SlotMap32.isActivePage, hzero]
  rfl

/-- A change of a slot. -/
theorem map_change {f : GenerationalSlots.Slot α → GenerationalSlots.Slot α}
    {f' : VersionedSlot α → VersionedSlot α} (hslots : m.slots = a.slots.map stored)
    (hf : ∀ s, a.slots[i]? = some s → stored (f s) = f' (stored s)) :
    m.slots.modify i f' = (a.change i f).slots.map stored := by
  refine List.ext_getElem? fun j => ?_
  rw [List.getElem?_modify, List.getElem?_map, GenerationalSlots.getElem?_change, hslots, List.getElem?_map]
  by_cases hij : i = j
  · subst hij
    cases hs : a.slots[i]? with
    | none => simp
    | some s => simp [hf s hs]
  · simp [hij]

/-- What the ledger says about the slot of a key that was given out. -/
theorem Kept.slot_of_given (hk : Kept h a m) (hmem : k ∈ h.given) :
    ∃ s, a.slots[k.1]? = some s ∧ k.1 < 2 ^ 20 ∧ 1 ≤ k.2 ∧ k.2 ≤ s.generation ∧
      s.generation ≤ 1024 ∧ (k.2 = s.generation → s.taken = true) := by
  obtain ⟨s, hs, hpos, hor⟩ := (hk.sound.mem_given k).mp hmem
  have hlen := GenerationalSlots.lt_of_getElem? hs
  have hsmall := hk.small
  refine ⟨s, hs, by omega, hpos, ?_, hk.sound.generation_le _ s hs, ?_⟩
  · rcases hor with hlt | ⟨heq, -⟩
    · exact Nat.le_of_lt hlt
    · exact Nat.le_of_eq heq
  · intro heq
    rcases hor with hlt | ⟨-, ht⟩
    · exact absurd heq (Nat.ne_of_lt hlt)
    · exact ht

/-- The version of a key is that of its slot while it is the last and not spent. -/
theorem version_eq_iff {g : Nat} (hpos : 1 ≤ k.2) (hle : k.2 ≤ g) (hg : g ≤ 1024) :
    BitVec.ofNat 16 g = toVersion (keyWord k) ↔ g = k.2 ∧ k.2 < 1024 := by
  rw [← BitVec.toNat_inj, toVersion_keyWord, BitVec.toNat_ofNat]
  omega

/-- **A key that was given out finds what it holds.** -/
theorem Kept.get_eq (hk : Kept h a m) (hmem : k ∈ h.given) : m.get (keyWord k) = h.held k := by
  obtain ⟨s, hs, hsmall, hpos, hle, hg, htaken⟩ := hk.slot_of_given hmem
  rw [← hk.sound.find_eq, SlotMap32.get, toIndex_keyWord hsmall, hk.stores.getElem?, hs,
    hk.stores.isActivePage, Slots.find, hs]
  simp only [Option.map_some, Option.bind_some, Bool.not_true, Bool.false_eq_true, if_false]
  have hiff : (stored s).version = toVersion (keyWord k) ↔ _ := version_eq_iff hpos hle hg
  by_cases hv : s.generation = k.2 ∧ k.2 < 1024
  · have hversion := hiff.mpr hv
    rw [if_neg (not_not_intro hversion), if_pos ⟨htaken hv.1.symm, hv⟩]
    rfl
  · have hversion : ¬ (stored s).version = toVersion (keyWord k) := fun h' => hv (hiff.mp h')
    simp [hversion, hv]

theorem Kept.hasKey_eq (hk : Kept h a m) (hmem : k ∈ h.given) :
    m.hasKey (keyWord k) = (h.held k).isSome := by
  have hget := hk.get_eq hmem
  obtain ⟨s, hs, hsmall, -⟩ := hk.slot_of_given hmem
  rw [← hget, SlotMap32.hasKey, SlotMap32.get, toIndex_keyWord hsmall, hk.stores.getElem?, hs,
    hk.stores.isActivePage]
  simp only [Option.map_some, Option.any_some, Option.bind_some, Bool.true_and, Bool.not_true,
    Bool.false_eq_true, if_false]
  by_cases hv : (stored s).version = toVersion (keyWord k)
  · simp [hv]
  · simp [hv]

theorem ofNat_succ_sub_one (n : Nat) : BitVec.ofNat 32 (n + 1) - 1 = BitVec.ofNat 32 n := by
  rw [BitVec.ofNat_add]
  exact BitVec.add_sub_cancel _ 1

/-- A write through the pointer of a key that was given out. -/
theorem Kept.write (hk : Kept h a m) (hmem : k ∈ h.given) (v : α) :
    Kept (h.after 1024 k (.write k v)) (a.write 1024 k v) (m.write (keyWord k) v) := by
  obtain ⟨s, hs, hsmall, -⟩ := hk.slot_of_given hmem
  have hstores : Stores (a.write 1024 k v) (m.write (keyWord k) v) ∧
      (a.write 1024 k v).slots.length = a.slots.length := by
    rw [SlotMap32.write, hk.get_eq hmem, Slots.write, hk.sound.find_eq]
    split
    · refine ⟨⟨?_, ?_, ?_⟩, GenerationalSlots.length_change _ _⟩
      · rw [toIndex_keyWord hsmall]
        exact map_change hk.stores.slots fun _ _ => rfl
      · refine hk.stores.free.trans (List.map_congr_left fun i _ => ?_)
        rw [GenerationalSlots.generation_change (f := fun s => { s with value := v }) fun _ => rfl]
      · have htaken := GenerationalSlots.taken_change (f := fun s => { s with value := v }) hs
        simp only [Nat.add_right_cancel_iff] at htaken
        rw [htaken]
        exact hk.stores.items
    · exact ⟨hk.stores, rfl⟩
  exact ⟨hk.sound.write k v, hstores.1, hstores.2 ▸ hk.small⟩

/-- **A key that was given out is erased when it holds something.** -/
theorem Kept.erase (hk : Kept h a m) (hmem : k ∈ h.given) :
    (m.lockedErase (keyWord k)).1 = (h.held k).isSome ∧
      Kept (h.after 1024 k (.erase k)) (a.erase 1024 k) (m.lockedErase (keyWord k)).2 := by
  obtain ⟨s, hs, hsmall, hpos, hle, hg, htaken⟩ := hk.slot_of_given hmem
  have hstores : (m.lockedErase (keyWord k)).1 = (h.held k).isSome ∧
      Stores (a.erase 1024 k) (m.lockedErase (keyWord k)).2 ∧
      (a.erase 1024 k).slots.length = a.slots.length := by
    rw [SlotMap32.lockedErase, hk.hasKey_eq hmem, Slots.erase, hk.sound.find_eq]
    cases hheld : (h.held k).isSome with
    | false => exact ⟨rfl, hk.stores, rfl⟩
    | true =>
      obtain ⟨s', hs', ht, hgen, hlt⟩ :=
        GenerationalSlots.find_isSome.mp ((GenerationalSlots.find_isSome_iff hk.sound k).trans hheld)
      obtain rfl := Option.some.inj (hs.symm.trans hs')
      have hversion : (stored s).version = toVersion (keyWord k) :=
        (version_eq_iff hpos hle hg).mpr ⟨hgen, hlt⟩
      have hvalid : toVersion (keyWord k) ≠ invalidVersion := fun hv => by
        have hnat := congrArg BitVec.toNat hv
        rw [toVersion_keyWord] at hnat
        change k.2 % 1024 = 0 at hnat
        omega
      have hmax : (stored s).version ≠ maxVersion := fun hv => by
        have hnat := congrArg BitVec.toNat (hversion.symm.trans hv)
        rw [toVersion_keyWord] at hnat
        change k.2 % 1024 = 1024 at hnat
        omega
      have herase : m.erase (keyWord k) = m.eraseSlot (keyWord k) (stored s) := by
        rw [SlotMap32.erase, toIndex_keyWord hsmall, hk.stores.getElem?, hs]
        simp only [Option.map_some]
        rw [hk.stores.isActivePage, if_neg (by simp), if_neg (by simp [stored, ht]), if_neg]
        rintro (hne | h0 | h0)
        · exact hne hversion
        · exact hvalid (hversion.symm.trans h0)
        · exact hvalid h0
      refine ⟨rfl, ?_, GenerationalSlots.length_change _ _⟩
      simp only [Bool.not_true, Bool.false_eq_true, if_false, if_true]
      rw [herase, SlotMap32.eraseSlot, if_neg hmax]
      have hsucc : (stored s).version + 1 = BitVec.ofNat 16 (k.2 + 1) := by
        rw [BitVec.ofNat_add, ← hgen]
        rfl
      refine ⟨?_, ?_, ?_⟩
      · rw [toIndex_keyWord hsmall]
        refine map_change hk.stores.slots fun s' hs' => ?_
        obtain rfl := Option.some.inj (hs.symm.trans hs')
        rw [hsucc, ← hgen]
        rfl
      · dsimp only
        rw [hsucc, keyWord, clearTagAndUpdateVersion_make, hk.stores.free]
        have hfree : ∀ f, (({ a with free := a.free ++ [k.1] } : Slots α).change k.1 f).free
            = a.free ++ [k.1] := fun _ => rfl
        rw [hfree, List.map_append]
        refine congrArg₂ (· ++ ·) ?_ ?_
        · refine List.map_congr_left fun i hi => ?_
          have hne : k.1 ≠ i := by
            rintro rfl
            obtain ⟨s', hs', ht'⟩ := (hk.sound.mem_free _).mp hi
            obtain rfl := Option.some.inj (hs.symm.trans hs')
            rw [ht] at ht'
            cases ht'
          rw [GenerationalSlots.generation_change_of_ne hne]
          rfl
        · have hnew := GenerationalSlots.getElem?_change (m := { a with free := a.free ++ [k.1] })
            (i := k.1) (f := fun s => ⟨s.generation + 1, false, s.value⟩) k.1
          rw [if_pos rfl, hs] at hnew
          rw [List.map_singleton, GenerationalSlots.generation_eq hnew]
          dsimp only
          rw [hgen]
          rfl
      · have hcount := GenerationalSlots.taken_change (m := { a with free := a.free ++ [k.1] })
          (f := fun s => (⟨s.generation + 1, false, s.value⟩ : GenerationalSlots.Slot α)) hs
        rw [if_pos ht, if_neg Bool.false_ne_true] at hcount
        have hpred : _ + 1 = a.taken := hcount
        change m.numItems - 1 = _
        rw [hk.stores.items, ← hpred]
        exact ofNat_succ_sub_one _
  exact ⟨hstores.1, hk.sound.erase k, hstores.2.1, hstores.2.2 ▸ hk.small⟩

/-- **A creation gives out the word of a new key**, while the map is not too large. -/
theorem Kept.create (hk : Kept h a m) (hroom : a.taken < 2 ^ 20 - 64) (v : α) :
    (m.emplace v).1 = keyWord (a.create 64 v).1 ∧
      Kept (h.after 1024 (a.create 64 v).1 (.create v)) (a.create 64 v).2 (m.emplace v).2 := by
  have happend : a.free.length ≤ 64 → (m.appendElement v).1 = keyWord (a.append v).1 ∧
      Stores (a.append v).2 (m.appendElement v).2 ∧ (a.append v).2.slots.length ≤ 2 ^ 20 := by
    intro hfree
    have hlen := hk.sound.length_eq
    have hlength : m.slots.length = a.slots.length := by rw [hk.stores.slots, List.length_map]
    refine ⟨?_, ⟨?_, ?_, ?_⟩, ?_⟩
    · rw [SlotMap32.appendElement, hlength]
      rfl
    · change m.slots ++ _ = (a.slots ++ _).map stored
      rw [hk.stores.slots, List.map_append]
      rfl
    · refine hk.stores.free.trans (List.map_congr_left fun i hi => ?_)
      obtain ⟨s, hs, -⟩ := (hk.sound.mem_free i).mp hi
      have hs' : (a.append v).2.slots[i]? = some s := by
        rw [GenerationalSlots.getElem?_append_slot,
          if_neg (Nat.ne_of_lt (GenerationalSlots.lt_of_getElem? hs)), hs]
      rw [GenerationalSlots.generation_eq hs, GenerationalSlots.generation_eq hs']
    · have hcount : (a.append v).2.taken = a.taken + 1 := by
        simp [Slots.taken, Slots.append, List.countP_append]
      change m.numItems + 1 = _
      rw [hk.stores.items, hcount, BitVec.ofNat_add]
      rfl
    · simp only [Slots.append, List.length_append, List.length_singleton]
      omega
  have hstores : (m.emplace v).1 = keyWord (a.create 64 v).1 ∧
      Stores (a.create 64 v).2 (m.emplace v).2 ∧ (a.create 64 v).2.slots.length ≤ 2 ^ 20 := by
    have hfree := hk.stores.free
    rw [SlotMap32.emplace, Slots.create]
    cases hcase : a.free with
    | nil =>
      rw [hcase, List.map_nil] at hfree
      rw [hfree]
      exact happend (by rw [hcase]; exact Nat.zero_le _)
    | cons i rest =>
      rw [hcase, List.map_cons] at hfree
      rw [hfree]
      dsimp only
      have hlength : (keyWord (i, a.generation i) :: rest.map fun i => keyWord (i, a.generation i)).length
          = (i :: rest).length := by simp
      rw [hlength, show SlotMap32.minFreeIndices = 64 from rfl]
      by_cases hlong : 64 < (i :: rest).length
      · rw [if_pos hlong, if_pos hlong]
        obtain ⟨s, hs, ht⟩ := (hk.sound.mem_free i).mp (by rw [hcase]; exact List.mem_cons_self)
        have hsmall : i < 2 ^ 20 := Nat.lt_of_lt_of_le (GenerationalSlots.lt_of_getElem? hs) hk.small
        refine ⟨rfl, ⟨?_, ?_, ?_⟩, ?_⟩
        · rw [toIndex_keyWord hsmall]
          exact map_change (a := { a with free := rest }) hk.stores.slots fun _ _ => rfl
        · refine List.map_congr_left fun j _ => ?_
          rw [GenerationalSlots.generation_change (f := fun s => { s with taken := true, value := v })
            fun _ => rfl]
          rfl
        · have hcount := GenerationalSlots.taken_change (m := { a with free := rest })
            (f := fun s => { s with taken := true, value := v }) hs
          rw [ht, if_neg Bool.false_ne_true, if_pos rfl, Nat.add_zero] at hcount
          rw [hcount]
          change m.numItems + 1 = _
          rw [hk.stores.items, BitVec.ofNat_add]
          rfl
        · rw [GenerationalSlots.length_change]
          exact hk.small
      · rw [if_neg hlong, if_neg hlong]
        exact happend (by rw [hcase]; exact Nat.le_of_not_lt hlong)
  exact ⟨hstores.1, hk.sound.create (by decide) v, hstores.2.1, hstores.2.2⟩

end Stores

/-! ## A run -/

/-- The keys given out, the latest first, the values of those that are live, and how many were erased. -/
structure Handles (α : Type) where
  given : List Word := []
  live : LockedSlotmap α := ∅
  erased : Nat := 0

inductive KeyCall (α : Type) where
  | create (value : α)
  | write (key : Word) (value : α)
  | erase (key : Word)

variable {α : Type}

/-- What a call should do to the values; `created` is the key that a creation gives out. -/
def Handles.after (l : Handles α) (created : Word) : KeyCall α → Handles α
  | .create value =>
    { l with
      given := created :: l.given
      live := if spent created then l.live else l.live.create created value }
  | .write key value => if (l.live.get key).isSome then { l with live := l.live.write key value } else l
  | .erase key =>
    { l with
      live := (l.live.erase key).2
      erased := l.erased + if (l.live.erase key).1 then 1 else 0 }

/-- The values, and the slot map. -/
def handleStep (x : Handles α × SlotMap32 α) : KeyCall α → Handles α × SlotMap32 α
  | .create value => (x.1.after (x.2.emplace value).1 (.create value), (x.2.emplace value).2)
  | .write key value => (x.1.after key (.write key value), x.2.write key value)
  | .erase key => (x.1.after key (.erase key), (x.2.lockedErase key).2)

/-- The caller uses keys that it was given, and leaves room for the queue. -/
def KeyCall.admitted (x : Handles α × SlotMap32 α) : KeyCall α → Prop
  | .create _ => x.2.size.toNat < 2 ^ 20 - 64
  | .write key _ | .erase key => key ∈ x.1.given

/-- The run of the slot map is a run of the slots. -/
structure Tracks (x : Handles α × SlotMap32 α) (h : KeyLedger α) (a : Slots α) : Prop where
  kept : Kept h a x.2
  given : x.1.given = h.given.map keyWord
  erased : x.1.erased = h.erased
  live : ∀ k ∈ h.given, x.1.live.get (keyWord k) = h.held k
  liveOnly : ∀ key, (x.1.live.get key).isSome = true → key ∈ x.1.given
  size : a.taken = x.1.live.entries.length + x.1.given.countP spent

section Run

variable {x : Handles α × SlotMap32 α} {h : KeyLedger α} {a : Slots α} {m : SlotMap32 α}
  {k k' : GenerationalSlots.Key}

theorem Kept.keyWord_inj (hk : Kept h a m) (hmem : k ∈ h.given) (hmem' : k' ∈ h.given)
    (heq : keyWord k = keyWord k') : k = k' := by
  obtain ⟨s, -, hsmall, hpos, hle, hg, -⟩ := hk.slot_of_given hmem
  obtain ⟨s', -, hsmall', hpos', hle', hg', -⟩ := hk.slot_of_given hmem'
  exact keyWord_injective hsmall hsmall' hpos hpos' (Nat.le_trans hle hg) (Nat.le_trans hle' hg') heq

theorem Kept.spent_iff (hk : Kept h a m) (hmem : k ∈ h.given) : spent (keyWord k) = true ↔ k.2 = 1024 := by
  obtain ⟨s, -, -, hpos, hle, hg, -⟩ := hk.slot_of_given hmem
  exact spent_keyWord hpos (Nat.le_trans hle hg)

/-- A key is spent after 1023 erasures of its slot, and 64 others came before each. -/
theorem Kept.le_erased (hk : Kept h a m) (hmem : k ∈ h.given) (hspent : k.2 = 1024) :
    66495 ≤ h.erased := by
  obtain ⟨s, hs, -, -, hle, hg, htaken⟩ := hk.slot_of_given hmem
  have hlast : k.2 = s.generation := by omega
  have hage := hk.sound.le_erased _ s hs (htaken hlast)
  rw [← hlast, hspent] at hage
  exact hage

theorem Kept.size_eq (hk : Kept h a m) : m.size.toNat = a.taken := by
  have hlen := hk.sound.length_eq
  have hsmall := hk.small
  rw [SlotMap32.size, hk.stores.items, BitVec.toNat_ofNat, Nat.mod_eq_of_lt (by omega)]

theorem tracks_empty : Tracks (({}, {}) : Handles α × SlotMap32 α) {} {} where
  kept := ⟨GenerationalSlots.sound_empty, ⟨rfl, rfl, rfl⟩, Nat.zero_le _⟩
  given := rfl
  erased := rfl
  live _ hmem := absurd hmem List.not_mem_nil
  liveOnly _ hkey := absurd hkey Bool.false_ne_true
  size := rfl

theorem Tracks.create (tr : Tracks x h a) (hroom : x.2.size.toNat < 2 ^ 20 - 64) (v : α) :
    Tracks (handleStep x (.create v)) (h.after 1024 (a.create 64 v).1 (.create v)) (a.create 64 v).2 := by
  rw [tr.kept.size_eq] at hroom
  obtain ⟨hkey, hkept⟩ := tr.kept.create hroom v
  generalize hk₀ : (a.create 64 v).1 = k₀ at hkey hkept ⊢
  have hgiven : (h.after 1024 k₀ (.create v)).given = k₀ :: h.given := rfl
  have hnew : k₀ ∉ h.given := (List.nodup_cons.mp (hgiven ▸ hkept.sound.given_nodup)).1
  have hword : ∀ k ∈ h.given, keyWord k ≠ keyWord k₀ := fun k hk heq =>
    hnew (hkept.keyWord_inj (List.mem_cons_of_mem _ hk) List.mem_cons_self heq ▸ hk)
  have hnotgiven : keyWord k₀ ∉ x.1.given := by
    rw [tr.given]
    intro hmem
    obtain ⟨k, hk, heq⟩ := List.mem_map.mp hmem
    exact hword k hk heq
  have hnone : x.1.live.get (keyWord k₀) = none := by
    cases hget : x.1.live.get (keyWord k₀) with
    | none => rfl
    | some value => exact absurd (tr.liveOnly _ (by rw [hget]; rfl)) hnotgiven
  have hspent := hkept.spent_iff (k := k₀) List.mem_cons_self
  have hle : k₀.2 ≤ 1024 := by
    obtain ⟨s, -, -, -, hle, hg, -⟩ := hkept.slot_of_given (k := k₀) List.mem_cons_self
    exact Nat.le_trans hle hg
  have hlive : (handleStep x (.create v)).1.live
      = if spent (keyWord k₀) then x.1.live else x.1.live.create (keyWord k₀) v := by
    change (if spent (x.2.emplace v).1 then _ else x.1.live.create (x.2.emplace v).1 v) = _
    rw [hkey]
  have hgiven' : (handleStep x (.create v)).1.given = keyWord k₀ :: x.1.given := by
    change (x.2.emplace v).1 :: _ = _
    rw [hkey]
  have hget : ∀ key, (handleStep x (.create v)).1.live.get key
      = if spent (keyWord k₀) then x.1.live.get key
        else Function.update x.1.live.get (keyWord k₀) (some v) key := by
    intro key
    rw [hlive]
    split
    · rfl
    · exact LockedSlotmap.get_insert _ _ _ _
  refine ⟨hkept, ?_, tr.erased, fun k hk => ?_, fun key hsome => ?_, ?_⟩
  · rw [hgiven', hgiven, List.map_cons, tr.given]
  · rw [hget]
    change _ = (if k₀.2 < 1024 then Function.update h.held k₀ (some v) else h.held) k
    rcases List.mem_cons.mp hk with rfl | hk
    · by_cases hlast : k.2 = 1024
      · rw [if_pos (hspent.mpr hlast), if_neg (by omega), hnone]
        -- nothing was held by a key that was not given
        cases hheld : h.held k with
        | none => rfl
        | some value =>
          have hfind := (tr.kept.sound.find_eq k).trans hheld
          obtain ⟨s, hs, ht, hg, hlt, -⟩ := GenerationalSlots.find_eq_some.mp hfind
          exact absurd hlast (Nat.ne_of_lt hlt)
      · rw [if_neg fun hsp => hlast (hspent.mp hsp), if_pos (by omega), Function.update_self,
          Function.update_self]
    · have hne : k ≠ k₀ := fun heq => hnew (heq ▸ hk)
      split
      · split
        · rw [Function.update_of_ne hne, tr.live k hk]
        · exact tr.live k hk
      · rw [Function.update_of_ne (hword k hk)]
        split
        · rw [Function.update_of_ne hne, tr.live k hk]
        · exact tr.live k hk
  · rw [hgiven']
    rw [hget] at hsome
    by_cases hkk : key = keyWord k₀
    · exact hkk ▸ List.mem_cons_self
    · refine List.mem_cons_of_mem _ (tr.liveOnly key ?_)
      split at hsome
      · exact hsome
      · rwa [Function.update_of_ne hkk] at hsome
  · rw [GenerationalSlots.taken_create tr.kept.sound (by decide), tr.size, hlive, hgiven', List.countP_cons]
    by_cases hsp : spent (keyWord k₀) = true
    · rw [if_pos hsp, if_pos hsp]
      omega
    · rw [if_neg hsp, if_neg hsp]
      have hentries : (x.1.live.create (keyWord k₀) v).entries.length = x.1.live.entries.length + 1 := by
        have hnotmem : keyWord k₀ ∉ x.1.live := AList.lookup_eq_none.mp hnone
        rw [LockedSlotmap.create, AList.entries_insert_of_notMem hnotmem, List.length_cons]
      omega

theorem length_alist_erase {live : LockedSlotmap α} {key : Word} (hkey : (live.get key).isSome = true) :
    (AList.erase key live).entries.length + 1 = live.entries.length := by
  have hmem : key ∈ live := AList.lookup_isSome.mp hkey
  obtain ⟨entry, hentry, hfst⟩ := List.exists_of_mem_map (f := Sigma.fst) hmem
  have hlen : (AList.erase key live).entries.length = live.entries.length - 1 :=
    List.length_eraseP_of_mem hentry (by simpa using hfst.symm)
  have hpos := List.length_pos_of_mem hentry
  omega

theorem Tracks.erase (tr : Tracks x h a) (hmem : k ∈ h.given) :
    Tracks (handleStep x (.erase (keyWord k))) (h.after 1024 k (.erase k)) (a.erase 1024 k) := by
  obtain ⟨hfound, hkept⟩ := tr.kept.erase hmem
  have hlive := tr.live k hmem
  have hget : ∀ key, (handleStep x (.erase (keyWord k))).1.live.get key
      = Function.update x.1.live.get (keyWord k) none key := fun key =>
    LockedSlotmap.get_erase _ _ _
  have hgiven : (h.after 1024 k (.erase k)).given = h.given := by
    rw [KeyLedger.after_erase]
    split <;> rfl
  have hheld : ∀ k', (h.after 1024 k (.erase k)).held k' = Function.update h.held k none k' := by
    intro k'
    rw [KeyLedger.after_erase]
    split
    · rfl
    · rename_i hnone
      by_cases hkk : k' = k
      · rw [hkk, Function.update_self]
        simpa using hnone
      · rw [Function.update_of_ne hkk]
  have herase : (x.1.live.erase (keyWord k)).1 = (h.held k).isSome := by
    rw [LockedSlotmap.erase, hlive]
    cases h.held k <;> rfl
  refine ⟨hkept, tr.given.trans (by rw [hgiven]), ?_, fun k' hk' => ?_, fun key hsome => ?_, ?_⟩
  · change x.1.erased + (if (x.1.live.erase (keyWord k)).1 then 1 else 0) = _
    rw [herase, KeyLedger.after_erase, tr.erased]
    split
    · rfl
    · rfl
  · rw [hgiven] at hk'
    rw [hget, hheld]
    by_cases hkk : k' = k
    · rw [hkk, Function.update_self, Function.update_self]
    · rw [Function.update_of_ne hkk, Function.update_of_ne fun heq => hkk (tr.kept.keyWord_inj hk' hmem heq),
        tr.live k' hk']
  · rw [hget] at hsome
    by_cases hkk : key = keyWord k
    · rw [hkk, Function.update_self] at hsome
      cases hsome
    · rw [Function.update_of_ne hkk] at hsome
      exact tr.liveOnly key hsome
  · change _ = (x.1.live.erase (keyWord k)).2.entries.length + x.1.given.countP spent
    have hsize := tr.size
    cases hfind : (h.held k).isSome with
    | false =>
      have hslots : a.erase 1024 k = a := by
        rw [Slots.erase, GenerationalSlots.find_isSome_iff tr.kept.sound, hfind, if_neg Bool.false_ne_true]
      have hmap : (x.1.live.erase (keyWord k)).2 = x.1.live := by
        rw [LockedSlotmap.erase, hlive, if_pos (by simpa using hfind)]
      rw [hslots, hmap]
      exact hsize
    | true =>
      have htaken := GenerationalSlots.taken_erase tr.kept.sound hfind
      have hmap : (x.1.live.erase (keyWord k)).2 = AList.erase (keyWord k) x.1.live := by
        rw [LockedSlotmap.erase, hlive, if_neg (by simpa using Option.isSome_iff_ne_none.mp hfind)]
      have hkey : (x.1.live.get (keyWord k)).isSome = true := by rw [hlive]; exact hfind
      have hlen := length_alist_erase hkey
      rw [hmap]
      omega

theorem Tracks.write (tr : Tracks x h a) (hmem : k ∈ h.given) (v : α) :
    Tracks (handleStep x (.write (keyWord k) v)) (h.after 1024 k (.write k v)) (a.write 1024 k v) := by
  have hkept := tr.kept.write hmem v
  have hlive := tr.live k hmem
  change Tracks (x.1.after (keyWord k) (.write (keyWord k) v), _) _ _
  have hafter : x.1.after (keyWord k) (.write (keyWord k) v)
      = if (h.held k).isSome then { x.1 with live := x.1.live.write (keyWord k) v } else x.1 := by
    rw [← hlive]
    rfl
  have hsame : (a.write 1024 k v).taken = a.taken := by
    have hlen := hkept.sound.length_eq
    have hlen' := tr.kept.sound.length_eq
    unfold Slots.write at hlen ⊢
    split at hlen
    · rename_i hfind
      rw [if_pos hfind]
      rw [GenerationalSlots.length_change] at hlen
      have hfree : (a.change k.1 fun s => { s with value := v }).free = a.free := rfl
      rw [hfree] at hlen
      omega
    · rename_i hfind
      rw [if_neg hfind]
  cases hheld : (h.held k).isSome with
  | false =>
    rw [KeyLedger.after_write, hheld, if_neg Bool.false_ne_true] at hkept ⊢
    rw [hafter, hheld, if_neg Bool.false_ne_true]
    exact ⟨hkept, tr.given, tr.erased, tr.live, tr.liveOnly, hsame.trans tr.size⟩
  | true =>
    rw [KeyLedger.after_write, hheld, if_pos rfl] at hkept ⊢
    rw [hafter, hheld, if_pos rfl]
    have hget : ∀ key, (x.1.live.write (keyWord k) v).get key
        = Function.update x.1.live.get (keyWord k) (some v) key := fun key =>
      LockedSlotmap.get_insert _ _ _ _
    refine ⟨hkept, tr.given, tr.erased, fun k' hk' => ?_, fun key hsome => ?_, ?_⟩
    · rw [hget]
      change _ = Function.update h.held k (some v) k'
      by_cases hkk : k' = k
      · rw [hkk, Function.update_self, Function.update_self]
      · rw [Function.update_of_ne hkk,
          Function.update_of_ne fun heq => hkk (tr.kept.keyWord_inj hk' hmem heq), tr.live k' hk']
    · by_cases hkk : key = keyWord k
      · rw [tr.given, hkk]
        exact List.mem_map_of_mem hmem
      · rw [hget, Function.update_of_ne hkk] at hsome
        exact tr.liveOnly key hsome
    · have hkey : (x.1.live.get (keyWord k)).isSome = true := by rw [hlive]; exact hheld
      have hlen := length_alist_erase hkey
      have hentries : (x.1.live.write (keyWord k) v).entries.length
          = (AList.erase (keyWord k) x.1.live).entries.length + 1 := by
        rw [LockedSlotmap.write, AList.entries_insert, List.length_cons]
        rfl
      rw [hsame, tr.size, hentries, hlen]

/-- **Every run of the slot map is a run of the slots.** -/
theorem exists_tracks (calls : List (KeyCall α))
    (hadm : Run.Along handleStep KeyCall.admitted ({}, {}) calls) :
    ∃ h a, Tracks (Run.run (handleStep (α := α)) ({}, {}) calls) h a := by
  refine Run.invariant (C := KeyCall.admitted) (I := fun x => ∃ h a, Tracks x h a)
    (fun x c hc => ?_) ⟨{}, {}, tracks_empty⟩ hadm
  rintro ⟨h, a, tr⟩
  cases c with
  | create v => exact ⟨_, _, tr.create hc v⟩
  | write key v =>
    have hmem : key ∈ x.1.given := hc
    rw [tr.given] at hmem
    obtain ⟨k, hk, rfl⟩ := List.mem_map.mp hmem
    exact ⟨_, _, tr.write hk v⟩
  | erase key =>
    have hmem : key ∈ x.1.given := hc
    rw [tr.given] at hmem
    obtain ⟨k, hk, rfl⟩ := List.mem_map.mp hmem
    exact ⟨_, _, tr.erase hk⟩

end Run

/-- What a caller relies on. -/
structure Faithful (x : Handles α × SlotMap32 α) : Prop where
  /-- A key that was given out finds its value, and is erased, as in the locked map. -/
  keys : ∀ key ∈ x.1.given, x.2.get key = x.1.live.get key
    ∧ x.2.hasKey key = (x.1.live.get key).isSome
    ∧ (x.2.lockedErase key).1 = (x.1.live.erase key).1
  /-- No key is given out twice. -/
  nodup : x.1.given.Nodup
  liveOnly : ∀ key, (x.1.live.get key).isSome = true → key ∈ x.1.given
  /-- A spent key keeps its slot. -/
  size : x.2.size.toNat = x.1.live.entries.length + x.1.given.countP spent
  /-- A spent key finds nothing, and comes late. -/
  spent : ∀ key ∈ x.1.given, spent key = true → x.1.live.get key = none ∧ 66495 ≤ x.1.erased

theorem Tracks.faithful {x : Handles α × SlotMap32 α} {h : KeyLedger α} {a : Slots α} (tr : Tracks x h a) :
    Faithful x := by
  have hword : ∀ key ∈ x.1.given, ∃ k ∈ h.given, keyWord k = key := fun key hkey =>
    List.mem_map.mp (tr.given ▸ hkey)
  refine ⟨fun key hkey => ?_, ?_, tr.liveOnly, tr.kept.size_eq.trans tr.size, fun key hkey hsp => ?_⟩
  · obtain ⟨k, hk, rfl⟩ := hword key hkey
    refine ⟨(tr.kept.get_eq hk).trans (tr.live k hk).symm, ?_, ?_⟩
    · rw [tr.kept.hasKey_eq hk, tr.live k hk]
    · rw [(tr.kept.erase hk).1, LockedSlotmap.erase, tr.live k hk]
      cases h.held k <;> rfl
  · rw [tr.given]
    exact tr.kept.sound.given_nodup.map_on fun k hk k' hk' => tr.kept.keyWord_inj hk hk'
  · obtain ⟨k, hk, rfl⟩ := hword key hkey
    have hlast := (tr.kept.spent_iff hk).mp hsp
    refine ⟨?_, tr.erased ▸ tr.kept.le_erased hk hlast⟩
    rw [tr.live k hk, ← tr.kept.sound.find_eq]
    simp [Slots.find, hlast]

/-- **On the keys it gave out, the slot map is the locked map of the values**, in every run of a caller
that uses keys it was given and keeps fewer than 2^20 - 64 values: a key finds its value, and is erased,
as in the locked map; no key is given out twice; `size` counts the values and the spent keys; and a spent
key, which finds nothing, is not given out before 66495 erasures. -/
theorem slot_map_keys (calls : List (KeyCall α))
    (hadm : Run.Along handleStep KeyCall.admitted ({}, {}) calls) :
    Faithful (Run.run handleStep ({}, {}) calls) := by
  obtain ⟨h, a, tr⟩ := exists_tracks calls hadm
  exact tr.faithful

instance (x : Handles α × SlotMap32 α) : ∀ call, Decidable (KeyCall.admitted x call)
  | .create _ => inferInstanceAs (Decidable (_ < _))
  | .write .. => inferInstanceAs (Decidable (_ ∈ _))
  | .erase _ => inferInstanceAs (Decidable (_ ∈ _))

/-- Sixty-five values come and go, and the next takes the first slot from the queue. -/
def reuseCalls : List (KeyCall Nat) :=
  ((List.range 65).flatMap fun i => [.create i, .erase (0x00100000 + BitVec.ofNat 32 i)])
    ++ [.create 99]

/-- The slot has a new key; the first key of the slot finds nothing. -/
theorem slot_map_keys_reuse :
    let x := Run.run handleStep ({}, {}) reuseCalls
    x.1.given.head? = some 0x00200000 ∧ x.2.get 0x00200000 = some 99 ∧ x.2.get 0x00100000 = none
      ∧ x.1.given.Nodup := by
  intro x
  have hfaithful := slot_map_keys reuseCalls (by decide +kernel)
  obtain ⟨hhead, hnew, hfirst, hgiven, hgivenFirst⟩ : x.1.given.head? = some 0x00200000
      ∧ x.1.live.get 0x00200000 = some 99 ∧ x.1.live.get 0x00100000 = none
      ∧ 0x00200000 ∈ x.1.given ∧ 0x00100000 ∈ x.1.given := by decide +kernel
  exact ⟨hhead, (hfaithful.keys _ hgiven).1.trans hnew, (hfaithful.keys _ hgivenFirst).1.trans hfirst,
    hfaithful.nodup⟩

end Dk64Port.Recomp
