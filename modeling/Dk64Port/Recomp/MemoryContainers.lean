import Dk64Port.Recomp.U32Slotmap

/-!
# Memory containers (`recomp_data_api.cpp`)

A memory hashmap and a memory slotmap give out one zeroed block of guest memory for each key. What a
container stores is the guest address of the block; the runtime's allocator owns the memory.

* `MemoryContainers`, `ContainerCall`, `MemoryContainers.step`: the code, with what a call writes and frees.
* `Ledger`, `OwnsBlocks`: which block is whose, and what mods rely on.
* `memory_containers_iff`: **it holds exactly along the runs that create no element in a memory slotmap.**
* `slotmap_create_not_claimed`: what such an element leads to.
-/

namespace Dk64Port.Recomp

open ByteLayout (Byte)
open SwappedMemory

/-- A locked map: the caller chooses the keys. -/
abbrev LockedMap (α : Type) := AList fun _ : Word => α

/-- `U32MemoryMap`: the addresses, and the size of an element. -/
abbrev U32MemoryMap := LockedMap Word × Word

/-- `MemorySlotmap`. -/
abbrev MemorySlotmap := LockedSlotmap Word × Word

/-- The containers of `recomp_data_api.cpp` that own memory, the allocator's blocks, and what the last
call wrote and passed to `recomp::free`. -/
structure MemoryContainers where
  hashmaps : LockedSlotmap U32MemoryMap := ∅
  slotmaps : LockedSlotmap MemorySlotmap := ∅
  memory : Rdram
  heap : List (Nat × Nat) := []
  r2 : Word := 0
  /-- `HANDLE_INVALID_ERROR`, `SLOTMAP_KEY_INVALID_ERROR`: the process was ended. -/
  exited : Bool := false
  /-- The offsets and lengths that were written. -/
  written : List (Nat × Nat) := []
  /-- The offsets that were passed to `recomp::free`; `none` for a pointer that is not into guest memory. -/
  frees : List (Option Nat) := []

namespace MemoryContainers

def ret (s : MemoryContainers) (value : Word) : MemoryContainers := { s with r2 := value }

def exit (s : MemoryContainers) : MemoryContainers := { s with exited := true }

/-- `recomp::alloc`, where the allocator gives the block at `off`, and the loop that zeroes it. -/
def allocZeroed (s : MemoryContainers) (off : Nat) (size : Word) : MemoryContainers :=
  { s with
    heap := (off, size.toNat) :: s.heap
    memory := zeroBlock s.memory off size.toNat
    written := (off, size.toNat) :: s.written }

/-- `recomp::free`. -/
def free (s : MemoryContainers) (mem : Option Nat) : MemoryContainers :=
  { s with
    heap := s.heap.filter fun block => some block.1 ≠ mem
    frees := s.frees ++ [mem] }

/-- `MEM_W(0, address) = value`. -/
def putW (s : MemoryContainers) (address value : Word) : MemoryContainers :=
  { s with
    memory := storeW s.memory (hostOffset address) value
    written := (hostOffset address, 4) :: s.written }

/-- `while (erase_first(cur_mem)) recomp::free(TO_PTR(void, cur_mem))`: every entry comes once. -/
def freeEntries (s : MemoryContainers) : List (Sigma fun _ : Word => Word) → MemoryContainers
  | [] => s
  | entry :: entries => (s.free (some (hostOffset entry.2))).freeEntries entries

/-! ## Memory hashmaps -/

/-- `recomputil_create_u32_memory_hashmap`. -/
def createHashmap (s : MemoryContainers) (elementSize mapkey : Word) : MemoryContainers :=
  { s with hashmaps := s.hashmaps.create mapkey (∅, elementSize) }.ret mapkey

/-- `recomputil_destroy_u32_memory_hashmap`. -/
def destroyHashmap (s : MemoryContainers) (mapkey : Word) : MemoryContainers :=
  match s.hashmaps.get mapkey with
  | none => s.exit
  | some map =>
    let s := s.freeEntries map.1.entries
    { s with hashmaps := (s.hashmaps.erase mapkey).2 }

/-- `recomputil_u32_memory_hashmap_create`. -/
def hashmapCreate (s : MemoryContainers) (mapkey key : Word) (off : Nat) : MemoryContainers :=
  match s.hashmaps.get mapkey with
  | none => s.exit
  | some map =>
    if (map.1.lookup key).isSome then s.ret 0
    else
      let s := s.allocZeroed off map.2
      { s with hashmaps := s.hashmaps.write mapkey (map.1.insert key (guestAddress off), map.2) }.ret 1

/-- `recomputil_u32_memory_hashmap_get`. -/
def hashmapGet (s : MemoryContainers) (mapkey key : Word) : MemoryContainers :=
  match s.hashmaps.get mapkey with
  | none => s.exit
  | some map =>
    match map.1.lookup key with
    | some address => s.ret address
    | none => s.ret 0

/-- `recomputil_u32_memory_hashmap_erase`. -/
def hashmapErase (s : MemoryContainers) (mapkey key : Word) : MemoryContainers :=
  match s.hashmaps.get mapkey with
  | none => s.exit
  | some map =>
    let found := map.1.lookup key
    let s := match found with
      | some address => s.free (some (hostOffset address))
      | none => s
    { s with hashmaps := s.hashmaps.write mapkey (AList.erase key map.1, map.2) }.ret
      (if found.isSome then 1 else 0)

/-! ## Memory slotmaps -/

/-- `recomputil_create_memory_slotmap`: the size of an element is never set. -/
def createSlotmap (s : MemoryContainers) (mapkey : Word) : MemoryContainers :=
  { s with slotmaps := s.slotmaps.create mapkey (∅, 0) }.ret mapkey

/-- `recomputil_destroy_memory_slotmap`. -/
def destroySlotmap (s : MemoryContainers) (mapkey : Word) : MemoryContainers :=
  match s.slotmaps.get mapkey with
  | none => s.exit
  | some map =>
    let s := s.freeEntries map.1.entries
    { s with slotmaps := (s.slotmaps.erase mapkey).2 }

/-- `recomputil_memory_slotmap_create`. -/
def slotmapCreate (s : MemoryContainers) (mapkey : Word) (off : Nat) (key : Word) : MemoryContainers :=
  match s.slotmaps.get mapkey with
  | none => s.exit
  | some map =>
    let s := s.allocZeroed off map.2
    -- the address goes to where the new element points, not into the element
    let value : Word := 0
    let s := s.putW value (guestAddress off)
    { s with slotmaps := s.slotmaps.write mapkey (map.1.create key value, map.2) }.ret key

/-- `recomputil_memory_slotmap_get`. -/
def slotmapGet (s : MemoryContainers) (mapkey key valOut : Word) : MemoryContainers :=
  match s.slotmaps.get mapkey with
  | none => s.exit
  | some map =>
    match map.1.get key with
    | none => s.exit
    | some value => s.putW valOut value

/-- `recomputil_memory_slotmap_erase`: a pointer to the element is taken for a guest address. -/
def slotmapErase (s : MemoryContainers) (mapkey key : Word) : MemoryContainers :=
  match s.slotmaps.get mapkey with
  | none => s.exit
  | some map =>
    let s := if (map.1.get key).isSome then s.free none else s
    let erased := map.1.erase key
    { s with slotmaps := s.slotmaps.write mapkey (erased.2, map.2) }.ret (if erased.1 then 1 else 0)

end MemoryContainers

/-- A call, with the handle, the key and the block that a slot map and the allocator give out. -/
inductive ContainerCall where
  | createHashmap (elementSize mapkey : Word)
  | destroyHashmap (mapkey : Word)
  | hashmapCreate (mapkey key : Word) (off : Nat)
  | hashmapGet (mapkey key : Word)
  | hashmapErase (mapkey key : Word)
  | createSlotmap (mapkey : Word)
  | destroySlotmap (mapkey : Word)
  | slotmapCreate (mapkey : Word) (off : Nat) (key : Word)
  | slotmapGet (mapkey key valOut : Word)
  | slotmapErase (mapkey key : Word)

def MemoryContainers.call (s : MemoryContainers) : ContainerCall → MemoryContainers
  | .createHashmap elementSize mapkey => s.createHashmap elementSize mapkey
  | .destroyHashmap mapkey => s.destroyHashmap mapkey
  | .hashmapCreate mapkey key off => s.hashmapCreate mapkey key off
  | .hashmapGet mapkey key => s.hashmapGet mapkey key
  | .hashmapErase mapkey key => s.hashmapErase mapkey key
  | .createSlotmap mapkey => s.createSlotmap mapkey
  | .destroySlotmap mapkey => s.destroySlotmap mapkey
  | .slotmapCreate mapkey off key => s.slotmapCreate mapkey off key
  | .slotmapGet mapkey key valOut => s.slotmapGet mapkey key valOut
  | .slotmapErase mapkey key => s.slotmapErase mapkey key

/-- Before a call nothing is written or freed. -/
def MemoryContainers.cleared (s : MemoryContainers) : MemoryContainers := { s with written := [], frees := [] }

/-- A call; none runs after the process has ended. -/
def MemoryContainers.step (s : MemoryContainers) (c : ContainerCall) : MemoryContainers :=
  if s.exited then s.cleared else s.cleared.call c

/-! ## What mods rely on -/

inductive Family where
  | hashmap
  | slotmap
deriving DecidableEq

/-- The block, offset and length, that was allocated for a key of a container. -/
abbrev Ledger := Family → Word → Word → Option (Nat × Nat)

namespace Ledger

/-- One entry changes. -/
def set (l : Ledger) (family : Family) (mapkey key : Word) (block : Option (Nat × Nat)) : Ledger :=
  fun f m k => if f = family ∧ m = mapkey ∧ k = key then block else l f m k

/-- A container goes. -/
def drop (l : Ledger) (family : Family) (mapkey : Word) : Ledger :=
  fun f m k => if f = family ∧ m = mapkey then none else l f m k

/-- What a call does to the ledger; `size` is what the call asks the allocator for. -/
def after (l : Ledger) (size : Nat) : ContainerCall → Ledger
  | .hashmapCreate mapkey key off =>
    if (l .hashmap mapkey key).isSome then l else l.set .hashmap mapkey key (some (off, size))
  | .hashmapErase mapkey key => l.set .hashmap mapkey key none
  | .destroyHashmap mapkey => l.drop .hashmap mapkey
  | .slotmapCreate mapkey off key => l.set .slotmap mapkey key (some (off, size))
  | .slotmapErase mapkey key => l.set .slotmap mapkey key none
  | .destroySlotmap mapkey => l.drop .slotmap mapkey
  | _ => l

end Ledger

/-- The size of an element of the container of a call. -/
def ContainerCall.elementSize (s : MemoryContainers) : ContainerCall → Nat
  | .hashmapCreate mapkey _ _ => ((s.hashmaps.get mapkey).map (·.2.toNat)).getD 0
  | .slotmapCreate mapkey _ _ => ((s.slotmaps.get mapkey).map (·.2.toNat)).getD 0
  | _ => 0

/-- Offset `k` is in a block. -/
def InBlock (block : Nat × Nat) (k : Nat) : Prop := block.1 ≤ k ∧ k < block.1 + block.2

/-- The ledger, and the containers. -/
def containerStep (x : Ledger × MemoryContainers) (c : ContainerCall) : Ledger × MemoryContainers :=
  (x.1.after (c.elementSize x.2) c, x.2.step c)

/-- Every key has its block, and the call did to the memory and the allocator what it should. -/
structure OwnsBlocks (l l' : Ledger) (s s' : MemoryContainers) (c : ContainerCall) : Prop where
  /-- `get` gives the address of the block. -/
  got : ∀ mapkey key block, c = .hashmapGet mapkey key → l .hashmap mapkey key = some block →
    s'.r2 = guestAddress block.1
  gotOut : ∀ mapkey key valOut block, c = .slotmapGet mapkey key valOut →
    l .slotmap mapkey key = some block → loadW s'.memory (hostOffset valOut) = guestAddress block.1
  /-- A new block is zero. -/
  zeroed : ∀ family mapkey key block k, l family mapkey key = none →
    l' family mapkey key = some block → InBlock block k → logical s'.memory k = 0
  /-- The blocks of two keys are two blocks, and share no byte. -/
  disjoint : ∀ family mapkey key block family' mapkey' key' block', l' family mapkey key = some block →
    l' family' mapkey' key' = some block' → (family, mapkey, key) ≠ (family', mapkey', key') →
      block.1 ≠ block'.1 ∧ ∀ k, InBlock block k → ¬ InBlock block' k
  /-- The blocks of the keys that go are freed, once, and nothing else. -/
  freed : s'.frees.Nodup ∧ ∀ mem, mem ∈ s'.frees ↔ ∃ family mapkey key block,
    l family mapkey key = some block ∧ l' family mapkey key = none ∧ mem = some block.1
  /-- Nothing is written but the new block and the out-parameter. -/
  written : ∀ range ∈ s'.written, (∃ family mapkey key, l family mapkey key = none ∧
    l' family mapkey key = some range) ∨
      ∃ mapkey key valOut, c = .slotmapGet mapkey key valOut ∧ range = (hostOffset valOut, 4)
  kept : ∀ k, (∀ range ∈ s'.written, ¬ InBlock range k) → logical s'.memory k = logical s.memory k

/-- What the allocator promises: the block is in the window, and apart from every other. -/
def MemoryContainers.fresh (s : MemoryContainers) (off size : Nat) : Prop :=
  off + size ≤ 0x20000000 ∧ ∀ block ∈ s.heap, block.1 ≠ off ∧ ∀ k, InBlock block k → ¬ InBlock (off, size) k

/-- What is promised of a call: its handle is live, and what a slot map or the allocator gives out is new. -/
def ContainerCall.valid (s : MemoryContainers) : ContainerCall → Prop
  | .createHashmap _ mapkey => s.hashmaps.get mapkey = none
  | .createSlotmap mapkey => s.slotmaps.get mapkey = none
  | .hashmapCreate mapkey key off => ∃ map, s.hashmaps.get mapkey = some map ∧
      (map.1.lookup key = none → s.fresh off map.2.toNat)
  | .destroyHashmap mapkey | .hashmapGet mapkey _ | .hashmapErase mapkey _ =>
      (s.hashmaps.get mapkey).isSome = true
  | .slotmapCreate mapkey off key => ∃ map, s.slotmaps.get mapkey = some map ∧
      map.1.get key = none ∧ s.fresh off map.2.toNat
  | .destroySlotmap mapkey | .slotmapGet mapkey _ _ | .slotmapErase mapkey _ =>
      (s.slotmaps.get mapkey).isSome = true

/-- The call is valid, and the process runs. -/
def ContainerCall.promised (s : MemoryContainers) (c : ContainerCall) : Prop := s.exited = false ∧ c.valid s

/-- The call creates no element in a memory slotmap. -/
def ContainerCall.spares (c : ContainerCall) : Prop := ∀ mapkey off key, c ≠ .slotmapCreate mapkey off key

/-! ## What is freed -/

namespace MemoryContainers

variable {s : MemoryContainers} {es : List (Sigma fun _ : Word => Word)}

theorem freeEntries_memory : (s.freeEntries es).memory = s.memory := by
  induction es generalizing s with
  | nil => rfl
  | cons e es ih => exact ih

theorem freeEntries_written : (s.freeEntries es).written = s.written := by
  induction es generalizing s with
  | nil => rfl
  | cons e es ih => exact ih

theorem freeEntries_containers (s : MemoryContainers) (es : List (Sigma fun _ : Word => Word)) :
    (s.freeEntries es).hashmaps = s.hashmaps ∧
    (s.freeEntries es).slotmaps = s.slotmaps := by
  induction es generalizing s with
  | nil => exact ⟨rfl, rfl⟩
  | cons e es ih => exact ih _

theorem freeEntries_frees :
    (s.freeEntries es).frees = s.frees ++ es.map fun e => some (hostOffset e.2) := by
  induction es generalizing s with
  | nil => exact (List.append_nil _).symm
  | cons e es ih =>
    change ((s.free (some (hostOffset e.2))).freeEntries es).frees = _
    rw [ih, List.map_cons]
    exact List.append_assoc _ _ _

/-- A block with another offset stays. -/
theorem mem_freeEntries_heap {block : Nat × Nat} (h : block ∈ s.heap)
    (hother : ∀ e ∈ es, block.1 ≠ hostOffset e.2) : block ∈ (s.freeEntries es).heap := by
  induction es generalizing s with
  | nil => exact h
  | cons e es ih =>
    refine ih (List.mem_filter.mpr ⟨h, decide_eq_true fun heq => ?_⟩)
      fun e' he' => hother e' (List.mem_cons_of_mem _ he')
    exact hother e List.mem_cons_self (Option.some.inj heq)

end MemoryContainers

/-! ## The ledger and the code -/

/-- The block of a key, as the hashmap stores it. -/
def MemoryContainers.stored (s : MemoryContainers) (mapkey key : Word) : Option (Nat × Nat) :=
  (s.hashmaps.get mapkey).bind fun map =>
    (map.1.lookup key).map fun address => (hostOffset address, map.2.toNat)

/-- The hashmaps store the ledger, its blocks are allocated, and no slotmap has an element. -/
structure LedgerOf (l : Ledger) (s : MemoryContainers) : Prop where
  hash : ∀ mapkey key, l .hashmap mapkey key = s.stored mapkey key
  slotless : ∀ mapkey key, l .slotmap mapkey key = none
  empty : ∀ mapkey map, s.slotmaps.get mapkey = some map → map.1 = ∅
  heap : ∀ family mapkey key block, l family mapkey key = some block → block ∈ s.heap
  apart : ∀ family mapkey key block family' mapkey' key' block', l family mapkey key = some block →
    l family' mapkey' key' = some block' → (family, mapkey, key) ≠ (family', mapkey', key') →
      block.1 ≠ block'.1 ∧ ∀ k, InBlock block k → ¬ InBlock block' k

variable {l l' : Ledger} {s s' : MemoryContainers} {c : ContainerCall}

/-- A call that leaves the memory and the allocator alone. -/
theorem owns_of_quiet (h : LedgerOf l s) (hmemory : s'.memory = s.memory) (hwritten : s'.written = [])
    (hfrees : s'.frees = []) (hgot : ∀ mapkey key block, c = .hashmapGet mapkey key →
      l .hashmap mapkey key = some block → s'.r2 = guestAddress block.1) : OwnsBlocks l l s s' c where
  got := hgot
  gotOut := fun _ _ _ _ _ hblock => nomatch (h.slotless _ _).symm.trans hblock
  zeroed := fun _ _ _ _ _ hnone hsome => nomatch hnone.symm.trans hsome
  disjoint := h.apart
  freed := by
    rw [hfrees]
    refine ⟨List.nodup_nil, fun mem => ⟨nofun, ?_⟩⟩
    rintro ⟨_, _, _, _, hsome, hnone, -⟩
    nomatch hnone.symm.trans hsome
  written := by
    rw [hwritten]
    nofun
  kept := fun k _ => by rw [hmemory]

/-- Keys of one hashmap go, and their blocks are freed. -/
theorem owns_of_removal (h : LedgerOf l s) (mapkey : Word) (size : Nat) (es : List (Sigma fun _ : Word => Word))
    (hnodup : es.Nodup) (hkeys : ∀ e ∈ es, l .hashmap mapkey e.1 = some (hostOffset e.2, size))
    (hsame : ∀ e ∈ es, ∀ e' ∈ es, e.1 = e'.1 → e = e')
    (hgone : ∀ e ∈ es, l' .hashmap mapkey e.1 = none)
    (hstay : ∀ f m k, (f = .hashmap ∧ m = mapkey ∧ ∃ e ∈ es, e.1 = k) ∨ l' f m k = l f m k)
    (hmemory : s'.memory = s.memory) (hwritten : s'.written = [])
    (hfrees : s'.frees = es.map fun e => some (hostOffset e.2))
    (hheap : ∀ block ∈ s.heap, (∀ e ∈ es, block.1 ≠ hostOffset e.2) → block ∈ s'.heap)
    (hslots : s'.slotmaps = s.slotmaps) (hhash : ∀ m k, l' .hashmap m k = s'.stored m k)
    (hget : ∀ m k, c ≠ .hashmapGet m k) : OwnsBlocks l l' s s' c ∧ LedgerOf l' s' := by
  have hold : ∀ f m k block, l' f m k = some block → l f m k = some block := by
    intro f m k block hblock
    rcases hstay f m k with ⟨rfl, rfl, e, he, rfl⟩ | heq
    · nomatch (hgone e he).symm.trans hblock
    · rwa [← heq]
  have hapart : ∀ f m k block f' m' k' block', l' f m k = some block → l' f' m' k' = some block' →
      (f, m, k) ≠ (f', m', k') → block.1 ≠ block'.1 ∧ ∀ k, InBlock block k → ¬ InBlock block' k :=
    fun f m k block f' m' k' block' hb hb' hne =>
      h.apart f m k block f' m' k' block' (hold _ _ _ _ hb) (hold _ _ _ _ hb') hne
  refine ⟨⟨fun m k _ hc _ => absurd hc (hget m k), fun _ _ _ _ _ hblock => ?_,
    fun f m k block _ hnone hsome => ?_, hapart, ⟨?_, fun mem => ⟨fun hin => ?_, ?_⟩⟩, ?_, fun k _ => ?_⟩,
    ⟨hhash, fun m k => ?_, fun m map hmap => ?_, fun f m k block hblock => ?_, hapart⟩⟩
  · nomatch (h.slotless _ _).symm.trans hblock
  · nomatch hnone.symm.trans (hold _ _ _ _ hsome)
  · rw [hfrees]
    refine hnodup.map_on fun e he e' he' heq => ?_
    by_contra hne
    have hkey : (Family.hashmap, mapkey, e.1) ≠ (Family.hashmap, mapkey, e'.1) :=
      fun hsame' => hne (hsame e he e' he' (congrArg (·.2.2) hsame'))
    exact (h.apart _ _ _ _ _ _ _ _ (hkeys e he) (hkeys e' he') hkey).1 (Option.some.inj heq)
  · rw [hfrees] at hin
    obtain ⟨e, he, rfl⟩ := List.mem_map.mp hin
    exact ⟨.hashmap, mapkey, e.1, _, hkeys e he, hgone e he, rfl⟩
  · rintro ⟨f, m, k, block, hsome, hnone, rfl⟩
    rcases hstay f m k with ⟨rfl, rfl, e, he, rfl⟩ | heq
    · rw [hfrees]
      refine List.mem_map.mpr ⟨e, he, ?_⟩
      rw [← Option.some.inj ((hkeys e he).symm.trans hsome)]
    · rw [heq, hsome] at hnone
      nomatch hnone
  · rw [hwritten]
    nofun
  · rw [hmemory]
  · rcases hstay .slotmap m k with ⟨hfamily, -⟩ | heq
    · nomatch hfamily
    · rw [heq]
      exact h.slotless m k
  · rw [hslots] at hmap
    exact h.empty m map hmap
  · refine hheap block (h.heap _ _ _ _ (hold _ _ _ _ hblock)) fun e he => ?_
    refine (h.apart _ _ _ _ _ _ _ _ (hold _ _ _ _ hblock) (hkeys e he) ?_).1
    intro hsame'
    obtain ⟨rfl, hrest⟩ := Prod.mk.inj hsame'
    obtain ⟨rfl, rfl⟩ := Prod.mk.inj hrest
    nomatch (hgone e he).symm.trans hblock

/-! ## Calls -/

/-- The hashmaps store the ledger after a call that leaves the allocator and the slotmaps alone. -/
theorem ledgerOf_of_quiet (h : LedgerOf l s) (hheap : s'.heap = s.heap) (hslots : s'.slotmaps = s.slotmaps)
    (hstored : ∀ mapkey key, s'.stored mapkey key = s.stored mapkey key) : LedgerOf l s' where
  hash := fun mapkey key => by rw [hstored, h.hash]
  slotless := h.slotless
  empty := fun mapkey map hmap => h.empty mapkey map (hslots ▸ hmap)
  heap := fun family mapkey key block hblock => hheap ▸ h.heap family mapkey key block hblock
  apart := h.apart

section Calls

variable {mapkey key : Word}

theorem stored_of_none (hget : s.hashmaps.get mapkey = none) : s.stored mapkey key = none := by
  unfold MemoryContainers.stored
  rw [hget]
  rfl

theorem stored_of_some {map : U32MemoryMap} (hget : s.hashmaps.get mapkey = some map) :
    s.stored mapkey key
      = (map.1.lookup key).map fun address => (hostOffset address, map.2.toNat) := by
  unfold MemoryContainers.stored
  rw [hget]
  rfl

/-- The other hashmaps store what they did. -/
theorem stored_of_ne {hashmaps : LockedSlotmap U32MemoryMap} {other : Word} (hne : other ≠ mapkey)
    {found : Option U32MemoryMap}
    (hget : hashmaps.get = Function.update s.hashmaps.get mapkey found)
    (hs : s'.hashmaps = hashmaps) : s'.stored other key = s.stored other key := by
  unfold MemoryContainers.stored
  rw [hs, hget, Function.update_of_ne hne]

theorem createHashmap_owns (h : LedgerOf l s) (hwritten : s.written = []) (hfrees : s.frees = [])
    {elementSize : Word} (hnew : s.hashmaps.get mapkey = none) :
    OwnsBlocks l l s (s.createHashmap elementSize mapkey) (.createHashmap elementSize mapkey) ∧
      LedgerOf l (s.createHashmap elementSize mapkey) := by
  have hget : (s.createHashmap elementSize mapkey).hashmaps.get
      = Function.update s.hashmaps.get mapkey (some (∅, elementSize)) :=
    funext fun other => LockedSlotmap.get_insert _ mapkey other _
  refine ⟨owns_of_quiet h rfl hwritten hfrees nofun, ledgerOf_of_quiet h rfl rfl fun other key => ?_⟩
  by_cases ho : other = mapkey
  · rw [ho, stored_of_none hnew, stored_of_some (by rw [hget, Function.update_self])]
    rfl
  · exact stored_of_ne ho hget rfl

theorem destroyHashmap_owns (h : LedgerOf l s) (hwritten : s.written = []) (hfrees : s.frees = [])
    (hlive : (s.hashmaps.get mapkey).isSome = true) :
    OwnsBlocks l (l.drop .hashmap mapkey) s (s.destroyHashmap mapkey) (.destroyHashmap mapkey) ∧
      LedgerOf (l.drop .hashmap mapkey) (s.destroyHashmap mapkey) := by
  obtain ⟨map, hmap⟩ := Option.isSome_iff_exists.mp hlive
  have hdestroy : s.destroyHashmap mapkey
      = { s.freeEntries map.1.entries with
          hashmaps := ((s.freeEntries map.1.entries).hashmaps.erase mapkey).2 } := by
    unfold MemoryContainers.destroyHashmap
    rw [hmap]
  have hcontainers := MemoryContainers.freeEntries_containers s map.1.entries
  have hget : (s.destroyHashmap mapkey).hashmaps.get
      = Function.update s.hashmaps.get mapkey none := by
    rw [hdestroy]
    refine funext fun other => ?_
    rw [← hcontainers.1]
    exact LockedSlotmap.get_erase _ mapkey other
  have hentry : ∀ e ∈ map.1.entries, map.1.lookup e.1 = some e.2 :=
    fun e he => AList.mem_lookup_iff.mpr he
  refine owns_of_removal h mapkey map.2.toNat map.1.entries
    (List.NodupKeys.nodup map.1.nodupKeys) (fun e he => ?_) (fun e he e' he' heq => ?_)
    (fun e he => if_pos ⟨rfl, rfl⟩) (fun f m k => ?_) ?_ ?_ ?_ (fun block hblock hother => ?_) ?_
    (fun m k => ?_) nofun
  · rw [h.hash, stored_of_some hmap, hentry e he]
    rfl
  · obtain ⟨k, address⟩ := e
    obtain ⟨k', address'⟩ := e'
    obtain rfl : k = k' := heq
    have hfirst := hentry _ he
    have hsecond := hentry _ he'
    rw [show address = address' from Option.some.inj (hfirst.symm.trans hsecond)]
  · by_cases hboth : f = .hashmap ∧ m = mapkey
    · obtain ⟨rfl, rfl⟩ := hboth
      cases hlookup : map.1.lookup k with
      | some address => exact .inl ⟨rfl, rfl, ⟨k, address⟩, AList.mem_lookup_iff.mp hlookup, rfl⟩
      | none =>
        refine .inr ?_
        rw [h.hash, stored_of_some hmap, hlookup]
        exact if_pos ⟨rfl, rfl⟩
    · exact .inr (if_neg hboth)
  · rw [hdestroy]
    exact MemoryContainers.freeEntries_memory
  · rw [hdestroy]
    exact MemoryContainers.freeEntries_written.trans hwritten
  · rw [hdestroy]
    refine MemoryContainers.freeEntries_frees.trans ?_
    rw [hfrees, List.nil_append]
  · rw [hdestroy]
    exact MemoryContainers.mem_freeEntries_heap hblock hother
  · rw [hdestroy]
    exact hcontainers.2
  · by_cases hm : m = mapkey
    · rw [hm, stored_of_none (by rw [hget, Function.update_self])]
      exact if_pos ⟨rfl, rfl⟩
    · rw [stored_of_ne hm hget rfl, ← h.hash]
      exact if_neg fun hboth => hm hboth.2

theorem hashmapGet_owns (h : LedgerOf l s) (hwritten : s.written = []) (hfrees : s.frees = [])
    (hlive : (s.hashmaps.get mapkey).isSome = true) :
    OwnsBlocks l l s (s.hashmapGet mapkey key) (.hashmapGet mapkey key) ∧
      LedgerOf l (s.hashmapGet mapkey key) := by
  obtain ⟨map, hmap⟩ := Option.isSome_iff_exists.mp hlive
  have hcall : s.hashmapGet mapkey key = s.ret ((map.1.lookup key).getD 0) := by
    unfold MemoryContainers.hashmapGet
    rw [hmap]
    dsimp only
    split
    · rename_i hlookup
      rw [hlookup, Option.getD_some]
    · rename_i hlookup
      rw [hlookup, Option.getD_none]
  rw [hcall]
  refine ⟨owns_of_quiet h rfl hwritten hfrees fun m k block hc hblock => ?_,
    ledgerOf_of_quiet h rfl rfl fun _ _ => rfl⟩
  obtain ⟨rfl, rfl⟩ := ContainerCall.hashmapGet.inj hc
  rw [h.hash, stored_of_some hmap] at hblock
  obtain ⟨address, hlookup, rfl⟩ := Option.map_eq_some_iff.mp hblock
  change (map.1.lookup key).getD 0 = _
  rw [hlookup, Option.getD_some, guestAddress_hostOffset]

theorem hashmapErase_owns (h : LedgerOf l s) (hwritten : s.written = []) (hfrees : s.frees = [])
    (hlive : (s.hashmaps.get mapkey).isSome = true) :
    OwnsBlocks l (l.set .hashmap mapkey key none) s (s.hashmapErase mapkey key) (.hashmapErase mapkey key) ∧
      LedgerOf (l.set .hashmap mapkey key none) (s.hashmapErase mapkey key) := by
  obtain ⟨map, hmap⟩ := Option.isSome_iff_exists.mp hlive
  have hget : (s.hashmapErase mapkey key).hashmaps.get
      = Function.update s.hashmaps.get mapkey (some (AList.erase key map.1, map.2)) := by
    unfold MemoryContainers.hashmapErase
    rw [hmap]
    refine funext fun other => (LockedSlotmap.get_insert _ mapkey other _).trans ?_
    cases map.1.lookup key with
    | none => rfl
    | some address => rfl
  have hhash : ∀ m k, (l.set .hashmap mapkey key none) .hashmap m k
      = (s.hashmapErase mapkey key).stored m k := by
    intro m k
    by_cases hm : m = mapkey
    · subst hm
      rw [stored_of_some (by rw [hget, Function.update_self])]
      by_cases hk : k = key
      · rw [hk, AList.lookup_erase]
        exact if_pos ⟨rfl, rfl, rfl⟩
      · rw [AList.lookup_erase_ne hk, ← stored_of_some hmap, ← h.hash]
        exact if_neg fun hall => hk hall.2.2
    · rw [stored_of_ne hm hget rfl, ← h.hash]
      exact if_neg fun hall => hm hall.2.1
  have hother : ∀ f m k, ¬ (f = .hashmap ∧ m = mapkey ∧ k = key) →
      (l.set .hashmap mapkey key none) f m k = l f m k := fun f m k hne => if_neg hne
  cases hlookup : map.1.lookup key with
  | none =>
    have hcall : s.hashmapErase mapkey key = { s with
        hashmaps := s.hashmaps.write mapkey (AList.erase key map.1, map.2) }.ret 0 := by
      unfold MemoryContainers.hashmapErase
      rw [hmap]
      dsimp only
      rw [hlookup]
      rfl
    refine owns_of_removal h mapkey map.2.toNat [] List.nodup_nil nofun nofun
      nofun (fun f m k => .inr ?_) ?_ ?_ ?_ ?_ ?_ hhash nofun
    · by_cases hall : f = .hashmap ∧ m = mapkey ∧ k = key
      · obtain ⟨rfl, rfl, rfl⟩ := hall
        rw [h.hash, stored_of_some hmap, hlookup]
        exact if_pos ⟨rfl, rfl, rfl⟩
      · exact hother f m k hall
    · rw [hcall]
      rfl
    · rw [hcall]
      exact hwritten
    · rw [hcall]
      exact hfrees
    · rw [hcall]
      exact fun block hblock _ => hblock
    · rw [hcall]
      rfl
  | some address =>
    have hcall : s.hashmapErase mapkey key = { s.free (some (hostOffset address)) with
        hashmaps := s.hashmaps.write mapkey (AList.erase key map.1, map.2) }.ret 1 := by
      unfold MemoryContainers.hashmapErase
      rw [hmap]
      dsimp only
      rw [hlookup]
      rfl
    refine owns_of_removal h mapkey map.2.toNat [⟨key, address⟩]
      (List.nodup_singleton _) (fun e he => ?_) (fun e he e' he' _ => ?_) (fun e he => ?_) (fun f m k => ?_)
      ?_ ?_ ?_ (fun block hblock hne => ?_) ?_ hhash nofun
    · obtain rfl := List.mem_singleton.mp he
      rw [h.hash, stored_of_some hmap, hlookup]
      rfl
    · rw [List.mem_singleton.mp he, List.mem_singleton.mp he']
    · obtain rfl := List.mem_singleton.mp he
      exact if_pos ⟨rfl, rfl, rfl⟩
    · by_cases hall : f = .hashmap ∧ m = mapkey ∧ k = key
      · exact .inl ⟨hall.1, hall.2.1, _, List.mem_singleton_self _, hall.2.2.symm⟩
      · exact .inr (hother f m k hall)
    · rw [hcall]
      rfl
    · rw [hcall]
      exact hwritten
    · rw [hcall]
      change s.frees ++ _ = _
      rw [hfrees]
      rfl
    · rw [hcall]
      exact MemoryContainers.mem_freeEntries_heap hblock hne
    · rw [hcall]
      rfl

/-- A block that the allocator gives to a new key of a hashmap. -/
theorem hashmapCreate_owns (h : LedgerOf l s) (hwritten : s.written = []) (hfrees : s.frees = [])
    {off : Nat} {map : U32MemoryMap} (hmap : s.hashmaps.get mapkey = some map)
    (hlookup : map.1.lookup key = none) (hfresh : s.fresh off map.2.toNat) :
    OwnsBlocks l (l.set .hashmap mapkey key (some (off, map.2.toNat))) s (s.hashmapCreate mapkey key off)
        (.hashmapCreate mapkey key off) ∧
      LedgerOf (l.set .hashmap mapkey key (some (off, map.2.toNat))) (s.hashmapCreate mapkey key off) := by
  have hcall : s.hashmapCreate mapkey key off = { s.allocZeroed off map.2 with
      hashmaps := s.hashmaps.write mapkey (map.1.insert key (guestAddress off), map.2) }.ret 1 := by
    unfold MemoryContainers.hashmapCreate
    rw [hmap]
    dsimp only
    rw [hlookup]
    rfl
  have hget : (s.hashmapCreate mapkey key off).hashmaps.get
      = Function.update s.hashmaps.get mapkey (some (map.1.insert key (guestAddress off), map.2)) := by
    rw [hcall]
    exact funext fun other => LockedSlotmap.get_insert _ mapkey other _
  have hnone : l .hashmap mapkey key = none := by
    rw [h.hash, stored_of_some hmap, hlookup]
    rfl
  have hself : (l.set .hashmap mapkey key (some (off, map.2.toNat))) .hashmap mapkey key
      = some (off, map.2.toNat) := if_pos ⟨rfl, rfl, rfl⟩
  have hcase : ∀ {f m k block}, (l.set .hashmap mapkey key (some (off, map.2.toNat))) f m k = some block →
      ((f, m, k) = (.hashmap, mapkey, key) ∧ block = (off, map.2.toNat)) ∨ l f m k = some block := by
    intro f m k block hblock
    unfold Ledger.set at hblock
    by_cases hall : f = .hashmap ∧ m = mapkey ∧ k = key
    · rw [if_pos hall] at hblock
      obtain ⟨rfl, rfl, rfl⟩ := hall
      exact .inl ⟨rfl, (Option.some.inj hblock).symm⟩
    · rw [if_neg hall] at hblock
      exact .inr hblock
  have hwrites : (s.hashmapCreate mapkey key off).written = [(off, map.2.toNat)] := by
    rw [hcall]
    change (off, map.2.toNat) :: s.written = _
    rw [hwritten]
  have hmemory : ∀ k, logical (s.hashmapCreate mapkey key off).memory k
      = if off ≤ k ∧ k < off + map.2.toNat then 0 else logical s.memory k := by
    intro k
    rw [hcall]
    exact logical_zeroBlock _ _ _ _
  have hapart : ∀ f m k block f' m' k' block',
      (l.set .hashmap mapkey key (some (off, map.2.toNat))) f m k = some block →
      (l.set .hashmap mapkey key (some (off, map.2.toNat))) f' m' k' = some block' →
      (f, m, k) ≠ (f', m', k') → block.1 ≠ block'.1 ∧ ∀ k, InBlock block k → ¬ InBlock block' k := by
    intro f m k block f' m' k' block' hblock hblock' hne
    rcases hcase hblock with ⟨heq, rfl⟩ | hold
    · rcases hcase hblock' with ⟨heq', rfl⟩ | hold'
      · exact absurd (heq.trans heq'.symm) hne
      · obtain ⟨hoff, hbytes⟩ := hfresh.2 _ (h.heap _ _ _ _ hold')
        exact ⟨fun heq => hoff heq.symm, fun k hk hk' => hbytes k hk' hk⟩
    · rcases hcase hblock' with ⟨heq', rfl⟩ | hold'
      · exact hfresh.2 _ (h.heap _ _ _ _ hold)
      · exact h.apart _ _ _ _ _ _ _ _ hold hold' hne
  refine ⟨⟨nofun, nofun, fun f m k block j hbefore hafter hj => ?_, hapart, ⟨?_, fun mem => ⟨?_, ?_⟩⟩,
    fun range hrange => ?_, fun k hk => ?_⟩,
    ⟨fun m k => ?_, fun m k => ?_, fun m map' hm => ?_, fun f m k block hblock => ?_, hapart⟩⟩
  · rcases hcase hafter with ⟨-, rfl⟩ | hold
    · rw [hmemory]
      exact if_pos hj
    · nomatch hbefore.symm.trans hold
  · rw [hcall]
    change s.frees.Nodup
    rw [hfrees]
    exact List.nodup_nil
  · rw [hcall]
    change mem ∈ s.frees → _
    rw [hfrees]
    nofun
  · rintro ⟨f, m, k, block, hsome, hgone, -⟩
    by_cases hall : f = .hashmap ∧ m = mapkey ∧ k = key
    · obtain ⟨rfl, rfl, rfl⟩ := hall
      nomatch hself.symm.trans hgone
    · nomatch hsome.symm.trans ((if_neg hall).symm.trans hgone)
  · rw [hwrites] at hrange
    rw [List.mem_singleton.mp hrange]
    exact .inl ⟨.hashmap, mapkey, key, hnone, hself⟩
  · rw [hmemory]
    refine if_neg fun hin => hk (off, map.2.toNat) ?_ hin
    rw [hwrites]
    exact List.mem_singleton_self _
  · by_cases hm : m = mapkey
    · subst hm
      rw [stored_of_some (by rw [hget, Function.update_self])]
      by_cases hk : k = key
      · subst hk
        rw [hself, AList.lookup_insert]
        change _ = some (hostOffset (guestAddress off), map.2.toNat)
        rw [hostOffset_guestAddress (by have := hfresh.1; omega)]
      · rw [AList.lookup_insert_ne hk, ← stored_of_some hmap, ← h.hash]
        exact if_neg fun hall => hk hall.2.2
    · rw [stored_of_ne hm hget rfl, ← h.hash]
      exact if_neg fun hall => hm hall.2.1
  · exact (if_neg (by rintro ⟨hfamily, -⟩; nomatch hfamily)).trans (h.slotless m k)
  · rw [hcall] at hm
    exact h.empty m map' hm
  · rw [hcall]
    change block ∈ (off, map.2.toNat) :: s.heap
    rcases hcase hblock with ⟨-, rfl⟩ | hold
    · exact List.mem_cons_self
    · exact List.mem_cons_of_mem _ (h.heap _ _ _ _ hold)

/-- A slotmap without elements. -/
theorem slotmap_calls_own (h : LedgerOf l s) {map : MemorySlotmap} (hmap : s.slotmaps.get mapkey = some map)
    (key : Word) : (∀ valOut, s.slotmapGet mapkey key valOut = s.exit) ∧
      s.slotmapErase mapkey key = { s with slotmaps := s.slotmaps.write mapkey map }.ret 0 ∧
      s.destroySlotmap mapkey = { s with slotmaps := (s.slotmaps.erase mapkey).2 } := by
  obtain ⟨elements, size⟩ := map
  obtain rfl : elements = ∅ := h.empty _ _ hmap
  refine ⟨fun valOut => ?_, ?_, ?_⟩
  · unfold MemoryContainers.slotmapGet
    rw [hmap]
    rfl
  · unfold MemoryContainers.slotmapErase
    rw [hmap]
    rfl
  · unfold MemoryContainers.destroySlotmap
    rw [hmap]
    rfl

end Calls

/-- Slotmaps come, go, or are written back without an element. -/
theorem slotmaps_own (h : LedgerOf l s) {c : ContainerCall} (hmemory : s'.memory = s.memory)
    (hwritten : s'.written = []) (hfrees : s'.frees = []) (hheap : s'.heap = s.heap)
    (hhashmaps : s'.hashmaps = s.hashmaps)
    (hempty : ∀ mapkey map, s'.slotmaps.get mapkey = some map → map.1 = ∅)
    (hget : ∀ m k, c ≠ .hashmapGet m k) : OwnsBlocks l l s s' c ∧ LedgerOf l s' := by
  have hstored : ∀ m k, s'.stored m k = s.stored m k := fun m k => by
    unfold MemoryContainers.stored
    rw [hhashmaps]
  exact ⟨owns_of_quiet h hmemory hwritten hfrees fun m k _ hc _ => absurd hc (hget m k),
    ⟨fun m k => (h.hash m k).trans (hstored m k).symm, h.slotless, hempty,
      fun f m k block hblock => hheap ▸ h.heap f m k block hblock, h.apart⟩⟩

theorem drop_slotmap (h : LedgerOf l s) (mapkey : Word) : l.drop .slotmap mapkey = l := by
  funext f m k
  unfold Ledger.drop
  split
  · rename_i hboth
    rw [hboth.1, h.slotless]
  · rfl

theorem set_slotmap (h : LedgerOf l s) (mapkey key : Word) : l.set .slotmap mapkey key none = l := by
  funext f m k
  unfold Ledger.set
  split
  · rename_i hall
    rw [hall.1, h.slotless]
  · rfl

/-! ## Runs -/

/-- **A call that creates no element in a slotmap does what is claimed.** -/
theorem owns_call (h : LedgerOf l s) (hwritten : s.written = []) (hfrees : s.frees = [])
    (hvalid : c.valid s) (hspares : c.spares) :
    OwnsBlocks l (l.after (c.elementSize s) c) s (s.call c) c ∧
      LedgerOf (l.after (c.elementSize s) c) (s.call c) := by
  cases c with
  | createHashmap elementSize mapkey => exact createHashmap_owns h hwritten hfrees hvalid
  | destroyHashmap mapkey => exact destroyHashmap_owns h hwritten hfrees hvalid
  | hashmapCreate mapkey key off =>
    obtain ⟨map, hmap, hfresh⟩ := hvalid
    have hsize : (ContainerCall.hashmapCreate mapkey key off).elementSize s = map.2.toNat := by
      unfold ContainerCall.elementSize
      dsimp only
      rw [hmap]
      rfl
    have hledger : l .hashmap mapkey key
        = (map.1.lookup key).map fun address => (hostOffset address, map.2.toNat) := by
      rw [h.hash, stored_of_some hmap]
    rw [hsize]
    cases hlookup : map.1.lookup key with
    | none =>
      have hafter : l.after map.2.toNat (.hashmapCreate mapkey key off)
          = l.set .hashmap mapkey key (some (off, map.2.toNat)) :=
        if_neg (by rw [hledger, hlookup]; nofun)
      rw [hafter]
      exact hashmapCreate_owns h hwritten hfrees hmap hlookup (hfresh hlookup)
    | some address =>
      have hafter : l.after map.2.toNat (.hashmapCreate mapkey key off) = l :=
        if_pos (by rw [hledger, hlookup]; rfl)
      have hexists : s.call (.hashmapCreate mapkey key off) = s.ret 0 := by
        unfold MemoryContainers.call MemoryContainers.hashmapCreate
        dsimp only
        rw [hmap]
        dsimp only
        rw [hlookup]
        rfl
      rw [hafter, hexists]
      exact ⟨owns_of_quiet h rfl hwritten hfrees nofun, ledgerOf_of_quiet h rfl rfl fun _ _ => rfl⟩
  | hashmapGet mapkey key => exact hashmapGet_owns h hwritten hfrees hvalid
  | hashmapErase mapkey key => exact hashmapErase_owns h hwritten hfrees hvalid
  | createSlotmap mapkey =>
    refine slotmaps_own h rfl hwritten hfrees rfl rfl (fun m map hm => ?_) nofun
    have hget := (LockedSlotmap.get_insert s.slotmaps mapkey m (∅, 0)).symm.trans hm
    by_cases he : m = mapkey
    · rw [he, Function.update_self] at hget
      rw [← Option.some.inj hget]
    · rw [Function.update_of_ne he] at hget
      exact h.empty m map hget
  | destroySlotmap mapkey =>
    obtain ⟨map, hmap⟩ := Option.isSome_iff_exists.mp hvalid
    change OwnsBlocks l (l.drop .slotmap mapkey) s (s.destroySlotmap mapkey) _ ∧
      LedgerOf (l.drop .slotmap mapkey) (s.destroySlotmap mapkey)
    rw [drop_slotmap h, (slotmap_calls_own h hmap 0).2.2]
    refine slotmaps_own h rfl hwritten hfrees rfl rfl (fun m map' hm => ?_) nofun
    have hget := (LockedSlotmap.get_erase s.slotmaps mapkey m).symm.trans hm
    by_cases he : m = mapkey
    · rw [he, Function.update_self] at hget
      nomatch hget
    · rw [Function.update_of_ne he] at hget
      exact h.empty m map' hget
  | slotmapCreate mapkey off key => exact absurd rfl (hspares mapkey off key)
  | slotmapGet mapkey key valOut =>
    obtain ⟨map, hmap⟩ := Option.isSome_iff_exists.mp hvalid
    change OwnsBlocks l l s (s.slotmapGet mapkey key valOut) _ ∧ LedgerOf l (s.slotmapGet mapkey key valOut)
    rw [(slotmap_calls_own h hmap key).1 valOut]
    exact slotmaps_own h rfl hwritten hfrees rfl rfl h.empty nofun
  | slotmapErase mapkey key =>
    obtain ⟨map, hmap⟩ := Option.isSome_iff_exists.mp hvalid
    change OwnsBlocks l (l.set .slotmap mapkey key none) s (s.slotmapErase mapkey key) _ ∧
      LedgerOf (l.set .slotmap mapkey key none) (s.slotmapErase mapkey key)
    rw [set_slotmap h, (slotmap_calls_own h hmap key).2.1]
    refine slotmaps_own h rfl hwritten hfrees rfl rfl (fun m map' hm => ?_) nofun
    have hget := (LockedSlotmap.get_insert s.slotmaps mapkey m map).symm.trans hm
    by_cases he : m = mapkey
    · rw [he, Function.update_self] at hget
      rw [← Option.some.inj hget]
      exact h.empty mapkey map hmap
    · rw [Function.update_of_ne he] at hget
      exact h.empty m map' hget

theorem step_of_runs (hruns : s.exited = false) : s.step c = s.cleared.call c :=
  if_neg (by rw [hruns]; decide)

theorem ledgerOf_cleared (h : LedgerOf l s) : LedgerOf l s.cleared :=
  ⟨h.hash, h.slotless, h.empty, h.heap, h.apart⟩

theorem owns_step (h : LedgerOf l s) (hpromised : c.promised s) (hspares : c.spares) :
    OwnsBlocks l (l.after (c.elementSize s) c) s (s.step c) c ∧
      LedgerOf (l.after (c.elementSize s) c) (s.step c) := by
  have hvalid : c.valid s.cleared := by
    have hvalid := hpromised.2
    cases c <;> exact hvalid
  have hsize : c.elementSize s.cleared = c.elementSize s := by cases c <;> rfl
  have hcall := owns_call (ledgerOf_cleared h) rfl rfl hvalid hspares
  rw [hsize] at hcall
  rw [step_of_runs hpromised.1]
  obtain ⟨howns, hledger⟩ := hcall
  exact ⟨⟨howns.got, howns.gotOut, howns.zeroed, howns.disjoint, howns.freed, howns.written, howns.kept⟩,
    hledger⟩

/-- An element of a slotmap: its address is written to where the new element points, guest address 0. -/
theorem not_owns_slotmapCreate {mapkey : Word} {off : Nat} {key : Word} {size : Nat}
    (hpromised : (ContainerCall.slotmapCreate mapkey off key).promised s) :
    ¬ OwnsBlocks l (l.after size (.slotmapCreate mapkey off key)) s (s.step (.slotmapCreate mapkey off key))
      (.slotmapCreate mapkey off key) := by
  obtain ⟨hruns, map, hmap, hnew, hfresh⟩ := hpromised
  intro howns
  have hwrites : (0x80000000, 4) ∈ (s.step (.slotmapCreate mapkey off key)).written := by
    rw [step_of_runs hruns]
    unfold MemoryContainers.call MemoryContainers.slotmapCreate
    dsimp only
    rw [show s.cleared.slotmaps.get mapkey = some map from hmap]
    exact List.mem_cons_self
  rcases howns.written _ hwrites with ⟨f, m, k, hbefore, hafter⟩ | ⟨m, k, valOut, hcall, -⟩
  · -- no block of the window is there
    have hblock : (f = .slotmap ∧ m = mapkey ∧ k = key) ∧ off = 0x80000000 := by
      by_cases hall : f = .slotmap ∧ m = mapkey ∧ k = key
      · exact ⟨hall, congrArg Prod.fst (Option.some.inj ((if_pos hall).symm.trans hafter))⟩
      · nomatch hbefore.symm.trans ((if_neg hall).symm.trans hafter)
    have := hfresh.1
    omega
  · nomatch hcall

/-- **Memory containers own their blocks** exactly along the runs that create no element in a memory
slotmap. -/
theorem memory_containers_iff (memory : Rdram) (heap : List (Nat × Nat)) (calls : List ContainerCall)
    (hpromised : Run.Along containerStep (fun x c => c.promised x.2)
      (fun _ _ _ => none, { memory := memory, heap := heap }) calls) :
    Run.Along containerStep
        (fun x c => OwnsBlocks x.1 (containerStep x c).1 x.2 (containerStep x c).2 c)
        (fun _ _ _ => none, { memory := memory, heap := heap }) calls ↔
      ∀ c ∈ calls, c.spares := by
  have hall : ∀ (calls : List ContainerCall) (x : Ledger × MemoryContainers), LedgerOf x.1 x.2 →
      Run.Along containerStep (fun x c => c.promised x.2) x calls →
      (Run.Along containerStep
          (fun x c => OwnsBlocks x.1 (containerStep x c).1 x.2 (containerStep x c).2 c) x calls ↔
        ∀ c ∈ calls, c.spares) := by
    intro calls
    induction calls with
    | nil => exact fun _ _ _ => ⟨fun _ => nofun, fun _ => trivial⟩
    | cons c calls ih =>
      rintro x h ⟨hpromised, hrest⟩
      constructor
      · rintro ⟨howns, hafter⟩
        have hspares : c.spares := by
          rintro mapkey off key rfl
          exact not_owns_slotmapCreate hpromised howns
        exact List.forall_mem_cons.mpr
          ⟨hspares, (ih _ (owns_step h hpromised hspares).2 hrest).mp hafter⟩
      · intro hspares
        obtain ⟨hfirst, hothers⟩ := List.forall_mem_cons.mp hspares
        obtain ⟨howns, hledger⟩ := owns_step h hpromised hfirst
        exact ⟨howns, (ih _ hledger hrest).mpr hothers⟩
  refine hall calls _ ⟨fun _ _ => rfl, fun _ _ => rfl, nofun, nofun, nofun⟩ hpromised

/-- A hashmap with one element. -/
theorem memory_containers_one :
    Run.Along containerStep
      (fun x c => OwnsBlocks x.1 (containerStep x c).1 x.2 (containerStep x c).2 c)
      (fun _ _ _ => none, { memory := fun _ => 1, heap := [(0, 16)] })
      [.createHashmap 4 1, .hashmapCreate 1 7 64, .hashmapGet 1 7, .hashmapErase 1 7, .destroyHashmap 1] := by
  refine (memory_containers_iff _ _ _ ?_).mpr ?_
  · refine ⟨⟨rfl, rfl⟩, ⟨rfl, _, rfl, fun _ => ⟨by decide, ?_⟩⟩, ⟨rfl, rfl⟩, ⟨rfl, rfl⟩, ⟨rfl, rfl⟩, trivial⟩
    refine List.forall_mem_singleton.mpr ⟨by decide, fun k hk hk' => ?_⟩
    exact Nat.lt_irrefl _ ((hk'.1.trans_lt hk.2).trans (by decide))
  · simp only [List.forall_mem_cons]
    exact ⟨nofun, nofun, nofun, nofun, nofun, nofun⟩

/-- **An element of a memory slotmap**: guest address 0 is written, `get` gives null, and `erase` frees a
pointer that is not into guest memory. -/
theorem slotmap_create_not_claimed :
    Run.Along containerStep (fun x c => c.promised x.2) (fun _ _ _ => none, { memory := fun _ => 0 })
        [.createSlotmap 1, .slotmapCreate 1 64 5, .slotmapGet 1 5 0x80000000, .slotmapErase 1 5] ∧
      ¬ Run.Along containerStep
        (fun x c => OwnsBlocks x.1 (containerStep x c).1 x.2 (containerStep x c).2 c)
        (fun _ _ _ => none, { memory := fun _ => 0 })
        [.createSlotmap 1, .slotmapCreate 1 64 5, .slotmapGet 1 5 0x80000000, .slotmapErase 1 5] := by
  refine ⟨⟨⟨rfl, rfl⟩, ⟨rfl, _, rfl, rfl, by decide, nofun⟩, ⟨rfl, rfl⟩, ⟨rfl, rfl⟩, trivial⟩, fun h => ?_⟩
  have hfreed := h.2.2.2.1.freed.2 none
  obtain ⟨_, _, _, _, -, -, hnone⟩ := hfreed.mp List.mem_cons_self
  nomatch hnone

end Dk64Port.Recomp
