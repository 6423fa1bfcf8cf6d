import Dk64Port.Recomp.GuestMemory
import Dk64Port.Lib.Run

/-!
# The slot maps of 32-bit values (`recomp_data_api.cpp`)

A mod keeps values under keys that the runtime gives out. The calls check a key themselves, and where it
is not live, `get`, `set` and `erase` set the return register but do not return.

* `LockedSlotmap`: the vendored slot map, with its keys as the map gives them out.
* `SlotmapCall`, `U32Slotmaps.call`: the calls on a live handle.
* `AsClaimed`: what a call should do, over the values that were last set.
* `u32_slotmap_iff_live`: **the calls do that exactly along the runs that only use live keys.**
* `stale_key_not_claimed`: what a key that is not live leads to.
-/

namespace Dk64Port.Recomp

/-- A slot map: its live keys with their values. -/
abbrev LockedSlotmap (α : Type) := AList fun _ : Word => α

namespace LockedSlotmap

variable {α : Type}

/-- `get`: what the pointer points to, or null. -/
def get (map : LockedSlotmap α) (key : Word) : Option α := map.lookup key

/-- `create`, where the map gives out this key. -/
def create (map : LockedSlotmap α) (key : Word) (initial : α) : LockedSlotmap α := map.insert key initial

/-- A write through the pointer of a live key. -/
def write (map : LockedSlotmap α) (key : Word) (value : α) : LockedSlotmap α := map.insert key value

/-- `erase`. -/
def erase (map : LockedSlotmap α) (key : Word) : Bool × LockedSlotmap α :=
  if (map.get key).isNone then (false, map) else (true, AList.erase key map)

/-- `size`. -/
def size (map : LockedSlotmap α) : Word := BitVec.ofNat 32 map.entries.length

end LockedSlotmap

section Lookup

variable {α : Type}

theorem LockedSlotmap.get_insert (map : LockedSlotmap α) (key other : Word) (value : α) :
    LockedSlotmap.get (AList.insert key value map) other
      = Function.update map.get key (some value) other := by
  unfold LockedSlotmap.get
  by_cases h : other = key
  · rw [h, AList.lookup_insert, Function.update_self]
  · rw [AList.lookup_insert_ne h, Function.update_of_ne h]

theorem LockedSlotmap.get_alist_erase (map : LockedSlotmap α) (key other : Word) :
    LockedSlotmap.get (AList.erase key map) other = Function.update map.get key none other := by
  unfold LockedSlotmap.get
  by_cases h : other = key
  · rw [h, AList.lookup_erase, Function.update_self]
  · rw [AList.lookup_erase_ne h, Function.update_of_ne h]

/-- What `erase` leaves. -/
theorem LockedSlotmap.get_erase (map : LockedSlotmap α) (key other : Word) :
    LockedSlotmap.get (map.erase key).2 other = Function.update map.get key none other := by
  unfold LockedSlotmap.erase
  split
  · rename_i hnone
    by_cases h : other = key
    · rw [h, Function.update_self]
      exact Option.isNone_iff_eq_none.mp hnone
    · rw [Function.update_of_ne h]
  · exact map.get_alist_erase key other

end Lookup

/-- A `u32_slotmap` behind a live handle, the memory, and the return register. -/
structure U32Slotmaps where
  map : LockedSlotmap Word := ∅
  memory : Rdram
  r2 : Word := 0
  /-- A null pointer was dereferenced. -/
  crashed : Bool := false

namespace U32Slotmaps

/-- `_return`: only the register is set. -/
def ret (s : U32Slotmaps) (value : Word) : U32Slotmaps := { s with r2 := value }

/-- `recomputil_u32_slotmap_contains`. -/
def contains (s : U32Slotmaps) (key : Word) : U32Slotmaps :=
  s.ret (if (s.map.get key).isSome then 1 else 0)

/-- `recomputil_u32_slotmap_create`. -/
def create (s : U32Slotmaps) (key : Word) : U32Slotmaps :=
  { s with map := s.map.create key 0 }.ret key

/-- `recomputil_u32_slotmap_get`. -/
def get (s : U32Slotmaps) (key valOut : Word) : U32Slotmaps :=
  let found := s.map.get key
  -- the call goes on behind this return
  let s := if found.isNone then s.ret 0 else s
  match found with
  | none => { s with crashed := true }
  | some value => { s with memory := storeW s.memory (hostOffset valOut) value }.ret 1

/-- `recomputil_u32_slotmap_set`. -/
def set (s : U32Slotmaps) (key value : Word) : U32Slotmaps :=
  let found := s.map.get key
  let s := if found.isNone then s.ret 0 else s
  match found with
  | none => { s with crashed := true }
  | some _ => { s with map := s.map.write key value }.ret 1

/-- `recomputil_u32_slotmap_erase`. -/
def erase (s : U32Slotmaps) (key : Word) : U32Slotmaps :=
  let erased := s.map.erase key
  let s := { s with map := erased.2 }
  let s := if !erased.1 then s.ret 0 else s
  s.ret 1

/-- `recomputil_u32_slotmap_size`. -/
def size (s : U32Slotmaps) : U32Slotmaps := s.ret s.map.size

end U32Slotmaps

/-- A call; `create` with the key that the slot map gives out. -/
inductive SlotmapCall where
  | create (key : Word)
  | contains (key : Word)
  | get (key valOut : Word)
  | set (key value : Word)
  | erase (key : Word)
  | size

/-- A call; none runs after a crash. -/
def U32Slotmaps.call (s : U32Slotmaps) (c : SlotmapCall) : U32Slotmaps :=
  if s.crashed then s
  else
    match c with
    | .create key => s.create key
    | .contains key => s.contains key
    | .get key valOut => s.get key valOut
    | .set key value => s.set key value
    | .erase key => s.erase key
    | .size => s.size

/-! ## What a call should do -/

/-- The value that was last set under every live key. -/
abbrev Values := Word → Option Word

/-- The values after a call. -/
def SlotmapCall.values (values : Values) : SlotmapCall → Values
  | .create key => Function.update values key (some 0)
  | .set key value => if (values key).isSome then Function.update values key (some value) else values
  | .erase key => Function.update values key none
  | _ => values

/-- The key of a call that needs a live one. -/
def SlotmapCall.usesLive (values : Values) : SlotmapCall → Prop
  | .get key _ | .set key _ | .erase key => (values key).isSome = true
  | _ => True

/-- What a call should do: with a key that is not live, return 0 and change nothing; with a live one,
return 1 and read, set or end the value of this key. -/
def AsClaimed (values : Values) (s s' : U32Slotmaps) (c : SlotmapCall) : Prop :=
  s'.crashed = false ∧
    match c with
    | .get key valOut =>
      match values key with
      | none => s' = { s with r2 := 0 }
      | some value => s'.r2 = 1 ∧ s'.map = s.map ∧ loadW s'.memory (hostOffset valOut) = value ∧
          ∀ k, k < hostOffset valOut ∨ hostOffset valOut + 4 ≤ k → s'.memory k = s.memory k
    | .set key value =>
      match values key with
      | none => s' = { s with r2 := 0 }
      | some _ => s'.r2 = 1 ∧ s'.memory = s.memory ∧ s'.map.get key = some value ∧
          ∀ other, other ≠ key → s'.map.get other = s.map.get other
    | .erase key =>
      match values key with
      | none => s' = { s with r2 := 0 }
      | some _ => s'.r2 = 1 ∧ s'.memory = s.memory ∧ s'.map.get key = none ∧
          ∀ other, other ≠ key → s'.map.get other = s.map.get other
    | .contains key => s' = { s with r2 := if (values key).isSome then 1 else 0 }
    | .create key => s'.r2 = key ∧ s'.memory = s.memory ∧ s'.map.get key = some 0 ∧
          ∀ other, other ≠ key → s'.map.get other = s.map.get other
    | .size => s' = { s with r2 := s.map.size }

/-! ## Runs -/

/-- The calls, beside the values that were last set. -/
def slotmapStep (x : Values × U32Slotmaps) (c : SlotmapCall) : Values × U32Slotmaps :=
  (c.values x.1, x.2.call c)

/-- The map holds the values that were last set. -/
structure Agrees (x : Values × U32Slotmaps) : Prop where
  running : x.2.crashed = false
  holds : ∀ key, x.2.map.get key = x.1 key

variable {x : Values × U32Slotmaps} {c : SlotmapCall}

theorem call_eq (h : Agrees x) : x.2.call c =
    match c with
    | .create key => x.2.create key
    | .contains key => x.2.contains key
    | .get key valOut => x.2.get key valOut
    | .set key value => x.2.set key value
    | .erase key => x.2.erase key
    | .size => x.2.size := by
  unfold U32Slotmaps.call
  rw [h.running]
  rfl

section Calls

variable {s : U32Slotmaps} {key : Word}

theorem getCall_of_some {value : Word} (h : s.map.get key = some value) (valOut : Word) :
    s.get key valOut = { s with memory := storeW s.memory (hostOffset valOut) value, r2 := 1 } := by
  unfold U32Slotmaps.get
  rw [h]
  rfl

theorem getCall_of_none (h : s.map.get key = none) (valOut : Word) :
    s.get key valOut = { s with r2 := 0, crashed := true } := by
  unfold U32Slotmaps.get
  rw [h]
  rfl

theorem setCall_of_some {old : Word} (h : s.map.get key = some old) (value : Word) :
    s.set key value = { s with map := s.map.write key value, r2 := 1 } := by
  unfold U32Slotmaps.set
  rw [h]
  rfl

theorem setCall_of_none (h : s.map.get key = none) (value : Word) :
    s.set key value = { s with r2 := 0, crashed := true } := by
  unfold U32Slotmaps.set
  rw [h]
  rfl

theorem eraseCall_of_some {old : Word} (h : s.map.get key = some old) :
    s.erase key = { s with map := AList.erase key s.map, r2 := 1 } := by
  have herase : s.map.erase key = (true, AList.erase key s.map) := by
    unfold LockedSlotmap.erase
    rw [h]
    rfl
  unfold U32Slotmaps.erase
  rw [herase]
  rfl

theorem eraseCall_of_none (h : s.map.get key = none) : s.erase key = { s with r2 := 1 } := by
  have herase : s.map.erase key = (false, s.map) := by
    unfold LockedSlotmap.erase
    rw [h]
    rfl
  unfold U32Slotmaps.erase
  rw [herase]
  rfl

end Calls

/-- What a call with a live key leaves. -/
theorem agrees_step (h : Agrees x) (hlive : c.usesLive x.1) : Agrees (slotmapStep x c) := by
  have hget : x.2.map.get = x.1 := funext h.holds
  unfold slotmapStep
  rw [call_eq h]
  cases c with
  | create key =>
    refine ⟨h.running, fun other => ?_⟩
    change LockedSlotmap.get (AList.insert key 0 x.2.map) other = _
    rw [LockedSlotmap.get_insert, hget]
    rfl
  | contains key => exact ⟨h.running, h.holds⟩
  | get key valOut =>
    obtain ⟨value, hvalue⟩ := Option.isSome_iff_exists.mp hlive
    dsimp only
    rw [getCall_of_some ((h.holds key).trans hvalue)]
    exact ⟨h.running, h.holds⟩
  | set key value =>
    obtain ⟨old, hold⟩ := Option.isSome_iff_exists.mp hlive
    dsimp only
    rw [setCall_of_some ((h.holds key).trans hold)]
    refine ⟨h.running, fun other => ?_⟩
    change LockedSlotmap.get (AList.insert key value x.2.map) other
      = (if (x.1 key).isSome then Function.update x.1 key (some value) else x.1) other
    rw [LockedSlotmap.get_insert, hget, hold]
    rfl
  | erase key =>
    obtain ⟨old, hold⟩ := Option.isSome_iff_exists.mp hlive
    dsimp only
    rw [eraseCall_of_some ((h.holds key).trans hold)]
    refine ⟨h.running, fun other => ?_⟩
    change LockedSlotmap.get (AList.erase key x.2.map) other = _
    rw [LockedSlotmap.get_alist_erase, hget]
    rfl
  | size => exact ⟨h.running, h.holds⟩

/-- **A call with a live key does what it should.** -/
theorem asClaimed_of_live (h : Agrees x) (hlive : c.usesLive x.1) :
    AsClaimed x.1 x.2 (x.2.call c) c := by
  refine ⟨(agrees_step h hlive).running, ?_⟩
  rw [call_eq h]
  cases c with
  | create key =>
    refine ⟨rfl, rfl, ?_, fun other hne => ?_⟩
    · change LockedSlotmap.get (AList.insert key 0 x.2.map) key = _
      rw [LockedSlotmap.get_insert, Function.update_self]
    · change LockedSlotmap.get (AList.insert key 0 x.2.map) other = _
      rw [LockedSlotmap.get_insert, Function.update_of_ne hne]
  | contains key =>
    dsimp only [U32Slotmaps.contains]
    rw [h.holds key]
    rfl
  | get key valOut =>
    obtain ⟨value, hvalue⟩ := Option.isSome_iff_exists.mp hlive
    dsimp only
    rw [hvalue, getCall_of_some ((h.holds key).trans hvalue)]
    exact ⟨rfl, rfl, loadW_storeW _ _ _, fun k hk => storeW_of_outside _ hk⟩
  | set key value =>
    obtain ⟨old, hold⟩ := Option.isSome_iff_exists.mp hlive
    dsimp only
    rw [hold, setCall_of_some ((h.holds key).trans hold)]
    refine ⟨rfl, rfl, ?_, fun other hne => ?_⟩
    · change LockedSlotmap.get (AList.insert key value x.2.map) key = _
      rw [LockedSlotmap.get_insert, Function.update_self]
    · change LockedSlotmap.get (AList.insert key value x.2.map) other = _
      rw [LockedSlotmap.get_insert, Function.update_of_ne hne]
  | erase key =>
    obtain ⟨old, hold⟩ := Option.isSome_iff_exists.mp hlive
    dsimp only
    rw [hold, eraseCall_of_some ((h.holds key).trans hold)]
    refine ⟨rfl, rfl, ?_, fun other hne => ?_⟩
    · change LockedSlotmap.get (AList.erase key x.2.map) key = _
      rw [LockedSlotmap.get_alist_erase, Function.update_self]
    · change LockedSlotmap.get (AList.erase key x.2.map) other = _
      rw [LockedSlotmap.get_alist_erase, Function.update_of_ne hne]
  | size => rfl

/-- **A call with a key that is not live does not**: it crashes, or returns 1. -/
theorem live_of_asClaimed (h : Agrees x) (hclaimed : AsClaimed x.1 x.2 (x.2.call c) c) :
    c.usesLive x.1 := by
  by_contra hdead
  obtain ⟨hrunning, hends⟩ := hclaimed
  rw [call_eq h] at hrunning hends
  cases c with
  | create key => exact hdead trivial
  | contains key => exact hdead trivial
  | size => exact hdead trivial
  | get key valOut =>
    have hnone : x.1 key = none := Option.not_isSome_iff_eq_none.mp hdead
    dsimp only at hrunning
    rw [getCall_of_none ((h.holds key).trans hnone)] at hrunning
    cases hrunning
  | set key value =>
    have hnone : x.1 key = none := Option.not_isSome_iff_eq_none.mp hdead
    dsimp only at hrunning
    rw [setCall_of_none ((h.holds key).trans hnone)] at hrunning
    cases hrunning
  | erase key =>
    have hnone : x.1 key = none := Option.not_isSome_iff_eq_none.mp hdead
    dsimp only at hends
    rw [hnone, eraseCall_of_none ((h.holds key).trans hnone)] at hends
    have hr2 : (1 : Word) = 0 := congrArg U32Slotmaps.r2 hends
    exact absurd hr2 (by decide)

/-- **The slot map calls do what they should exactly along the runs that only use live keys.** -/
theorem u32_slotmap_iff_live (memory : Rdram) (calls : List SlotmapCall) :
    Run.Along slotmapStep (fun x c => AsClaimed x.1 x.2 (x.2.call c) c)
        (fun _ => none, { memory := memory }) calls ↔
      Run.Along slotmapStep (fun x c => c.usesLive x.1) (fun _ => none, { memory := memory }) calls := by
  have hall : ∀ (calls : List SlotmapCall) (x : Values × U32Slotmaps), Agrees x →
      (Run.Along slotmapStep (fun x c => AsClaimed x.1 x.2 (x.2.call c) c) x calls ↔
        Run.Along slotmapStep (fun x c => c.usesLive x.1) x calls) := by
    intro calls
    induction calls with
    | nil => exact fun _ _ => Iff.rfl
    | cons c calls ih =>
      intro x h
      constructor
      · rintro ⟨hclaimed, hrest⟩
        have hlive := live_of_asClaimed h hclaimed
        exact ⟨hlive, (ih _ (agrees_step h hlive)).mp hrest⟩
      · rintro ⟨hlive, hrest⟩
        exact ⟨asClaimed_of_live h hlive, (ih _ (agrees_step h hlive)).mpr hrest⟩
  exact hall calls _ ⟨rfl, fun _ => rfl⟩

/-- **A key that is not live**: `get` dereferences null, and `erase` returns 1. -/
theorem stale_key_not_claimed :
    (({ memory := fun _ => 0 } : U32Slotmaps).call (.get 1024 0x80000000)).crashed = true ∧
      (({ memory := fun _ => 0 } : U32Slotmaps).call (.erase 1024)).r2 = 1 ∧
      ¬ Run.Along slotmapStep (fun x c => AsClaimed x.1 x.2 (x.2.call c) c)
        (fun _ => none, { memory := fun _ => 0 }) [.get 1024 0x80000000] :=
  ⟨rfl, rfl, fun h => nomatch h.1.1⟩

end Dk64Port.Recomp
