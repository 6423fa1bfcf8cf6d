import Dk64Port.Recomp.MemoryContainers
import Dk64Port.Recomp.SlotMap
import Mathlib.Data.Set.Card

/-!
# Value hashmaps and hashsets (`recomp_data_api.cpp`)

A mod keeps words under keys in hashmaps, and sets of words in hashsets, by the handles that the runtime
gives out. A handle is a key of the vendored slot map; a call on one that is not live ends the process.

* `ValueContainers`, `ValueCall`, `ValueContainers.step`: the code, over the slot maps of handles.
* `ModView`: what a mod relies on, a finite map or set for every live handle.
* `Served`: a family of handles over its slot map.
* `value_containers_answer`: **in every run of a mod that uses handles it was given, every call answers
  as the map or set of its own handle.**
-/

namespace Dk64Port.Recomp

/-! ## Containers -/

namespace LockedMap

variable {α : Type}

/-- `contains`. -/
def contains (map : LockedMap α) (key : Word) : Bool := (map.lookup key).isSome

/-- `insert`: whether the key is new, and the map. -/
def insert (map : LockedMap α) (key : Word) (value : α) : Bool × LockedMap α :=
  (!contains map key, AList.insert key value map)

/-- `erase`. -/
def erase (map : LockedMap α) (key : Word) : Bool × LockedMap α :=
  (contains map key, AList.erase key map)

/-- `size`. -/
def size (map : LockedMap α) : Nat := map.entries.length

end LockedMap

/-- `U32HashSet`. -/
abbrev LockedSet := Finset Word

/-- The containers behind their handles, the memory, and the return register. -/
structure ValueContainers where
  hashmaps : SlotMap32 (LockedMap Word) := {}
  hashsets : SlotMap32 LockedSet := {}
  memory : Rdram
  r2 : Word := 0
  /-- `HANDLE_INVALID_ERROR`: the process was ended. -/
  exited : Bool := false

/-- A `bool` in the return register. -/
def ofBool (b : Bool) : Word := if b then 1 else 0

namespace ValueContainers

def ret (s : ValueContainers) (value : Word) : ValueContainers := { s with r2 := value }

def exit (s : ValueContainers) : ValueContainers := { s with exited := true }

/-! ### Hashmaps -/

/-- `recomputil_create_u32_value_hashmap`. -/
def createHashmap (s : ValueContainers) : ValueContainers :=
  { s with hashmaps := (s.hashmaps.emplace ∅).2 }.ret (s.hashmaps.emplace ∅).1

/-- `recomputil_destroy_u32_value_hashmap`. -/
def destroyHashmap (s : ValueContainers) (mapkey : Word) : ValueContainers :=
  let erased := s.hashmaps.lockedErase mapkey
  let s := { s with hashmaps := erased.2 }
  if !erased.1 then s.exit else s

/-- `recomputil_u32_value_hashmap_contains`. -/
def hashmapContains (s : ValueContainers) (mapkey key : Word) : ValueContainers :=
  match s.hashmaps.get mapkey with
  | none => s.exit
  | some map => s.ret (ofBool (map.contains key))

/-- `recomputil_u32_value_hashmap_insert`. -/
def hashmapInsert (s : ValueContainers) (mapkey key value : Word) : ValueContainers :=
  match s.hashmaps.get mapkey with
  | none => s.exit
  | some map =>
    let inserted := LockedMap.insert map key value
    { s with hashmaps := s.hashmaps.write mapkey inserted.2 }.ret (ofBool inserted.1)

/-- `recomputil_u32_value_hashmap_get`. -/
def hashmapGet (s : ValueContainers) (mapkey key valOut : Word) : ValueContainers :=
  match s.hashmaps.get mapkey with
  | none => s.exit
  | some map =>
    match map.lookup key with
    | some value => { s with memory := storeW s.memory (hostOffset valOut) value }.ret 1
    | none => s.ret 0

/-- `recomputil_u32_value_hashmap_erase`. -/
def hashmapErase (s : ValueContainers) (mapkey key : Word) : ValueContainers :=
  match s.hashmaps.get mapkey with
  | none => s.exit
  | some map =>
    let erased := LockedMap.erase map key
    { s with hashmaps := s.hashmaps.write mapkey erased.2 }.ret (ofBool erased.1)

/-- `recomputil_u32_value_hashmap_size`. -/
def hashmapSize (s : ValueContainers) (mapkey : Word) : ValueContainers :=
  match s.hashmaps.get mapkey with
  | none => s.exit
  | some map => s.ret (BitVec.ofNat 32 map.size)

/-! ### Hashsets -/

/-- `recomputil_create_u32_hashset`. -/
def createHashset (s : ValueContainers) : ValueContainers :=
  { s with hashsets := (s.hashsets.emplace ∅).2 }.ret (s.hashsets.emplace ∅).1

/-- `recomputil_destroy_u32_hashset`. -/
def destroyHashset (s : ValueContainers) (setkey : Word) : ValueContainers :=
  let erased := s.hashsets.lockedErase setkey
  let s := { s with hashsets := erased.2 }
  if !erased.1 then s.exit else s

/-- `recomputil_u32_hashset_contains`. -/
def hashsetContains (s : ValueContainers) (setkey key : Word) : ValueContainers :=
  match s.hashsets.get setkey with
  | none => s.exit
  | some set => s.ret (ofBool (decide (key ∈ set)))

/-- `recomputil_u32_hashset_insert`: whether the key is new. -/
def hashsetInsert (s : ValueContainers) (setkey key : Word) : ValueContainers :=
  match s.hashsets.get setkey with
  | none => s.exit
  | some set =>
    { s with hashsets := s.hashsets.write setkey (insert key set) }.ret (ofBool (!decide (key ∈ set)))

/-- `recomputil_u32_hashset_erase`. -/
def hashsetErase (s : ValueContainers) (setkey key : Word) : ValueContainers :=
  match s.hashsets.get setkey with
  | none => s.exit
  | some set =>
    { s with hashsets := s.hashsets.write setkey (set.erase key) }.ret (ofBool (decide (key ∈ set)))

/-- `recomputil_u32_hashset_size`. -/
def hashsetSize (s : ValueContainers) (setkey : Word) : ValueContainers :=
  match s.hashsets.get setkey with
  | none => s.exit
  | some set => s.ret (BitVec.ofNat 32 set.card)

end ValueContainers

inductive ValueCall where
  | createHashmap
  | destroyHashmap (mapkey : Word)
  | hashmapContains (mapkey key : Word)
  | hashmapInsert (mapkey key value : Word)
  | hashmapGet (mapkey key valOut : Word)
  | hashmapErase (mapkey key : Word)
  | hashmapSize (mapkey : Word)
  | createHashset
  | destroyHashset (setkey : Word)
  | hashsetContains (setkey key : Word)
  | hashsetInsert (setkey key : Word)
  | hashsetErase (setkey key : Word)
  | hashsetSize (setkey : Word)

/-- A call. -/
def ValueContainers.call (s : ValueContainers) : ValueCall → ValueContainers
  | .createHashmap => s.createHashmap
  | .destroyHashmap mapkey => s.destroyHashmap mapkey
  | .hashmapContains mapkey key => s.hashmapContains mapkey key
  | .hashmapInsert mapkey key value => s.hashmapInsert mapkey key value
  | .hashmapGet mapkey key valOut => s.hashmapGet mapkey key valOut
  | .hashmapErase mapkey key => s.hashmapErase mapkey key
  | .hashmapSize mapkey => s.hashmapSize mapkey
  | .createHashset => s.createHashset
  | .destroyHashset setkey => s.destroyHashset setkey
  | .hashsetContains setkey key => s.hashsetContains setkey key
  | .hashsetInsert setkey key => s.hashsetInsert setkey key
  | .hashsetErase setkey key => s.hashsetErase setkey key
  | .hashsetSize setkey => s.hashsetSize setkey

/-! ## What a mod relies on -/

/-- The handles of one kind that a mod was given, what is behind the live ones, and how many it
destroyed. -/
structure HandleView (β : Type) where
  given : List Word := []
  content : Word → Option β := fun _ => none
  destroyed : Nat := 0

namespace HandleView

variable {β : Type}

def create (f : HandleView β) (handle : Word) (b : β) : HandleView β :=
  { f with given := handle :: f.given, content := Function.update f.content handle (some b) }

def destroy (f : HandleView β) (handle : Word) : HandleView β :=
  { f with
    content := Function.update f.content handle none
    destroyed := f.destroyed + if (f.content handle).isSome then 1 else 0 }

def change (f : HandleView β) (handle : Word) (g : β → β) : HandleView β :=
  { f with content := Function.update f.content handle ((f.content handle).map g) }

end HandleView

/-- The hashmaps, as functions of the key, and the hashsets. -/
structure ModView where
  maps : HandleView (Word → Option Word) := {}
  sets : HandleView (Word → Bool) := {}

/-- What a call does to the containers; `created` is the handle that a creation gives out. -/
def ModView.after (w : ModView) (created : Word) : ValueCall → ModView
  | .createHashmap => { w with maps := w.maps.create created fun _ => none }
  | .destroyHashmap mapkey => { w with maps := w.maps.destroy mapkey }
  | .hashmapInsert mapkey key value =>
    { w with maps := w.maps.change mapkey fun f => Function.update f key (some value) }
  | .hashmapErase mapkey key => { w with maps := w.maps.change mapkey fun f => Function.update f key none }
  | .createHashset => { w with sets := w.sets.create created fun _ => false }
  | .destroyHashset setkey => { w with sets := w.sets.destroy setkey }
  | .hashsetInsert setkey key =>
    { w with sets := w.sets.change setkey fun f => Function.update f key true }
  | .hashsetErase setkey key =>
    { w with sets := w.sets.change setkey fun f => Function.update f key false }
  | _ => w

/-- The answer of a call on a handle: the process ends where nothing is behind it. -/
def OnHandle {β : Type} (content : Option β) (s' : ValueContainers) (answer : β → Prop) : Prop :=
  (content = none → s'.exited = true) ∧ ∀ b, content = some b → s'.exited = false ∧ answer b

/-- What a call answers. -/
def Answers (w : ModView) (s s' : ValueContainers) : ValueCall → Prop
  | .createHashmap => s'.exited = false ∧ s'.memory = s.memory ∧ s'.r2 ∉ w.maps.given
  | .createHashset => s'.exited = false ∧ s'.memory = s.memory ∧ s'.r2 ∉ w.sets.given
  | .destroyHashmap mapkey => OnHandle (w.maps.content mapkey) s' fun _ => s'.memory = s.memory
  | .destroyHashset setkey => OnHandle (w.sets.content setkey) s' fun _ => s'.memory = s.memory
  | .hashmapContains mapkey key => OnHandle (w.maps.content mapkey) s' fun f =>
      s'.memory = s.memory ∧ s'.r2 = ofBool (f key).isSome
  | .hashmapInsert mapkey key _ => OnHandle (w.maps.content mapkey) s' fun f =>
      s'.memory = s.memory ∧ s'.r2 = ofBool (f key).isNone
  | .hashmapErase mapkey key => OnHandle (w.maps.content mapkey) s' fun f =>
      s'.memory = s.memory ∧ s'.r2 = ofBool (f key).isSome
  | .hashmapSize mapkey => OnHandle (w.maps.content mapkey) s' fun f =>
      s'.memory = s.memory ∧ s'.r2 = BitVec.ofNat 32 {key | (f key).isSome}.ncard
  | .hashmapGet mapkey key valOut => OnHandle (w.maps.content mapkey) s' fun f =>
      (f key = none → s'.memory = s.memory ∧ s'.r2 = 0) ∧
        ∀ value, f key = some value → s'.r2 = 1 ∧ loadW s'.memory (hostOffset valOut) = value ∧
          ∀ k, k < hostOffset valOut ∨ hostOffset valOut + 4 ≤ k → s'.memory k = s.memory k
  | .hashsetContains setkey key => OnHandle (w.sets.content setkey) s' fun f =>
      s'.memory = s.memory ∧ s'.r2 = ofBool (f key)
  | .hashsetInsert setkey key => OnHandle (w.sets.content setkey) s' fun f =>
      s'.memory = s.memory ∧ s'.r2 = ofBool (!f key)
  | .hashsetErase setkey key => OnHandle (w.sets.content setkey) s' fun f =>
      s'.memory = s.memory ∧ s'.r2 = ofBool (f key)
  | .hashsetSize setkey => OnHandle (w.sets.content setkey) s' fun f =>
      s'.memory = s.memory ∧ s'.r2 = BitVec.ofNat 32 {key | f key = true}.ncard

/-- The view of the mod, and the containers. -/
def valueStep (x : ModView × ValueContainers) (c : ValueCall) : ModView × ValueContainers :=
  (x.1.after (x.2.call c).r2 c, x.2.call c)

/-- Room for one more handle, among fewer than 66495 that were destroyed. -/
def HasRoom {β γ : Type} (f : HandleView β) (table : SlotMap32 γ) : Prop :=
  table.size.toNat < 2 ^ 20 - 64 ∧ f.destroyed < 66495

/-- The process runs, and the mod uses handles that it was given. -/
def ValueCall.admitted (x : ModView × ValueContainers) (c : ValueCall) : Prop :=
  x.2.exited = false ∧
    match c with
    | .createHashmap => HasRoom x.1.maps x.2.hashmaps
    | .createHashset => HasRoom x.1.sets x.2.hashsets
    | .destroyHashmap handle | .hashmapContains handle _ | .hashmapInsert handle _ _
    | .hashmapGet handle _ _ | .hashmapErase handle _ | .hashmapSize handle => handle ∈ x.1.maps.given
    | .destroyHashset handle | .hashsetContains handle _ | .hashsetInsert handle _
    | .hashsetErase handle _ | .hashsetSize handle => handle ∈ x.1.sets.given

/-! ## A family of handles -/

section Served

variable {β γ : Type} {view : γ → β} {f : HandleView β} {table : SlotMap32 γ} {handle : Word} {c : γ}

/-- The slot map of a family was used as its handles allow, and keeps what the mod sees. -/
def Served (view : γ → β) (f : HandleView β) (table : SlotMap32 γ) : Prop :=
  ∃ (l : Handles γ) (h : GenerationalSlots.KeyLedger γ) (a : GenerationalSlots.Slots γ),
    Tracks (l, table) h a ∧ f.given = l.given ∧ f.destroyed = l.erased ∧
      ∀ handle, f.content handle = (l.live.get handle).map view

theorem served_empty : Served view ({} : HandleView β) ({} : SlotMap32 γ) :=
  ⟨{}, {}, {}, tracks_empty, rfl, rfl, fun _ => rfl⟩

/-- **A handle that was given finds its container.** -/
theorem Served.get (hs : Served view f table) (hmem : handle ∈ f.given) :
    f.content handle = (table.get handle).map view := by
  obtain ⟨l, h, a, tr, hgiven, -, hcontent⟩ := hs
  rw [hcontent, (tr.faithful.keys handle (hgiven ▸ hmem)).1]

/-- A new handle. -/
theorem Served.create (hs : Served view f table) (hroom : HasRoom f table) (c : γ) :
    (table.emplace c).1 ∉ f.given ∧
      Served view (f.create (table.emplace c).1 (view c)) (table.emplace c).2 := by
  obtain ⟨l, h, a, tr, hgiven, herased, hcontent⟩ := hs
  have tr' := tr.create hroom.1 c
  have hfaithful := tr'.faithful
  have hgiven' : (handleStep (l, table) (.create c)).1.given = (table.emplace c).1 :: l.given := rfl
  have hnodup := hfaithful.nodup
  rw [hgiven'] at hnodup
  have hlive : SlotKey.spent (table.emplace c).1 = false := by
    refine Bool.eq_false_iff.mpr fun hspent => ?_
    have hlate := (hfaithful.spent _ (hgiven' ▸ List.mem_cons_self) hspent).2
    have hearly := hroom.2
    rw [herased] at hearly
    exact absurd hlate (Nat.not_le_of_lt hearly)
  refine ⟨hgiven ▸ (List.nodup_cons.mp hnodup).1, _, _, _, tr', congrArg _ hgiven, herased,
    fun handle => ?_⟩
  change Function.update f.content _ _ handle = ((if SlotKey.spent (table.emplace c).1 then l.live
    else l.live.create (table.emplace c).1 c).get handle).map view
  rw [hlive, if_neg Bool.false_ne_true, LockedSlotmap.create, LockedSlotmap.get_insert]
  by_cases hk : handle = (table.emplace c).1
  · rw [hk, Function.update_self, Function.update_self]
    rfl
  · rw [Function.update_of_ne hk, Function.update_of_ne hk, hcontent]

/-- **A handle is destroyed when something is behind it.** -/
theorem Served.destroy (hs : Served view f table) (hmem : handle ∈ f.given) :
    (table.lockedErase handle).1 = (f.content handle).isSome ∧
      Served view (f.destroy handle) (table.lockedErase handle).2 := by
  obtain ⟨l, h, a, tr, hgiven, herased, hcontent⟩ := hs
  have hgivenl := hgiven ▸ hmem
  have hmap := hgivenl
  rw [show l.given = _ from tr.given] at hmap
  obtain ⟨k, hk, rfl⟩ := List.mem_map.mp hmap
  have herase := (tr.faithful.keys _ hgivenl).2.2
  have hsome : (l.live.erase (SlotKey.keyWord k)).1 = (f.content (SlotKey.keyWord k)).isSome := by
    rw [hcontent, Option.isSome_map, LockedSlotmap.erase]
    cases l.live.get (SlotKey.keyWord k) <;> rfl
  refine ⟨herase.trans hsome, _, _, _, tr.erase hk, hgiven, ?_, fun handle => ?_⟩
  · change f.destroyed + _ = l.erased + _
    rw [herased, hsome]
  · change Function.update f.content _ none handle = ((l.live.erase _).2.get handle).map view
    rw [LockedSlotmap.get_erase]
    by_cases hkk : handle = SlotKey.keyWord k
    · rw [hkk, Function.update_self, Function.update_self]
      rfl
    · rw [Function.update_of_ne hkk, Function.update_of_ne hkk, hcontent]

/-- **A container is changed through its handle.** -/
theorem Served.write (hs : Served view f table) (hmem : handle ∈ f.given) (hget : table.get handle = some c)
    {c' : γ} {g : β → β} (hview : view c' = g (view c)) :
    Served view (f.change handle g) (table.write handle c') := by
  obtain ⟨l, h, a, tr, hgiven, herased, hcontent⟩ := hs
  have hgivenl := hgiven ▸ hmem
  have hmap := hgivenl
  rw [show l.given = _ from tr.given] at hmap
  obtain ⟨k, hk, rfl⟩ := List.mem_map.mp hmap
  have hlive : l.live.get (SlotKey.keyWord k) = some c := ((tr.faithful.keys _ hgivenl).1).symm.trans hget
  have hafter : l.after (SlotKey.keyWord k) (.write (SlotKey.keyWord k) c')
      = { l with live := l.live.write (SlotKey.keyWord k) c' } := by
    change (if (l.live.get (SlotKey.keyWord k)).isSome then _ else l) = _
    rw [hlive]
    rfl
  have tr' := tr.write hk c'
  change Tracks (l.after (SlotKey.keyWord k) (.write (SlotKey.keyWord k) c'), _) _ _ at tr'
  rw [hafter] at tr'
  refine ⟨_, _, _, tr', hgiven, herased, fun handle => ?_⟩
  change Function.update f.content _ _ handle = ((l.live.write _ c').get handle).map view
  rw [LockedSlotmap.write, LockedSlotmap.get_insert]
  by_cases hkk : handle = SlotKey.keyWord k
  · rw [hkk, Function.update_self, Function.update_self, hcontent, hlive]
    exact congrArg some hview.symm
  · rw [Function.update_of_ne hkk, Function.update_of_ne hkk, hcontent]

end Served

/-! ## Maps and sets -/

/-- A hashmap as a function of its keys. -/
def mapView (map : LockedMap Word) : Word → Option Word := fun key => map.lookup key

/-- A hashset as a predicate. -/
def setView (set : LockedSet) : Word → Bool := fun key => decide (key ∈ set)

variable {map : LockedMap Word} {set : LockedSet} {key value : Word}

theorem mapView_insert :
    mapView (AList.insert key value map) = Function.update (mapView map) key (some value) :=
  funext fun other => LockedSlotmap.get_insert map key other value

theorem mapView_erase : mapView (AList.erase key map) = Function.update (mapView map) key none :=
  funext fun other => LockedSlotmap.get_alist_erase map key other

theorem setView_insert : setView (insert key set) = Function.update (setView set) key true := by
  funext other
  by_cases h : other = key
  · simp [setView, h]
  · simp [setView, h]

theorem setView_erase : setView (set.erase key) = Function.update (setView set) key false := by
  funext other
  by_cases h : other = key
  · simp [setView, h]
  · simp [setView, h]

theorem ncard_mapView : {key | (mapView map key).isSome}.ncard = map.size := by
  have hkeys : {key | (mapView map key).isSome} = (map.keys.toFinset : Set Word) := by
    ext key
    simp only [Set.mem_ofPred_eq, List.coe_toFinset, mapView, AList.lookup_isSome]
    rfl
  rw [hkeys, Set.ncard_coe_finset, List.toFinset_card_of_nodup map.keys_nodup]
  exact List.length_map _

theorem ncard_setView : {key | setView set key = true}.ncard = set.card := by
  have hset : {key | setView set key = true} = (set : Set Word) := by
    ext key
    simp [setView]
  rw [hset, Set.ncard_coe_finset]

/-! ## A run -/

/-- Both families are served. -/
structure ModServed (x : ModView × ValueContainers) : Prop where
  maps : Served mapView x.1.maps x.2.hashmaps
  sets : Served setView x.1.sets x.2.hashsets

variable {x : ModView × ValueContainers} {c : ValueCall}

theorem onHandle_of_get {β γ : Type} {view : γ → β} {content : Option β} {got : Option γ}
    {s' : ValueContainers} {answer : β → Prop} (hget : content = got.map view)
    (hnone : got = none → s'.exited = true)
    (hsome : ∀ c, got = some c → s'.exited = false ∧ answer (view c)) : OnHandle content s' answer := by
  subst hget
  cases got with
  | none => exact ⟨fun _ => hnone rfl, fun b hb => (nomatch hb)⟩
  | some c =>
    refine ⟨fun h => (nomatch h), fun b hb => ?_⟩
    obtain rfl := Option.some.inj hb
    exact hsome c rfl

/-- A change through a handle behind which nothing is. -/
theorem HandleView.change_of_none {β : Type} {f : HandleView β} {handle : Word} {g : β → β}
    (h : f.content handle = none) : f.change handle g = f := by
  unfold HandleView.change
  rw [h, Option.map_none, ← h, Function.update_eq_self]

/-- What a change through a handle leaves, found or not. -/
theorem Served.change {β γ : Type} {view : γ → β} {f : HandleView β} {table table' : SlotMap32 γ}
    {handle : Word} {g : β → β} (hs : Served view f table) (hmem : handle ∈ f.given)
    (hnone : table.get handle = none → table' = table)
    (hsome : ∀ c, table.get handle = some c →
      ∃ c', table' = table.write handle c' ∧ view c' = g (view c)) :
    Served view (f.change handle g) table' := by
  cases hget : table.get handle with
  | none =>
    have hcontent := hs.get hmem
    rw [hget] at hcontent
    rw [HandleView.change_of_none hcontent, hnone hget]
    exact hs
  | some c =>
    obtain ⟨c', rfl, hview⟩ := hsome c hget
    exact hs.write hmem hget hview

/-! ### What a call leaves of the tables -/

section Tables

variable (s : ValueContainers) (handle key value valOut : Word)

theorem hashmapContains_tables : (s.hashmapContains handle key).hashmaps = s.hashmaps ∧
    (s.hashmapContains handle key).hashsets = s.hashsets := by
  unfold ValueContainers.hashmapContains
  split <;> exact ⟨rfl, rfl⟩

theorem hashmapGet_tables : (s.hashmapGet handle key valOut).hashmaps = s.hashmaps ∧
    (s.hashmapGet handle key valOut).hashsets = s.hashsets := by
  unfold ValueContainers.hashmapGet
  split
  · exact ⟨rfl, rfl⟩
  · split <;> exact ⟨rfl, rfl⟩

theorem hashmapSize_tables : (s.hashmapSize handle).hashmaps = s.hashmaps ∧
    (s.hashmapSize handle).hashsets = s.hashsets := by
  unfold ValueContainers.hashmapSize
  split <;> exact ⟨rfl, rfl⟩

theorem hashmapInsert_sets : (s.hashmapInsert handle key value).hashsets = s.hashsets := by
  unfold ValueContainers.hashmapInsert
  split <;> rfl

theorem hashmapErase_sets : (s.hashmapErase handle key).hashsets = s.hashsets := by
  unfold ValueContainers.hashmapErase
  split <;> rfl

theorem hashsetContains_tables : (s.hashsetContains handle key).hashmaps = s.hashmaps ∧
    (s.hashsetContains handle key).hashsets = s.hashsets := by
  unfold ValueContainers.hashsetContains
  split <;> exact ⟨rfl, rfl⟩

theorem hashsetSize_tables : (s.hashsetSize handle).hashmaps = s.hashmaps ∧
    (s.hashsetSize handle).hashsets = s.hashsets := by
  unfold ValueContainers.hashsetSize
  split <;> exact ⟨rfl, rfl⟩

theorem hashsetInsert_maps : (s.hashsetInsert handle key).hashmaps = s.hashmaps := by
  unfold ValueContainers.hashsetInsert
  split <;> rfl

theorem hashsetErase_maps : (s.hashsetErase handle key).hashmaps = s.hashmaps := by
  unfold ValueContainers.hashsetErase
  split <;> rfl

theorem destroyHashmap_tables : (s.destroyHashmap handle).hashmaps = (s.hashmaps.lockedErase handle).2 ∧
    (s.destroyHashmap handle).hashsets = s.hashsets := by
  unfold ValueContainers.destroyHashmap
  dsimp only
  split <;> exact ⟨rfl, rfl⟩

theorem destroyHashset_tables : (s.destroyHashset handle).hashsets = (s.hashsets.lockedErase handle).2 ∧
    (s.destroyHashset handle).hashmaps = s.hashmaps := by
  unfold ValueContainers.destroyHashset
  dsimp only
  split <;> exact ⟨rfl, rfl⟩

end Tables

/-- **A call answers as the container of its handle.** -/
theorem answers_call (hs : ModServed x) (hadm : c.admitted x) : Answers x.1 x.2 (x.2.call c) c := by
  obtain ⟨hrun, hadm⟩ := hadm
  cases c with
  | createHashmap => exact ⟨hrun, rfl, (hs.maps.create hadm ∅).1⟩
  | createHashset => exact ⟨hrun, rfl, (hs.sets.create hadm ∅).1⟩
  | destroyHashmap mapkey =>
    have hfound := (hs.maps.destroy hadm).1
    refine ⟨fun hnone => ?_, fun f hf => ?_⟩
    · rw [hnone] at hfound
      simp [ValueContainers.call, ValueContainers.destroyHashmap, hfound, ValueContainers.exit]
    · rw [hf] at hfound
      simp [ValueContainers.call, ValueContainers.destroyHashmap, hfound, hrun]
  | destroyHashset setkey =>
    have hfound := (hs.sets.destroy hadm).1
    refine ⟨fun hnone => ?_, fun f hf => ?_⟩
    · rw [hnone] at hfound
      simp [ValueContainers.call, ValueContainers.destroyHashset, hfound, ValueContainers.exit]
    · rw [hf] at hfound
      simp [ValueContainers.call, ValueContainers.destroyHashset, hfound, hrun]
  | hashmapContains mapkey key =>
    refine onHandle_of_get (hs.maps.get hadm) (fun hnone => ?_) fun map hsome => ?_
    · simp [ValueContainers.call, ValueContainers.hashmapContains, hnone, ValueContainers.exit]
    · simp [ValueContainers.call, ValueContainers.hashmapContains, hsome, ValueContainers.ret, hrun, mapView,
        LockedMap.contains]
  | hashmapInsert mapkey key value =>
    refine onHandle_of_get (hs.maps.get hadm) (fun hnone => ?_) fun map hsome => ?_
    · simp [ValueContainers.call, ValueContainers.hashmapInsert, hnone, ValueContainers.exit]
    · simp [ValueContainers.call, ValueContainers.hashmapInsert, hsome, ValueContainers.ret, hrun, mapView,
        LockedMap.contains, LockedMap.insert]
  | hashmapErase mapkey key =>
    refine onHandle_of_get (hs.maps.get hadm) (fun hnone => ?_) fun map hsome => ?_
    · simp [ValueContainers.call, ValueContainers.hashmapErase, hnone, ValueContainers.exit]
    · simp [ValueContainers.call, ValueContainers.hashmapErase, hsome, ValueContainers.ret, hrun, mapView,
        LockedMap.contains, LockedMap.erase]
  | hashmapSize mapkey =>
    refine onHandle_of_get (hs.maps.get hadm) (fun hnone => ?_) fun map hsome => ?_
    · simp [ValueContainers.call, ValueContainers.hashmapSize, hnone, ValueContainers.exit]
    · rw [ncard_mapView]
      simp [ValueContainers.call, ValueContainers.hashmapSize, hsome, ValueContainers.ret, hrun]
  | hashmapGet mapkey key valOut =>
    refine onHandle_of_get (hs.maps.get hadm) (fun hnone => ?_) fun map hsome => ?_
    · simp [ValueContainers.call, ValueContainers.hashmapGet, hnone, ValueContainers.exit]
    · change (x.2.hashmapGet mapkey key valOut).exited = false ∧ _
      have hcall : x.2.call (.hashmapGet mapkey key valOut) = x.2.hashmapGet mapkey key valOut := rfl
      rw [hcall, ValueContainers.hashmapGet, hsome, mapView]
      dsimp only
      cases hfound : map.lookup key with
      | none => exact ⟨hrun, fun _ => ⟨rfl, rfl⟩, fun value h => (nomatch h)⟩
      | some found =>
        refine ⟨hrun, fun h => (nomatch h), fun value h => ?_⟩
        obtain rfl := Option.some.inj h
        exact ⟨rfl, loadW_storeW _ _ _, fun k hk => storeW_of_outside _ hk⟩
  | hashsetContains setkey key =>
    refine onHandle_of_get (hs.sets.get hadm) (fun hnone => ?_) fun set hsome => ?_
    · simp [ValueContainers.call, ValueContainers.hashsetContains, hnone, ValueContainers.exit]
    · simp [ValueContainers.call, ValueContainers.hashsetContains, hsome, ValueContainers.ret, hrun, setView]
  | hashsetInsert setkey key =>
    refine onHandle_of_get (hs.sets.get hadm) (fun hnone => ?_) fun set hsome => ?_
    · simp [ValueContainers.call, ValueContainers.hashsetInsert, hnone, ValueContainers.exit]
    · simp [ValueContainers.call, ValueContainers.hashsetInsert, hsome, ValueContainers.ret, hrun, setView]
  | hashsetErase setkey key =>
    refine onHandle_of_get (hs.sets.get hadm) (fun hnone => ?_) fun set hsome => ?_
    · simp [ValueContainers.call, ValueContainers.hashsetErase, hnone, ValueContainers.exit]
    · simp [ValueContainers.call, ValueContainers.hashsetErase, hsome, ValueContainers.ret, hrun, setView]
  | hashsetSize setkey =>
    refine onHandle_of_get (hs.sets.get hadm) (fun hnone => ?_) fun set hsome => ?_
    · simp [ValueContainers.call, ValueContainers.hashsetSize, hnone, ValueContainers.exit]
    · rw [ncard_setView]
      simp [ValueContainers.call, ValueContainers.hashsetSize, hsome, ValueContainers.ret, hrun]

/-- **A call keeps the families served.** -/
theorem served_step (hs : ModServed x) (hadm : c.admitted x) : ModServed (valueStep x c) := by
  obtain ⟨hrun, hadm⟩ := hadm
  cases c with
  | createHashmap => exact ⟨(hs.maps.create hadm ∅).2, hs.sets⟩
  | createHashset =>
    have hsets := (hs.sets.create hadm ∅).2
    have hempty : setView ∅ = fun _ => false :=
      funext fun key => decide_eq_false (Finset.notMem_empty key)
    rw [hempty] at hsets
    exact ⟨hs.maps, hsets⟩
  | destroyHashmap mapkey =>
    obtain ⟨hmaps, hsets⟩ := destroyHashmap_tables x.2 mapkey
    exact ⟨hmaps.symm ▸ (hs.maps.destroy hadm).2, hsets.symm ▸ hs.sets⟩
  | destroyHashset setkey =>
    obtain ⟨hsets, hmaps⟩ := destroyHashset_tables x.2 setkey
    exact ⟨hmaps.symm ▸ hs.maps, hsets.symm ▸ (hs.sets.destroy hadm).2⟩
  | hashmapContains mapkey key =>
    obtain ⟨hmaps, hsets⟩ := hashmapContains_tables x.2 mapkey key
    exact ⟨hmaps.symm ▸ hs.maps, hsets.symm ▸ hs.sets⟩
  | hashmapGet mapkey key valOut =>
    obtain ⟨hmaps, hsets⟩ := hashmapGet_tables x.2 mapkey key valOut
    exact ⟨hmaps.symm ▸ hs.maps, hsets.symm ▸ hs.sets⟩
  | hashmapSize mapkey =>
    obtain ⟨hmaps, hsets⟩ := hashmapSize_tables x.2 mapkey
    exact ⟨hmaps.symm ▸ hs.maps, hsets.symm ▸ hs.sets⟩
  | hashsetContains setkey key =>
    obtain ⟨hmaps, hsets⟩ := hashsetContains_tables x.2 setkey key
    exact ⟨hmaps.symm ▸ hs.maps, hsets.symm ▸ hs.sets⟩
  | hashsetSize setkey =>
    obtain ⟨hmaps, hsets⟩ := hashsetSize_tables x.2 setkey
    exact ⟨hmaps.symm ▸ hs.maps, hsets.symm ▸ hs.sets⟩
  | hashmapInsert mapkey key value =>
    refine ⟨hs.maps.change hadm (fun hnone => ?_)
      fun map hsome => ⟨AList.insert key value map, ?_, mapView_insert⟩,
      (hashmapInsert_sets x.2 mapkey key value).symm ▸ hs.sets⟩
    · simp [ValueContainers.hashmapInsert, hnone, ValueContainers.exit, valueStep, ValueContainers.call]
    · simp [ValueContainers.hashmapInsert, hsome, ValueContainers.ret, valueStep, ValueContainers.call,
        LockedMap.insert]
  | hashmapErase mapkey key =>
    refine ⟨hs.maps.change hadm (fun hnone => ?_)
      fun map hsome => ⟨AList.erase key map, ?_, mapView_erase⟩,
      (hashmapErase_sets x.2 mapkey key).symm ▸ hs.sets⟩
    · simp [ValueContainers.hashmapErase, hnone, ValueContainers.exit, valueStep, ValueContainers.call]
    · simp [ValueContainers.hashmapErase, hsome, ValueContainers.ret, valueStep, ValueContainers.call,
        LockedMap.erase]
  | hashsetInsert setkey key =>
    refine ⟨(hashsetInsert_maps x.2 setkey key).symm ▸ hs.maps, hs.sets.change hadm (fun hnone => ?_)
      fun set hsome => ⟨insert key set, ?_, setView_insert⟩⟩
    · simp [ValueContainers.hashsetInsert, hnone, ValueContainers.exit, valueStep, ValueContainers.call]
    · simp [ValueContainers.hashsetInsert, hsome, ValueContainers.ret, valueStep, ValueContainers.call]
  | hashsetErase setkey key =>
    refine ⟨(hashsetErase_maps x.2 setkey key).symm ▸ hs.maps, hs.sets.change hadm (fun hnone => ?_)
      fun set hsome => ⟨set.erase key, ?_, setView_erase⟩⟩
    · simp [ValueContainers.hashsetErase, hnone, ValueContainers.exit, valueStep, ValueContainers.call]
    · simp [ValueContainers.hashsetErase, hsome, ValueContainers.ret, valueStep, ValueContainers.call]

/-- **In every run of a mod that uses the handles it was given, every call answers as the map or the set of
its own handle**: nothing another handle does is seen, a handle is new when it is given out, and a call on
one that was destroyed ends the process. -/
theorem value_containers_answer (memory : Rdram) (calls : List ValueCall)
    (hadm : Run.Along valueStep (fun x c => c.admitted x) ({}, { memory := memory }) calls) :
    Run.Along valueStep (fun x c => Answers x.1 x.2 (x.2.call c) c) ({}, { memory := memory }) calls :=
  Run.along_of_invariant (I := ModServed) (fun _ _ hadm hs => served_step hs hadm)
    (fun _ _ hadm hs => answers_call hs hadm) ⟨served_empty, served_empty⟩ hadm

/-- Two maps under the first two handles, with a value under the same key each. -/
theorem value_containers_answer_two :
    Run.Along valueStep (fun x c => Answers x.1 x.2 (x.2.call c) c) ({}, { memory := fun _ => 0 })
      [.createHashmap, .createHashmap, .hashmapInsert 0x00100000 5 7, .hashmapInsert 0x00100001 5 9,
        .hashmapGet 0x00100000 5 0x80000000, .destroyHashmap 0x00100001, .hashmapSize 0x00100001] :=
  value_containers_answer _ _ (by simp only [Run.Along, ValueCall.admitted, HasRoom]; decide)

end Dk64Port.Recomp
