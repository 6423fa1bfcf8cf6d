import Dk64Port.Archipelago.Catalog
import Mathlib.Data.List.Nodup
import Mathlib.Data.List.Perm.Subperm

/-!
# Check sets (`mod/checks.h`)

A check set has one bit for each location of the catalogue. The 28 words of `ap_check_set` are kept
as one number of 896 bits: bit `i % 32` of word `i / 32` is bit `i`.

* `LocationTable`: `ap_locations` and `ap_shop_locations`, the locations sorted by id.
* `LocationTable.valid`, `distinctFlags`, `subset`: the validators both sides use.
* `has_of_index`, `add_of_index`: the operations by id are those by index.
* `size_add`, `size_mono`: how many locations a set has.
-/

namespace Dk64Port.Archipelago

open ByteLayout (Byte)

/-- `ap_check_set`. -/
abbrev CheckSet := BitVec 896

/-- `AP_DETECT_*`. -/
inductive Detector where
  | stockFlag | event | shop | enemy
deriving DecidableEq

/-- `ap_location_def`. -/
structure LocationDef where
  id : Word
  flag : Half
  detector : Detector
deriving DecidableEq

/-- `ap_shop_location_def`. -/
structure ShopLocationDef where
  id : Word
  vendor : Byte
  level : Byte
  kong : Byte
deriving DecidableEq

/-- The tables of `generated/catalog.h`. -/
structure LocationTable where
  /-- `ap_locations`. -/
  locations : List LocationDef
  /-- `ap_shop_locations`. -/
  shops : List ShopLocationDef
  /-- `checks.sort(…)`, without duplicate ids. -/
  sorted : BinarySearch.Sorted (·.id.toNat) locations
  /-- `AP_LOCATION_COUNT` bits fit the words of a set. -/
  fits : locations.length ≤ 896

namespace LocationTable

variable {t : LocationTable} {set part whole : CheckSet} {id : Word} {i : Nat}

/-- `AP_LOCATION_COUNT`. -/
def count (t : LocationTable) : Nat := t.locations.length

/-- `ap_location_index`. -/
def index (t : LocationTable) (id : Word) : Option Nat :=
  BinarySearch.find (·.id.toNat) t.locations id.toNat

/-- `ap_check_has_index`. -/
def hasIndex (t : LocationTable) (set : CheckSet) (i : Nat) : Bool := i < t.count && set.getLsbD i

/-- `ap_check_has`. -/
def has (t : LocationTable) (set : CheckSet) (id : Word) : Bool :=
  (t.index id).any (t.hasIndex set)

/-- `ap_check_add`: nothing when the id is unknown. -/
def add (t : LocationTable) (set : CheckSet) (id : Word) : Option CheckSet :=
  (t.index id).map fun i => set ||| 1#896 <<< i

/-- `ap_check_valid`: no bit behind the last location. -/
def valid (t : LocationTable) (set : CheckSet) : Bool := set >>> t.count == 0#896

/-- `subset`: the part is valid and has no bit the whole has not. -/
def subset (t : LocationTable) (part whole : CheckSet) : Bool :=
  t.valid part && part &&& ~~~ whole == 0#896

/-- The flag of location `i`. -/
def flagAt (t : LocationTable) (i : Nat) : Half := ((t.locations[i]?).map (·.flag)).getD 65535

/-- `AP_SHOP_SHARED`. -/
def shopShared : Byte := 5

/-- `ap_check_distinct_flags`. -/
def distinctFlags (t : LocationTable) (active : CheckSet) : Bool :=
  t.valid active &&
    ((List.range t.count).all fun i =>
      !t.hasIndex active i || t.flagAt i == 65535 ||
        (List.range t.count).all fun j =>
          !(i < j && t.hasIndex active j && t.flagAt i == t.flagAt j)) &&
    (t.shops.zipIdx.all fun shared =>
      shared.1.kong != shopShared || !t.has active shared.1.id ||
        t.shops.zipIdx.all fun other =>
          !(shared.2 != other.2 && shared.1.vendor == other.1.vendor &&
            shared.1.level == other.1.level && t.has active other.1.id))

/-- The locations of a set. -/
def members (t : LocationTable) (set : CheckSet) : List Nat :=
  (List.range t.count).filter (t.hasIndex set)

/-- The id of location `i`. -/
def idAt (t : LocationTable) (i : Nat) : Option Word := (t.locations[i]?).map (·.id)

/-- The ids of a set, in the order of the table. -/
def ids (t : LocationTable) (set : CheckSet) : List Word := (t.members set).filterMap t.idAt

/-! ## A set and its ids -/

theorem index_eq_some_iff :
    t.index id = some i ↔ ∃ row, t.locations[i]? = some row ∧ row.id = id := by
  rw [index, BinarySearch.find_eq_some_iff t.sorted]
  simp only [BitVec.toNat_inj]

theorem index_lt (h : t.index id = some i) : i < t.count := by
  obtain ⟨row, hrow, -⟩ := index_eq_some_iff.mp h
  exact (List.getElem?_eq_some_iff.mp hrow).1

theorem valid_iff : t.valid set ↔ ∀ i, t.count ≤ i → set.getLsbD i = false := by
  rw [valid, beq_iff_eq]
  constructor
  · intro h i hi
    have hbit : (set >>> t.count).getLsbD (i - t.count) = false := by rw [h]; simp
    rwa [BitVec.getLsbD_ushiftRight, Nat.add_sub_cancel' hi] at hbit
  · intro h
    apply BitVec.eq_of_getLsbD_eq
    intro i _
    rw [BitVec.getLsbD_ushiftRight, h _ (Nat.le_add_right _ _), BitVec.getLsbD_zero]

theorem subset_iff :
    t.subset part whole ↔
      t.valid part ∧ ∀ i, part.getLsbD i = true → whole.getLsbD i = true := by
  rw [subset, Bool.and_eq_true, beq_iff_eq]
  refine and_congr_right fun _ => ?_
  constructor
  · intro h i hi
    have hbit : (part &&& ~~~ whole).getLsbD i = false := by rw [h]; simp
    have hlt : i < 896 := BitVec.lt_of_getLsbD hi
    simpa [BitVec.getLsbD_and, BitVec.getLsbD_not, hi, hlt] using hbit
  · intro h
    apply BitVec.eq_of_getLsbD_eq
    intro i hi
    rw [BitVec.getLsbD_and, BitVec.getLsbD_not, BitVec.getLsbD_zero]
    cases hpart : part.getLsbD i with
    | false => rfl
    | true => simp [h i hpart]

theorem subset_valid (h : t.subset part whole) : t.valid part := (subset_iff.mp h).1

theorem subset_or {other : CheckSet} (h : t.subset part whole) (h' : t.subset other whole) :
    t.subset (part ||| other) whole := by
  obtain ⟨hv, hs⟩ := subset_iff.mp h
  obtain ⟨hv', hs'⟩ := subset_iff.mp h'
  rw [valid_iff] at hv hv'
  refine subset_iff.mpr ⟨valid_iff.mpr fun i hi => ?_, fun i hi => ?_⟩
  · rw [BitVec.getLsbD_or, hv i hi, hv' i hi, Bool.or_false]
  · rw [BitVec.getLsbD_or, Bool.or_eq_true] at hi
    exact hi.elim (hs i) (hs' i)

theorem subset_zero (t : LocationTable) (whole : CheckSet) : t.subset 0 whole := by
  refine subset_iff.mpr ⟨valid_iff.mpr fun i _ => BitVec.getLsbD_zero, fun i hi => ?_⟩
  exact absurd (hi.symm.trans BitVec.getLsbD_zero) (by decide)

theorem hasIndex_iff : t.hasIndex set i ↔ i < t.count ∧ set.getLsbD i = true := by
  rw [hasIndex, Bool.and_eq_true, decide_eq_true_eq]

theorem mem_members : i ∈ t.members set ↔ i < t.count ∧ set.getLsbD i = true := by
  rw [members, List.mem_filter, List.mem_range, hasIndex_iff]
  exact ⟨fun h => h.2, fun h => ⟨h.1, h⟩⟩

theorem members_nodup (t : LocationTable) (set : CheckSet) : (t.members set).Nodup :=
  List.Nodup.filter _ List.nodup_range

/-- The location of an index below the count has an id, and the id has that index. -/
theorem exists_idAt (h : i < t.count) : ∃ id, t.idAt i = some id ∧ t.index id = some i := by
  have hlen : i < t.locations.length := h
  have hrow : t.locations[i]? = some t.locations[i] := List.getElem?_eq_getElem hlen
  refine ⟨t.locations[i].id, by rw [idAt, hrow]; rfl, ?_⟩
  exact index_eq_some_iff.mpr ⟨_, hrow, rfl⟩

theorem has_of_index (h : t.index id = some i) : t.has set id = set.getLsbD i := by
  rw [has, h, Option.any_some, hasIndex, decide_eq_true (index_lt h), Bool.true_and]

theorem add_of_index (h : t.index id = some i) : t.add set id = some (set ||| 1#896 <<< i) := by
  rw [add, h, Option.map_some]

theorem getLsbD_add_bit {j : Nat} (h : i < t.count) :
    (set ||| 1#896 <<< i).getLsbD j = (set.getLsbD j || decide (j = i)) := by
  have hi : i < 896 := Nat.lt_of_lt_of_le h t.fits
  rw [BitVec.getLsbD_or, BitVec.getLsbD_shiftLeft, BitVec.getLsbD_one]
  by_cases heq : j = i
  · subst heq
    simp [hi]
  · simp only [heq, decide_false, Bool.or_false]
    by_cases hle : i ≤ j
    · have hne : j - i ≠ 0 := by omega
      simp [hne]
    · have hlt : j < i := by omega
      simp [hlt]

/-! ## How many locations a set has -/

/-- The number of locations of a set. -/
def size (t : LocationTable) (set : CheckSet) : Nat := (t.members set).length

theorem ids_length (t : LocationTable) (set : CheckSet) : (t.ids set).length ≤ t.size set :=
  List.length_filterMap_le _ _

theorem size_mono (h : t.subset part whole) : t.size part ≤ t.size whole := by
  refine ((members_nodup t part).subperm fun i hi => ?_).length_le
  obtain ⟨hlt, hbit⟩ := mem_members.mp hi
  exact mem_members.mpr ⟨hlt, (subset_iff.mp h).2 i hbit⟩

/-- Adding a location adds at most one. -/
theorem size_add {set' : CheckSet} (h : t.add set id = some set') :
    t.size set' ≤ t.size set + 1 := by
  obtain ⟨i, hindex, rfl⟩ := Option.map_eq_some_iff.mp h
  have hsub : t.members (set ||| 1#896 <<< i) ⊆ i :: t.members set := by
    intro j hj
    obtain ⟨hlt, hbit⟩ := mem_members.mp hj
    rw [getLsbD_add_bit (index_lt hindex), Bool.or_eq_true, decide_eq_true_eq] at hbit
    rcases hbit with hbit | rfl
    · exact List.mem_cons_of_mem _ (mem_members.mpr ⟨hlt, hbit⟩)
    · exact List.mem_cons_self
  exact ((members_nodup t _).subperm hsub).length_le

end LocationTable

end Dk64Port.Archipelago
