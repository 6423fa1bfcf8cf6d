import Mathlib.Data.List.Basic
import Mathlib.Data.List.Perm.Basic
import Mathlib.Data.List.Pairwise
import Mathlib.Order.Defs.LinearOrder
import Mathlib.Order.Basic
import Mathlib.Order.Lattice

/-!
# Maps sorted by their keys

A finite map over an ordered type of keys, as the list of its entries in the order of the keys. The
order is a field, so that a map has each key once and is walked in order.

* `find`, `contains`, `set`, `emplace`: reading, writing, and adding a key that is not there.
* `erase`: a key is taken out.
* `find_set`, `find_erase`, `mem_entries_iff`: the laws of reading.
* `emplace_eq_some_iff`, `length_emplace`: what a key that is added does.
* `keys_eq`: the keys are the sorted list that has the same members.
-/

/-- A finite map, as its entries in the order of their keys. -/
structure SortedMap (κ α : Type*) [LT κ] where
  entries : List (κ × α) := []
  sorted : entries.Pairwise fun a b => a.1 < b.1 := by exact List.Pairwise.nil

namespace SortedMap

variable {κ α : Type*} [LinearOrder κ] {m m' : SortedMap κ α} {k k' : κ} {v v' : α}

/-- The entry of a key. -/
def find (m : SortedMap κ α) (k : κ) : Option α := (m.entries.find? fun e => e.1 = k).map (·.2)

def contains (m : SortedMap κ α) (k : κ) : Bool := (m.find k).isSome

/-- The keys, in order. -/
def keys (m : SortedMap κ α) : List κ := m.entries.map (·.1)

/-- An entry is written in its place. -/
def insertEntry (k : κ) (v : α) : List (κ × α) → List (κ × α)
  | [] => [(k, v)]
  | e :: entries =>
    if k < e.1 then (k, v) :: e :: entries
    else if k = e.1 then (k, v) :: entries
    else e :: insertEntry k v entries

theorem mem_insertEntry {e : κ × α} {entries : List (κ × α)}
    (h : e ∈ insertEntry k v entries) : e = (k, v) ∨ e ∈ entries := by
  induction entries with
  | nil => exact .inl (List.mem_singleton.mp h)
  | cons e' entries ih =>
    rw [insertEntry] at h
    split_ifs at h
    · exact List.mem_cons.mp h
    · rcases List.mem_cons.mp h with h | h
      · exact .inl h
      · exact .inr (List.mem_cons_of_mem _ h)
    · rcases List.mem_cons.mp h with rfl | h
      · exact .inr List.mem_cons_self
      · exact (ih h).imp_right (List.mem_cons_of_mem _)

theorem insertEntry_sorted {entries : List (κ × α)}
    (h : entries.Pairwise fun a b => a.1 < b.1) :
    (insertEntry k v entries).Pairwise fun a b => a.1 < b.1 := by
  induction entries with
  | nil => exact List.pairwise_singleton _ _
  | cons e entries ih =>
    obtain ⟨he, hentries⟩ := List.pairwise_cons.mp h
    rw [insertEntry]
    split_ifs with hlt heq
    · refine List.pairwise_cons.mpr ⟨fun e' he' => ?_, h⟩
      rcases List.mem_cons.mp he' with rfl | he'
      · exact hlt
      · exact hlt.trans (he e' he')
    · exact List.pairwise_cons.mpr ⟨fun e' he' => heq ▸ he e' he', hentries⟩
    · refine List.pairwise_cons.mpr ⟨fun e' he' => ?_, ih hentries⟩
      rcases mem_insertEntry he' with rfl | he'
      · exact lt_of_le_of_ne (not_lt.mp hlt) (Ne.symm heq)
      · exact he e' he'

/-- `m[k] = v`. -/
def set (m : SortedMap κ α) (k : κ) (v : α) : SortedMap κ α :=
  ⟨insertEntry k v m.entries, insertEntry_sorted m.sorted⟩

/-- A key that is not there yet. -/
def emplace (m : SortedMap κ α) (k : κ) (v : α) : Option (SortedMap κ α) :=
  if m.contains k then none else some (m.set k v)

/-! ## Reading -/

theorem find_set (m : SortedMap κ α) (k k' : κ) (v : α) :
    (m.set k v).find k' = if k' = k then some v else m.find k' := by
  obtain ⟨entries, hsorted⟩ := m
  unfold find set
  dsimp only
  clear hsorted
  induction entries with
  | nil =>
    by_cases h : k = k'
    · simp [insertEntry, h]
    · simp [insertEntry, h, Ne.symm h]
  | cons e entries ih =>
    rw [insertEntry]
    by_cases hk : k' = k
    · subst hk
      rw [if_pos rfl] at ih ⊢
      split_ifs with hlt heq
      · simp
      · simp
      · rw [List.find?_cons_of_neg (by simpa using Ne.symm heq), ih]
    · rw [if_neg hk] at ih ⊢
      split_ifs with hlt heq
      · rw [List.find?_cons_of_neg (by simpa using Ne.symm hk)]
      · rw [List.find?_cons_of_neg (by simpa using Ne.symm hk),
          List.find?_cons_of_neg (by simpa using fun h => hk (h.symm.trans heq.symm))]
      · by_cases he : e.1 = k'
        · rw [List.find?_cons_of_pos (by simpa using he), List.find?_cons_of_pos (by simpa using he)]
        · rw [List.find?_cons_of_neg (by simpa using he), List.find?_cons_of_neg (by simpa using he),
            ih]

theorem contains_set : (m.set k v).contains k' = (decide (k' = k) || m.contains k') := by
  unfold contains
  rw [find_set]
  by_cases h : k' = k
  · simp [h]
  · simp [h]

/-- An entry is what reading its key gives. -/
theorem mem_entries_iff : (k, v) ∈ m.entries ↔ m.find k = some v := by
  unfold find
  rw [Option.map_eq_some_iff]
  constructor
  · intro h
    cases hf : m.entries.find? fun e => decide (e.1 = k) with
    | none => exact absurd (decide_eq_true rfl) (List.find?_eq_none.mp hf _ h)
    | some e =>
      have hk : e.1 = k := by simpa using List.find?_some hf
      refine ⟨e, rfl, ?_⟩
      by_contra hne
      have hapart : ∀ a ∈ m.entries, ∀ b ∈ m.entries, a ≠ b → a.1 ≠ b.1 := by
        intro a ha b hb hab
        have hsym : Std.Symm fun a b : κ × α => a.1 ≠ b.1 := ⟨fun _ _ h => h.symm⟩
        exact (m.sorted.imp fun {_ _} h => ne_of_lt h).forall ha hb hab
      exact hapart e (List.mem_of_find?_eq_some hf) _ h (fun heq => hne (congrArg Prod.snd heq)) hk
  · rintro ⟨⟨k', v'⟩, hf, hv⟩
    have hk : k' = k := by simpa using List.find?_some hf
    dsimp only at hv
    exact hk ▸ hv ▸ List.mem_of_find?_eq_some hf

theorem contains_iff : m.contains k = true ↔ ∃ v, m.find k = some v := Option.isSome_iff_exists

theorem mem_keys_iff : k ∈ m.keys ↔ m.contains k = true := by
  rw [contains_iff, keys, List.mem_map]
  constructor
  · rintro ⟨⟨k', v⟩, he, rfl⟩
    exact ⟨v, mem_entries_iff.mp he⟩
  · rintro ⟨v, hv⟩
    exact ⟨(k, v), mem_entries_iff.mpr hv, rfl⟩

theorem keys_sorted (m : SortedMap κ α) : m.keys.Pairwise (· < ·) :=
  List.pairwise_map.mpr m.sorted

theorem keys_nodup (m : SortedMap κ α) : m.keys.Nodup :=
  m.keys_sorted.imp fun {_ _} h => ne_of_lt h

/-- **The keys are the sorted list that has them as its members.** -/
theorem keys_eq {l : List κ} (hl : l.Pairwise (· < ·)) (h : ∀ k, k ∈ m.keys ↔ k ∈ l) : m.keys = l := by
  have hperm : m.keys.Perm l :=
    (List.perm_ext_iff_of_nodup m.keys_nodup (hl.imp fun {_ _} h => ne_of_lt h)).mpr h
  exact hperm.eq_of_pairwise (fun a b _ _ hab hba => absurd hab (not_lt.mpr hba.le)) m.keys_sorted hl

/-! ## Adding a key -/

theorem emplace_eq_some_iff : m.emplace k v = some m' ↔ m.find k = none ∧ m' = m.set k v := by
  unfold emplace contains
  cases hf : m.find k with
  | none => simp [eq_comm]
  | some v' => simp

theorem length_insertEntry {entries : List (κ × α)} (h : ∀ e ∈ entries, e.1 ≠ k) :
    (insertEntry k v entries).length = entries.length + 1 := by
  induction entries with
  | nil => rfl
  | cons e entries ih =>
    rw [insertEntry]
    split_ifs with hlt heq
    · rfl
    · exact absurd heq.symm (h e List.mem_cons_self)
    · rw [List.length_cons, ih fun e' he' => h e' (List.mem_cons_of_mem _ he'), List.length_cons]

theorem length_emplace (h : m.emplace k v = some m') : m'.entries.length = m.entries.length + 1 := by
  obtain ⟨hf, rfl⟩ := emplace_eq_some_iff.mp h
  refine length_insertEntry fun e he hk => ?_
  have hsome : m.find k = some e.2 := mem_entries_iff.mp (by rw [← hk]; exact he)
  rw [hf] at hsome
  exact absurd hsome (by simp)

/-- `m.erase(k)`. -/
def erase (m : SortedMap κ α) (k : κ) : SortedMap κ α :=
  ⟨m.entries.filter fun e => e.1 ≠ k, m.sorted.filter _⟩

theorem find_erase (m : SortedMap κ α) (k k' : κ) :
    (m.erase k).find k' = if k' = k then none else m.find k' := by
  refine Option.ext fun v => ?_
  rw [← mem_entries_iff, erase, List.mem_filter, mem_entries_iff]
  by_cases h : k' = k
  · simp [h]
  · simp [h]

end SortedMap
