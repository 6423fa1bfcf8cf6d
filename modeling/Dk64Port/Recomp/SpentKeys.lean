import Dk64Port.Recomp.SlotMap
import Mathlib.Order.Bounds.Defs

/-!
# The first spent key (`lib/SlotMap/slot_map.h`)

A caller that keeps no more than one value at a time wears the slots out evenly: with 65 of them in the
queue, each is taken again after 64 others. After 1023 erasures of each, a creation takes the first slot at
`kMaxVersion`.

* `rotated`: the slots after that many turns, and `tracks_turn`: one more turn.
* `first_spent_key`: **66495 is the least number of erasures after which a creation gives out a spent
  key.**
-/

namespace Dk64Port.Recomp

open GenerationalSlots (Slots KeyLedger)
open SlotKey

variable {α : Type} {v : α} {n j : Nat}

/-! ## Turns of the queue -/

/-- The slots after `n` turns: 65 in the queue, the next at its front. -/
def rotated (v : α) (n : Nat) : Slots α where
  slots := (List.range 65).map fun i => ⟨2 + (n + 64 - i) / 65, false, v⟩
  free := (List.range 65).map fun j => (n + j) % 65

/-- The key that the next creation gives out. -/
def nextKey (n : Nat) : GenerationalSlots.Key := (n % 65, 2 + n / 65)

/-- The slots in the middle of a turn. -/
def turning (v : α) (n : Nat) : Slots α :=
  { rotated v n with free := (List.range 64).map fun j => (n + 1 + j) % 65 }.change (n % 65)
    fun s => { s with taken := true, value := v }

theorem slot_rotated {i : Nat} (hi : i < 65) :
    (rotated v n).slots[i]? = some ⟨2 + (n + 64 - i) / 65, false, v⟩ := by
  simp [rotated, List.getElem?_range hi]

theorem create_rotated : (rotated v n).create 64 v = (nextKey n, turning v n) := by
  have hgen : (rotated v n).generation (n % 65) = 2 + n / 65 := by
    rw [GenerationalSlots.generation_eq (slot_rotated (Nat.mod_lt n (by decide)))]
    dsimp only
    omega
  have hfree : (rotated v n).free = n % 65 :: (List.range 64).map fun j => (n + 1 + j) % 65 := by
    change (List.range (64 + 1)).map (fun j => (n + j) % 65) = _
    rw [List.range_succ_eq_map, List.map_cons, List.map_map]
    refine congrArg (n % 65 :: ·) (List.map_congr_left fun j _ => ?_)
    simp only [Function.comp]
    omega
  rw [Slots.create, hfree]
  dsimp only
  rw [if_pos (by simp), hgen]
  rfl

theorem slot_turning {i : Nat} (hi : i < 65) : (turning v n).slots[i]?
    = some ⟨2 + (n + 64 - i) / 65, decide (i = n % 65), v⟩ := by
  rw [turning, GenerationalSlots.getElem?_change]
  have hslot := slot_rotated (v := v) (n := n) hi
  by_cases h : n % 65 = i
  · subst h
    rw [if_pos rfl, decide_eq_true rfl]
    exact (congrArg (Option.map _) hslot).trans rfl
  · rw [if_neg h, decide_eq_false (Ne.symm h)]
    exact hslot

theorem find_turning (hn : n < 65 * 1022) : (turning v n).find 1024 (nextKey n) = some v := by
  refine GenerationalSlots.find_eq_some.mpr ⟨_, slot_turning (Nat.mod_lt n (by decide)), ?_, ?_, ?_, rfl⟩
  · simp [nextKey]
  · simp only [nextKey]
    omega
  · simp only [nextKey]
    omega

theorem erase_turning (hn : n < 65 * 1022) :
    (turning v n).erase 1024 (nextKey n) = rotated v (n + 1) := by
  have hsome : ((turning v n).find 1024 (nextKey n)).isSome = true := by
    rw [find_turning hn]
    rfl
  rw [Slots.erase, if_pos hsome]
  have hfree : (turning v n).free ++ [(nextKey n).1] = (rotated v (n + 1)).free := by
    change (List.range 64).map (fun j => (n + 1 + j) % 65) ++ [n % 65]
      = (List.range (64 + 1)).map (fun j => (n + 1 + j) % 65)
    have hlast : n % 65 = (n + 1 + 64) % 65 := by omega
    rw [hlast, List.range_succ (n := 64), List.map_append, List.map_singleton]
  rw [hfree]
  refine (Slots.mk.injEq _ _ _ _).mpr ⟨List.ext_getElem? fun i => ?_, rfl⟩
  have hchange := GenerationalSlots.getElem?_change
    (m := { turning v n with free := (rotated v (n + 1)).free }) (i := (nextKey n).1)
    (f := fun s => ⟨s.generation + 1, false, s.value⟩) i
  refine hchange.trans ?_
  change (if n % 65 = i then (turning v n).slots[i]?.map _ else (turning v n).slots[i]?)
    = (rotated v (n + 1)).slots[i]?
  by_cases hi : i < 65
  · rw [slot_turning hi, slot_rotated hi]
    by_cases h : n % 65 = i
    · subst h
      rw [if_pos rfl]
      simp only [Option.map_some, Option.some.injEq, GenerationalSlots.Slot.mk.injEq, and_true]
      omega
    · rw [if_neg h, decide_eq_false (Ne.symm h)]
      simp only [Option.some.injEq, GenerationalSlots.Slot.mk.injEq, and_true]
      omega
  · have hlen : (turning v n).slots.length = 65 := by
      rw [turning, GenerationalSlots.length_change]
      simp [rotated]
    rw [List.getElem?_eq_none (by omega), List.getElem?_eq_none (by simp [rotated]; omega)]
    simp

/-! ## The calls -/

/-- Some admitted calls leave these slots, after `e` erasures. -/
def Reached (e : Nat) (a : Slots α) : Prop :=
  ∃ (calls : List (KeyCall α)) (h : KeyLedger α),
    Run.Along handleStep KeyCall.admitted ({}, {}) calls ∧
      Tracks (Run.run handleStep ({}, {}) calls) h a ∧ h.erased = e

variable {e : Nat} {a : Slots α} {k : GenerationalSlots.Key}

theorem reached_empty : Reached 0 ({} : Slots α) :=
  ⟨[], {}, trivial, tracks_empty, rfl⟩

theorem Reached.create (hr : Reached e a) (hroom : a.taken < 2 ^ 20 - 64) (v : α) :
    Reached e (a.create 64 v).2 := by
  obtain ⟨calls, h, hadm, tr, rfl⟩ := hr
  have hsize : (Run.run handleStep ({}, {}) calls).2.size.toNat < 2 ^ 20 - 64 :=
    tr.kept.size_eq.symm ▸ hroom
  have hcalls : Run.Along handleStep KeyCall.admitted ({}, {}) (calls ++ [.create v]) :=
    Run.along_append.mpr ⟨hadm, hsize, trivial⟩
  refine ⟨calls ++ [.create v], h.after 1024 (a.create 64 v).1 (.create v), hcalls, ?_, rfl⟩
  rw [Run.run_snoc]
  exact tr.create hsize v

theorem Reached.erase (hr : Reached e a) (hfind : a.find 1024 k = some v) :
    Reached (e + 1) (a.erase 1024 k) := by
  obtain ⟨calls, h, hadm, tr, rfl⟩ := hr
  have hmem : k ∈ h.given := by
    obtain ⟨s, hs, ht, hg, -, -⟩ := GenerationalSlots.find_eq_some.mp hfind
    exact (tr.kept.sound.mem_given k).mpr
      ⟨s, hs, hg ▸ tr.kept.sound.generation_pos _ s hs, .inr ⟨hg.symm, ht⟩⟩
  have hgiven : keyWord k ∈ (Run.run handleStep ({}, {}) calls).1.given :=
    tr.given ▸ List.mem_map_of_mem hmem
  have hcalls : Run.Along handleStep KeyCall.admitted ({}, {}) (calls ++ [.erase (keyWord k)]) :=
    Run.along_append.mpr ⟨hadm, hgiven, trivial⟩
  refine ⟨calls ++ [.erase (keyWord k)], h.after 1024 k (.erase k), hcalls, ?_, ?_⟩
  · rw [Run.run_snoc]
    exact tr.erase hmem
  · rw [KeyLedger.after_erase, ← tr.kept.sound.find_eq, hfind]
    rfl

/-- 65 values, of which `j` are erased. -/
def emptied (v : α) (j : Nat) : Slots α where
  slots := (List.range 65).map fun i => if i < j then ⟨2, false, v⟩ else ⟨1, true, v⟩
  free := List.range j

theorem reached_filled (v : α) (hj : j ≤ 65) :
    Reached 0 (⟨List.replicate j ⟨1, true, v⟩, []⟩ : Slots α) := by
  induction j with
  | zero => exact reached_empty
  | succ j ih =>
    have hcount : Slots.taken (⟨List.replicate j ⟨1, true, v⟩, []⟩ : Slots α) = j := by
      refine (List.countP_eq_length.mpr fun s hs => ?_).trans List.length_replicate
      rw [(List.mem_replicate.mp hs).2]
    have hnext := (ih (by omega)).create (by rw [hcount]; omega) v
    rw [List.replicate_succ']
    exact hnext

theorem slot_emptied {i : Nat} (hi : i < 65) :
    (emptied v j).slots[i]? = some (if i < j then ⟨2, false, v⟩ else ⟨1, true, v⟩) := by
  simp [emptied, List.getElem?_range hi]

theorem find_emptied (hj : j < 65) : (emptied v j).find 1024 (j, 1) = some v := by
  refine GenerationalSlots.find_eq_some.mpr ⟨_, slot_emptied hj, ?_, ?_, ?_, ?_⟩ <;> simp

theorem erase_emptied (hj : j < 65) : (emptied v j).erase 1024 (j, 1) = emptied v (j + 1) := by
  have hsome : ((emptied v j).find 1024 (j, 1)).isSome = true := by
    rw [find_emptied hj]
    rfl
  rw [Slots.erase, if_pos hsome]
  refine (Slots.mk.injEq _ _ _ _).mpr ⟨List.ext_getElem? fun i => ?_, List.range_succ.symm⟩
  have hchange := GenerationalSlots.getElem?_change
    (m := { emptied v j with free := (emptied v j).free ++ [j] }) (i := j)
    (f := fun s => ⟨s.generation + 1, false, s.value⟩) i
  refine hchange.trans ?_
  change (if j = i then (emptied v j).slots[i]?.map _ else (emptied v j).slots[i]?)
    = (emptied v (j + 1)).slots[i]?
  by_cases hi : i < 65
  · rw [slot_emptied hi, slot_emptied hi]
    by_cases h : j = i
    · subst h
      simp
    · rw [if_neg h]
      have hiff : i < j ↔ i < j + 1 := by omega
      simp only [hiff]
  · rw [List.getElem?_eq_none (by simp [emptied]; omega), List.getElem?_eq_none (by simp [emptied]; omega)]
    simp

theorem reached_emptied (v : α) (hj : j ≤ 65) : Reached j (emptied v j) := by
  induction j with
  | zero =>
    have hfilled : emptied v 0 = ⟨List.replicate 65 ⟨1, true, v⟩, []⟩ := rfl
    rw [hfilled]
    exact reached_filled v (Nat.le_refl 65)
  | succ j ih =>
    rw [← erase_emptied (by omega)]
    exact (ih (by omega)).erase (find_emptied (by omega))

/-- **A turn more.** -/
theorem reached_rotated (v : α) (hn : n ≤ 65 * 1022) : Reached (65 + n) (rotated v n) := by
  induction n with
  | zero =>
    have hempty : rotated v 0 = emptied v 65 := rfl
    rw [hempty]
    exact reached_emptied v (Nat.le_refl 65)
  | succ n ih =>
    have hcount : (rotated v n).taken = 0 := by simp [Slots.taken, rotated]
    have hturn := (ih (by omega)).create (by rw [hcount]; decide) v
    rw [create_rotated] at hturn
    rw [← erase_turning (by omega)]
    exact hturn.erase (find_turning (by omega))

/-- **66495 is the least number of erasures after which a creation gives out a spent key**, over all
runs of a caller that uses keys it was given and keeps fewer than 2^20 - 64 values. -/
theorem first_spent_key (v : α) :
    IsLeast {e | ∃ calls : List (KeyCall α),
      Run.Along handleStep KeyCall.admitted ({}, {}) (calls ++ [.create v]) ∧
        (Run.run handleStep ({}, {}) calls).1.erased = e ∧
          spent ((Run.run handleStep ({}, {}) calls).2.emplace v).1 = true} 66495 := by
  constructor
  · obtain ⟨calls, h, hadm, tr, herased⟩ := reached_rotated v (n := 65 * 1022) (Nat.le_refl _)
    have hcount : (rotated v (65 * 1022)).taken = 0 := by simp [Slots.taken, rotated]
    have hroom : (rotated v (65 * 1022)).taken < 2 ^ 20 - 64 := by rw [hcount]; decide
    have hsize : (Run.run handleStep ({}, {}) calls).2.size.toNat < 2 ^ 20 - 64 :=
      tr.kept.size_eq.symm ▸ hroom
    refine ⟨calls, Run.along_append.mpr ⟨hadm, hsize, trivial⟩, tr.erased.trans herased, ?_⟩
    rw [(tr.kept.create hroom v).1, create_rotated]
    change spent (keyWord (nextKey (65 * 1022))) = true
    decide
  · rintro e ⟨calls, hadm, rfl, hspent⟩
    obtain ⟨h, a, tr⟩ := exists_tracks _ hadm
    rw [Run.run_snoc] at tr
    exact (tr.faithful.spent _ List.mem_cons_self hspent).2

end Dk64Port.Recomp
