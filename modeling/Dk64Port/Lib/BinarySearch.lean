import Mathlib.Data.List.Basic
import Mathlib.Tactic.Common

/-!
# Binary search in a sorted table

The half-open interval `[low, high)` is halved until it is empty; `below` tells whether the answer
lies to the right of an index. Every step makes the interval shorter, so its length is enough fuel.

* `lowerBound_spec`: everything before the answer is below, nothing from it on is.
* `find_eq_some_iff`: over strictly increasing keys the search finds an index exactly when the key
  stands there.
-/

namespace BinarySearch

/-- `while (low < high)`, with the number of steps it may take. -/
def lowerBound (below : Nat → Bool) : Nat → Nat → Nat → Nat
  | 0, low, _ => low
  | fuel + 1, low, high =>
    if low < high then
      let middle := low + (high - low) / 2
      if below middle then lowerBound below fuel (middle + 1) high
      else lowerBound below fuel low middle
    else low

variable {below : Nat → Bool}

/-- **The search ends at the boundary of a downward closed predicate.** -/
theorem lowerBound_spec (closed : ∀ i j, i ≤ j → below j → below i) :
    ∀ fuel low high : Nat, low ≤ high → high - low ≤ fuel →
      low ≤ lowerBound below fuel low high ∧ lowerBound below fuel low high ≤ high ∧
        (∀ i, low ≤ i → i < lowerBound below fuel low high → below i) ∧
        ∀ i, lowerBound below fuel low high ≤ i → i < high → below i = false := by
  intro fuel
  induction fuel with
  | zero =>
    intro low high hle hfuel
    have heq : high = low := by omega
    simp only [lowerBound]
    exact ⟨(Nat.le_refl _), hle, fun i h1 h2 => by omega, fun i h1 h2 => by omega⟩
  | succ fuel ih =>
    intro low high hle hfuel
    rw [lowerBound]
    by_cases hlt : low < high
    · rw [if_pos hlt]
      by_cases hmid : below (low + (high - low) / 2)
      · rw [if_pos hmid]
        obtain ⟨h1, h2, h3, h4⟩ := ih (low + (high - low) / 2 + 1) high (by omega) (by omega)
        refine ⟨by omega, h2, ?_, h4⟩
        intro i hlow hi
        by_cases hleft : i ≤ low + (high - low) / 2
        · exact closed _ _ hleft hmid
        · exact h3 i (by omega) hi
      · rw [if_neg hmid]
        obtain ⟨h1, h2, h3, h4⟩ := ih low (low + (high - low) / 2) (by omega) (by omega)
        refine ⟨h1, by omega, h3, ?_⟩
        intro i hge hi
        by_cases hleft : i < low + (high - low) / 2
        · exact h4 i hge hleft
        · by_contra hcontra
          exact hmid (closed _ i (by omega) (by simpa using hcontra))
    · rw [if_neg hlt]
      exact ⟨(Nat.le_refl _), hle, fun i h1 h2 => by omega, fun i h1 h2 => by omega⟩

variable {α : Type*} (key : α → Nat)

/-- The index of the row whose key is `k`. -/
def find (table : List α) (k : Nat) : Option Nat :=
  let low := lowerBound (fun i => (table[i]?).any (key · < k)) table.length 0 table.length
  if (table[low]?).any (key · = k) then some low else none

variable {key} {table : List α} {k i : Nat}

/-- The keys grow along the table. -/
def Sorted (key : α → Nat) (table : List α) : Prop := table.Pairwise (key · < key ·)

instance : Decidable (Sorted key table) := inferInstanceAs (Decidable (List.Pairwise _ _))

theorem Sorted.lt (h : Sorted key table) {i j : Nat} {a b : α} (hi : table[i]? = some a)
    (hj : table[j]? = some b) (hij : i < j) : key a < key b := by
  obtain ⟨hi', rfl⟩ := List.getElem?_eq_some_iff.mp hi
  obtain ⟨hj', rfl⟩ := List.getElem?_eq_some_iff.mp hj
  exact List.pairwise_iff_getElem.mp h i j hi' hj' hij

theorem closed_below (h : Sorted key table) (i j : Nat) (hij : i ≤ j)
    (hj : (table[j]?).any (key · < k)) : (table[i]?).any (key · < k) := by
  obtain ⟨b, hb, hlt⟩ := (Option.any_eq_true _ _).mp hj
  obtain ⟨hlen, -⟩ := List.getElem?_eq_some_iff.mp hb
  have hlow : i < table.length := by omega
  have ha : table[i]? = some table[i] := List.getElem?_eq_getElem hlow
  rw [ha]
  rcases Nat.lt_or_eq_of_le hij with hlt' | rfl
  · have := h.lt ha hb hlt'
    simp only [decide_eq_true_eq] at hlt
    simp only [Option.any_some, decide_eq_true_eq]
    omega
  · rw [hb] at ha
    rw [← ha]
    simpa using hlt

/-- **The search finds a key exactly where it stands.** -/
theorem find_eq_some_iff (h : Sorted key table) :
    find key table k = some i ↔ ∃ a, table[i]? = some a ∧ key a = k := by
  obtain ⟨-, hle, hbelow, habove⟩ :=
    lowerBound_spec (closed_below (k := k) h) table.length 0 table.length (Nat.zero_le _) (by omega)
  unfold find
  generalize lowerBound (fun i => (table[i]?).any (key · < k)) table.length 0 table.length = low
    at hle hbelow habove
  simp only [Option.ite_none_right_eq_some, Option.some.injEq]
  constructor
  · rintro ⟨hany, rfl⟩
    obtain ⟨a, ha, hk⟩ := (Option.any_eq_true _ _).mp hany
    exact ⟨a, ha, by simpa using hk⟩
  · rintro ⟨a, ha, rfl⟩
    obtain ⟨hlen, -⟩ := List.getElem?_eq_some_iff.mp ha
    have hnot : ¬ i < low := by
      intro hlt
      have := hbelow i (Nat.zero_le i) hlt
      simp [ha] at this
    have hge : ¬ low < i := by
      intro hlt
      have hlow : low < table.length := by omega
      have hget : table[low]? = some table[low] := List.getElem?_eq_getElem hlow
      have hless := h.lt hget ha hlt
      have := habove low (Nat.le_refl _) (by omega)
      rw [hget] at this
      simp only [Option.any_some, decide_eq_false_iff_not] at this
      exact this hless
    have heq : low = i := by omega
    subst heq
    exact ⟨by simp [ha], rfl⟩

end BinarySearch
