import Mathlib.Tactic.Common
import Mathlib.Data.Nat.Basic
import Mathlib.Data.List.Rotate

/-!
# Rotating pages

Records dealt out in pages of a fixed size, one page a turn. The number of pages may have changed
since the page counter was last in range, so the counter may start beyond the last page.

* `page_lt`: every index below `n` is on one of the `pagesOf size n` pages.
* `wait_le`: every page comes up within `pages` turns, from any counter.
* `wait_turn`: a turn before the wanted page brings it one nearer.
* `slices_perm`: the pages of consecutive turns list every record once.
-/

namespace Paging

/-- The pages of `size` that `n` records take. -/
def pagesOf (size n : Nat) : Nat := (n + size - 1) / size

/-- The page after `page`. -/
def turn (pages page : Nat) : Nat := if pages = 0 then 0 else (page + 1) % pages

/-- The turns from `page`, itself in range, to page `q`. -/
def ahead (pages q page : Nat) : Nat := if page ≤ q then q - page else q + pages - page

/-- The turns until page `q` comes up. -/
def wait (pages q page : Nat) : Nat :=
  if page < pages then ahead pages q page else 1 + ahead pages q (turn pages page)

variable {pages q page size n i : Nat}

theorem page_lt (hs : 0 < size) (hi : i < n) : i / size < pagesOf size n := by
  rw [pagesOf, Nat.lt_iff_add_one_le, Nat.le_div_iff_mul_le hs]
  have h := Nat.div_mul_le_self i size
  rw [Nat.add_mul, Nat.one_mul]
  omega

/-- The last page holds what is left. -/
theorem last_page (hs : 0 < size) : n ≤ pagesOf size n * size := by
  have h := Nat.div_add_mod (n + size - 1) size
  have hm := Nat.mod_lt (n + size - 1) hs
  rw [pagesOf, Nat.mul_comm]
  omega

theorem turn_lt (hq : q < pages) : turn pages page < pages := by
  rw [turn, if_neg (by omega)]
  exact Nat.mod_lt _ (by omega)

/-- In range the counter goes up by one or starts again. -/
theorem turn_of_lt (hp : page < pages) :
    turn pages page = if page + 1 = pages then 0 else page + 1 := by
  rw [turn, if_neg (by omega)]
  split
  · rename_i h
    rw [h, Nat.mod_self]
  · exact Nat.mod_eq_of_lt (by omega)

theorem ahead_lt (hq : q < pages) (hp : page < pages) : ahead pages q page < pages := by
  rw [ahead]
  split <;> omega

/-- **Every page comes up within `pages` turns.** -/
theorem wait_le (hq : q < pages) : wait pages q page ≤ pages := by
  rw [wait]
  split
  · rename_i hp
    exact Nat.le_of_lt (ahead_lt hq hp)
  · have ht : turn pages page < pages := turn_lt hq
    have := ahead_lt hq ht
    omega

theorem eq_of_wait_eq_zero (h : wait pages q page = 0) : page = q := by
  rw [wait] at h
  split at h
  · rw [ahead] at h
    split at h <;> omega
  · omega

/-- **A turn before the wanted page brings it one nearer.** -/
theorem wait_turn (hq : q < pages) (h : wait pages q page ≠ 0) :
    wait pages q (turn pages page) + 1 = wait pages q page := by
  have ht : turn pages page < pages := turn_lt hq
  have hin : wait pages q (turn pages page) = ahead pages q (turn pages page) := if_pos ht
  rw [hin]
  by_cases hp : page < pages
  · have hw : wait pages q page = ahead pages q page := if_pos hp
    rw [hw] at h ⊢
    rw [turn_of_lt hp]
    unfold ahead at h ⊢
    split_ifs at h ⊢ <;> omega
  · rw [show wait pages q page = 1 + ahead pages q (turn pages page) from if_neg hp]
    omega

/-! ## Slices -/

variable {α : Type*} {l : List α}

/-- The records of page `k`. -/
def slice (size : Nat) (l : List α) (k : Nat) : List α := (l.drop (k * size)).take size

/-- The first pages list the first records. -/
theorem flatMap_slices (size : Nat) (l : List α) :
    ∀ n, (List.range n).flatMap (slice size l) = l.take (n * size)
  | 0 => by rw [Nat.zero_mul, List.take_zero, List.range_zero, List.flatMap_nil]
  | n + 1 => by
    rw [List.range_succ, List.flatMap_append, flatMap_slices size l n, List.flatMap_singleton, slice,
      ← List.take_add, Nat.succ_mul]

/-- The pages of `n` consecutive turns from counter `start` are all pages. -/
theorem turns_perm (start n : Nat) :
    ((List.range n).map fun k => (start + k) % n).Perm (List.range n) := by
  have hrotate : ((List.range n).map fun k => (start + k) % n) = (List.range n).rotate start := by
    refine List.ext_getElem (by rw [List.length_map, List.length_rotate]) fun k hk hk' => ?_
    rw [List.getElem_map, List.getElem_rotate, List.getElem_range, List.getElem_range,
      List.length_range, Nat.add_comm]
  rw [hrotate]
  exact List.rotate_perm _ _

/-- **The pages of consecutive turns list every record once**, from any counter. -/
theorem slices_perm (h : l.length ≤ pages * size) (start : Nat) :
    ((List.range pages).flatMap fun k => slice size l ((start + k) % pages)).Perm l := by
  have hmap : ((List.range pages).flatMap fun k => slice size l ((start + k) % pages))
      = ((List.range pages).map fun k => (start + k) % pages).flatMap (slice size l) := by
    rw [List.flatMap_map]
  have hall : (List.range pages).flatMap (slice size l) = l := by
    rw [flatMap_slices, List.take_of_length_le h]
  rw [hmap]
  exact ((turns_perm start pages).flatMap_right (slice size l)).trans (List.Perm.of_eq hall)

end Paging
