import Dk64Port.Coop.CombatPages
import Dk64Port.Lib.Run
import Mathlib.Algebra.Group.Nat.Defs

/-!
# The page cache of the enemies (`native/combat.cpp`)

Pages of enemies arrive one at a time and an enemy may move from one page to another between two of
them. `store_page` drops the key of every record it stores from the other pages, so the cache never
holds two records of one enemy.

* `store_unique`: storing a valid page keeps the keys of the whole cache apart.
* `findEnemy_store`: the record of a page is what `find_enemy` answers once the page is stored.
* `cached_keys_unique`: **after any valid pages a key is in the cache once, and the order of the
  pages does not matter to `find_enemy`.**
-/

namespace Dk64Port.Coop

/-- A page cache with its page count, as `store_page` takes them. -/
structure PageCache where
  pages : EnemyPages := fun _ _ => {}
  count : Word := 0

namespace PageCache

variable {c : PageCache} {f : CoopCombatFrame} {p q : Fin coopCombatPages} {i j : Fin coopEnemies}

/-- `store_page`, and the page count it leaves behind. -/
def store (c : PageCache) (frame : CoopCombatFrame) : PageCache :=
  ⟨storePage c.pages c.count frame, frame.pages⟩

/-- No key is in the cache twice, and the pages above the count are empty. -/
structure Unique (c : PageCache) : Prop where
  place : ∀ p q i j, (c.pages p i).key ≠ 0 → (c.pages q j).key = (c.pages p i).key → p = q ∧ i = j
  above : ∀ p i, c.count.toNat ≤ p.val → (c.pages p i).key = 0

/-- The search of `find_enemy` through the pages in the order `order`. -/
def search (c : PageCache) (order : List (Fin coopCombatPages)) (key : Word) : Option CoopEnemy :=
  if key = 0 then none
  else
    order.findSome? fun page =>
      if page.val < c.count.toNat then
        ((List.finRange coopEnemies).map (c.pages page)).find? fun e => decide (e.key = key)
      else none

theorem search_finRange (c : PageCache) (key : Word) :
    c.search (List.finRange coopCombatPages) key = findEnemy c.pages c.count key := rfl

/-! ## Storing a page -/

theorem store_apply (c : PageCache) (f : CoopCombatFrame) :
    (c.store f).pages p i = storedRecord c.pages c.count f p i :=
  storePage_apply c.pages c.count p i

/-- A slot of the stored page holds the record of the frame. -/
theorem store_frame (hp : p.val = f.page.toNat) : (c.store f).pages p i = f.enemies i := by
  rw [store_apply, storedRecord, if_pos hp]

/-- Another slot that holds a key held it before, and the frame does not show the key. -/
theorem store_other (hu : c.Unique) (hp : p.val ≠ f.page.toNat)
    (hk : ((c.store f).pages p i).key ≠ 0) :
    c.count = f.pages ∧ (c.store f).pages p i = c.pages p i
      ∧ ∀ k, (f.enemies k).key ≠ (c.pages p i).key := by
  rw [store_apply, storedRecord, if_neg hp] at hk ⊢
  by_cases hc : c.count ≠ f.pages
  · rw [if_pos hc] at hk
    exact absurd rfl hk
  · rw [if_neg hc] at hk ⊢
    rw [not_not] at hc
    split at hk
    · exact absurd rfl hk
    · rename_i hno
      rw [if_neg hno]
      refine ⟨hc, rfl, fun k he => ?_⟩
      -- an empty page above the count holds no key
      have hlt : p.val < f.pages.toNat := by
        by_contra hge
        exact hk (hu.above p i (by rw [hc]; omega))
      exact hno ⟨hlt, k, he ▸ hk, he.symm⟩

/-- The keys of a valid frame differ. -/
theorem frame_keys (hf : validCombat f = true) (hi : (f.enemies i).key ≠ 0)
    (h : (f.enemies j).key = (f.enemies i).key) : i = j := by
  have hd := (distinctRecords_iff.mp (validCombat_iff.mp hf).2.2.2.1).1
  by_contra hij
  rcases lt_or_gt_of_ne hij with hlt | hgt
  · exact hd j i hlt (h ▸ hi) h.symm
  · exact hd i j hgt hi h

/-- The page of a valid frame is below its page count, unless the frame is empty. -/
theorem frame_page (hf : validCombat f = true) (hi : (f.enemies i).key ≠ 0) :
    f.page.toNat < f.pages.toNat := by
  have hen : f.enabled ≠ 0 := by
    have hv := (validCombat_iff.mp hf).2.1 i
    rw [validEnemy, if_neg hi] at hv
    simp only [Bool.and_eq_true] at hv
    exact (of_decide_eq_true hv.1.1.1.1).1
  obtain ⟨-, -, -, -, -, h⟩ := of_decide_eq_true (validCombat_iff.mp hf).1
  by_contra hge
  exact h ⟨hen, .inr (.inr (BitVec.le_def.mpr (Nat.le_of_not_lt hge)))⟩

/-- **Storing a valid page keeps the keys of the whole cache apart.** -/
theorem store_unique (hu : c.Unique) (hf : validCombat f = true) : (c.store f).Unique := by
  constructor
  · intro p q i j hk he
    have hk' : ((c.store f).pages q j).key ≠ 0 := he ▸ hk
    by_cases hp : p.val = f.page.toNat <;> by_cases hq : q.val = f.page.toNat
    · rw [store_frame hp] at hk he
      rw [store_frame hq] at he
      exact ⟨Fin.ext (hp.trans hq.symm), frame_keys hf hk he⟩
    · obtain ⟨-, hold, hno⟩ := store_other hu hq hk'
      rw [store_frame hp, hold] at he
      exact absurd he.symm (hno i)
    · obtain ⟨-, hold, hno⟩ := store_other hu hp hk
      rw [store_frame hq, hold] at he
      exact absurd he (hno j)
    · obtain ⟨-, holdp, -⟩ := store_other hu hp hk
      obtain ⟨-, holdq, -⟩ := store_other hu hq hk'
      rw [holdp] at hk he
      rw [holdq] at he
      exact hu.place p q i j hk he
  · intro p i hge
    by_contra hk
    by_cases hp : p.val = f.page.toNat
    · rw [store_frame hp] at hk
      have hlt := frame_page hf hk
      exact absurd hlt (Nat.not_lt.mpr (hp ▸ hge))
    · obtain ⟨hc, hold, -⟩ := store_other hu hp hk
      rw [hold] at hk
      exact hk (hu.above p i (by rw [hc]; exact hge))

theorem unique_empty : Unique {} :=
  ⟨fun _ _ _ _ h => absurd rfl h, fun _ _ _ => rfl⟩

/-! ## Searching the cache -/

/-- A search that succeeds names a record of the cache. -/
theorem search_eq_some {order : List (Fin coopCombatPages)} {key : Word} {e : CoopEnemy}
    (h : c.search order key = some e) :
    key ≠ 0 ∧ ∃ p i, p ∈ order ∧ p.val < c.count.toNat ∧ e = c.pages p i ∧ e.key = key := by
  unfold search at h
  split at h
  · cases h
  · rename_i hk
    obtain ⟨p, hp, hfind⟩ := List.exists_of_findSome?_eq_some h
    split at hfind
    · rename_i hlt
      obtain ⟨i, -, hi⟩ := List.mem_map.mp (List.mem_of_find?_eq_some hfind)
      have hkey := List.find?_some hfind
      exact ⟨hk, p, i, hp, hlt, hi.symm, of_decide_eq_true hkey⟩
    · cases hfind

/-- A record in a page of the order is found, being the only one with its key. -/
theorem search_of_mem (hu : c.Unique) {order : List (Fin coopCombatPages)} (hp : p ∈ order)
    (hk : (c.pages p i).key ≠ 0) : c.search order (c.pages p i).key = some (c.pages p i) := by
  have hlt : p.val < c.count.toNat := by
    by_contra hge
    exact hk (hu.above p i (Nat.le_of_not_lt hge))
  cases h : c.search order (c.pages p i).key with
  | none =>
    rw [search, if_neg hk, List.findSome?_eq_none_iff] at h
    have hnone := h p hp
    rw [if_pos hlt, List.find?_eq_none] at hnone
    exact absurd (decide_eq_true rfl)
      (hnone (c.pages p i) (List.mem_map_of_mem (List.mem_finRange i)))
  | some e =>
    obtain ⟨-, q, j, -, -, rfl, he⟩ := search_eq_some h
    obtain ⟨rfl, rfl⟩ := hu.place p q i j hk he
    rfl

/-- **The order of the pages does not matter** where the keys are apart. -/
theorem search_perm (hu : c.Unique) {order : List (Fin coopCombatPages)}
    (ho : order.Perm (List.finRange coopCombatPages)) (key : Word) :
    c.search order key = findEnemy c.pages c.count key := by
  rw [← search_finRange]
  have hmem : ∀ p, p ∈ order := fun p => ho.mem_iff.mpr (List.mem_finRange p)
  cases h : c.search order key with
  | some e =>
    obtain ⟨hk, p, i, -, -, rfl, rfl⟩ := search_eq_some h
    exact (search_of_mem hu (List.mem_finRange p) hk).symm
  | none =>
    cases h' : c.search (List.finRange coopCombatPages) key with
    | none => rfl
    | some e =>
      obtain ⟨hk, p, i, -, -, rfl, rfl⟩ := search_eq_some h'
      rw [search_of_mem hu (hmem p) hk] at h
      cases h

/-- **A record of a page is what `find_enemy` answers** once the page is stored. -/
theorem findEnemy_store (hu : c.Unique) (hf : validCombat f = true)
    (hi : (f.enemies i).key ≠ 0) :
    findEnemy (c.store f).pages (c.store f).count (f.enemies i).key = some (f.enemies i) := by
  have hpage := frame_page hf hi
  have hpages : f.pages.toNat ≤ coopCombatPages := by
    obtain ⟨-, -, -, -, h5, h6⟩ := of_decide_eq_true (validCombat_iff.mp hf).1
    by_contra hgt
    by_cases hen : f.enabled = 0
    · refine h5 ⟨hen, .inr (.inr (.inr (.inr fun h0 => ?_)))⟩
      rw [h0] at hgt
      exact hgt (Nat.zero_le _)
    · exact h6 ⟨hen, .inr (.inl (Nat.lt_of_not_le hgt))⟩
  have hfr : (c.store f).pages ⟨f.page.toNat, by omega⟩ i = f.enemies i := store_frame rfl
  have := search_of_mem (store_unique hu hf) (List.mem_finRange ⟨f.page.toNat, by omega⟩)
    (hfr.symm ▸ hi)
  rwa [hfr, search_finRange] at this

/-! ## Runs -/

theorem unique_run {frames : List CoopCombatFrame} (hf : ∀ f ∈ frames, validCombat f = true) :
    (Run.run store {} frames).Unique :=
  Run.invariant (C := fun _ f => validCombat f = true) (fun _ _ hf hu => store_unique hu hf)
    unique_empty (Run.along_of_forall hf)

/-- **After any valid pages a key is in the cache once**: two records with one key are one record,
whatever the order of the pages the search finds the same one, and the page stored last shows its
enemies as they are seen. -/
theorem cached_keys_unique (frames : List CoopCombatFrame)
    (hf : ∀ f ∈ frames, validCombat f = true) :
    let c := Run.run store {} frames
    (∀ p q i j, (c.pages p i).key ≠ 0 → (c.pages q j).key = (c.pages p i).key → p = q ∧ i = j)
      ∧ (∀ order, List.Perm order (List.finRange coopCombatPages) → ∀ key,
          c.search order key = findEnemy c.pages c.count key)
      ∧ ∀ f ∈ frames.getLast?, ∀ i, (f.enemies i).key ≠ 0 →
          findEnemy c.pages c.count (f.enemies i).key = some (f.enemies i) := by
  have hu := unique_run hf
  refine ⟨hu.place, fun order ho key => search_perm hu ho key, ?_⟩
  rintro f hlast i hi
  obtain ⟨before, rfl⟩ := List.getLast?_eq_some_iff.mp hlast
  rw [Run.run_snoc]
  exact findEnemy_store
    (unique_run fun g hg => hf g (List.mem_append_left _ hg))
    (hf f (List.mem_append_right _ List.mem_cons_self)) hi

/-- A page of two with one enemy on it. -/
def pageOf (page state yaw : Word) : CoopCombatFrame where
  enabled := 1
  file := 1
  layout := 1
  page := page
  pages := 2
  enemies := fun i => if i = 0 then { key := 5, life := 1, state := state, kind := 3, yaw := yaw } else {}

/-- An enemy is alive on page zero and comes back defeated on page one. -/
theorem cached_keys_unique_moved :
    findEnemy (Run.run store {} [pageOf 0 enemyAlive 0x1000, pageOf 1 enemyDefeated 0]).pages 2 5
      = some { key := 5, life := 1, state := enemyDefeated, kind := 3 } := by
  have hf : ∀ f ∈ [pageOf 0 enemyAlive 0x1000, pageOf 1 enemyDefeated 0],
      validCombat f = true := by
    simp only [List.forall_mem_cons, List.not_mem_nil, false_imp_iff, implies_true, and_true]
    exact ⟨by decide, by decide⟩
  exact (cached_keys_unique _ hf).2.2 (pageOf 1 enemyDefeated 0) rfl 0 (by decide)

end PageCache

end Dk64Port.Coop
