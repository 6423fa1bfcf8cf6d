import Dk64Port.Coop.ItemIds
import Dk64Port.Lib.ImplicationClosure

/-!
# Item words and their prerequisites (`mod/items_policy.h`)

Sets of items as 192 words, `coop_items_dependencies` and `coop_items_full_dependencies`.

* `coopItemsDependencies_iff`: the one-page prerequisites are a list of single-premise rules plus
  the bound on the ids in use.
* `coopItemRules_pageLocal`: every such rule stays inside one wire page.
* `dependencies_pageMix`: so any mixture of pages keeps them.
-/

namespace Dk64Port.Coop

/-! ## Words of item bits -/

/-- `unsigned owned[COOP_ITEM_WORDS]`. -/
abbrev ItemWords := Fin coopItemWords → Word

/-- `words[i]`. -/
def wordAt {n : Nat} (words : Fin n → Word) (i : Nat) : Word :=
  if h : i < n then words ⟨i, h⟩ else 0

/-- `words[id / 32] & (1u << (id % 32))`. -/
def itemBit (words : ItemWords) (id : Nat) : Bool := (wordAt words (id / 32)).getLsbD (id % 32)

/-- `words[id / 32] |= 1u << (id % 32)`. -/
def setItemBit (words : ItemWords) (id : Nat) : ItemWords := fun i =>
  if i.val = id / 32 then words i ||| BitVec.twoPow 32 (id % 32) else words i

/-- The ids whose bit is set. -/
def itemSet (words : ItemWords) : Set Nat := {id | itemBit words id = true}

variable {words words' : ItemWords} {id : Nat}

@[simp] theorem mem_itemSet : id ∈ itemSet words ↔ itemBit words id = true := Iff.rfl

theorem wordAt_of_lt {n i : Nat} {words : Fin n → Word} (h : i < n) :
    wordAt words i = words ⟨i, h⟩ := dif_pos h

theorem itemBit_of_lt (h : id / 32 < coopItemWords) :
    itemBit words id = (words ⟨id / 32, h⟩).getLsbD (id % 32) := by
  rw [itemBit, wordAt_of_lt h]

theorem itemBit_of_ge (h : coopItemWords * 32 ≤ id) : itemBit words id = false := by
  have : ¬ id / 32 < coopItemWords := by
    simp only [coopItemWords] at h ⊢
    omega
  rw [itemBit, wordAt, dif_neg this]
  simp

theorem lt_of_itemBit (h : itemBit words id = true) : id / 32 < coopItemWords := by
  by_contra hn
  rw [itemBit_of_ge (by simp only [coopItemWords] at hn ⊢; omega)] at h
  cases h

@[simp] theorem itemBit_zero : itemBit (fun _ => 0#32) id = false := by
  simp [itemBit, wordAt]

/-- A bit of every id is a bit of every word. -/
theorem itemBit_mul_add (i : Fin coopItemWords) {k : Nat} (hk : k < 32) :
    itemBit words (i.val * 32 + k) = (words i).getLsbD k := by
  have hd : (i.val * 32 + k) / 32 = i.val := by omega
  have hm : (i.val * 32 + k) % 32 = k := by omega
  rw [itemBit, hd, hm, wordAt_of_lt i.isLt]

/-- The words are determined by their bits. -/
theorem itemWords_ext (h : ∀ id, itemBit words id = itemBit words' id) : words = words' := by
  funext i
  apply BitVec.eq_of_getLsbD_eq
  intro k hk
  rw [← itemBit_mul_add i hk, ← itemBit_mul_add i hk, h]

/-- Setting a bit clears none. -/
theorem itemBit_setItemBit_mono (i : Nat) (h : itemBit words id = true) :
    itemBit (setItemBit words i) id = true := by
  have hlt := lt_of_itemBit h
  rw [itemBit_of_lt hlt] at h ⊢
  unfold setItemBit
  split
  · rw [BitVec.getLsbD_or, h, Bool.true_or]
  · exact h

theorem itemBit_setItemBit_self (h : id / 32 < coopItemWords) :
    itemBit (setItemBit words id) id = true := by
  rw [itemBit_of_lt h, setItemBit, if_pos rfl, BitVec.getLsbD_or, BitVec.getLsbD_twoPow,
    decide_eq_true (Nat.mod_lt id (by omega)), decide_eq_true rfl, Bool.and_self, Bool.or_true]

theorem itemBit_and : itemBit (fun i => words i &&& words' i) id
    = (itemBit words id && itemBit words' id) := by
  by_cases h : id / 32 < coopItemWords
  · simp [itemBit_of_lt h]
  · simp [itemBit, wordAt, h]

theorem itemBit_and_not : itemBit (fun i => words i &&& ~~~ words' i) id
    = (itemBit words id && !itemBit words' id) := by
  by_cases h : id / 32 < coopItemWords
  · simp [itemBit_of_lt h, Nat.mod_lt id (show 32 > 0 by omega)]
  · simp [itemBit, wordAt, h]

/-! ## Ownership and its prerequisites -/

/-- `coop_item_has`. -/
def coopItemHas (words : ItemWords) (id : Nat) : Bool := decide (id < coopItems) && itemBit words id

/-- `coop_items_dependencies`: the prerequisites that one page can be checked against. -/
def coopItemsDependencies (words : ItemWords) : Bool :=
  (List.range' coopItems (coopItemWords * 32 - coopItems)).all (fun id => !itemBit words id)
    && (List.range coopSnideCount).all (fun i =>
      !(coopItemHas words (coopSnideFirst + i) && !coopItemHas words i))
    && (List.range 15).all (fun i =>
      !(i % 3 != 0 && coopItemHas words (coopMoveFirst + i)
        && !coopItemHas words (coopMoveFirst + i - 1)))
    && !(coopItemHas words (coopSlamFirst + 1) && !coopItemHas words coopSlamFirst)
    && !(coopItemHas words (coopBeltFirst + 1) && !coopItemHas words coopBeltFirst)
    && !(coopItemHas words (coopMelonFirst + 1) && !coopItemHas words coopMelonFirst)
    && (List.range 4).all (fun i =>
      !(coopItemHas words (coopTrainingSkillFirst + i) && !coopItemHas words coopTrainingSpawned))
    && (if coopItemHas words coopTrainingComplete || coopItemHas words coopFirstSlam then
        coopItemHas words coopTrainingSpawned
          && (List.range 4).all (fun i => coopItemHas words (coopTrainingSkillFirst + i))
      else true)
    && (if coopItemHas words coopKlumsyFree then
        coopItemHas words coopLobby
          && (List.range 8).all (fun i => coopItemHas words (coopKeyTurnFirst + i))
      else true)

/-- One Troff'n'Scoff bucket holds a prefix of its capacity. -/
def troffBucketPrefix (words : ItemWords) (first : Nat) : Bool :=
  ((List.range coopTroffCapacity).foldl (fun (gap, ok) amount =>
    if !coopItemHas words (first + amount) then (true, ok) else (gap, ok && !gap))
    (false, true)).2

/-- The `coop_world_requirements` rows of one unlock flag are met. -/
def worldRequirementsMet (words : ItemWords) (flag : Nat) : Bool :=
  coopWorldRequirements.all fun r =>
    r.flag != flag || decide (r.minimum ≤
      (List.range r.count).countP fun p => coopItemHas words (r.first + p))

/-- `coop_items_full_dependencies`: also the prerequisites that cross pages. -/
def coopItemsFullDependencies (words : ItemWords) : Bool :=
  coopItemsDependencies words
    && (List.range coopTroffBuckets).all (fun bucket =>
      troffBucketPrefix words (coopTroffFirst + bucket * coopTroffCapacity))
    && (List.range 8).all (fun i =>
      !(coopItemHas words (coopKeyTurnFirst + i)
        && (!coopItemHas words (70 + i) || !coopItemHas words coopLobby)))
    && !(coopItemHas words coopKroolDefeated && !coopItemHas words coopKlumsyFree)
    && !(coopItemHas words coopArcadeCoinsPaid
      && (!coopItemHas words coopFactoryArcadeLever || !coopItemHas words (coopGbFirst + 54)))
    && (coopWarpTags.zipIdx).all (fun (tag, i) =>
      !(decide (0 ≤ tag.requiredItem) && coopItemHas words (coopWarpFirst + i)
        && !coopItemHas words tag.requiredItem.toNat))
    && (coopWorldUnlocks.zipIdx).all (fun (unlock, i) =>
      !(decide (0 ≤ unlock.prerequisite) && coopItemHas words (coopWorldFirst + i)
        && !coopItemHas words (coopWorldFirst + unlock.prerequisite.toNat))
      && (!coopItemHas words (coopWorldFirst + i) || worldRequirementsMet words unlock.flag))

theorem dependencies_of_full (h : coopItemsFullDependencies words = true) :
    coopItemsDependencies words = true := by
  simp only [coopItemsFullDependencies, Bool.and_eq_true] at h
  exact h.1.1.1.1.1.1

/-! ## The one-page prerequisites as rules -/

/-- The rules `coop_items_dependencies` checks: a premise and what it requires. -/
def coopItemRules : List (Nat × Nat) :=
  (List.range coopSnideCount).map (fun i => (coopSnideFirst + i, i))
    ++ ((List.range 15).filter (· % 3 != 0)).map (fun i => (coopMoveFirst + i, coopMoveFirst + i - 1))
    ++ [(coopSlamFirst + 1, coopSlamFirst), (coopBeltFirst + 1, coopBeltFirst),
      (coopMelonFirst + 1, coopMelonFirst)]
    ++ (List.range 4).map (fun i => (coopTrainingSkillFirst + i, coopTrainingSpawned))
    ++ [coopTrainingComplete, coopFirstSlam].flatMap (fun id =>
      (id, coopTrainingSpawned) :: (List.range 4).map (fun i => (id, coopTrainingSkillFirst + i)))
    ++ ((coopKlumsyFree, coopLobby) :: (List.range 8).map (fun i => (coopKlumsyFree, coopKeyTurnFirst + i)))

/-- A rule of `coopItemRules`. -/
def ItemRule (a b : Nat) : Prop := (a, b) ∈ coopItemRules

/-- The page a bit travels in. -/
def itemPage (id : Nat) : Nat := id / 32 / coopItemPageWords

/-- **No prerequisite crosses a page boundary.** -/
theorem coopItemRules_pageLocal : ImplicationClosure.BlockLocal ItemRule itemPage := by
  intro a b h
  have : ∀ r ∈ coopItemRules, itemPage r.1 = itemPage r.2 := by decide
  exact this (a, b) h

theorem coopItemRules_inUse {a b : Nat} (h : ItemRule a b) : a < coopItems ∧ b < coopItems := by
  have : ∀ r ∈ coopItemRules, r.1 < coopItems ∧ r.2 < coopItems := by decide
  exact this (a, b) h

@[simp] theorem coopItemHas_eq_true :
    coopItemHas words id = true ↔ id < coopItems ∧ itemBit words id = true := by
  simp [coopItemHas]

theorem forall_itemRule {H : Nat → Prop} : (∀ a b, ItemRule a b → H a → H b) ↔
    (∀ i < coopSnideCount, H (coopSnideFirst + i) → H i)
    ∧ (∀ i < 15, i % 3 ≠ 0 → H (coopMoveFirst + i) → H (coopMoveFirst + i - 1))
    ∧ (H (coopSlamFirst + 1) → H coopSlamFirst)
    ∧ (H (coopBeltFirst + 1) → H coopBeltFirst)
    ∧ (H (coopMelonFirst + 1) → H coopMelonFirst)
    ∧ (∀ i < 4, H (coopTrainingSkillFirst + i) → H coopTrainingSpawned)
    ∧ (H coopTrainingComplete ∨ H coopFirstSlam →
        H coopTrainingSpawned ∧ ∀ i < 4, H (coopTrainingSkillFirst + i))
    ∧ (H coopKlumsyFree → H coopLobby ∧ ∀ i < 8, H (coopKeyTurnFirst + i)) := by
  have h : (∀ a b, ItemRule a b → H a → H b) ↔ ∀ r ∈ coopItemRules, H r.1 → H r.2 :=
    ⟨fun h r hr => h r.1 r.2 hr, fun h a b hr => h (a, b) hr⟩
  rw [h]
  simp only [coopItemRules, List.forall_mem_append, List.forall_mem_map, List.mem_filter,
    List.mem_range, List.forall_mem_cons, List.forall_mem_flatMap, bne_iff_ne, and_imp, and_assoc]
  constructor
  · rintro ⟨h1, h2, h3, h4, h5, -, h6, h7, h8, h9, h10, -, h11, h12⟩
    exact ⟨h1, h2, h3, h4, h5, h6,
      fun h => h.elim (fun h => ⟨h7 h, fun i hi => h8 i hi h⟩) fun h => ⟨h9 h, fun i hi => h10 i hi h⟩,
      fun h => ⟨h11 h, fun i hi => h12 i hi h⟩⟩
  · rintro ⟨h1, h2, h3, h4, h5, h6, h7, h8⟩
    exact ⟨h1, h2, h3, h4, h5, List.forall_mem_nil _, h6, fun h => (h7 (.inl h)).1,
      fun i hi h => (h7 (.inl h)).2 i hi, fun h => (h7 (.inr h)).1,
      fun i hi h => (h7 (.inr h)).2 i hi, List.forall_mem_nil _, fun h => (h8 h).1,
      fun i hi h => (h8 h).2 i hi⟩


/-- **`coop_items_dependencies` as a closure condition.** -/
theorem coopItemsDependencies_iff : coopItemsDependencies words = true ↔
    (∀ id ∈ itemSet words, id < coopItems)
    ∧ ImplicationClosure.Closed ItemRule (itemSet words) := by
  have hrule : ImplicationClosure.Closed ItemRule (itemSet words) ↔
      ∀ a b, ItemRule a b → coopItemHas words a = true → coopItemHas words b = true := by
    refine forall_congr' fun a => forall_congr' fun b => forall_congr' fun hr => ?_
    simp [coopItemHas, coopItemRules_inUse hr]
  have hused : (∀ id ∈ itemSet words, id < coopItems) ↔
      ∀ id, coopItems ≤ id ∧ id < coopItems + (coopItemWords * 32 - coopItems) →
        itemBit words id = false := by
    refine ⟨fun h id hid => ?_, fun h id hid => ?_⟩
    · by_contra hb
      have := h id (by simpa using hb)
      omega
    · by_contra hn
      have hlt := lt_of_itemBit hid
      have : coopItems + (coopItemWords * 32 - coopItems) = 6144 := by decide
      have := h id ⟨by omega, by simp only [coopItemWords] at hlt; omega⟩
      simp_all
  rw [hrule, hused, forall_itemRule]
  have himp : ∀ a b : Bool, (!(a && !b)) = true ↔ (a = true → b = true) := by decide
  have hite : ∀ (p : Prop) [Decidable p] (b : Bool),
      (if p then b else true) = true ↔ (p → b = true) := by
    intro p _ b
    by_cases hp : p <;> simp [hp]
  simp only [coopItemsDependencies, Bool.and_eq_true, List.all_eq_true, List.mem_range,
    List.mem_range'_1, himp, hite, Bool.or_eq_true, bne_iff_ne, and_imp, and_assoc,
    Bool.not_eq_true']

/-- Word `i` comes from the inventory `v` gives for its page. -/
def pageMix (v : Nat → ItemWords) : ItemWords := fun i => v (i.val / coopItemPageWords) i

theorem itemBit_pageMix {v : Nat → ItemWords} :
    itemBit (pageMix v) id = itemBit (v (itemPage id)) id := by
  by_cases h : id / 32 < coopItemWords
  · rw [itemBit_of_lt h, itemBit_of_lt h]
    rfl
  · have hge : coopItemWords * 32 ≤ id := by simp only [coopItemWords] at h ⊢; omega
    rw [itemBit_of_ge hge, itemBit_of_ge hge]

/-- **Any mixture of pages of inventories that keep the one-page prerequisites keeps them.** -/
theorem dependencies_pageMix {v : Nat → ItemWords}
    (h : ∀ p, coopItemsDependencies (v p) = true) : coopItemsDependencies (pageMix v) = true := by
  have hset : itemSet (pageMix v) = {id | id ∈ itemSet (v (itemPage id))} := by
    ext id
    simp [itemBit_pageMix]
  rw [coopItemsDependencies_iff, hset]
  exact ⟨fun id hid => (coopItemsDependencies_iff.mp (h (itemPage id))).1 id hid,
    ImplicationClosure.closed_piecewise coopItemRules_pageLocal
      fun p => (coopItemsDependencies_iff.mp (h p)).2⟩

theorem dependencies_zero : coopItemsDependencies (fun _ => 0) = true := by
  have hset : itemSet (fun _ => 0) = ∅ := by
    ext id
    simp
  rw [coopItemsDependencies_iff, hset]
  exact ⟨fun _ h => h.elim, ImplicationClosure.closed_empty⟩

end Dk64Port.Coop
