import Dk64Port.Coop.ItemsTurn

/-!
# The prerequisites of a save (`mod/items_policy.h`)

`coop_items_full_dependencies` speaks about flags only: tiers, upgrades and the milestones of Troff
and Scoff are owned downwards by construction.

* `has_ownedWords`: the words of a save hold what it owns.
* `fullDependencies_iff`: **a save passes when everything it owns has what it requires.**
-/

namespace Dk64Port.Coop

variable {e : ItemsEngine} {f : ItemsFrame} {mode : ApplyMode} {id : Nat} {s s' : GameSave}
  {st : ApplyState}

/-! ## The owned words -/

/-- The words `coop_items_capture` collects from a save. -/
def ownedWords (s : GameSave) : ItemWords := collectItems (fun _ => 0) (coopItemOwned s)

/-- Setting a bit sets that bit alone. -/
theorem itemBit_setItemBit {words : ItemWords} {i j : Nat} (h : i / 32 < coopItemWords) :
    itemBit (setItemBit words i) j = (itemBit words j || j == i) := by
  by_cases hj : j = i
  · subst hj
    rw [itemBit_setItemBit_self h]
    simp
  · have hne : (j == i) = false := by simpa using hj
    rw [hne, Bool.or_false]
    by_cases hlt : j / 32 < coopItemWords
    · rw [itemBit_of_lt hlt, itemBit_of_lt hlt, setItemBit]
      split
      · rename_i heq
        rw [BitVec.getLsbD_or, BitVec.getLsbD_twoPow]
        have : ¬ i % 32 = j % 32 := fun hm => hj (by simp only at heq; omega)
        simp [this]
      · rfl
    · rw [itemBit_of_ge (by omega), itemBit_of_ge (by omega)]

/-- The collected words hold what they started with and every item that is had. -/
theorem itemBit_collectItems {start : ItemWords} {has : Nat → Bool} {j : Nat} :
    itemBit (collectItems start has) j = (itemBit start j || (decide (j < coopItems) && has j)) := by
  have hall : ∀ n ≤ coopItems, itemBit ((List.range n).foldl
      (fun words id => if has id then setItemBit words id else words) start) j
        = (itemBit start j || (decide (j < n) && has j)) := by
    intro n
    induction n with
    | zero => simp
    | succ n ih =>
      intro hn
      have hword : n / 32 < coopItemWords := by
        have : coopItems = 5897 := rfl
        simp only [coopItemWords]
        omega
      rw [List.range_succ, List.foldl_append, List.foldl_cons, List.foldl_nil]
      split
      · rename_i h
        rw [itemBit_setItemBit hword, ih (by omega)]
        by_cases hj : j = n
        · subst hj
          simp [h]
        · have : (j < n + 1) = (j < n) := by
            simp only [eq_iff_iff]
            omega
          simp [hj, this]
      · rename_i h
        rw [ih (by omega)]
        by_cases hj : j = n
        · subst hj
          simp [h]
        · have : (j < n + 1) = (j < n) := by
            simp only [eq_iff_iff]
            omega
          simp [this]
  exact hall _ (Nat.le_refl _)

/-- Only the items of the table are owned. -/
theorem owned_lt (h : coopItemOwned s id = true) : id < coopItems := by
  have := ids
  by_contra hn
  rw [coopItemOwned, if_neg (by omega), if_neg (by omega), if_neg (by omega), if_neg (by omega),
    if_pos (by omega), coopProgressionOwned, if_pos (by omega)] at h
  cases h

/-- **The words of a save hold what it owns.** -/
theorem has_ownedWords : coopItemHas (ownedWords s) id = coopItemOwned s id := by
  rw [coopItemHas, ownedWords, itemBit_collectItems,
    show itemBit (fun _ => 0) id = false from itemBit_zero, Bool.false_or]
  by_cases h : coopItemOwned s id = true
  · simp [h, owned_lt h]
  · simp [h]

/-! ## The prerequisites of a save -/

/-- Every milestone of a bucket but the first owns the one before. -/
theorem troffBucketPrefix_of_down {words : ItemWords} {first : Nat}
    (hdown : ∀ n, n + 1 < coopTroffCapacity → coopItemHas words (first + (n + 1)) = true →
      coopItemHas words (first + n) = true) : troffBucketPrefix words first = true := by
  have hall : ∀ n ≤ coopTroffCapacity,
      ((List.range n).foldl (fun (x : Bool × Bool) amount =>
        if !coopItemHas words (first + amount) then (true, x.2) else (x.1, x.2 && !x.1))
        (false, true)).2 = true
      ∧ (((List.range n).foldl (fun (x : Bool × Bool) amount =>
        if !coopItemHas words (first + amount) then (true, x.2) else (x.1, x.2 && !x.1))
        (false, true)).1 = true → n < coopTroffCapacity →
          coopItemHas words (first + n) = false) := by
    intro n
    induction n with
    | zero => simp
    | succ n ih =>
      intro hn
      obtain ⟨hok, hgap⟩ := ih (by omega)
      rw [List.range_succ, List.foldl_append, List.foldl_cons, List.foldl_nil]
      by_cases hhas : coopItemHas words (first + n) = true
      · rw [if_neg (by rw [hhas]; simp), hok]
        have hno : ¬ _ = true := fun hg => by
          have := hgap hg (by omega)
          rw [hhas] at this
          cases this
        exact ⟨by rw [Bool.eq_false_iff.mpr hno]; rfl, fun hg => absurd hg hno⟩
      · rw [if_pos (by rw [Bool.eq_false_iff.mpr hhas]; rfl)]
        exact ⟨hok, fun _ hlt => Bool.eq_false_iff.mpr fun h => hhas (hdown n hlt h)⟩
  exact (hall _ (Nat.le_refl _)).1

/-- The save owns nothing without what it requires. -/
def ClosedSave (s : GameSave) : Prop := ∀ id, coopItemOwned s id = true → coopItemRequires s id = true

theorem all_congr_mem {α : Type} {l : List α} {p q : α → Bool} (h : ∀ a ∈ l, p a = q a) :
    l.all p = l.all q := by
  rw [Bool.eq_iff_iff, List.all_eq_true, List.all_eq_true]
  exact forall₂_congr fun a ha => by rw [h a ha]

/-- An item with a flag is owned where the flag is set. -/
theorem owned_iff_flagged (h : (coopItemFlag id).isSome) :
    s.flagged (coopItemFlag id) = coopItemOwned s id := by
  obtain ⟨x, hx⟩ := Option.isSome_iff_exists.mp h
  rw [owned_iff_flag hx, hx]
  rfl

/-- A reward of Snide requires the blueprint. -/
theorem requires_snide {i : Nat} (h : i < coopSnideCount) :
    coopItemRequires s (coopSnideFirst + i) = coopItemOwned s i := by
  have := ids
  have hcount : coopSnideCount = 40 := rfl
  have hflag : coopItemFlag i = some (0x1D5 + i) := by rw [coopItemFlag, if_pos (by omega)]
  rw [coopItemRequires, if_pos (by omega), owned_iff_flag hflag, Nat.add_sub_cancel_left]

/-- Turning a key in requires the key and the lobby. -/
theorem requires_turn {i : Nat} (h : i < 8) : coopItemRequires s (coopKeyTurnFirst + i)
    = (coopItemOwned s (70 + i) && coopItemOwned s coopLobby) := by
  have := ids
  have := progressionIds
  have hkeys : ∀ i < 8, (coopItemFlag (70 + i)).isSome := by decide
  rw [coopItemRequires, if_neg (by omega), if_pos (by omega), Nat.add_sub_cancel_left, turnRequires,
    owned_iff_flagged (hkeys i h), owned_iff_flagged (by decide)]

/-- K. Lumsy's freedom requires the lobby and the eight turns. -/
theorem requires_klumsy : coopItemRequires s coopKlumsyFree
    = (coopItemOwned s coopLobby && (List.range 8).all fun i => coopItemOwned s (coopKeyTurnFirst + i)) := by
  have hturns : ∀ i < 8, (coopItemFlag (coopKeyTurnFirst + i)).isSome := by decide
  have hall : ((List.range 8).all fun i => s.flagged (coopItemFlag (coopKeyTurnFirst + i)))
      = (List.range 8).all fun i => coopItemOwned s (coopKeyTurnFirst + i) :=
    all_congr_mem fun i hi => owned_iff_flagged (hturns i (List.mem_range.mp hi))
  rw [coopItemRequires, if_neg (by decide), if_neg (by decide), if_pos rfl, klumsyRequires,
    owned_iff_flagged (by decide), hall]

/-- A training skill requires that the barrels are there. -/
theorem requires_skill {i : Nat} (h : i < 4) :
    coopItemRequires s (coopTrainingSkillFirst + i) = coopItemOwned s coopTrainingSpawned := by
  have := ids
  have := progressionIds
  rw [coopItemRequires, if_neg (by omega), if_neg (by omega), if_neg (by omega), if_pos (by omega),
    owned_iff_flag (show coopItemFlag coopTrainingSpawned = some 0x17F by decide)]

/-- The training asks for the barrels and the four skills. -/
theorem trainingPrerequisites_owned : coopTrainingPrerequisites s
    = (coopItemOwned s coopTrainingSpawned
      && (List.range 4).all fun i => coopItemOwned s (coopTrainingSkillFirst + i)) := by
  have hskills : ∀ i < 4, coopItemFlag (coopTrainingSkillFirst + i) = some (0x182 + i) := by decide
  have hall : ((List.range 4).all fun i => s.flag (0x182 + i))
      = (List.range 4).all fun i => coopItemOwned s (coopTrainingSkillFirst + i) :=
    all_congr_mem fun i hi => (owned_iff_flag (hskills i (List.mem_range.mp hi))).symm
  rw [coopTrainingPrerequisites, hall,
    owned_iff_flag (show coopItemFlag coopTrainingSpawned = some 0x17F by decide)]

/-- A warp requires the item of its tag, if there is one. -/
theorem requires_warpTag {i : Nat} {tag : CoopWarpTag} (h : coopWarpTags[i]? = some tag) :
    coopItemRequires s (coopWarpFirst + i)
      = !(decide (0 ≤ tag.requiredItem) && !coopItemOwned s tag.requiredItem.toNat) := by
  have := ids
  have := progressionIds
  have hlength : coopWarpTags.length = 87 := by decide
  have hi := (List.getElem?_eq_some_iff.mp h).1
  have hrows : ∀ tag ∈ coopWarpTags, 0 ≤ tag.requiredItem →
      (coopItemFlag tag.requiredItem.toNat).isSome := by decide
  rw [coopItemRequires, if_neg (by omega), if_neg (by omega), if_neg (by omega), if_neg (by omega),
    if_neg (by omega), if_pos (by omega), Nat.add_sub_cancel_left, h, Option.all_some, warpRequires]
  by_cases hreq : 0 ≤ tag.requiredItem
  · rw [owned_iff_flagged (hrows tag (List.mem_of_getElem? h) hreq)]
    simp [hreq]
  · simp [hreq]

/-- A requirement of the world counts owned items. -/
theorem requirementFlagged_owned {r : CoopWorldRequirement} (h : r ∈ coopWorldRequirements) :
    requirementFlagged s r
      = decide (r.minimum ≤ (List.range r.count).countP fun p => coopItemOwned s (r.first + p)) := by
  have hrows : ∀ r ∈ coopWorldRequirements, ∀ i < r.count, (coopItemFlag (r.first + i)).isSome := by
    decide
  have hcount : (List.range r.count).countP (fun i => s.flagged (coopItemFlag (r.first + i)))
      = (List.range r.count).countP fun p => coopItemOwned s (r.first + p) :=
    List.countP_congr fun i hi => by
      rw [owned_iff_flagged (hrows r h i (List.mem_range.mp hi))]
  rw [requirementFlagged, hcount]

/-- An unlock requires the one its row names, and what the world asks for its flag. -/
theorem requires_unlock {i : Nat} {unlock : CoopWorldUnlock} (h : coopWorldUnlocks[i]? = some unlock) :
    coopItemRequires s (coopWorldFirst + i)
      = (!(decide (0 ≤ unlock.prerequisite)
          && !coopItemOwned s (coopWorldFirst + unlock.prerequisite.toNat))
        && worldRequirementsMet (ownedWords s) unlock.flag) := by
  have := ids
  have := progressionIds
  have hlength : coopWorldUnlocks.length = 100 := by decide
  have hi := (List.getElem?_eq_some_iff.mp h).1
  have hrows : ∀ unlock ∈ coopWorldUnlocks, 0 ≤ unlock.prerequisite →
      unlock.prerequisite.toNat < 100 := by decide
  have hmet : (coopWorldRequirements.all fun r => r.flag != unlock.flag || requirementFlagged s r)
      = worldRequirementsMet (ownedWords s) unlock.flag := by
    refine all_congr_mem fun r hr => ?_
    rw [requirementFlagged_owned hr]
    simp only [has_ownedWords]
  rw [coopItemRequires, if_neg (by omega), if_neg (by omega), if_neg (by omega), if_neg (by omega),
    if_neg (by omega), if_neg (by omega), if_pos (by omega), Nat.add_sub_cancel_left, h,
    Option.all_some, worldRequires, hmet]
  congr 1
  by_cases hreq : 0 ≤ unlock.prerequisite
  · have hlt := hrows unlock (List.mem_of_getElem? h) hreq
    have hflag : coopItemFlag (coopWorldFirst + unlock.prerequisite.toNat)
        = (coopWorldUnlocks[unlock.prerequisite.toNat]?).map (·.flag) := by
      rw [coopItemFlag_progression (by omega) (by omega), coopProgressionFlag, if_pos (by omega),
        Nat.add_sub_cancel_left]
    rw [← hflag, owned_iff_flagged (hflag ▸ isSome_row (by omega))]
    simp [hreq]
  · simp [hreq]

/-- K. Rool's defeat requires K. Lumsy's freedom. -/
theorem requires_krool :
    coopItemRequires s coopKroolDefeated = coopItemOwned s coopKlumsyFree := by
  have := ids
  have := progressionIds
  rw [coopItemRequires, if_neg (by omega), if_neg (by omega), if_neg (by omega), if_neg (by omega),
    if_neg (by omega), if_neg (by omega), if_neg (by omega), if_pos rfl,
    owned_iff_flagged (by decide)]

/-- The coins of the Arcade require the lever and the golden banana of the machine. -/
theorem requires_arcade : coopItemRequires s coopArcadeCoinsPaid
    = (coopItemOwned s coopFactoryArcadeLever && coopItemOwned s (coopGbFirst + 54)) := by
  have := ids
  have := progressionIds
  rw [coopItemRequires, if_neg (by omega), if_neg (by omega), if_neg (by omega), if_neg (by omega),
    if_neg (by omega), if_neg (by omega), if_neg (by omega), if_neg (by omega), if_pos rfl,
    owned_iff_flagged (by decide), owned_iff_flagged (by decide)]

/-- An id whose requirement is not empty is one of these. -/
theorem requires_cases (h : coopItemRequires s id = false) :
    (∃ i < coopSnideCount, id = coopSnideFirst + i) ∨ (∃ i < 8, id = coopKeyTurnFirst + i)
    ∨ id = coopKlumsyFree ∨ (∃ i < 4, id = coopTrainingSkillFirst + i)
    ∨ (id = coopTrainingComplete ∨ id = coopFirstSlam)
    ∨ (∃ i tag, coopWarpTags[i]? = some tag ∧ id = coopWarpFirst + i)
    ∨ (∃ i unlock, coopWorldUnlocks[i]? = some unlock ∧ id = coopWorldFirst + i)
    ∨ id = coopKroolDefeated ∨ id = coopArcadeCoinsPaid := by
  have := ids
  have := progressionIds
  have hcount : coopSnideCount = 40 := rfl
  by_contra hn
  simp only [not_or, not_exists, not_and] at hn
  obtain ⟨h1, h2, h3, h4, h5, h6, h7, h8, h9⟩ := hn
  rw [coopItemRequires, if_neg (fun hr => h1 (id - coopSnideFirst) (by omega) (by omega)),
    if_neg (fun hr => h2 (id - coopKeyTurnFirst) (by omega) (by omega)), if_neg h3,
    if_neg (fun hr => h4 (id - coopTrainingSkillFirst) (by omega) (by omega)),
    if_neg (by omega)] at h
  split_ifs at h with hw hu
  · cases ht : coopWarpTags[id - coopWarpFirst]? with
    | none => rw [ht] at h; cases h
    | some tag => exact h6 _ tag ht (by omega)
  · cases ht : coopWorldUnlocks[id - coopWorldFirst]? with
    | none => rw [ht] at h; cases h
    | some unlock => exact h7 _ unlock ht (by omega)

/-- Tiers are owned downwards. -/
theorem owned_tierBelow {a b : Nat} {m m' : ProgressionMove} (ha : coopMoveFirst ≤ a)
    (hb : coopMoveFirst ≤ b) (ha' : a < coopMelonFirst) (hb' : b < coopMelonFirst)
    (hm : coopProgressionMove a = some m) (hm' : coopProgressionMove b = some m')
    (hbits : m.bits = false) (hbits' : m'.bits = false) (hkong : m'.kong = m.kong)
    (hfield : m'.field = m.field) (hvalue : m'.value ≤ m.value)
    (h : coopItemOwned s a = true) : coopItemOwned s b = true := by
  have := ids
  have := progressionIds
  rw [owned_progression (by omega) (by omega), coopProgressionOwned, if_neg (by omega),
    if_neg (by omega), if_neg (by omega)] at h ⊢
  rw [hm] at h
  rw [hm']
  dsimp only at h ⊢
  rw [hkong, hfield]
  simp only [List.all_eq_true, ProgressionMove.reached, hbits, hbits', Bool.false_eq_true, if_false,
    decide_eq_true_eq] at h ⊢
  exact fun k hk => Nat.le_trans hvalue (h k hk)

/-- A tier of a move brings the one below. -/
theorem owned_moveBelow {i : Nat} (hi : i < 15) (hmod : i % 3 ≠ 0)
    (h : coopItemOwned s (coopMoveFirst + i) = true) :
    coopItemOwned s (coopMoveFirst + i - 1) = true := by
  have := ids
  have := progressionIds
  have hm : coopProgressionMove (coopMoveFirst + i) = some ⟨i / 3, 0, 1 + i % 3, false⟩ := by
    rw [coopProgressionMove, if_pos (by omega), Nat.add_sub_cancel_left]
  have hm' : coopProgressionMove (coopMoveFirst + i - 1)
      = some ⟨(i - 1) / 3, 0, 1 + (i - 1) % 3, false⟩ := by
    rw [coopProgressionMove, if_pos (by omega),
      show coopMoveFirst + i - 1 - coopMoveFirst = i - 1 by omega]
  refine owned_tierBelow (by omega) (by omega) (by omega) (by omega) hm hm' rfl rfl ?_ rfl ?_ h
  · dsimp only
    omega
  · dsimp only
    omega

/-- The last melon brings the one before. -/
theorem owned_melonBelow (h : coopItemOwned s (coopMelonFirst + 1) = true) :
    coopItemOwned s coopMelonFirst = true := by
  rw [owned_progression (by decide) (by decide), coopProgressionOwned, if_neg (by decide),
    if_neg (by decide), if_pos (by decide), decide_eq_true_eq] at h ⊢
  omega

/-- A milestone of Troff and Scoff brings the one below. -/
theorem owned_troffBelow {bucket n : Nat} (hb : bucket < coopTroffBuckets)
    (hn : n + 1 < coopTroffCapacity)
    (h : coopItemOwned s (coopTroffFirst + bucket * coopTroffCapacity + (n + 1)) = true) :
    coopItemOwned s (coopTroffFirst + bucket * coopTroffCapacity + n) = true := by
  have := ids
  have hcap : coopTroffCapacity = 100 := rfl
  have hbuckets : coopTroffBuckets = 35 := rfl
  have howned : ∀ m < coopTroffCapacity,
      coopItemOwned s (coopTroffFirst + bucket * coopTroffCapacity + m)
        = decide (m + 1 ≤ (s.characterProgress (bucket % coopTroffKongs)).colouredBananasFedToTns
          (bucket / coopTroffKongs)) := by
    intro m hm
    have hprod : bucket * coopTroffCapacity = bucket * 100 := rfl
    have hindex : coopTroffFirst + bucket * coopTroffCapacity + m - coopTroffFirst
        = bucket * coopTroffCapacity + m := by omega
    have hdiv : (bucket * coopTroffCapacity + m) / coopTroffCapacity = bucket := by
      rw [hcap] at *
      omega
    have hmod : (bucket * coopTroffCapacity + m) % coopTroffCapacity = m := by
      rw [hcap] at *
      omega
    rw [coopItemOwned, if_neg (by omega), if_neg (by omega), if_neg (by omega), if_pos (by omega),
      coopTroffOwned, coopTroffBucket, if_neg (by omega)]
    dsimp only
    rw [hindex, hdiv, hmod]
  rw [howned _ hn, decide_eq_true_eq] at h
  rw [howned _ (by omega), decide_eq_true_eq]
  omega

/-- **A save passes `coop_items_full_dependencies` exactly when it is closed.** -/
theorem fullDependencies_iff :
    coopItemsFullDependencies (ownedWords s) = true ↔ ClosedSave s := by
  have himp : ∀ a b : Bool, (!(a && !b)) = true ↔ (a = true → b = true) := by decide
  have himp2 : ∀ a b c : Bool, (!(a && (!b || !c))) = true ↔ (a = true → (b && c) = true) := by
    decide
  have hite : ∀ a b : Bool, (if a = true then b else true) = true ↔ (a = true → b = true) := by
    decide
  have hunused : ∀ id ∈ List.range' coopItems (coopItemWords * 32 - coopItems),
      (!itemBit (ownedWords s) id) = true := by
    intro id hid
    have hge : ¬ id < coopItems := by
      rw [List.mem_range'_1] at hid
      omega
    rw [ownedWords, itemBit_collectItems, show itemBit (fun _ => 0) id = false from itemBit_zero]
    simp [hge]
  simp only [coopItemsFullDependencies, coopItemsDependencies, has_ownedWords, Bool.and_eq_true,
    himp, himp2, hite, List.all_eq_true, List.mem_range, Prod.forall,
    List.mk_mem_zipIdx_iff_getElem?, and_assoc]
  constructor
  · rintro ⟨-, hsnide, -, -, -, -, hskill, hfinished, hklumsy, -, hturn, hkrool, harcade, hwarp,
      hworld⟩ id hown
    by_contra hreq
    rcases requires_cases (Bool.eq_false_iff.mpr hreq) with ⟨i, hi, rfl⟩ | ⟨i, hi, rfl⟩ | rfl
      | ⟨i, hi, rfl⟩ | hid | ⟨i, tag, ht, rfl⟩ | ⟨i, unlock, hu, rfl⟩ | rfl | rfl
    · exact hreq ((requires_snide hi).trans (hsnide i hi hown))
    · exact hreq ((requires_turn hi).trans (by simp [hturn i hi hown]))
    · obtain ⟨hlobby, hturns⟩ := hklumsy hown
      refine hreq (requires_klumsy.trans ?_)
      rw [hlobby, Bool.true_and, List.all_eq_true]
      exact fun i hi => hturns i (List.mem_range.mp hi)
    · exact hreq ((requires_skill hi).trans (hskill i hi hown))
    · have hboth : (coopItemOwned s coopTrainingComplete || coopItemOwned s coopFirstSlam) = true := by
        rcases hid with rfl | rfl <;> simp [hown]
      obtain ⟨hspawned, hskills⟩ := hfinished hboth
      refine hreq ((requires_finished hid).trans (trainingPrerequisites_owned.trans ?_))
      rw [hspawned, Bool.true_and, List.all_eq_true]
      exact fun i hi => hskills i (List.mem_range.mp hi)
    · refine hreq ((requires_warpTag ht).trans ?_)
      rw [himp]
      exact fun hreq' => hwarp tag i ht ⟨hreq', hown⟩
    · refine hreq ((requires_unlock hu).trans ?_)
      obtain ⟨hpre, hmet⟩ := hworld unlock i hu
      rw [Bool.and_eq_true, himp]
      refine ⟨fun hreq' => hpre ⟨hreq', hown⟩, ?_⟩
      rw [hown] at hmet
      exact hmet
    · exact hreq (requires_krool.trans (hkrool hown))
    · exact hreq (requires_arcade.trans (by simp [harcade hown]))
  · intro hc
    refine ⟨hunused, fun i hi h => ?_, fun i hi h => ?_, fun h => ?_, fun h => ?_,
      owned_melonBelow, fun i hi h => ?_, fun h => ?_, fun h => ?_, fun bucket hb => ?_,
      fun i hi h => ?_, fun h => ?_, fun h => ?_, fun tag i ht h => ?_, fun unlock i hu => ⟨?_, ?_⟩⟩
    · exact (requires_snide hi).symm.trans (hc _ h)
    · exact owned_moveBelow hi (by simpa using h.1) h.2
    · have hm : coopProgressionMove (coopSlamFirst + 1) = some ⟨5, 1, 3, false⟩ := by decide
      have hm' : coopProgressionMove coopSlamFirst = some ⟨5, 1, 2, false⟩ := by decide
      exact owned_tierBelow (by decide) (by decide) (by decide) (by decide) hm hm' rfl rfl rfl rfl
        (by decide) h
    · have hm : coopProgressionMove (coopBeltFirst + 1) = some ⟨5, 3, 2, false⟩ := by decide
      have hm' : coopProgressionMove coopBeltFirst = some ⟨5, 3, 1, false⟩ := by decide
      exact owned_tierBelow (by decide) (by decide) (by decide) (by decide) hm hm' rfl rfl rfl rfl
        (by decide) h
    · exact (requires_skill hi).symm.trans (hc _ h)
    · have hpre : coopTrainingPrerequisites s = true := by
        rcases Bool.or_eq_true _ _ ▸ h with h | h
        · exact (requires_finished (.inl rfl)).symm.trans (hc _ h)
        · exact (requires_finished (.inr rfl)).symm.trans (hc _ h)
      rw [trainingPrerequisites_owned, Bool.and_eq_true, List.all_eq_true] at hpre
      exact ⟨hpre.1, fun i hi => hpre.2 i (List.mem_range.mpr hi)⟩
    · have hk := requires_klumsy.symm.trans (hc _ h)
      rw [Bool.and_eq_true, List.all_eq_true] at hk
      exact ⟨hk.1, fun i hi => hk.2 i (List.mem_range.mpr hi)⟩
    · refine troffBucketPrefix_of_down fun n hn h => ?_
      rw [has_ownedWords] at h ⊢
      exact owned_troffBelow hb hn h
    · exact Bool.and_eq_true _ _ ▸ (requires_turn hi).symm.trans (hc _ h)
    · exact requires_krool.symm.trans (hc _ h)
    · exact Bool.and_eq_true _ _ ▸ requires_arcade.symm.trans (hc _ h)
    · have hr := (requires_warpTag ht).symm.trans (hc _ h.2)
      exact (himp _ _).mp hr h.1
    · rintro ⟨hreq, hown⟩
      have hr := (requires_unlock hu).symm.trans (hc _ hown)
      exact (himp _ _).mp (Bool.and_eq_true _ _ ▸ hr).1 hreq
    · by_cases hown : coopItemOwned s (coopWorldFirst + i) = true
      · have hr := (requires_unlock hu).symm.trans (hc _ hown)
        rw [hown]
        exact (Bool.and_eq_true _ _ ▸ hr).2
      · rw [Bool.eq_false_iff.mpr hown]
        rfl

end Dk64Port.Coop
