import Dk64Port.Coop.ItemsCapture
import Dk64Port.Coop.ItemsCounters

/-!
# What an apply records (`mod/items_game.h`)

The words of `previous` are all that separates what a guest was given from what it found itself.

* `SaveTurn.progression_only`, `owned_takenBack`, `owned_fedBack`: what a turn makes owned.
* `Applied`: what becomes owned is recorded or derived.
* `coopItemsApply_applied`: **every call of `coop_items_apply` does that.**
-/

namespace Dk64Port.Coop

variable {g g' : CoopItems} {id : Nat}

/-! ## What becomes owned -/

variable {e : ItemsEngine} {f : ItemsFrame} {mode : ApplyMode} {s s' : GameSave} {st st' : ApplyState}
  {w : ItemsWorld}

/-- Ownership outside the progression is about flags, pickups and the bananas fed. -/
theorem owned_of_rest (hid : id < coopProgressionFirst ∨ coopProgressionEnd ≤ id)
    (hflag : ∀ x, coopItemFlag id = some x → s'.flag x = true → s.flag x = true)
    (hpickup : isPickup id = true → s'.pickup (pickupBit id) = true → s.pickup (pickupBit id) = true)
    (hfed : ∀ level kong amount, coopTroffBucket id = some (level, kong, amount) →
      amount ≤ (s'.characterProgress kong).colouredBananasFedToTns level →
      amount ≤ (s.characterProgress kong).colouredBananasFedToTns level)
    (h : coopItemOwned s' id = true) : coopItemOwned s id = true := by
  have := ids
  cases hf : coopItemFlag id with
  | some x =>
    rw [owned_iff_flag hf] at h ⊢
    exact hflag x hf h
  | none =>
    by_cases hp : isPickup id = true
    · rw [owned_pickup hp] at h ⊢
      exact hpickup hp h
    have htroff : coopTroffFirst ≤ id ∧ id < coopTroffEnd := by
      by_contra hn
      have hlt : id < coopItems := by
        by_contra hge
        rw [coopItemOwned, if_neg (by omega), if_neg (by omega), if_neg (by omega),
          if_neg (by omega), if_pos (by omega), coopProgressionOwned, if_pos (by omega)] at h
        cases h
      have hsome : (coopItemFlag id).isSome := (flag_or_pickup (by omega) hlt).resolve_right hp
      rw [hf] at hsome
      cases hsome
    rw [coopItemOwned, if_neg (by omega), if_neg (by omega), if_neg (by omega), if_pos htroff,
      coopTroffOwned] at h ⊢
    cases hb : coopTroffBucket id with
    | none => rw [hb] at h; exact h
    | some b =>
      rw [hb] at h
      simp only [decide_eq_true_eq] at h ⊢
      exact hfed _ _ _ hb h

/-- A raised flag makes its own id owned. -/
theorem owned_raise {j : Nat} (h : coopItemOwned (s.raise (coopItemFlag id)) j = true) :
    coopItemOwned s j = true ∨ j = id := by
  cases hj : coopItemFlag j with
  | none =>
    have hsame : coopItemOwned (s.raise (coopItemFlag id)) j = coopItemOwned s j :=
      owned_of_flag_none rfl rfl rfl hj
    exact .inl (hsame.symm.trans h)
  | some x =>
    rw [owned_iff_flag hj] at h ⊢
    have hx : s.flag x = true ∨ coopItemFlag id = some x := by
      simpa [GameSave.raise] using h
    exact hx.imp_right fun hid => coopItemFlag_injective hj hid

theorem owned_take {j : Nat} (hid : isPickup id = true)
    (h : coopItemOwned (s.take (pickupBit id)) j = true) : coopItemOwned s j = true ∨ j = id := by
  have := ids
  have hrange : coopPickupFirst ≤ id ∧ id < coopActorPickupFirst := by
    simpa [isPickup] using hid
  by_cases hp : isPickup j = true
  · have hj : coopPickupFirst ≤ j ∧ j < coopActorPickupFirst := by
      simpa [isPickup] using hp
    rw [owned_pickup hp] at h ⊢
    have hx : s.pickup (pickupBit j) = true ∨ pickupBit j = pickupBit id := by
      simpa [GameSave.take] using h
    exact hx.imp_right fun heq => pickupBit_injective hj.1 hrange.1 heq
  · left
    rw [← h]
    unfold coopItemOwned
    split_ifs <;> first | rfl | skip
    rename_i h1 h2 h3 h4 h5 h6
    exact absurd (by simp only [isPickup, decide_eq_true_eq]; omega) hp

theorem owned_takenBack {j : Nat} (h : coopItemOwned (taken s id) j = true) :
    coopItemOwned s j = true ∨ j = id := by
  unfold taken at h
  split at h
  · exact owned_take ‹_› h
  · exact owned_raise h

/-- Saves that differ in counters alone own the same. -/
theorem owned_counters {j : Nat} (hflag : s'.flag = s.flag) (hpickup : s'.pickup = s.pickup)
    (hmelons : s'.melons = s.melons)
    (hprogress : ∀ k field, s'.progression k field = s.progression k field)
    (hfed : ∀ k level, (s'.characterProgress k).colouredBananasFedToTns level
      = (s.characterProgress k).colouredBananasFedToTns level) :
    coopItemOwned s' j = coopItemOwned s j := by
  unfold coopItemOwned coopTroffOwned coopProgressionOwned GameSave.flagged
  rw [hflag, hpickup, hmelons]
  simp only [hprogress, hfed]

theorem owned_credit {j : Nat} :
    coopItemOwned (creditCounter e (taken s id) id) j = coopItemOwned (taken s id) j := by
  refine owned_counters flag_credit ?_ ?_ (fun _ _ => progression_credit) fun k level => ?_
  · unfold creditCounter
    dsimp only
    split <;> rfl
  · unfold creditCounter
    dsimp only
    split <;> rfl
  · unfold creditCounter
    dsimp only
    split
    · dsimp only
      split
      · rw [setCounter_fed]
      · rfl
    · rw [GameSave.setKong_characterProgress]
      split
      · rw [setCounter_fed]
      · rfl

theorem troffBucket_injective {j : Nat} (hj : (coopTroffBucket j).isSome)
    (h : coopTroffBucket j = coopTroffBucket id) : j = id := by
  have hid : (coopTroffBucket id).isSome := h ▸ hj
  have hcap : coopTroffCapacity = 100 := rfl
  have hkongs : coopTroffKongs = 5 := rfl
  unfold coopTroffBucket at h hj hid
  split at hj
  · cases hj
  split at hid
  · cases hid
  rename_i hjr hidr
  rw [if_neg hjr, if_neg hidr, Option.some.injEq, Prod.mk.injEq, Prod.mk.injEq, hcap, hkongs] at h
  omega

/-- A banana fed makes its own milestone owned. -/
theorem owned_fedBack {level kong j : Nat} (hid : coopTroffBucket id = some (level, kong,
      (s.characterProgress kong).colouredBananasFedToTns level + 1))
    (h : coopItemOwned (s.feed level kong) j = true) : coopItemOwned s j = true ∨ j = id := by
  by_cases hj : j < coopProgressionFirst ∨ coopProgressionEnd ≤ j
  · by_cases hne : j = id
    · exact .inr hne
    left
    refine owned_of_rest hj ?_ ?_ ?_ h
    · exact fun _ _ h => h
    · exact fun _ h => h
    intro l k a hb ha
    rw [feed_kong] at ha
    split at ha
    · rename_i hk
      subst hk
      dsimp only at ha
      by_cases hl : l = level
      · subst hl
        rw [Function.update_self] at ha
        rcases Nat.lt_or_ge a ((s.characterProgress k).colouredBananasFedToTns l + 1) with hlt | hge
        · omega
        · obtain rfl : a = (s.characterProgress k).colouredBananasFedToTns l + 1 := by omega
          exact absurd (troffBucket_injective (by rw [hb]; rfl) (hb.trans hid.symm)) hne
      · rwa [Function.update_of_ne hl] at ha
    · exact ha
  · left
    have := ids
    rw [← h]
    unfold coopItemOwned
    rw [if_neg (by omega), if_neg (by omega), if_neg (by omega), if_neg (by omega), if_pos (by omega),
      if_neg (by omega), if_neg (by omega), if_neg (by omega), if_neg (by omega), if_pos (by omega)]
    unfold coopProgressionOwned
    simp only [progression_feed]
    rfl

/-! ## What an apply records -/

/-- From one state of an apply to a later one: what becomes owned is recorded in `previous`, is one
of the rewards derived, or is in `P`; and what `previous` gains was not owned or is progression. -/
structure Applied (P : Nat → Prop) (st st' : ApplyState) : Prop where
  guest : SameGuest st.g st'.g
  baseline : st'.g.baseline = st.g.baseline
  grows : st.w.save.Grows st'.w.save
  kept : ∀ j, coopItemHas st.g.previous j = true → coopItemHas st'.g.previous j = true
  derived : ∀ j ∈ st.derived, j ∈ st'.derived
  owned : ∀ j, coopItemOwned st'.w.save j = true → coopItemOwned st.w.save j = true ∨ P j
    ∨ coopItemHas st'.g.previous j = true ∨ j ∈ st'.derived
  recorded : ∀ j, coopItemHas st'.g.previous j = true → coopItemHas st.g.previous j = true
    ∨ coopItemOwned st.w.save j = false ∨ (coopProgressionFirst ≤ j ∧ j < coopProgressionEnd)

variable {P : Nat → Prop}

theorem Applied.of_same (hguest : SameGuest st.g st'.g) (hbaseline : st'.g.baseline = st.g.baseline)
    (hsave : st'.w.save = st.w.save) (hprevious : st'.g.previous = st.g.previous)
    (hderived : st'.derived = st.derived) : Applied P st st' where
  guest := hguest
  baseline := hbaseline
  grows := hsave ▸ .refl _
  kept _ h := hprevious ▸ h
  derived _ h := hderived ▸ h
  owned _ h := .inl (hsave ▸ h)
  recorded _ h := .inl (hprevious ▸ h)

theorem Applied.refl (st : ApplyState) : Applied P st st :=
  .of_same ⟨rfl, rfl, rfl⟩ rfl rfl rfl rfl

theorem Applied.trans {st'' : ApplyState} (h : Applied P st st') (h' : Applied P st' st'') :
    Applied P st st'' where
  guest := h.guest.trans h'.guest
  baseline := h'.baseline.trans h.baseline
  grows := h.grows.trans h'.grows
  kept j hj := h'.kept j (h.kept j hj)
  derived j hj := h'.derived j (h.derived j hj)
  owned j hj := by
    rcases h'.owned j hj with ho | hrest
    · rcases h.owned j ho with ho | hp | hprevious | hd
      · exact .inl ho
      · exact .inr (.inl hp)
      · exact .inr (.inr (.inl (h'.kept j hprevious)))
      · exact .inr (.inr (.inr (h'.derived j hd)))
    · exact .inr hrest
  recorded j hj := by
    rcases h'.recorded j hj with hprevious | hnew | hrange
    · exact h.recorded j hprevious
    · refine .inr (.inl ?_)
      by_contra hold
      rw [h.grows.owned (by simpa using hold)] at hnew
      cases hnew
    · exact .inr (.inr hrange)

theorem has_setItemBit {words : ItemWords} {j : Nat} (hid : id < coopItems) :
    coopItemHas (setItemBit words id) j = (coopItemHas words j || j == id) := by
  have hword : id / 32 < coopItemWords := by
    have := ids
    simp only [coopItemWords]
    omega
  rw [coopItemHas, coopItemHas, itemBit_setItemBit hword]
  by_cases hj : j = id
  · subst hj
    simp [hid]
  · have hne : (j == id) = false := by simpa using hj
    rw [hne, Bool.or_false, Bool.or_false]

/-- A record settles what its id left open. -/
theorem Applied.record (h : Applied (· = id) st st') (hid : id < coopItems)
    (hnew : coopItemOwned st.w.save id = false) : Applied P st (st'.record id) where
  guest := ⟨h.guest.join, h.guest.bound, h.guest.scope⟩
  baseline := h.baseline
  grows := h.grows
  kept j hj := by
    show coopItemHas (setItemBit st'.g.previous id) j = true
    rw [has_setItemBit hid, h.kept j hj, Bool.true_or]
  derived := h.derived
  owned j hj := by
    have hset : coopItemHas (setItemBit st'.g.previous id) j
        = (coopItemHas st'.g.previous j || j == id) := has_setItemBit hid
    rcases h.owned j hj with ho | rfl | hprevious | hd
    · exact .inl ho
    · exact .inr (.inr (.inl (hset.trans (by simp))))
    · exact .inr (.inr (.inl (hset.trans (by simp [hprevious]))))
    · exact .inr (.inr (.inr hd))
  recorded j hj := by
    have hset : (coopItemHas st'.g.previous j || j == id) = true := (has_setItemBit hid).symm.trans hj
    rw [Bool.or_eq_true, beq_iff_eq] at hset
    rcases hset with hprevious | rfl
    · exact h.recorded j hprevious
    · exact .inr (.inl hnew)

/-- **The record of all owned progression.** -/
theorem recordProgression_eq (g : CoopItems) (s : GameSave) : ∃ previous : ItemWords,
    recordProgression g s = { g with previous := previous }
    ∧ ∀ j, coopItemHas previous j = (coopItemHas g.previous j
      || (decide (coopProgressionFirst ≤ j ∧ j < coopProgressionEnd) && coopProgressionOwned s j)) := by
  have := ids
  have hrun : ∀ n ≤ coopProgressionEnd - coopProgressionFirst, ∃ previous : ItemWords,
      Run.run (fun g p => if coopProgressionOwned s p then coopItemsApplied g p else g) g
        (List.range' coopProgressionFirst n) = { g with previous := previous }
      ∧ ∀ j, coopItemHas previous j = (coopItemHas g.previous j
        || (decide (coopProgressionFirst ≤ j ∧ j < coopProgressionFirst + n)
          && coopProgressionOwned s j)) := by
    intro n
    induction n with
    | zero =>
      refine fun _ => ⟨g.previous, rfl, fun j => ?_⟩
      rw [decide_eq_false (by omega)]
      simp
    | succ n ih =>
      intro hn
      obtain ⟨previous, heq, hbits⟩ := ih (by omega)
      rw [List.range'_1_concat, Run.run_snoc, heq]
      by_cases ho : coopProgressionOwned s (coopProgressionFirst + n) = true
      · rw [if_pos ho]
        refine ⟨_, rfl, fun j => ?_⟩
        rw [has_setItemBit (by omega), hbits]
        by_cases hj : j = coopProgressionFirst + n
        · subst hj
          simp [ho]
        · have hne : (j == coopProgressionFirst + n) = false := by simpa using hj
          rw [hne, Bool.or_false, decide_eq_decide.mpr (by omega :
            (coopProgressionFirst ≤ j ∧ j < coopProgressionFirst + n)
              ↔ (coopProgressionFirst ≤ j ∧ j < coopProgressionFirst + (n + 1)))]
      · rw [if_neg ho]
        refine ⟨previous, rfl, fun j => ?_⟩
        rw [hbits]
        by_cases hj : j = coopProgressionFirst + n
        · subst hj
          rw [Bool.eq_false_iff.mpr ho]
          simp
        · rw [decide_eq_decide.mpr (by omega :
            (coopProgressionFirst ≤ j ∧ j < coopProgressionFirst + n)
              ↔ (coopProgressionFirst ≤ j ∧ j < coopProgressionFirst + (n + 1)))]
  obtain ⟨previous, heq, hbits⟩ := hrun _ (Nat.le_refl _)
  refine ⟨previous, heq, fun j => ?_⟩
  rw [hbits, show coopProgressionFirst + (coopProgressionEnd - coopProgressionFirst)
    = coopProgressionEnd by omega]

/-- A raised upgrade is owned. -/
theorem owned_raiseTier (hid : coopMoveFirst ≤ id ∧ id < coopTrainingFirst) :
    coopItemOwned (raiseTier s id) id = true := by
  have := ids
  have := progressionIds
  rw [owned_progression (by omega) (by omega), coopProgressionOwned, if_neg (by omega),
    if_neg (by omega)]
  unfold raiseTier
  by_cases hmelon : coopMelonFirst ≤ id
  · rw [if_pos hmelon, if_pos hmelon]
    simp
  rw [if_neg hmelon, if_neg hmelon]
  have hrows : ∀ i < 34, (coopProgressionMove (coopMoveFirst + i)).any (fun m => m.value != 0) := by
    decide
  have hrow := hrows (id - coopMoveFirst) (by omega)
  rw [show coopMoveFirst + (id - coopMoveFirst) = id by omega] at hrow
  cases hm : coopProgressionMove id with
  | none =>
    rw [hm] at hrow
    cases hrow
  | some m =>
    rw [hm] at hrow
    have hvalue : m.value ≠ 0 := by simpa using hrow
    simp only [List.all_eq_true]
    intro k hk
    rw [GameSave.setProgression_progression, if_pos ⟨hk, rfl⟩, ProgressionMove.reached]
    cases m.bits with
    | true =>
      have hself : (s.progression k m.field ||| m.value) &&& m.value = m.value := by
        apply Nat.eq_of_testBit_eq
        intro i
        cases h : m.value.testBit i <;> simp [h]
      simp [hself, hvalue]
    | false => simp

/-- A progression turn that changes the save makes its id owned. -/
theorem SaveTurn.progression_owned (h : SaveTurn e id s s')
    (hid : coopProgressionFirst ≤ id ∧ id < coopProgressionEnd) :
    s' = s ∨ coopItemOwned s' id = true := by
  have := ids
  have hraised : ∀ x, coopItemFlag id = some x →
      coopItemOwned (s.raise (coopItemFlag id)) id = true := by
    intro x hx
    rw [owned_iff_flag hx, hx]
    simp [GameSave.raise]
  cases h with
  | same => exact .inl rfl
  | flag _ hflag =>
    obtain ⟨x, hx⟩ := Option.isSome_iff_exists.mp hflag
    exact .inr (hraised x hx)
  | slam _ hslam =>
    have hx : coopItemFlag id = some 0x180 := by rw [hslam]; decide
    refine .inr ?_
    rw [owned_iff_flag hx, flag_setProgression, hx]
    simp [GameSave.raise]
  | tier hid => exact .inr (owned_raiseTier hid)
  | feed level kong hid =>
    rw [coopTroffBucket, if_pos (by omega)] at hid
    cases hid
  | credit _ hcounted =>
    rw [counted_eq_false hid.1 (by omega)] at hcounted
    cases hcounted
  | medal _ hcounted =>
    rw [counted_eq_false hid.1 (by omega)] at hcounted
    cases hcounted

theorem raiseTier_rest : (raiseTier s id).pickup = s.pickup
    ∧ ∀ k, ((raiseTier s id).characterProgress k).colouredBananasFedToTns
      = (s.characterProgress k).colouredBananasFedToTns := by
  unfold raiseTier
  split
  · exact ⟨rfl, fun _ => rfl⟩
  split
  · exact ⟨rfl, fun _ => rfl⟩
  · exact ⟨rfl, fun _ => GameSave.setProgression_fed ..⟩

/-- A progression turn makes nothing else owned but progression. -/
theorem SaveTurn.progression_only (h : SaveTurn e id s s')
    (hid : coopProgressionFirst ≤ id ∧ id < coopProgressionEnd) {j : Nat}
    (hj : coopItemOwned s' j = true) :
    coopItemOwned s j = true ∨ (coopProgressionFirst ≤ j ∧ j < coopProgressionEnd) := by
  have := ids
  by_cases hrange : coopProgressionFirst ≤ j ∧ j < coopProgressionEnd
  · exact .inr hrange
  refine .inl ?_
  cases h with
  | same => exact hj
  | flag => exact (owned_raise hj).resolve_right fun heq => hrange (heq ▸ hid)
  | slam =>
    have hraised : coopItemOwned (s.raise (coopItemFlag id)) j = true := by
      refine owned_of_rest (by omega) ?_ ?_ ?_ hj
      · exact fun _ _ h => h
      · exact fun _ h => h
      · intro l k a _ ha
        rwa [GameSave.setProgression_fed] at ha
    exact (owned_raise hraised).resolve_right fun heq => hrange (heq ▸ hid)
  | tier =>
    refine owned_of_rest (by omega) ?_ ?_ ?_ hj
    · intro x _ hx
      rwa [flag_raiseTier] at hx
    · intro _ hx
      rwa [raiseTier_rest.1] at hx
    · intro l k a _ ha
      rwa [raiseTier_rest.2] at ha
  | feed level kong hid =>
    rw [coopTroffBucket, if_pos (by omega)] at hid
    cases hid
  | credit _ hcounted =>
    rw [counted_eq_false hid.1 (by omega)] at hcounted
    cases hcounted
  | medal _ hcounted =>
    rw [counted_eq_false hid.1 (by omega)] at hcounted
    cases hcounted

/-- `coop_progression_apply` refuses, or returns what it reads back. -/
theorem progression_readBack (e : ItemsEngine) (f : ItemsFrame) (id : Nat) (safe : Bool)
    (w : ItemsWorld) :
    coopProgressionApply e f id safe w = (false, w)
      ∨ (coopProgressionApply e f id safe w).1
        = coopProgressionOwned (coopProgressionApply e f id safe w).2.save id := by
  unfold coopProgressionApply readBack
  split
  · exact .inl rfl
  split
  · split
    · exact .inl rfl
    · exact .inr rfl
  split
  · exact .inl rfl
  split
  · split
    · exact .inl rfl
    · exact .inr rfl
  split
  · split
    · exact .inl rfl
    dsimp only
    split
    · rename_i hread
      exact .inr (Bool.eq_false_iff.mpr hread).symm
    split
    · exact .inr rfl
    · exact .inr rfl
  split
  · split
    · exact .inl rfl
    · exact .inr rfl
  split
  · exact .inl rfl
  · exact .inr rfl

/-- A refused progression write changes nothing. -/
theorem progression_refused {safe : Bool}
    (hid : coopProgressionFirst ≤ id ∧ id < coopProgressionEnd)
    (hnew : coopItemOwned w.save id = false)
    (hfalse : (coopProgressionApply e f id safe w).1 = false) :
    (coopProgressionApply e f id safe w).2.save = w.save := by
  have hturn : SaveTurn e id w.save (coopProgressionApply e f id safe w).2.save :=
    coopProgressionApply_turn hnew
  rcases progression_readBack e f id safe w with heq | hread
  · rw [heq]
  · rcases hturn.progression_owned hid with heq | hown
    · exact heq
    · rw [owned_progression hid.1 hid.2, ← hread, hfalse] at hown
      cases hown

theorem applyProgression_applied (hid : coopProgressionFirst ≤ id ∧ id < coopProgressionEnd)
    (hnew : coopItemOwned st.w.save id = false) : Applied P st (applyProgression e f mode st id) := by
  unfold applyProgression
  dsimp only
  split
  · exact .of_same ⟨rfl, rfl, rfl⟩ rfl rfl rfl rfl
  split
  · exact .refl st
  split
  · exact .refl st
  split
  · exact .refl st
  generalize (mode.safeToSave || exactLiveWorld f mode id
    || (mode.trainingGround && coopTrainingGroundApplyId id)) = safe
  have hturn : SaveTurn e id st.w.save (coopProgressionApply e f id safe st.w).2.save :=
    coopProgressionApply_turn hnew
  have hrefused : (coopProgressionApply e f id safe st.w).1 = false →
      (coopProgressionApply e f id safe st.w).2.save = st.w.save := progression_refused hid hnew
  generalize coopProgressionApply e f id safe st.w = out at hturn hrefused
  obtain ⟨ok, w⟩ := out
  cases ok with
  | false => exact .of_same ⟨rfl, rfl, rfl⟩ rfl (hrefused rfl) rfl rfl
  | true =>
    obtain ⟨previous, heq, hbits⟩ := recordProgression_eq st.g w.save
    dsimp only at hturn ⊢
    rw [heq]
    have happlied : ∀ st' : ApplyState, SameGuest st.g st'.g → st'.g.baseline = st.g.baseline →
        st'.w.save = w.save → st'.g.previous = previous → st'.derived = st.derived →
        Applied P st st' := by
      intro st' hguest hbaseline hsave hprevious hderived
      refine ⟨hguest, hbaseline, hsave ▸ hturn.grows, fun j hj => ?_, fun j hj => hderived ▸ hj,
        fun j hj => ?_, fun j hj => ?_⟩
      · rw [hprevious, hbits, hj, Bool.true_or]
      · rw [hsave] at hj
        rcases hturn.progression_only hid hj with ho | hrange
        · exact .inl ho
        · refine .inr (.inr (.inl ?_))
          rw [owned_progression hrange.1 hrange.2] at hj
          rw [hprevious, hbits, hj, decide_eq_true hrange]
          simp
      · rw [hprevious, hbits, Bool.or_eq_true, Bool.and_eq_true, decide_eq_true_eq] at hj
        exact hj.imp_right fun h => .inr h.1
    split <;> exact happlied _ ⟨rfl, rfl, rfl⟩ rfl rfl rfl rfl

theorem coopTroffApply_applied (hid : id < coopItems) (hnew : coopItemOwned st.w.save id = false) :
    Applied P st (coopTroffApply f mode st id).2 := by
  unfold coopTroffApply
  cases hb : coopTroffBucket id with
  | none => exact .refl st
  | some b =>
    obtain ⟨level, kong, amount⟩ := b
    dsimp only
    split
    · exact .refl st
    split
    · exact .of_same ⟨rfl, rfl, rfl⟩ rfl rfl rfl rfl
    split
    · exact .refl st
    rename_i hnext
    split
    · exact .of_same ⟨rfl, rfl, rfl⟩ rfl rfl rfl rfl
    split
    · exact .of_same ⟨rfl, rfl, rfl⟩ rfl rfl rfl rfl
    have hfeed : coopTroffBucket id = some (level, kong,
        (st.w.save.characterProgress kong).colouredBananasFedToTns level + 1) := by
      rw [hb]
      grind
    have hfed : Applied (· = id) st { st with
        w := { st.w with save := st.w.save.feed level kong }
        credited := id :: st.credited } :=
      { guest := ⟨rfl, rfl, rfl⟩
        baseline := rfl
        grows := grows_feed _ _ _
        kept := fun _ h => h
        derived := fun _ h => h
        owned := fun j hj => (owned_fedBack hfeed hj).imp_right .inl
        recorded := fun _ h => .inl h }
    exact hfed.record hid hnew

theorem note_guest (g : CoopItems) (id : Nat) :
    SameGuest g (coopItemsNote g id) ∧ (coopItemsNote g id).previous = g.previous
    ∧ (coopItemsNote g id).baseline = g.baseline := by
  rw [note_eq]
  exact ⟨⟨rfl, rfl, rfl⟩, rfl, rfl⟩

/-- A medal that a credit earns is derived. -/
theorem deriveMedal_applied : Applied P st (deriveMedal e st id) := by
  have := ids
  have hkong : (collectible e id).kong < 5 := kong_lt
  unfold deriveMedal
  dsimp only
  split
  · exact .refl st
  rename_i hlevel
  split
  · exact .refl st
  have hflag : (coopItemFlag (medalId (collectible e id).level (collectible e id).kong)).isSome := by
    have hrange : medalId (collectible e id).level (collectible e id).kong < coopGbFirst := by
      unfold medalId
      omega
    refine (flag_or_pickup (by omega) (by omega)).resolve_right ?_
    simp only [isPickup, decide_eq_true_eq]
    omega
  have hset := setFlag_save (e := e) id st.w
    (coopItemFlag (medalId (collectible e id).level (collectible e id).kong))
  generalize e.setFlag id st.w
    (coopItemFlag (medalId (collectible e id).level (collectible e id).kong)) = w at hset ⊢
  generalize medalId (collectible e id).level (collectible e id).kong = medal at hset hflag ⊢
  obtain ⟨hguest, hprevious, hbaseline⟩ := note_guest st.g medal
  split
  · refine ⟨hguest, hbaseline, ?_, fun j hj => ?_, fun j hj => List.mem_cons_of_mem _ hj,
      fun j hj => ?_, fun j hj => .inl (hprevious ▸ hj)⟩
    · rcases hset with hs | hs
      · exact hs ▸ .refl _
      · exact hs ▸ GameSave.grows_raise _ _
    · rw [hprevious]
      exact hj
    · rcases hset with hs | hs
      · exact .inl (hs ▸ hj)
      · rcases owned_raise (hs ▸ hj) with ho | rfl
        · exact .inl ho
        · exact .inr (.inr (.inr List.mem_cons_self))
  · rename_i hnot
    have hsame : w.save = st.w.save := by
      rcases hset with hs | hs
      · exact hs
      · obtain ⟨x, hx⟩ := Option.isSome_iff_exists.mp hflag
        rw [owned_iff_flag hx, hs, hx] at hnot
        simp [GameSave.raise] at hnot
    exact .of_same ⟨rfl, rfl, rfl⟩ rfl hsame rfl rfl

theorem applyCollectible_applied (hid : id < coopProgressionFirst ∨ coopTroffEnd ≤ id)
    (hlt : id < coopItems) (hnew : coopItemOwned st.w.save id = false) :
    Applied P st (applyCollectible e f mode st id) := by
  unfold applyCollectible
  split
  · exact .refl st
  split
  · exact .refl st
  split
  · exact .of_same ⟨rfl, rfl, rfl⟩ rfl rfl rfl rfl
  have htaken := taken_save (e := e) st.w id
  have howned : coopItemOwned (taken st.w.save id) id = true := owned_taken (flag_or_pickup hid hlt)
  dsimp only
  generalize (if isPickup id then e.setPickup id st.w (pickupBit id)
    else e.setFlag id st.w (coopItemFlag id)) = w at htaken
  split
  · rename_i hnot
    have hsame : w.save = st.w.save := by
      rcases htaken with hs | hs
      · exact hs
      · rw [hs] at hnot
        exact absurd howned hnot
    exact .of_same ⟨rfl, rfl, rfl⟩ rfl hsame rfl rfl
  rename_i hown
  have hsave : w.save = taken st.w.save id := by
    rcases htaken with hs | hs
    · rw [hs, hnew] at hown
      exact absurd hown (by simp)
    · exact hs
  -- the write, whose id is recorded at the end
  have hwrite : ∀ st' : ApplyState, SameGuest st.g st'.g → st'.g.baseline = st.g.baseline →
      st'.g.previous = st.g.previous → st'.derived = st.derived →
      (st'.w.save = taken st.w.save id ∨ st'.w.save = creditCounter e (taken st.w.save id) id) →
      Applied (· = id) st st' := by
    intro st' hguest hbaseline hprevious hderived hs
    refine ⟨hguest, hbaseline, ?_, fun j hj => hprevious ▸ hj, fun j hj => hderived ▸ hj,
      fun j hj => ?_, fun j hj => .inl (hprevious ▸ hj)⟩
    · rcases hs with hs | hs
      · exact hs ▸ grows_taken _ _
      · exact hs ▸ (grows_taken _ _).trans (grows_credit _ _)
    · have htaken : coopItemOwned (taken st.w.save id) j = true := by
        rcases hs with hs | hs
        · exact hs ▸ hj
        · rwa [hs, owned_credit] at hj
      exact (owned_takenBack htaken).imp_right .inl
  split
  · have hdisturbed : creditDisturbed e st.w.save w.save id = false :=
      creditDisturbed_of_eq (by rw [hsave, taken_characterProgress])
    rw [hdisturbed, if_neg (by simp)]
    refine Applied.record ?_ hlt hnew
    have hcredit : ∀ st' : ApplyState, SameGuest st.g st'.g → st'.g.baseline = st.g.baseline →
        st'.g.previous = st.g.previous → st'.derived = st.derived →
        st'.w.save = creditCounter e w.save id → Applied (· = id) st st' :=
      fun st' h1 h2 h3 h4 h5 => hwrite st' h1 h2 h3 h4 (.inr (hsave ▸ h5))
    have hmedal : ∀ st' : ApplyState, Applied (· = id) st st' →
        Applied (· = id) st (deriveMedal e st' id) := fun _ h => h.trans deriveMedal_applied
    have hmemory : ∀ (st' : ApplyState) (m : Live.Memory), Applied (· = id) st st' →
        Applied (· = id) st { st' with w := { st'.w with memory := m } } :=
      fun _ _ h => h.trans (.of_same ⟨rfl, rfl, rfl⟩ rfl rfl rfl rfl)
    by_cases hr : isRainbow id = true
    · rw [if_pos hr]
      split
      · refine hmemory _ _ ?_
        split <;> exact hcredit _ ⟨rfl, rfl, rfl⟩ rfl rfl rfl rfl
      · split <;> exact hcredit _ ⟨rfl, rfl, rfl⟩ rfl rfl rfl rfl
    · rw [if_neg hr]
      split
      · refine hmemory _ _ (hmedal _ ?_)
        split <;> exact hcredit _ ⟨rfl, rfl, rfl⟩ rfl rfl rfl rfl
      · refine hmedal _ ?_
        split <;> exact hcredit _ ⟨rfl, rfl, rfl⟩ rfl rfl rfl rfl
  · exact (hwrite { st with w := w } ⟨rfl, rfl, rfl⟩ rfl rfl rfl (.inl hsave)).record hlt hnew

/-- **What one turn of the walk records.** -/
theorem applyItem_applied (hlt : id < coopItems) : Applied P st (applyItem e f mode st id) := by
  unfold applyItem
  split
  · exact .refl st
  split
  · exact .refl st
  rename_i hskip
  have hnew : coopItemOwned st.w.save id = false := by
    by_contra hn
    exact hskip (.inr (by simpa using hn))
  split
  · exact .refl st
  split
  · have htroff : Applied P st (coopTroffApply f mode st id).2 := coopTroffApply_applied hlt hnew
    generalize coopTroffApply f mode st id = out at htroff
    obtain ⟨ok, st'⟩ := out
    cases ok with
    | true => exact htroff
    | false => exact htroff.trans (.of_same ⟨rfl, rfl, rfl⟩ rfl rfl rfl rfl)
  rename_i htroff
  split
  · exact applyProgression_applied ‹_› hnew
  · have := ids
    exact applyCollectible_applied (by omega) hlt hnew

theorem reached_applied {w : ItemsWorld} (n : Nat) (hn : n ≤ coopItems) :
    Applied P { g := { g with applying := true }, w := w } (reached e f mode g w n) := by
  induction n with
  | zero => exact .refl _
  | succ n ih =>
    rw [reached_succ]
    exact (ih (by omega)).trans (applyItem_applied (by omega))

/-- A completed training is derived. -/
theorem deriveTraining_applied : Applied P st (deriveTraining e f mode st) := by
  obtain ⟨x, hflag⟩ : ∃ x, coopItemFlag coopTrainingComplete = some x :=
    Option.isSome_iff_exists.mp (by decide)
  unfold deriveTraining
  split
  swap
  · exact .refl st
  rename_i hrun
  have hnew : coopItemOwned st.w.save coopTrainingComplete = false := by
    simpa using hrun.2.2.2.2.2
  have hset := setFlag_save (e := e) coopTrainingComplete st.w (coopItemFlag coopTrainingComplete)
  generalize e.setFlag coopTrainingComplete st.w (coopItemFlag coopTrainingComplete) = w at hset ⊢
  obtain ⟨hguest, hprevious, hbaseline⟩ := note_guest st.g coopTrainingComplete
  dsimp only
  split
  · have hderived : Applied (· = coopTrainingComplete) st
        { st with
          w := w
          g := coopItemsNote st.g coopTrainingComplete
          derived := coopTrainingComplete :: st.derived
          trainingScenePending := st.trainingScenePending
            || (mode.trainingGround && f.peerSameMap) } := ?_
    · exact hderived.record (by decide) hnew
    refine ⟨hguest, hbaseline, ?_, fun j hj => ?_, fun j hj => List.mem_cons_of_mem _ hj,
      fun j hj => ?_, fun j hj => .inl (hprevious ▸ hj)⟩
    · rcases hset with hs | hs
      · exact hs ▸ .refl _
      · exact hs ▸ GameSave.grows_raise _ _
    · rw [hprevious]
      exact hj
    · rcases hset with hs | hs
      · exact .inl (hs ▸ hj)
      · exact (owned_raise (hs ▸ hj)).imp_right .inl
  · rename_i hnot
    have hsame : w.save = st.w.save := by
      rcases hset with hs | hs
      · exact hs
      · rw [owned_iff_flag hflag, hs, hflag] at hnot
        simp [GameSave.raise] at hnot
    exact .of_same ⟨rfl, rfl, rfl⟩ rfl hsame rfl rfl

theorem finishApply_applied : Applied P st (finishApply f mode st) := by
  unfold finishApply
  dsimp only
  split <;> exact .of_same ⟨rfl, rfl, rfl⟩ rfl rfl rfl rfl

/-- **What a call of `coop_items_apply` records.** -/
theorem coopItemsApply_applied {w : ItemsWorld} {safeToSave : Bool} :
    Applied P { g := g, w := w } (coopItemsApply e f g w safeToSave) := by
  have hquiet : ∀ st : ApplyState, Applied P st { st with g := { st.g with applying := false } } :=
    fun _ => .of_same ⟨rfl, rfl, rfl⟩ rfl rfl rfl rfl
  have hend : ∀ (st : ApplyState) (mode : ApplyMode), Applied P st
      (finishApply f mode { deriveTraining e f mode st with
        g := { (deriveTraining e f mode st).g with applying := false } }) :=
    fun st mode => deriveTraining_applied.trans ((hquiet _).trans finishApply_applied)
  unfold coopItemsApply
  dsimp only
  split
  · exact .refl _
  split
  · rw [walk_reached]
    have hstart : Applied P { g := g, w := w } { g := { g with applying := true }, w := w } :=
      .of_same ⟨rfl, rfl, rfl⟩ rfl rfl rfl rfl
    exact (hstart.trans (reached_applied _ (Nat.le_refl _))).trans (hend _ _)
  · exact finishApply_applied

end Dk64Port.Coop
