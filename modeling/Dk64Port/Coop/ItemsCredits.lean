import Dk64Port.Coop.ItemsTimely

/-!
# What a call credits (`mod/items_game.h`, `mod/troff_game.h`)

The walk credits an id to a counter in the turn that makes it owned. A banana fed is credited too: it
goes from the held to the fed ones.

* `creditedBy`, `worth`, `fedBy`: when a turn credits its id, and what that adds to which counter.
* `applyItem_credited`: **a turn credits its id exactly when it makes it owned.**
* `SaveTurn.moved`: the counters move by what the credited id is worth.
* `apply_countersValid`: **a call keeps the inventory consistent, credits no owned id again, and moves
  each counter by exactly what it credited.**
-/

namespace Dk64Port.Coop

variable {e : ItemsEngine} {f : ItemsFrame} {mode : ApplyMode} {id level kong : Nat} {s s' s'' : GameSave}
  {st : ApplyState} {layout : Nat → Nat}

/-! ## What an id is worth -/

/-- The ids with a counter: the collectibles and the bananas of Troff 'n' Scoff. -/
def creditable (id : Nat) : Bool := counted id || (coopTroffBucket id).isSome

/-- The turn makes an id with a counter owned. -/
def creditedBy (s s' : GameSave) (id : Nat) : Bool :=
  creditable id && !coopItemOwned s id && coopItemOwned s' id

variable (e) in
/-- What an id adds to a counter of a Kong; a rainbow coin is worth five coins to everyone. -/
def worth (level kong : Nat) (field : CounterField) (id : Nat) : Nat :=
  if isRainbow id then if field = .coins then 5 else 0
  else if counted id ∧ (collectible e id).kong = kong ∧ counterField e id = field
      ∧ (field = .coins ∨ (collectible e id).level = level) then creditAmount e id
  else 0

/-- The bananas of a Kong and level that an id feeds. -/
def fedBy (level kong id : Nat) : Nat :=
  match coopTroffBucket id with
  | some (l, k, _) => if l = level ∧ k = kong then 1 else 0
  | none => 0

variable (e) in
/-- The counters of a Kong and level move by what the ids are worth; fed bananas were held before. -/
structure CountersMoved (s s' : GameSave) (ids : List Nat) (level kong : Nat) : Prop where
  golden : (s'.characterProgress kong).goldenBananas level
    = (s.characterProgress kong).goldenBananas level + (ids.map (worth e level kong .golden)).sum
  coins : (s'.characterProgress kong).coins
    = (s.characterProgress kong).coins + (ids.map (worth e level kong .coins)).sum
  bananas : (s'.characterProgress kong).colouredBananas level
      + (s'.characterProgress kong).colouredBananasFedToTns level
    = (s.characterProgress kong).colouredBananas level
      + (s.characterProgress kong).colouredBananasFedToTns level
      + (ids.map (worth e level kong .coloured)).sum
  fed : (s'.characterProgress kong).colouredBananasFedToTns level
    = (s.characterProgress kong).colouredBananasFedToTns level + (ids.map (fedBy level kong)).sum

theorem CountersMoved.trans {ids ids' : List Nat} (h : CountersMoved e s s' ids level kong)
    (h' : CountersMoved e s' s'' ids' level kong) : CountersMoved e s s'' (ids' ++ ids) level kong := by
  obtain ⟨hg, hc, hb, hf⟩ := h
  obtain ⟨hg', hc', hb', hf'⟩ := h'
  constructor <;> rw [List.map_append, List.sum_append] <;> omega

/-- Kongs with the same counters. -/
theorem CountersMoved.of_eq
    (hgolden : (s'.characterProgress kong).goldenBananas = (s.characterProgress kong).goldenBananas)
    (hcoins : (s'.characterProgress kong).coins = (s.characterProgress kong).coins)
    (hheld : (s'.characterProgress kong).colouredBananas = (s.characterProgress kong).colouredBananas)
    (hfed : (s'.characterProgress kong).colouredBananasFedToTns
      = (s.characterProgress kong).colouredBananasFedToTns) : CountersMoved e s s' [] level kong := by
  constructor <;> simp only [hgolden, hcoins, hheld, hfed, List.map_nil, List.sum_nil, Nat.add_zero]

theorem CountersMoved.refl (s : GameSave) : CountersMoved e s s [] level kong := .of_eq rfl rfl rfl rfl

theorem troffBucket_eq_none (h : id < coopTroffFirst ∨ coopTroffEnd ≤ id) : coopTroffBucket id = none :=
  if_pos h

/-- A collectible feeds no banana. -/
theorem counted_bucket (h : counted id = true) : coopTroffBucket id = none := by
  have := ids
  refine troffBucket_eq_none ?_
  by_contra hn
  rw [counted_eq_false (by omega) (by omega)] at h
  cases h

theorem bucket_counted (h : (coopTroffBucket id).isSome) : counted id = false := by
  by_contra hn
  rw [counted_bucket (by simpa using hn)] at h
  cases h

theorem rainbow_counted (h : isRainbow id = true) : counted id = true := by
  rw [isRainbow, Bool.and_eq_true] at h
  simp [counted, h.1]

/-- What is not creditable is worth nothing. -/
theorem fedBy_counted (h : counted id = true) : fedBy level kong id = 0 := by
  rw [fedBy, counted_bucket h]

theorem worth_bucket {field : CounterField} (h : (coopTroffBucket id).isSome) :
    worth e level kong field id = 0 := by
  have hcounted := bucket_counted h
  have hr : ¬ isRainbow id = true := fun hr => by
    rw [rainbow_counted hr] at hcounted
    cases hcounted
  rw [worth, if_neg hr, if_neg]
  rw [hcounted]
  simp

/-! ## The counters of a turn -/

theorem credit_taken : (creditCounter e (taken s id) id).characterProgress
    = (creditCounter e s id).characterProgress := by
  unfold creditCounter
  dsimp only
  split <;> simp [GameSave.setKong]

/-- **A credit that fits moves one counter by the amount of its id**, or all coins. -/
theorem credit_moved (hv : CountersAgree s level kong) (hkong : kong < 5)
    (hcounted : counted id = true) (hfits : creditOverflows e s id = false)
    (hchars : s'.characterProgress = (creditCounter e s id).characterProgress) :
    CountersMoved e s s' [id] level kong := by
  have hfed : (s'.characterProgress kong).colouredBananasFedToTns
      = (s.characterProgress kong).colouredBananasFedToTns := by
    rw [hchars]
    by_cases hr : isRainbow id = true
    · rw [credit_rainbow hr hkong, setCounter_fed]
    · rw [credit_kong (by simpa using hr)]
      split
      · rw [setCounter_fed]
      · rfl
  have hfed' : (s'.characterProgress kong).colouredBananasFedToTns level
      = (s.characterProgress kong).colouredBananasFedToTns level + ([id].map (fedBy level kong)).sum := by
    rw [hfed, List.map_singleton, List.sum_singleton, fedBy_counted hcounted, Nat.add_zero]
  by_cases hr : isRainbow id = true
  · have hnow := credit_rainbow (e := e) (s := s) hr hkong
    have hroom : (s.characterProgress kong).coins ≤ 994 := by
      rw [creditOverflows, if_pos hr] at hfits
      simpa using List.any_eq_false.mp hfits kong (List.mem_range.mpr hkong)
    rw [← hchars] at hnow
    refine ⟨?_, ?_, ?_, hfed'⟩ <;>
      rw [hnow, List.map_singleton, List.sum_singleton, worth, if_pos hr] <;>
      simp only [CharacterProgress.setCounter, reduceCtorEq, if_true, if_false, Nat.add_zero]
    omega
  have hr := Bool.eq_false_iff.mpr hr
  have hnow := credit_kong (e := e) (s := s) (k := kong) hr
  rw [← hchars] at hnow
  have hworth : ∀ field, ([id].map (worth e level kong field)).sum
      = if (collectible e id).kong = kong ∧ counterField e id = field
          ∧ (field = .coins ∨ (collectible e id).level = level) then creditAmount e id else 0 := by
    intro field
    rw [List.map_singleton, List.sum_singleton, worth, if_neg (by rw [hr]; simp)]
    simp only [hcounted, true_and]
  by_cases hk : kong = (collectible e id).kong
  swap
  · rw [if_neg hk] at hnow
    refine ⟨?_, ?_, ?_, hfed'⟩ <;>
      rw [hnow, hworth, if_neg fun h => hk h.1.symm, Nat.add_zero]
  rw [if_pos hk] at hnow
  have hcap : (s.characterProgress kong).counter (collectible e id).level (counterField e id)
      + creditAmount e id
      ≤ (s.characterProgress kong).capacity (collectible e id).level kong (counterField e id) := by
    rw [creditOverflows, if_neg (by rw [hr]; simp)] at hfits
    simpa [hk] using hfits
  subst hk
  cases hfield : counterField e id with
  | golden =>
    have hsix : coopSnideCapacity (collectible e id).level (collectible e id).kong ≤ 6 := by
      unfold coopSnideCapacity
      split <;> decide
    rw [hfield] at hnow hcap
    simp only [CharacterProgress.counter, CharacterProgress.capacity, CharacterProgress.setCounter]
      at hnow hcap
    refine ⟨?_, ?_, ?_, hfed'⟩ <;> rw [hnow, hworth] <;>
      simp only [hfield, reduceCtorEq, and_false, false_and, if_false, Nat.add_zero, true_and, false_or]
    by_cases hl : (collectible e id).level = level
    · subst hl
      rw [if_pos rfl, Function.update_self, Nat.mod_eq_of_lt (by omega)]
    · rw [if_neg hl, Function.update_of_ne (Ne.symm hl), Nat.add_zero]
  | coloured =>
    rw [hfield] at hnow hcap
    simp only [CharacterProgress.counter, CharacterProgress.capacity, CharacterProgress.setCounter]
      at hnow hcap
    refine ⟨?_, ?_, ?_, hfed'⟩ <;> rw [hnow, hworth] <;>
      simp only [hfield, reduceCtorEq, and_false, false_and, if_false, Nat.add_zero, true_and, false_or]
    by_cases hl : (collectible e id).level = level
    · subst hl
      have := hv.bananas
      rw [if_pos rfl, Function.update_self]
      omega
    · rw [if_neg hl, Function.update_of_ne (Ne.symm hl), Nat.add_zero]
  | coins =>
    rw [hfield] at hnow hcap
    simp only [CharacterProgress.counter, CharacterProgress.capacity, CharacterProgress.setCounter]
      at hnow hcap
    refine ⟨?_, ?_, ?_, hfed'⟩ <;> rw [hnow, hworth] <;>
      simp only [hfield, reduceCtorEq, and_false, false_and, if_false, Nat.add_zero, true_and, true_or,
        if_true]
    exact Nat.mod_eq_of_lt (by omega)

/-- A fed banana is worth nothing to the counters of bananas held and fed together. -/
theorem feed_moved {l k amount : Nat} (hid : coopTroffBucket id = some (l, k, amount))
    (hheld : (s.characterProgress k).colouredBananas l ≠ 0) :
    CountersMoved e s (s.feed l k) [id] level kong := by
  have hnow := feed_kong s l k kong
  have hworth : ∀ field, ([id].map (worth e level kong field)).sum = 0 := by
    intro field
    rw [List.map_singleton, List.sum_singleton, worth_bucket (by rw [hid]; rfl)]
  have hfed : ([id].map (fedBy level kong)).sum = if l = level ∧ k = kong then 1 else 0 := by
    rw [List.map_singleton, List.sum_singleton, fedBy, hid]
  by_cases hk : kong = k
  swap
  · rw [if_neg hk] at hnow
    constructor <;> rw [hnow]
    · rw [hworth, Nat.add_zero]
    · rw [hworth, Nat.add_zero]
    · rw [hworth, Nat.add_zero]
    · rw [hfed, if_neg fun h => hk h.2.symm, Nat.add_zero]
  subst hk
  rw [if_pos rfl] at hnow
  constructor <;> rw [hnow] <;> dsimp only
  · rw [hworth, Nat.add_zero]
  · rw [hworth, Nat.add_zero]
  · rw [hworth]
    by_cases hl : level = l
    · subst hl
      rw [Function.update_self, Function.update_self]
      omega
    · rw [Function.update_of_ne hl, Function.update_of_ne hl, Nat.add_zero]
  · rw [hfed]
    by_cases hl : level = l
    · subst hl
      rw [Function.update_self, if_pos ⟨rfl, rfl⟩]
    · rw [Function.update_of_ne hl, if_neg fun h => hl h.1.symm, Nat.add_zero]

theorem owned_feed {level kong : Nat} (hid : coopTroffBucket id = some (level, kong,
    (s.characterProgress kong).colouredBananasFedToTns level + 1)) :
    coopItemOwned (s.feed level kong) id = true := by
  have := ids
  have hrange : coopTroffFirst ≤ id ∧ id < coopTroffEnd := by
    by_contra hn
    rw [coopTroffBucket, if_pos (by omega)] at hid
    cases hid
  rw [coopItemOwned, if_neg (by omega), if_neg (by omega), if_neg (by omega), if_pos hrange,
    coopTroffOwned, hid]
  dsimp only
  rw [feed_kong, if_pos rfl, decide_eq_true_eq]
  dsimp only
  rw [Function.update_self]

theorem creditedBy_self : creditedBy s s id = false := by
  rw [creditedBy]
  cases coopItemOwned s id <;> simp

/-- A banana fed was not fed before. -/
theorem feed_credited (hid : coopTroffBucket id = some
    (level, kong, (s.characterProgress kong).colouredBananasFedToTns level + 1)) :
    creditedBy s (s.feed level kong) id = true := by
  have hrange : coopTroffFirst ≤ id ∧ id < coopTroffEnd := by
    by_contra hr
    rw [troffBucket_eq_none (by omega)] at hid
    cases hid
  have hnew : coopItemOwned s id = false := by
    have := ids
    rw [coopItemOwned, if_neg (by omega), if_neg (by omega), if_neg (by omega), if_pos hrange,
      coopTroffOwned, hid]
    simp
  rw [creditedBy, hnew, owned_feed hid, creditable, hid]
  simp

theorem creditedBy_other (h : creditable id = false) : creditedBy s s' id = false := by
  rw [creditedBy, h, Bool.false_and, Bool.false_and]

theorem creditable_progression (h : coopProgressionFirst ≤ id ∧ id < coopProgressionEnd) :
    creditable id = false := by
  have := ids
  rw [creditable, counted_eq_false (by omega) (by omega), troffBucket_eq_none (by omega)]
  rfl

theorem owned_credited (hid : (coopItemFlag id).isSome ∨ isPickup id = true) :
    coopItemOwned (creditCounter e (taken s id) id) id = true :=
  (grows_credit _ id).owned (owned_taken hid)

/-- The upgrades change no counter. -/
theorem setProgression_moved {kongs : List Nat} {b : Nat} {value : Nat → Nat}
    (hchars : s'.characterProgress = (s.setProgression kongs b value).characterProgress) :
    CountersMoved e s s' [] level kong := by
  have hnow : s'.characterProgress kong = if kong ∈ kongs then
      { s.characterProgress kong with
        progression := fun i => if i = b then value ((s.characterProgress kong).progression i)
          else (s.characterProgress kong).progression i }
      else s.characterProgress kong := by
    rw [hchars]
    rfl
  split at hnow <;> exact .of_eq (by rw [hnow]) (by rw [hnow]) (by rw [hnow]) (by rw [hnow])

/-- **A turn moves the counters by what its id is worth when it is credited, and not at all
otherwise.** -/
theorem SaveTurn.moved (h : SaveTurn e id s s') (hid : (coopItemFlag id).isSome ∨ isPickup id = true
    ∨ (coopTroffBucket id).isSome ∨ creditable id = false)
    (hv : ∀ level < 8, ∀ kong < 5, CountersAgree s level kong) (hlevel : level < 8) (hkong : kong < 5) :
    CountersMoved e s s' (if creditedBy s s' id then [id] else []) level kong := by
  have hold := hv level hlevel kong hkong
  have htaken : counted id = true → (coopItemFlag id).isSome ∨ isPickup id = true := by
    intro hcounted
    rcases hid with h | h | h | h
    · exact .inl h
    · exact .inr h
    · rw [counted_bucket hcounted] at h
      cases h
    · rw [creditable, hcounted, Bool.true_or] at h
      cases h
  cases h with
  | same =>
    rw [creditedBy_self, if_neg (by simp)]
    exact .refl s
  | flag hnew hflag hcounted =>
    have hbucket : coopTroffBucket id = none := by
      by_contra hn
      have hrange : coopTroffFirst ≤ id ∧ id < coopTroffEnd := by
        by_contra hr
        exact hn (troffBucket_eq_none (by omega))
      have := ids
      rw [coopItemFlag_eq_none (by omega) (by omega) (by omega) (by omega)] at hflag
      cases hflag
    rw [creditedBy_other (by rw [creditable, hcounted, hbucket]; rfl), if_neg (by simp)]
    exact .of_eq rfl rfl rfl rfl
  | slam hnew hslam =>
    have := ids
    have := progressionIds
    have hchars : ((s.raise (coopItemFlag id)).setProgression (List.range 5) 1
        fun held => max held 1).characterProgress
        = (s.setProgression (List.range 5) 1 fun held => max held 1).characterProgress := rfl
    rw [creditedBy_other (creditable_progression (by omega)), if_neg (by simp)]
    exact setProgression_moved hchars
  | tier htier =>
    have := ids
    rw [creditedBy_other (creditable_progression (by omega)), if_neg (by simp)]
    unfold raiseTier
    split
    · exact .of_eq rfl rfl rfl rfl
    split
    · exact .refl s
    · exact setProgression_moved rfl
  | feed l k hbucket hheld =>
    rw [feed_credited hbucket, if_pos rfl]
    exact feed_moved hbucket hheld
  | credit hnew hcounted _ hfits =>
    rw [creditedBy, hnew, owned_credited (htaken hcounted), creditable, hcounted]
    exact credit_moved hold hkong hcounted hfits credit_taken
  | medal hnew hcounted _ hfits =>
    rw [creditedBy, hnew, (GameSave.grows_raise _ _).owned (owned_credited (htaken hcounted)), creditable,
      hcounted]
    exact credit_moved hold hkong hcounted hfits credit_taken

/-! ## What a turn credits -/

/-- A turn credits its id exactly when it makes it owned. -/
def CreditsOwn (st st' : ApplyState) (id : Nat) : Prop :=
  st'.credited = if creditedBy st.w.save st'.w.save id then id :: st.credited else st.credited

theorem CreditsOwn.none {st' : ApplyState} (hcredited : st'.credited = st.credited)
    (h : creditedBy st.w.save st'.w.save id = false) : CreditsOwn st st' id :=
  hcredited.trans (if_neg (by rw [h]; simp)).symm

theorem CreditsOwn.one {st' : ApplyState} (hcredited : st'.credited = id :: st.credited)
    (h : creditedBy st.w.save st'.w.save id = true) : CreditsOwn st st' id :=
  hcredited.trans (if_pos h).symm

theorem deriveMedal_credited : (deriveMedal e st id).credited = st.credited := by
  unfold deriveMedal
  dsimp only
  split
  · rfl
  split
  · rfl
  split <;> rfl

theorem deriveMedal_grows : st.w.save.Grows (deriveMedal e st id).w.save := by
  have hflag : ∀ flag, st.w.save.Grows (e.setFlag id st.w flag).save := by
    intro flag
    rcases setFlag_save (e := e) id st.w flag with hs | hs
    · rw [hs]
      exact .refl _
    · rw [hs]
      exact GameSave.grows_raise _ _
  unfold deriveMedal
  dsimp only
  split
  · exact .refl _
  split
  · exact .refl _
  split <;> exact hflag _

theorem coopTroffApply_credited : CreditsOwn st (coopTroffApply f mode st id).2 id := by
  have hself : ∀ st' : ApplyState, st'.credited = st.credited → st'.w.save = st.w.save →
      CreditsOwn st st' id := fun st' hcredited hsave => .none hcredited (hsave ▸ creditedBy_self)
  unfold coopTroffApply
  cases hb : coopTroffBucket id with
  | none => exact hself _ rfl rfl
  | some b =>
    obtain ⟨level, kong, amount⟩ := b
    dsimp only
    split
    · exact hself _ rfl rfl
    split
    · exact hself _ rfl rfl
    split
    · exact hself _ rfl rfl
    rename_i hnext
    split
    · exact hself _ rfl rfl
    split
    · exact hself _ rfl rfl
    have hbucket : coopTroffBucket id = some
        (level, kong, (st.w.save.characterProgress kong).colouredBananasFedToTns level + 1) := by
      rw [hb]
      grind
    exact .one rfl (feed_credited hbucket)

/-- The collectible branch credits what it makes owned. -/
theorem applyCollectible_credited (hnew : coopItemOwned st.w.save id = false)
    (hbucket : coopTroffBucket id = none) : CreditsOwn st (applyCollectible e f mode st id) id := by
  unfold applyCollectible
  split
  · exact .none rfl creditedBy_self
  split
  · exact .none rfl creditedBy_self
  split
  · exact .none rfl creditedBy_self
  have hsave := taken_save (e := e) st.w id
  dsimp only
  generalize (if isPickup id then e.setPickup id st.w (pickupBit id)
    else e.setFlag id st.w (coopItemFlag id)) = w at hsave
  split
  · rename_i hlost
    exact .none rfl (by rw [creditedBy, Bool.eq_false_iff.mpr hlost, Bool.and_false])
  rename_i hown
  have hown : coopItemOwned w.save id = true := by simpa using hown
  split
  swap
  · rename_i hcounted
    exact .none rfl (creditedBy_other (by
      rw [creditable, hbucket, Bool.eq_false_iff.mpr hcounted]
      rfl))
  rename_i hcounted
  have hsame : w.save.characterProgress = st.w.save.characterProgress := by
    rcases hsave with h | h
    · rw [h]
    · rw [h, taken_characterProgress]
  rw [creditDisturbed_of_eq hsame, if_neg (by simp)]
  -- the credit, and the medal after it, leave the id owned
  have hone : ∀ st' : ApplyState, st'.credited = id :: st.credited
      ∧ coopItemOwned st'.w.save id = true → CreditsOwn st st' id := by
    rintro st' ⟨hcredited, ho⟩
    refine .one hcredited ?_
    rw [creditedBy, creditable, hcounted, hnew, ho]
    rfl
  have hcredited : coopItemOwned (creditCounter e w.save id) id = true :=
    (grows_credit _ id).owned hown
  have hmedal : ∀ st' : ApplyState, st'.credited = id :: st.credited →
      coopItemOwned st'.w.save id = true → (deriveMedal e st' id).credited = id :: st.credited
        ∧ coopItemOwned (deriveMedal e st' id).w.save id = true :=
    fun _ hc ho => ⟨deriveMedal_credited.trans hc, deriveMedal_grows.owned ho⟩
  by_cases hr : isRainbow id = true
  · rw [if_pos hr]
    split <;> split <;> exact hone _ ⟨rfl, hcredited⟩
  · rw [if_neg hr]
    split <;> split <;> exact hone _ (hmedal _ rfl hcredited)

/-- **A turn credits its id exactly when it makes it owned.** -/
theorem applyItem_credited : CreditsOwn st (applyItem e f mode st id) id := by
  unfold applyItem
  split
  · exact .none rfl creditedBy_self
  split
  · exact .none rfl creditedBy_self
  rename_i hskip
  split
  · exact .none rfl creditedBy_self
  split
  · have htroff : CreditsOwn st (coopTroffApply f mode st id).2 id := coopTroffApply_credited
    generalize coopTroffApply f mode st id = out at htroff
    obtain ⟨ok, st'⟩ := out
    cases ok <;> exact htroff
  split
  · rename_i hprogression
    refine .none ?_ (creditedBy_other (creditable_progression hprogression))
    unfold applyProgression
    dsimp only
    split
    · rfl
    split
    · rfl
    split
    · rfl
    split
    · rfl
    split <;> rfl
  · exact applyCollectible_credited (by simpa using fun h => hskip (.inr h))
      (troffBucket_eq_none (by omega))

/-! ## What a walk credits -/

/-- The ids of the walk are written by a flag, a pickup bit or a fed banana, or not counted. -/
theorem id_shape (h : id < coopItems) : (coopItemFlag id).isSome ∨ isPickup id = true
    ∨ (coopTroffBucket id).isSome ∨ creditable id = false := by
  have := ids
  by_cases hprogression : coopProgressionFirst ≤ id ∧ id < coopProgressionEnd
  · exact .inr (.inr (.inr (creditable_progression hprogression)))
  by_cases htroff : coopTroffFirst ≤ id ∧ id < coopTroffEnd
  · refine .inr (.inr (.inl ?_))
    rw [coopTroffBucket, if_neg (by omega)]
    rfl
  · exact (flag_or_pickup (by omega) h).imp_right .inl

/-- **The ids a walk credits**: each once, none that was owned before, all owned after. -/
theorem reached_credited {g : CoopItems} {w : ItemsWorld} (n : Nat) :
    (reached e f mode g w n).credited.Nodup ∧ ∀ i ∈ (reached e f mode g w n).credited, i < n
      ∧ coopItemOwned w.save i = false ∧ coopItemOwned (reached e f mode g w n).w.save i = true := by
  induction n with
  | zero => exact ⟨.nil, fun _ h => absurd h List.not_mem_nil⟩
  | succ n ih =>
    obtain ⟨hnodup, hcredited⟩ := ih
    rw [reached_succ]
    have hturn : SaveTurn e n (reached e f mode g w n).w.save
        (applyItem e f mode (reached e f mode g w n) n).w.save := applyItem_turn
    have hkept : ∀ i ∈ (reached e f mode g w n).credited, i < n + 1
        ∧ coopItemOwned w.save i = false
        ∧ coopItemOwned (applyItem e f mode (reached e f mode g w n) n).w.save i = true :=
      fun i hi => ⟨Nat.lt_succ_of_lt (hcredited i hi).1, (hcredited i hi).2.1,
        hturn.grows.owned (hcredited i hi).2.2⟩
    have hcredit : CreditsOwn (reached e f mode g w n)
        (applyItem e f mode (reached e f mode g w n) n) n := applyItem_credited
    rw [CreditsOwn] at hcredit
    rw [hcredit]
    split
    swap
    · exact ⟨hnodup, hkept⟩
    rename_i hby
    simp only [creditedBy, Bool.and_eq_true, Bool.not_eq_true'] at hby
    obtain ⟨⟨-, hnew⟩, hown⟩ := hby
    have hstart : coopItemOwned w.save n = false := by
      by_contra hold
      rw [reached_preserves (fun h hs => h.grows.owned hs) (by simpa using hold) n] at hnew
      cases hnew
    refine ⟨List.nodup_cons.mpr ⟨fun h => Nat.lt_irrefl n (hcredited n h).1, hnodup⟩, fun i hi => ?_⟩
    rcases List.mem_cons.mp hi with rfl | hi
    · exact ⟨Nat.lt_succ_self _, hstart, hown⟩
    · exact hkept i hi

/-- **The counters move by what the walk credits.** -/
theorem reached_moved {g : CoopItems} {w : ItemsWorld}
    (hvalid : coopItemsCountersValid layout w.save = true) (hlevel : level < 8) (hkong : kong < 5) :
    ∀ {n : Nat}, n ≤ coopItems → CountersMoved e w.save (reached e f mode g w n).w.save
      (reached e f mode g w n).credited level kong := by
  intro n
  induction n with
  | zero => exact fun _ => .refl w.save
  | succ n ih =>
    intro hn
    have hsofar := ih (by omega)
    have hstill : coopItemsCountersValid layout (reached e f mode g w n).w.save = true :=
      reached_preserves SaveTurn.countersValid hvalid n
    have hagree := (coopItemsCountersValid_iff.mp hstill).2.2
    have hturn : CountersMoved e (reached e f mode g w n).w.save
        (applyItem e f mode (reached e f mode g w n) n).w.save _ level kong :=
      applyItem_turn.moved (id_shape (by omega)) (fun level hlevel => (hagree level hlevel).2) hlevel hkong
    have hcredit : CreditsOwn (reached e f mode g w n)
        (applyItem e f mode (reached e f mode g w n) n) n := applyItem_credited
    rw [CreditsOwn] at hcredit
    have hboth := hsofar.trans hturn
    rw [reached_succ, hcredit]
    by_cases hby : creditedBy (reached e f mode g w n).w.save
        (applyItem e f mode (reached e f mode g w n) n).w.save n = true
    · rw [if_pos hby] at hboth ⊢
      exact hboth
    · rw [if_neg hby] at hboth ⊢
      exact hboth

theorem deriveTraining_credited : (deriveTraining e f mode st).credited = st.credited := by
  unfold deriveTraining
  split
  · dsimp only
    split <;> rfl
  · rfl

theorem finishApply_credited : (finishApply f mode st).credited = st.credited := by
  unfold finishApply
  dsimp only
  split <;> rfl

theorem coopItemsApply_credited (g : CoopItems) (w : ItemsWorld) (safeToSave : Bool) :
    (coopItemsApply e f g w safeToSave).credited
      = if applyWaits f (applyMode f g safeToSave) g w.save then []
        else if g.result.synced then (walk e f (applyMode f g safeToSave)
          { g := { g with applying := true }, w := w }).credited
        else [] := by
  have hend : ∀ (st : ApplyState) (mode : ApplyMode) (g : CoopItems),
      (finishApply f mode { deriveTraining e f mode st with g := g }).credited = st.credited :=
    fun _ _ _ => finishApply_credited.trans deriveTraining_credited
  unfold coopItemsApply
  dsimp only
  split
  · rfl
  split
  · exact hend _ _ _
  · exact finishApply_credited

/-- The derived training completion is worth nothing. -/
theorem deriveTraining_moved (hvalid : coopItemsCountersValid layout st.w.save = true)
    (hlevel : level < 8) (hkong : kong < 5) :
    CountersMoved e st.w.save (deriveTraining e f mode st).w.save [] level kong := by
  have := ids
  have := progressionIds
  have hagree := (coopItemsCountersValid_iff.mp hvalid).2.2
  have hnone : creditable coopTrainingComplete = false := creditable_progression (by omega)
  have hturn : SaveTurn e coopTrainingComplete st.w.save (deriveTraining e f mode st).w.save :=
    deriveTraining_turn
  have hmoved := hturn.moved (.inr (.inr (.inr hnone)))
    (fun level hlevel => (hagree level hlevel).2) hlevel hkong
  rwa [creditedBy_other hnone, if_neg (by simp)] at hmoved

/-- **Applied items keep the numeric inventory consistent**: no owned id is credited again, and each
counter has moved by exactly what the credited ids are worth. -/
theorem apply_countersValid (e : ItemsEngine) (f : ItemsFrame) (layout : Nat → Nat) (g : CoopItems)
    (w : ItemsWorld) (safeToSave : Bool) (hvalid : coopItemsCountersValid layout w.save = true) :
    coopItemsCountersValid layout (coopItemsApply e f g w safeToSave).w.save = true
    ∧ (coopItemsApply e f g w safeToSave).credited.Nodup
    ∧ (∀ id ∈ (coopItemsApply e f g w safeToSave).credited, coopItemOwned w.save id = false
      ∧ coopItemOwned (coopItemsApply e f g w safeToSave).w.save id = true)
    ∧ ∀ level < 8, ∀ kong < 5, CountersMoved e w.save (coopItemsApply e f g w safeToSave).w.save
      (coopItemsApply e f g w safeToSave).credited level kong := by
  refine ⟨coopItemsApply_preserves SaveTurn.countersValid hvalid, ?_⟩
  have htraining : ∀ st : ApplyState, st.w.save.Grows
      (deriveTraining e f (applyMode f g safeToSave) st).w.save := fun _ => deriveTraining_turn.grows
  have hnothing : ([] : List Nat).Nodup ∧ (∀ id ∈ ([] : List Nat), coopItemOwned w.save id = false
      ∧ coopItemOwned w.save id = true)
      ∧ ∀ level < 8, ∀ kong < 5, CountersMoved e w.save w.save [] level kong :=
    ⟨.nil, fun _ h => absurd h List.not_mem_nil, fun _ _ _ _ => .refl _⟩
  rw [coopItemsApply_credited, coopItemsApply_world]
  by_cases hwait : applyWaits f (applyMode f g safeToSave) g w.save = true
  · rw [if_pos hwait, if_pos hwait]
    exact hnothing
  rw [if_neg hwait, if_neg hwait]
  by_cases hsynced : g.result.synced = true
  · rw [if_pos hsynced, if_pos hsynced, walk_reached]
    generalize applyMode f g safeToSave = mode at htraining ⊢
    obtain ⟨hnodup, hcredited⟩ := reached_credited (e := e) (f := f) (g := g) (w := w) coopItems
    refine ⟨hnodup, fun i hi => ⟨(hcredited i hi).2.1, (htraining _).owned (hcredited i hi).2.2⟩,
      fun level hlevel kong hkong => ?_⟩
    have hwalk : CountersMoved e w.save (reached e f mode g w coopItems).w.save
        (reached e f mode g w coopItems).credited level kong :=
      reached_moved hvalid hlevel hkong (Nat.le_refl _)
    have hstill : coopItemsCountersValid layout (reached e f mode g w coopItems).w.save = true :=
      reached_preserves SaveTurn.countersValid hvalid coopItems
    have hend : CountersMoved e (reached e f mode g w coopItems).w.save
        (deriveTraining e f mode (reached e f mode g w coopItems)).w.save [] level kong :=
      deriveTraining_moved hstill hlevel hkong
    have hboth := hwalk.trans hend
    rw [List.nil_append] at hboth
    exact hboth
  · rw [if_neg hsynced, if_neg hsynced]
    exact hnothing

/-! ## A new save in the Isles -/

/-- Only the granted ids have a turn. -/
theorem reached_granted {g : CoopItems} {w : ItemsWorld} (hg : g.counterError = false) (n : Nat) :
    reached e f mode g w n = Run.run (applyItem e f mode) { g := { g with applying := true }, w := w }
      ((List.range n).filter (coopItemHas g.result.apply)) := by
  induction n with
  | zero => rfl
  | succ n ih =>
    rw [reached_succ, List.range_succ, List.filter_append, Run.run_append, ← ih]
    by_cases hhas : coopItemHas g.result.apply n = true
    · rw [List.filter_singleton, hhas]
      rfl
    · rw [List.filter_singleton, Bool.eq_false_iff.mpr hhas]
      have hresult : (reached e f mode g w n).g.result = g.result := (reached_turned e f hg n).1
      unfold applyItem
      split
      · rfl
      · exact if_pos (.inl (by rw [hresult]; exact hhas))

theorem diddy_lt : 1 < 5 := by decide

/-- A pickup of Diddy's. -/
def diddyPickup (object type amount : Nat) : CoopPickup := ⟨object, type, 4, ⟨1, diddy_lt⟩, amount⟩

/-- The first rows of the table of pickups: three coins and a bunch of Diddy's bananas. -/
def pocketEngine : ItemsEngine :=
  { plainEngine with
    coopPickups := fun i => [diddyPickup 0x000C 0x0024 0, diddyPickup 0x0031 0x0024 0,
      diddyPickup 0x000E 0x0024 0, diddyPickup 0x003C 0x0208 5].getD i (diddyPickup 0x0029 0x0024 0) }

/-- A golden banana, a coin, the bunch and a rainbow coin. -/
def pocketIds : List Nat := [162, 321, 324, 2022]

/-- The peer owns them. -/
def pocketGame : CoopItems :=
  { islesGame with result := { status := 2, scope := 1, apply := pocketIds.foldl setItemBit fun _ => 0 } }

theorem pocketIds_granted :
    (List.range coopItems).filter (coopItemHas pocketGame.result.apply) = pocketIds := by
  decide +kernel

theorem pocket_credited :
    (coopItemsApply pocketEngine isles pocketGame ⟨flagSave [], Live.fairyIsland⟩ true).credited
      = pocketIds.reverse := by
  rw [coopItemsApply_credited, if_neg (by decide), if_pos (by decide), walk_reached, reached_granted rfl,
    pocketIds_granted]
  decide

/-- All four are credited: Donkey gets a golden banana, Diddy six coins and five bananas. -/
theorem apply_countersValid_newSave :
    let out := coopItemsApply pocketEngine isles pocketGame ⟨flagSave [], Live.fairyIsland⟩ true
    coopItemsCountersValid setupLayout out.w.save = true ∧ out.credited.Nodup
    ∧ out.credited = [2022, 324, 321, 162]
    ∧ (∀ id ∈ [2022, 324, 321, 162], coopItemOwned (flagSave []) id = false
      ∧ coopItemOwned out.w.save id = true)
    ∧ (out.w.save.characterProgress 0).goldenBananas 0 = 1
    ∧ (out.w.save.characterProgress 1).coins = 6
    ∧ (out.w.save.characterProgress 1).colouredBananas 0
      + (out.w.save.characterProgress 1).colouredBananasFedToTns 0 = 5 := by
  obtain ⟨hvalid, hnodup, hcredited, hmoved⟩ := apply_countersValid pocketEngine isles setupLayout
    pocketGame ⟨flagSave [], Live.fairyIsland⟩ true newSave_countersValid
  have hdonkey := hmoved 0 (by decide) 0 (by decide)
  have hdiddy := hmoved 0 (by decide) 1 (by decide)
  rw [pocket_credited] at hcredited hdonkey hdiddy
  exact ⟨hvalid, hnodup, pocket_credited, hcredited, hdonkey.golden.trans (by decide),
    hdiddy.coins.trans (by decide), hdiddy.bananas.trans (by decide)⟩

end Dk64Port.Coop
