import Dk64Port.Coop.ItemsRecorded

/-!
# Which calls keep the inventory closed (`mod/items_game.h`)

K. Rool's defeat and the paid Arcade are written without a look at what they require, so what matters
is whether their prerequisites are there when the walk comes to them. That can be told from the input:
the save, the ids granted, the frame, and the writes that another mod cancels.

* `KlumsyArrives`, `ArcadeArrives`: the prerequisites are owned, or are granted and get through.
* `Timely`: no late id is written without them.
* `apply_closed_iff`: **a call keeps the inventory closed under its prerequisites exactly when its
  input is timely**, unless a counter error ends the walk before the late ids.
-/

namespace Dk64Port.Coop

variable {e : ItemsEngine} {f : ItemsFrame} {mode : ApplyMode} {id j n : Nat} {s s' : GameSave}
  {st st' : ApplyState} {g : CoopItems} {w : ItemsWorld}

/-! ## The input -/

section Input

variable (e f mode g w)

/-- The result grants an id that the save does not own, and its write is not cancelled. -/
def Passes (id : Nat) : Prop :=
  coopItemHas g.result.apply id = true ∧ e.cancelled id (coopItemFlag id) = false

/-- The id is owned, or is granted and gets through. -/
def Arrives (id : Nat) : Prop := coopItemOwned w.save id = true ∨ Passes e g id

/-- What K. Lumsy's freedom rests on: the keys, the first lobby and the keys turned in. -/
def klumsyRoute : List Nat :=
  List.range' 70 8 ++ coopLobby :: List.range' coopKeyTurnFirst 8 ++ [coopKlumsyFree]

/-- K. Lumsy is free when the walk comes to K. Rool: he is free already, or all that leads to it is
there, in a safe map outside the Isles with the HUD loaded. -/
def KlumsyArrives : Prop :=
  coopItemOwned w.save coopKlumsyFree = true
  ∨ (mode.safeToSave = true ∧ f.hud = true ∧ f.level < 7)
    ∧ ∀ id ∈ klumsyRoute, Arrives e g w id

/-- The Factory's Arcade lever and its golden banana are there when the walk comes to the paid Arcade:
owned already, or granted with the HUD loaded. -/
def ArcadeArrives : Prop :=
  ∀ id, id = coopFactoryArcadeLever ∨ id = coopGbFirst + 54 →
    coopItemOwned w.save id = true ∨ f.hud = true ∧ Passes e g id

/-- The walk writes a late id when it comes to it. -/
def Late (id : Nat) : Prop :=
  coopItemOwned w.save id = false ∧ mode.liveOnly = false ∧ Passes e g id

/-- The walk writes no late id without its prerequisites. -/
structure Timely : Prop where
  krool : Late e mode g w coopKroolDefeated → KlumsyArrives e f mode g w
  arcade : Late e mode g w coopArcadeCoinsPaid → mode.safeToSave = true → f.level ≠ 2 →
    ArcadeArrives e f g w

end Input

/-! ## Errors along the walk -/

/-- The walk has stopped exactly when there is a counter error. -/
def Stopped (st : ApplyState) : Prop := st.broke = st.g.counterError

theorem note_kept (g : CoopItems) (id : Nat) : (coopItemsNote g id).counterError = g.counterError
    ∧ (coopItemsNote g id).result = g.result := by
  unfold coopItemsNote
  split <;> exact ⟨rfl, rfl⟩

/-- What a turn leaves alone or sets together. -/
structure Turned (st st' : ApplyState) : Prop where
  result : st'.g.result = st.g.result
  stopped : Stopped st → Stopped st'

theorem turned_of_same (hresult : st'.g.result = st.g.result)
    (herror : st'.g.counterError = st.g.counterError) (hbroke : st'.broke = st.broke) :
    Turned st st' :=
  ⟨hresult, fun h => hbroke.trans (h.trans herror.symm)⟩

theorem turned_self (st : ApplyState) : Turned st st := turned_of_same rfl rfl rfl

theorem Turned.trans {st'' : ApplyState} (h : Turned st st') (h' : Turned st' st'') : Turned st st'' :=
  ⟨h'.result.trans h.result, fun hs => h'.stopped (h.stopped hs)⟩

theorem turned_fail (st : ApplyState) : Turned st st.fail := ⟨rfl, fun _ => rfl⟩

theorem deriveMedal_turned : Turned st (deriveMedal e st id) := by
  obtain ⟨herror, hresult⟩ := note_kept st.g
    (medalId (collectible e id).level (collectible e id).kong)
  unfold deriveMedal
  dsimp only
  split_ifs
  · exact turned_self st
  · exact turned_self st
  · exact turned_of_same hresult herror rfl
  · exact turned_of_same rfl rfl rfl

theorem applyCollectible_turned : Turned st (applyCollectible e f mode st id) := by
  unfold applyCollectible
  split
  · exact turned_self st
  split
  · exact turned_self st
  split
  · exact turned_fail st
  dsimp only
  generalize (if isPickup id then e.setPickup id st.w (pickupBit id)
    else e.setFlag id st.w (coopItemFlag id)) = w
  split
  · exact turned_of_same rfl rfl rfl
  split
  · split
    · exact ⟨rfl, fun _ => rfl⟩
    · -- the HUD, the medal and the source leave the error alone
      have hhud : ∀ st' : ApplyState, Turned st st' → Turned st (if (coopItemGb id).isSome then
          { st' with g := { st'.g with hudPending := true } } else st') := by
        intro st' h
        split
        · exact h.trans (turned_of_same rfl rfl rfl)
        · exact h
      have hmedal : ∀ st' : ApplyState, Turned st st' →
          Turned st (if isRainbow id then st' else deriveMedal e st' id) := by
        intro st' h
        split
        · exact h
        · exact h.trans deriveMedal_turned
      have hsource : ∀ st' : ApplyState, Turned st st' →
          Turned st ((if (collectible e id).source = some f.map then
            { st' with w := { st'.w with memory := sourceRetire e f st'.w.memory id } }
            else st').record id) := by
        intro st' h
        split
        · exact h.trans (turned_of_same rfl rfl rfl)
        · exact h.trans (turned_of_same rfl rfl rfl)
      exact hsource _ (hmedal _ (hhud _ (turned_of_same rfl rfl rfl)))
  · exact turned_of_same rfl rfl rfl

variable (f mode st id) in
theorem coopTroffApply_result : (coopTroffApply f mode st id).2.g.result = st.g.result
    ∧ ((coopTroffApply f mode st id).1 = true →
      (coopTroffApply f mode st id).2.g.counterError = st.g.counterError
      ∧ (coopTroffApply f mode st id).2.broke = st.broke) := by
  unfold coopTroffApply
  cases hb : coopTroffBucket id with
  | none => exact ⟨rfl, fun _ => ⟨rfl, rfl⟩⟩
  | some b =>
    dsimp only
    split_ifs
    · exact ⟨rfl, fun _ => ⟨rfl, rfl⟩⟩
    · exact ⟨rfl, fun h => by cases h⟩
    · exact ⟨rfl, fun _ => ⟨rfl, rfl⟩⟩
    · exact ⟨rfl, fun h => by cases h⟩
    · exact ⟨rfl, fun h => by cases h⟩
    · exact ⟨rfl, fun _ => ⟨rfl, rfl⟩⟩

theorem applyProgression_turned : Turned st (applyProgression e f mode st id) := by
  unfold applyProgression
  dsimp only
  split
  · exact turned_fail st
  split
  · exact turned_self st
  split
  · exact turned_self st
  split
  · exact turned_self st
  generalize coopProgressionApply e f id (mode.safeToSave || exactLiveWorld f mode id
    || (mode.trainingGround && coopTrainingGroundApplyId id)) st.w = out
  obtain ⟨ok, w⟩ := out
  cases ok with
  | false => exact turned_of_same rfl rfl rfl
  | true =>
    obtain ⟨previous, heq, -⟩ := recordProgression_eq st.g w.save
    dsimp only
    rw [heq]
    exact turned_of_same rfl rfl rfl

/-- **A turn keeps the result, and stops the walk exactly by a counter error.** -/
theorem applyItem_turned : Turned st (applyItem e f mode st id) := by
  unfold applyItem
  split
  · exact turned_self st
  split
  · exact turned_self st
  split
  · exact turned_self st
  split
  · obtain ⟨hresult, hkept⟩ := coopTroffApply_result f mode id st
    generalize coopTroffApply f mode st id = out at hresult hkept
    obtain ⟨ok, st'⟩ := out
    cases ok with
    | true => exact turned_of_same hresult (hkept rfl).1 (hkept rfl).2
    | false => exact ⟨hresult, fun _ => rfl⟩
  split
  · exact applyProgression_turned
  · exact applyCollectible_turned

variable (e f) in
theorem reached_turned (hg : g.counterError = false) (n : Nat) :
    (reached e f mode g w n).g.result = g.result ∧ Stopped (reached e f mode g w n) := by
  induction n with
  | zero => exact ⟨rfl, hg.symm⟩
  | succ n ih =>
    rw [reached_succ]
    exact ⟨applyItem_turned.result.trans ih.1, applyItem_turned.stopped ih.2⟩

/-- A walk that has stopped makes no further turns. -/
theorem applyItem_broke (h : st.broke = true) : applyItem e f mode st id = st := by
  unfold applyItem
  exact if_pos h

/-- A walk that goes on has not stopped before. -/
theorem reached_going {m : Nat} (hmn : n ≤ m) (h : (reached e f mode g w m).broke = false) :
    (reached e f mode g w n).broke = false := by
  induction m, hmn using Nat.le_induction with
  | base => exact h
  | succ m _ ih =>
    refine ih ?_
    by_contra hb
    rw [reached_succ, applyItem_broke (by simpa using hb)] at h
    exact hb h

/-! ## What the turns before leave to an id -/

/-- The turn of another id does not make a flagged id owned, unless it is a medal. -/
theorem owned_elsewhere (hflag : (coopItemFlag id).isSome)
    (hmedal : ∀ level < 7, ∀ kong < 5, id ≠ medalId level kong) (hj : j ≠ id) :
    coopItemOwned (applyItem e f mode st j).w.save id = coopItemOwned st.w.save id := by
  obtain ⟨x, hx⟩ := Option.isSome_iff_exists.mp hflag
  have hturn : SaveTurn e j st.w.save (applyItem e f mode st j).w.save := applyItem_turn
  rw [Bool.eq_iff_iff]
  refine ⟨fun h => ?_, hturn.grows.owned⟩
  rw [owned_iff_flag hx] at h ⊢
  rcases hturn.new_flag h with hs | hjx | ⟨level, hlevel, kong, hkong, hm⟩
  · exact hs
  · exact absurd (coopItemFlag_injective hjx hx) hj
  · exact absurd (coopItemFlag_injective hx hm) (hmedal level hlevel kong hkong)

/-- So it is owned as its own turn leaves it. -/
theorem reached_owned (hflag : (coopItemFlag id).isSome)
    (hmedal : ∀ level < 7, ∀ kong < 5, id ≠ medalId level kong) (n : Nat) :
    coopItemOwned (reached e f mode g w n).w.save id
      = if n ≤ id then coopItemOwned w.save id
        else coopItemOwned (applyItem e f mode (reached e f mode g w id) id).w.save id := by
  induction n with
  | zero => exact (if_pos (Nat.zero_le _)).symm
  | succ n ih =>
    rw [reached_succ]
    rcases Nat.lt_trichotomy n id with hlt | rfl | hgt
    · rw [owned_elsewhere hflag hmedal (by omega), ih, if_pos (by omega), if_pos (by omega)]
    · rw [if_neg (by omega)]
    · rw [owned_elsewhere hflag hmedal (by omega), ih, if_neg (by omega), if_neg (by omega)]

/-! ## The turns of the prerequisites -/

variable (e) in
theorem owned_setFlag (hflag : (coopItemFlag id).isSome) (hnew : coopItemOwned w.save id = false) :
    coopItemOwned (e.setFlag id w (coopItemFlag id)).save id = true
      ↔ e.cancelled id (coopItemFlag id) = false := by
  obtain ⟨x, hx⟩ := Option.isSome_iff_exists.mp hflag
  unfold ItemsEngine.setFlag
  dsimp only
  by_cases hc : e.cancelled id (coopItemFlag id) = true
  · rw [if_pos hc, hc, hnew]
    simp
  · rw [if_neg hc, owned_iff_flag hx, hx]
    simpa [GameSave.raise, hx] using hc

/-- A turn that leaves the walk going has not been made after its end. -/
theorem going_before (h : (applyItem e f mode st id).broke = false) : st.broke = false := by
  by_contra hb
  rw [applyItem_broke (by simpa using hb)] at h
  exact hb h

/-- The turn of a progression id that no loaded map shows. -/
theorem applyItem_progression (hid : coopProgressionFirst ≤ id ∧ id < coopProgressionEnd)
    (hexact : exactLiveWorld f mode id = false) (hloaded : loadedWorld f id = false)
    (hground : coopTrainingGroundApplyId id = false) (hnew : coopItemOwned st.w.save id = false)
    (hgoing : (applyItem e f mode st id).broke = false) :
    coopItemOwned (applyItem e f mode st id).w.save id = true ↔
      coopItemHas st.g.result.apply id = true ∧ mode.liveOnly = false ∧ mode.safeToSave = true
        ∧ coopItemOwned (coopProgressionApply e f id true st.w).2.save id = true := by
  have := ids
  have hstart := going_before hgoing
  unfold applyItem at hgoing ⊢
  rw [if_neg (by rw [hstart]; simp)] at hgoing ⊢
  by_cases hhas : coopItemHas st.g.result.apply id = true
  swap
  · rw [if_pos (.inl hhas), hnew]
    simp [hhas]
  rw [if_neg (by rw [hhas, hnew]; simp)] at hgoing ⊢
  by_cases hlive : mode.liveOnly = true
  · rw [if_pos ⟨hlive, by rw [hexact]; simp⟩, hnew, hlive]
    simp
  rw [if_neg fun hl => hlive hl.1, if_neg (by omega), if_pos hid] at hgoing ⊢
  unfold applyProgression at hgoing ⊢
  dsimp only at hgoing ⊢
  rw [hexact, hground, hloaded, Bool.or_false, Bool.and_false, Bool.or_false] at hgoing ⊢
  by_cases hvalid : coopProgressionValid st.w.save = true
  swap
  · rw [if_pos hvalid] at hgoing
    cases hgoing
  rw [if_neg (not_not_intro hvalid)]
  by_cases hsafe : mode.safeToSave = true
  swap
  · rw [if_pos hsafe, hnew]
    simp [hsafe]
  rw [if_neg (not_not_intro hsafe), if_neg (fun h => absurd h.1 Bool.false_ne_true),
    if_neg (fun h => absurd h.1 Bool.false_ne_true), hsafe, hhas]
  generalize coopProgressionApply e f id true st.w = out
  obtain ⟨ok, w'⟩ := out
  have hsave : ∀ (refresh : Bool) (memory : Live.Memory),
      (if refresh = true then { w' with memory := memory } else w').save = w'.save := by
    intro refresh memory
    cases refresh <;> rfl
  cases ok with
  | false => simp [hlive]
  | true =>
    dsimp only
    rw [hsave]
    simp [hlive]

/-- K. Lumsy's lobby, the keys turned in and his freedom. -/
theorem applyItem_story (hid : coopLobby ≤ id ∧ id ≤ coopKlumsyFree)
    (hnew : coopItemOwned st.w.save id = false)
    (hgoing : (applyItem e f mode st id).broke = false) :
    coopItemOwned (applyItem e f mode st id).w.save id = true ↔
      coopItemHas st.g.result.apply id = true ∧ mode.liveOnly = false ∧ mode.safeToSave = true
        ∧ (f.hud = true ∧ f.level < 7) ∧ coopItemRequires st.w.save id = true
        ∧ e.cancelled id (coopItemFlag id) = false := by
  have := ids
  have := progressionIds
  have hexact : exactLiveWorld f mode id = false := by
    rw [exactLiveWorld, decide_eq_false (by omega)]
    rfl
  have hloaded : loadedWorld f id = false := by
    rw [loadedWorld, decide_eq_false (by omega), Bool.false_and]
  have hground : coopTrainingGroundApplyId id = false := by
    have hexit : id ≠ coopWorldTrainingExit := by
      have : coopWorldFirst ≤ coopWorldTrainingExit := by decide
      omega
    rw [coopTrainingGroundApplyId, decide_eq_false (by omega), beq_eq_false_iff_ne.mpr hexit]
    rfl
  have hflag : (coopItemFlag id).isSome := by
    rw [← progressionFlag_eq (by omega) (by omega)]
    exact progressionFlag_isSome (by omega) (by omega) (.inl (by omega))
  have hstory : storyBlocked f st.w.save id = (f.level == 7 || !coopItemRequires st.w.save id) := by
    unfold storyBlocked coopItemRequires
    rw [if_neg (by omega), if_neg (by omega)]
    by_cases hturn : coopKeyTurnFirst ≤ id ∧ id < coopKlumsyFree
    · rw [if_pos hturn, decide_eq_true hturn, decide_eq_false (by omega)]
      simp
    · rw [if_neg hturn, decide_eq_false hturn]
      by_cases hk : id = coopKlumsyFree
      · rw [if_pos hk, decide_eq_true hk]
        simp
      · rw [if_neg hk, decide_eq_false hk, if_neg (by omega), if_neg (by omega), if_neg (by omega),
          if_neg (by omega), if_neg (by omega), if_neg (by omega)]
        simp
  rw [applyItem_progression (by omega) hexact hloaded hground hnew hgoing]
  refine and_congr_right fun _ => and_congr_right fun _ => and_congr_right fun _ => ?_
  unfold coopProgressionApply
  by_cases hhud : f.hud = true
  swap
  · rw [if_pos (.inr (.inl hhud)), hnew]
    simp [hhud]
  rw [if_neg (by rw [hhud]; simp; omega), if_neg (by omega), hhud]
  by_cases hlevel : 8 ≤ f.level
  · rw [if_pos hlevel, hnew]
    simp
    omega
  rw [if_neg hlevel, if_neg (by omega), if_neg (by omega), if_pos (by omega), hstory]
  by_cases hblocked : (f.level == 7 || !coopItemRequires st.w.save id) = true
  · rw [if_pos hblocked, hnew]
    simp only [Bool.or_eq_true, beq_iff_eq, Bool.not_eq_true'] at hblocked
    constructor
    · exact fun h => absurd h Bool.false_ne_true
    · rintro ⟨⟨-, hlt⟩, hreq, -⟩
      rw [hreq] at hblocked
      rcases hblocked with h7 | hr
      · omega
      · cases hr
  · rw [if_neg hblocked, progressionFlag_eq (by omega) (by omega)]
    simp only [Bool.or_eq_true, beq_iff_eq, Bool.not_eq_true', not_or, Bool.not_eq_false] at hblocked
    have howned := owned_setFlag e hflag hnew
    constructor
    · exact fun h => ⟨⟨rfl, by omega⟩, hblocked.2, howned.mp h⟩
    · exact fun h => howned.mpr h.2.2

/-- The Arcade lever, seen from outside the Factory. -/
theorem applyItem_lever (hmap : f.map ≠ 26) (hlevel : f.level ≠ 2)
    (hnew : coopItemOwned st.w.save coopFactoryArcadeLever = false)
    (hgoing : (applyItem e f mode st coopFactoryArcadeLever).broke = false) :
    coopItemOwned (applyItem e f mode st coopFactoryArcadeLever).w.save coopFactoryArcadeLever = true ↔
      coopItemHas st.g.result.apply coopFactoryArcadeLever = true ∧ mode.liveOnly = false
        ∧ mode.safeToSave = true ∧ f.hud = true
        ∧ e.cancelled coopFactoryArcadeLever (coopItemFlag coopFactoryArcadeLever) = false := by
  have := ids
  have hlever : coopFactoryArcadeLever = 2309 := by decide
  have hrow : ∃ unlock, coopWorldUnlocks[coopFactoryArcadeLever - coopWorldFirst]? = some unlock
      ∧ unlock.level = 2 ∧ (coopLiveWorldStates.all fun row => row.flag != unlock.flag || row.map == 26) = true
      ∧ ∀ s, worldRequires s unlock = true := by
    refine ⟨_, rfl, by decide, by decide +kernel, fun s => ?_⟩
    have hprerequisite : (!decide ((0 : Int) ≤ -1)) = true := by decide
    rw [worldRequires, Bool.and_eq_true, Bool.or_eq_true, List.all_eq_true]
    refine ⟨.inl hprerequisite, fun r hr => ?_⟩
    have hrows : ∀ r ∈ coopWorldRequirements, (r.flag != 129) = true := by decide
    exact Bool.or_eq_true _ _ ▸ .inl (hrows r hr)
  obtain ⟨unlock, hunlock, hfactory, hstates, hrequires⟩ := hrow
  have hexact : exactLiveWorld f mode coopFactoryArcadeLever = false := by
    have hflag : coopLiveWorldHasFlag f.map unlock.flag = false := by
      rw [coopLiveWorldHasFlag, List.any_eq_false]
      intro row hr
      have hrow := List.all_eq_true.mp hstates row hr
      simp only [Bool.or_eq_true, bne_iff_ne, beq_iff_eq] at hrow
      simp only [Bool.and_eq_true, beq_iff_eq, not_and]
      rintro hm hf
      rcases hrow with hne | h26
      · exact hne hf
      · exact hmap (hm.symm.trans h26)
    rw [exactLiveWorld, hunlock, Option.any_some, hflag, Bool.and_false]
  have hloaded : loadedWorld f coopFactoryArcadeLever = false := by
    rw [loadedWorld, hunlock, Option.any_some, hfactory, beq_eq_false_iff_ne.mpr hlevel, Bool.and_false]
  rw [applyItem_progression (by omega) hexact hloaded (by decide) hnew hgoing]
  refine and_congr_right fun _ => and_congr_right fun _ => and_congr_right fun _ => ?_
  unfold coopProgressionApply
  by_cases hhud : f.hud = true
  swap
  · rw [if_pos (.inr (.inl hhud)), hnew]
    simp [hhud]
  have hblocked : worldBlocked f st.w.save coopFactoryArcadeLever = false := by
    unfold worldBlocked
    rw [hunlock]
    dsimp only
    rw [hfactory, beq_eq_false_iff_ne.mpr hlevel, hrequires]
    rfl
  rw [if_neg (by rw [hhud]; simp; omega), if_pos (by omega), hblocked, if_neg Bool.false_ne_true, hhud,
    progressionFlag_eq (by omega) (by omega)]
  exact (owned_setFlag e (by decide) hnew).trans ⟨fun h => ⟨rfl, h⟩, fun h => h.2⟩

/-- A golden banana that is taken on another map. -/
structure FarBanana (e : ItemsEngine) (f : ItemsFrame) (id : Nat) : Prop where
  first : coopGbFirst ≤ id
  last : id < coopPickupFirst
  banana : (coopItemGb id).isSome = true
  flag : (coopItemFlag id).isSome = true
  far : (collectible e id).source ≠ some f.map

namespace FarBanana

variable (h : FarBanana e f id)
include h

theorem pickup : isPickup id = false := decide_eq_false fun hp => Nat.not_lt.mpr hp.1 h.last

theorem actor : isActor id = false := by
  have := ids
  have := h.last
  exact decide_eq_false (by omega)

theorem rainbow : isRainbow id = false := by rw [isRainbow, h.actor, Bool.false_and]

theorem counted : counted id = true := by
  unfold Coop.counted
  rw [h.banana]
  rfl

/-- Neither the source nor a medal's flag holds the banana back. -/
theorem waits : creditWaits e f mode st id = (!mode.safeToSave || !f.hud) := by
  have := ids
  have := h.first
  have hmedal : decide (id < coopMedalFirst) = false := decide_eq_false (by omega)
  have hsource : ((collectible e id).source == some f.map) = false := beq_eq_false_iff_ne.mpr h.far
  rw [creditWaits, hsource, hmedal, Bool.false_and, Bool.and_false, Bool.false_and, Bool.or_false,
    Bool.or_false]

theorem deriveMedal (st' : ApplyState) : deriveMedal e st' id = st' := by
  have hgolden : counterField e id = .golden := if_pos h.banana
  unfold Coop.deriveMedal
  exact if_pos (.inl (by rw [hgolden]; decide))

/-- The banana is credited where the save is safe, the HUD is up and the write is not cancelled. -/
theorem applyCollectible (hnew : coopItemOwned st.w.save id = false)
    (hgoing : (applyCollectible e f mode st id).broke = false) :
    coopItemOwned (applyCollectible e f mode st id).w.save id = true ↔
      mode.safeToSave = true ∧ f.hud = true ∧ e.cancelled id (coopItemFlag id) = false := by
  have := ids
  have hlast := h.last
  obtain ⟨x, hx⟩ := Option.isSome_iff_exists.mp h.flag
  have hplace : ¬ (id = coopArcadeCoinsPaid ∧ (¬ mode.safeToSave = true ∨ f.level = 2)) := by omega
  unfold Coop.applyCollectible at hgoing ⊢
  rw [if_neg hplace, h.counted, h.waits] at hgoing ⊢
  by_cases hgate : (!mode.safeToSave || !f.hud) = true
  · rw [if_pos ⟨rfl, hgate⟩, hnew]
    simp only [Bool.or_eq_true, Bool.not_eq_true'] at hgate
    constructor
    · exact fun hown => absurd hown Bool.false_ne_true
    · rintro ⟨hsafe, hhud, -⟩
      rw [hsafe, hhud] at hgate
      simp at hgate
  rw [if_neg fun hg => hgate hg.2] at hgoing ⊢
  by_cases hover : creditOverflows e st.w.save id = true
  · rw [if_pos ⟨rfl, hover⟩] at hgoing
    cases hgoing
  rw [if_neg fun ho => hover ho.2, h.pickup, if_neg Bool.false_ne_true]
  simp only [Bool.or_eq_true, Bool.not_eq_true', not_or, Bool.not_eq_false] at hgate
  have hwrite := owned_setFlag e h.flag hnew
  by_cases hcancel : e.cancelled id (coopItemFlag id) = false
  swap
  · have hread : ¬ coopItemOwned (e.setFlag id st.w (coopItemFlag id)).save id = true :=
      fun hown => hcancel (hwrite.mp hown)
    dsimp only
    rw [if_pos hread]
    exact ⟨fun hown => absurd hown hread, fun hown => absurd hown.2.2 hcancel⟩
  have hread := hwrite.mpr hcancel
  have hprogress : (e.setFlag id st.w (coopItemFlag id)).save.characterProgress
      = st.w.save.characterProgress := by
    rcases setFlag_save (e := e) id st.w (coopItemFlag id) with hs | hs
    · rw [hs]
    · rw [hs]
      rfl
  dsimp only
  rw [if_neg (not_not_intro hread), if_pos rfl, creditDisturbed_of_eq hprogress,
    if_neg Bool.false_ne_true, if_pos h.banana, h.rainbow, if_neg Bool.false_ne_true, h.deriveMedal,
    if_neg h.far]
  rw [owned_iff_flag hx] at hread
  have hcredited : coopItemOwned (creditCounter e (e.setFlag id st.w (coopItemFlag id)).save id) id
      = true := by
    rw [owned_iff_flag hx, flag_credit, hread]
  exact ⟨fun _ => ⟨hgate.1, hgate.2, hcancel⟩, fun _ => hcredited⟩

theorem applyItem (hnew : coopItemOwned st.w.save id = false)
    (hgoing : (applyItem e f mode st id).broke = false) :
    coopItemOwned (applyItem e f mode st id).w.save id = true ↔
      coopItemHas st.g.result.apply id = true ∧ mode.liveOnly = false
        ∧ mode.safeToSave = true ∧ f.hud = true ∧ e.cancelled id (coopItemFlag id) = false := by
  have := ids
  have hlast := h.last
  have hexact : exactLiveWorld f mode id = false := by
    rw [exactLiveWorld, decide_eq_false (by omega)]
    rfl
  have hstart := going_before hgoing
  unfold Coop.applyItem at hgoing ⊢
  rw [if_neg (by rw [hstart]; simp)] at hgoing ⊢
  by_cases hhas : coopItemHas st.g.result.apply id = true
  swap
  · rw [if_pos (.inl hhas), hnew]
    simp [hhas]
  rw [if_neg (by rw [hhas, hnew]; simp)] at hgoing ⊢
  by_cases hlive : mode.liveOnly = true
  · rw [if_pos ⟨hlive, by rw [hexact]; simp⟩, hnew, hlive]
    simp
  rw [if_neg fun hl => hlive hl.1, if_neg (by omega), if_neg (by omega)] at hgoing ⊢
  rw [h.applyCollectible hnew hgoing]
  exact ⟨fun hown => ⟨hhas, by simpa using hlive, hown⟩, fun hown => hown.2.2⟩

end FarBanana

/-- The Arcade's golden banana is taken in the Arcade's room. -/
theorem farBanana_arcade (hmap : f.map ≠ 26) : FarBanana e f (coopGbFirst + 54) := by
  have := ids
  refine ⟨by omega, by omega, by decide, by decide, ?_⟩
  obtain ⟨id, hid⟩ : ∃ id, id = coopGbFirst + 54 := ⟨_, rfl⟩
  have hpickup : isPickup id = false := by
    rw [hid]
    decide
  have hactor : isActor id = false := by
    rw [hid]
    decide
  have hne : id ≠ coopJapesBoulderBunch := by omega
  have hsource : (collectible e id).source = some 26 := by
    unfold collectible
    rw [hpickup, hactor, if_neg Bool.false_ne_true, if_neg Bool.false_ne_true, if_neg hne, hid]
    decide
  rw [← hid, hsource]
  exact fun h => hmap (Option.some.inj h).symm

/-! ## The prerequisites at the end of the walk -/

/-- What is owned from the start stays so. -/
theorem reached_grows (h : coopItemOwned w.save id = true) (n : Nat) :
    coopItemOwned (reached e f mode g w n).w.save id = true :=
  reached_preserves (P := fun s => coopItemOwned s id = true) (fun ht h => ht.grows.owned h) h n

theorem requires_lobby : coopItemRequires s coopLobby = true := by
  have := ids
  have := progressionIds
  rw [coopItemRequires, if_neg (by omega), if_neg (by omega), if_neg (by omega), if_neg (by omega),
    if_neg (by omega), if_neg (by omega), if_neg (by omega), if_neg (by omega), if_neg (by omega)]

section Walk

variable (hg : g.counterError = false) (hlive : mode.liveOnly = false)
include hg hlive

/-- A key is there exactly when it was owned or is granted and gets through. -/
theorem arrives_key (hid : 70 ≤ id ∧ id < 78) (hn : id < n)
    (hgoing : (reached e f mode g w n).broke = false) :
    coopItemOwned (reached e f mode g w n).w.save id = true ↔ Arrives e g w id := by
  have := ids
  have hkeys : ∀ i < 8, (coopItemFlag (70 + i)).isSome ∧ counted (70 + i) = false
      ∧ isPickup (70 + i) = false := by decide
  obtain ⟨i, hi, rfl⟩ : ∃ i < 8, id = 70 + i := ⟨id - 70, by omega, by omega⟩
  obtain ⟨hflag, hcounted, hpickup⟩ := hkeys i hi
  have hmedal : ∀ level < 7, ∀ kong < 5, 70 + i ≠ medalId level kong := by
    intro level _ kong _
    unfold medalId
    omega
  have hresult : (reached e f mode g w (70 + i)).g.result = g.result := (reached_turned e f hg (70 + i)).1
  unfold Arrives
  by_cases hown : coopItemOwned w.save (70 + i) = true
  · exact ⟨fun _ => .inl hown, fun _ => reached_grows hown n⟩
  have hnew : coopItemOwned (reached e f mode g w (70 + i)).w.save (70 + i) = false := by
    rw [reached_owned hflag hmedal, if_pos (Nat.le_refl _)]
    simpa using hown
  rw [reached_owned hflag hmedal, if_neg (by omega),
    applyItem_plain ⟨hflag, hcounted, hpickup, .inl (by omega)⟩ hnew]
  unfold PlainWrite Passes
  rw [hresult]
  constructor
  · exact fun h => .inr ⟨h.2.1, h.2.2.2.2.2⟩
  · intro h
    obtain ⟨hhas, hcancel⟩ := h.resolve_left hown
    exact ⟨reached_going (by omega) hgoing, hhas, hnew, hlive, fun h => by omega, hcancel⟩

/-- The lobby, a key turned in or K. Lumsy. -/
theorem arrives_story (hid : coopLobby ≤ id ∧ id ≤ coopKlumsyFree) (hn : id < n)
    (hgoing : (reached e f mode g w n).broke = false) :
    coopItemOwned (reached e f mode g w n).w.save id = true ↔
      coopItemOwned w.save id = true
      ∨ Passes e g id ∧ (mode.safeToSave = true ∧ f.hud = true ∧ f.level < 7)
        ∧ coopItemRequires (reached e f mode g w id).w.save id = true := by
  have := ids
  have := progressionIds
  have hflag : (coopItemFlag id).isSome := by
    rw [← progressionFlag_eq (by omega) (by omega)]
    exact progressionFlag_isSome (by omega) (by omega) (.inl (by omega))
  have hmedal : ∀ level < 7, ∀ kong < 5, id ≠ medalId level kong := by
    intro level _ kong _
    unfold medalId
    omega
  have hresult : (reached e f mode g w id).g.result = g.result := (reached_turned e f hg id).1
  by_cases hown : coopItemOwned w.save id = true
  · exact ⟨fun _ => .inl hown, fun _ => reached_grows hown n⟩
  have hnew : coopItemOwned (reached e f mode g w id).w.save id = false := by
    rw [reached_owned hflag hmedal, if_pos (Nat.le_refl _)]
    simpa using hown
  have hturn : (applyItem e f mode (reached e f mode g w id) id).broke = false := by
    rw [← reached_succ]
    exact reached_going hn hgoing
  rw [reached_owned hflag hmedal, if_neg (by omega), applyItem_story hid hnew hturn, hresult]
  unfold Passes
  constructor
  · rintro ⟨hhas, -, hsafe, hframe, hreq, hcancel⟩
    exact .inr ⟨⟨hhas, hcancel⟩, ⟨hsafe, hframe⟩, hreq⟩
  · intro h
    obtain ⟨⟨hhas, hcancel⟩, ⟨hsafe, hframe⟩, hreq⟩ := h.resolve_left hown
    exact ⟨hhas, hlive, hsafe, hframe, hreq, hcancel⟩

/-- **K. Lumsy is free at K. Rool's turn exactly when he arrives.** -/
theorem klumsy_arrives (hclosed : ClosedSave w.save)
    (hgoing : (reached e f mode g w coopKroolDefeated).broke = false) :
    coopItemOwned (reached e f mode g w coopKroolDefeated).w.save coopKlumsyFree = true
      ↔ KlumsyArrives e f mode g w := by
  have := ids
  have := progressionIds
  have hstory : ∀ {id n : Nat}, coopLobby ≤ id ∧ id ≤ coopKlumsyFree → id < n → n ≤ coopKroolDefeated →
      (coopItemOwned (reached e f mode g w n).w.save id = true ↔ coopItemOwned w.save id = true
        ∨ Passes e g id ∧ (mode.safeToSave = true ∧ f.hud = true ∧ f.level < 7)
          ∧ coopItemRequires (reached e f mode g w id).w.save id = true) :=
    fun hid hn hm => arrives_story hg hlive hid hn (reached_going hm hgoing)
  have hkey : ∀ {i : Nat}, i < 8 → (coopItemOwned (reached e f mode g w (coopKeyTurnFirst + i)).w.save
      (70 + i) = true ↔ Arrives e g w (70 + i)) :=
    fun hi => arrives_key hg hlive (by omega) (by omega) (reached_going (by omega) hgoing)
  rw [hstory ⟨by omega, Nat.le_refl _⟩ (by omega) (Nat.le_refl _), requires_klumsy, Bool.and_eq_true,
    List.all_eq_true]
  unfold KlumsyArrives klumsyRoute
  by_cases hown : coopItemOwned w.save coopKlumsyFree = true
  · exact ⟨fun _ => .inl hown, fun _ => .inl hown⟩
  rw [or_iff_right hown, or_iff_right hown]
  constructor
  · rintro ⟨hpass, hframe, hlobby, hturns⟩
    refine ⟨hframe, fun id hid => ?_⟩
    have hturn : ∀ i < 8, coopItemOwned w.save (coopKeyTurnFirst + i) = true
        ∨ Passes e g (coopKeyTurnFirst + i) ∧ coopItemRequires
          (reached e f mode g w (coopKeyTurnFirst + i)).w.save (coopKeyTurnFirst + i) = true := by
      intro i hi
      have h := (hstory (by omega) (by omega) (by omega)).mp (hturns i (List.mem_range.mpr hi))
      exact h.imp_right fun h => ⟨h.1, h.2.2⟩
    simp only [List.mem_append, List.mem_cons, List.mem_range'_1, List.not_mem_nil, or_false] at hid
    rcases hid with (hid | rfl | hid) | rfl
    · obtain ⟨i, hi, rfl⟩ : ∃ i < 8, id = 70 + i := ⟨id - 70, by omega, by omega⟩
      rcases hturn i hi with hown | ⟨-, hreq⟩
      · -- a key that is turned in is owned
        have hreq := (requires_turn hi).symm.trans (hclosed _ hown)
        exact .inl (Bool.and_eq_true _ _ ▸ hreq).1
      · rw [requires_turn hi, Bool.and_eq_true] at hreq
        exact (hkey hi).mp hreq.1
    · exact ((hstory (by omega) (by omega) (by omega)).mp hlobby).imp_right fun h => h.1
    · obtain ⟨i, hi, rfl⟩ : ∃ i < 8, id = coopKeyTurnFirst + i :=
        ⟨id - coopKeyTurnFirst, by omega, by omega⟩
      exact (hturn i hi).imp_right fun h => h.1
    · exact .inr hpass
  · rintro ⟨hframe, hall⟩
    simp only [List.mem_append, List.mem_cons, List.mem_range'_1, List.not_mem_nil, or_false] at hall
    have hlobby : ∀ n ≤ coopKroolDefeated, coopLobby < n →
        coopItemOwned (reached e f mode g w n).w.save coopLobby = true := by
      intro n hn hlt
      refine (hstory (by omega) hlt hn).mpr ?_
      exact (hall _ (.inl (.inr (.inl rfl)))).imp_right fun h => ⟨h, hframe, requires_lobby⟩
    refine ⟨?_, hframe, hlobby _ (by omega) (by omega), fun i hi => ?_⟩
    · exact (hall _ (.inr rfl)).resolve_left hown
    · have hi := List.mem_range.mp hi
      refine (hstory (by omega) (by omega) (by omega)).mpr ?_
      refine (hall _ (.inl (.inr (.inr (by omega))))).imp_right fun h => ⟨h, hframe, ?_⟩
      rw [requires_turn hi, Bool.and_eq_true]
      exact ⟨(hkey hi).mpr (hall _ (.inl (.inl (by omega)))), hlobby _ (by omega) (by omega)⟩

/-- **The paid Arcade's prerequisites are there at its turn exactly when they arrive.** -/
theorem arcade_arrives (hmap : f.map ≠ 26) (hlevel : f.level ≠ 2) (hsafe : mode.safeToSave = true)
    (hgoing : (reached e f mode g w coopArcadeCoinsPaid).broke = false) :
    coopItemRequires (reached e f mode g w coopArcadeCoinsPaid).w.save coopArcadeCoinsPaid = true
      ↔ ArcadeArrives e f g w := by
  have := ids
  have hlever : coopFactoryArcadeLever = 2309 := by decide
  have hflags : (coopItemFlag coopFactoryArcadeLever).isSome ∧ (coopItemFlag (coopGbFirst + 54)).isSome :=
    by decide
  have hmedal : ∀ id, coopGbFirst ≤ id → ∀ level < 7, ∀ kong < 5, id ≠ medalId level kong := by
    intro id hid level _ kong _
    unfold medalId
    omega
  have harrives : ∀ id, (coopItemFlag id).isSome → coopGbFirst ≤ id → id < coopArcadeCoinsPaid →
      (coopItemOwned (reached e f mode g w id).w.save id = false →
        (applyItem e f mode (reached e f mode g w id) id).broke = false →
        (coopItemOwned (applyItem e f mode (reached e f mode g w id) id).w.save id = true ↔
          coopItemHas (reached e f mode g w id).g.result.apply id = true ∧ mode.liveOnly = false
            ∧ mode.safeToSave = true ∧ f.hud = true ∧ e.cancelled id (coopItemFlag id) = false)) →
      (coopItemOwned (reached e f mode g w coopArcadeCoinsPaid).w.save id = true
        ↔ coopItemOwned w.save id = true ∨ f.hud = true ∧ Passes e g id) := by
    intro id hflag hfirst hlt hturn
    by_cases hown : coopItemOwned w.save id = true
    · exact ⟨fun _ => .inl hown, fun _ => reached_grows hown _⟩
    have hnew : coopItemOwned (reached e f mode g w id).w.save id = false := by
      rw [reached_owned hflag (hmedal id hfirst), if_pos (Nat.le_refl _)]
      simpa using hown
    have hgo : (applyItem e f mode (reached e f mode g w id) id).broke = false := by
      rw [← reached_succ]
      exact reached_going hlt hgoing
    have hresult : (reached e f mode g w id).g.result = g.result := (reached_turned e f hg id).1
    rw [reached_owned hflag (hmedal id hfirst), if_neg (by omega), hturn hnew hgo, hresult,
      or_iff_right hown]
    exact ⟨fun h => ⟨h.2.2.2.1, h.1, h.2.2.2.2⟩, fun h => ⟨h.2.1, hlive, hsafe, h.1, h.2.2⟩⟩
  rw [requires_arcade, Bool.and_eq_true,
    harrives _ hflags.1 (by omega) (by omega) (applyItem_lever hmap hlevel),
    harrives _ hflags.2 (by omega) (by omega) (farBanana_arcade hmap).applyItem]
  constructor
  · rintro ⟨h1, h2⟩ id (rfl | rfl)
    · exact h1
    · exact h2
  · exact fun h => ⟨h _ (.inl rfl), h _ (.inr rfl)⟩

end Walk

/-! ## The call -/

/-- A late id is written too early exactly when it is late and its prerequisites are not there. -/
theorem writesTooEarly_iff (hg : g.counterError = false)
    (hid : id = coopKroolDefeated ∨ id = coopArcadeCoinsPaid) :
    WritesTooEarly e f mode (reached e f mode g w id) id ↔
      (reached e f mode g w id).broke = false ∧ Late e mode g w id
        ∧ (id = coopArcadeCoinsPaid → mode.safeToSave = true ∧ f.level ≠ 2)
        ∧ coopItemRequires (reached e f mode g w id).w.save id = false := by
  have := ids
  have hmedal : ∀ level < 7, ∀ kong < 5, id ≠ medalId level kong := by
    intro level _ kong _
    unfold medalId
    omega
  have hresult : (reached e f mode g w id).g.result = g.result := (reached_turned e f hg id).1
  unfold WritesTooEarly PlainWrite Late Passes
  rw [reached_owned (plainId_late hid).flag hmedal, if_pos (Nat.le_refl _), hresult]
  tauto

theorem krool_timely (hg : g.counterError = false) (hclosed : ClosedSave w.save)
    (hgoing : (reached e f mode g w coopKroolDefeated).broke = false) :
    (Late e mode g w coopKroolDefeated → KlumsyArrives e f mode g w)
      ↔ ¬ WritesTooEarly e f mode (reached e f mode g w coopKroolDefeated) coopKroolDefeated := by
  have := ids
  rw [writesTooEarly_iff hg (.inl rfl), requires_krool]
  constructor
  · rintro h ⟨-, hlate, -, hreq⟩
    rw [(klumsy_arrives hg hlate.2.1 hclosed hgoing).mpr (h hlate)] at hreq
    cases hreq
  · intro h hlate
    refine (klumsy_arrives hg hlate.2.1 hclosed hgoing).mp ?_
    by_contra hreq
    exact h ⟨hgoing, hlate, fun he => by omega, by simpa using hreq⟩

theorem arcade_timely (hg : g.counterError = false) (hlevel : f.map = 26 → f.level = 2)
    (hgoing : (reached e f mode g w coopArcadeCoinsPaid).broke = false) :
    (Late e mode g w coopArcadeCoinsPaid → mode.safeToSave = true → f.level ≠ 2 → ArcadeArrives e f g w)
      ↔ ¬ WritesTooEarly e f mode (reached e f mode g w coopArcadeCoinsPaid) coopArcadeCoinsPaid := by
  rw [writesTooEarly_iff hg (.inr rfl)]
  have hmap : f.level ≠ 2 → f.map ≠ 26 := fun hne h => hne (hlevel h)
  constructor
  · rintro h ⟨-, hlate, hplace, hreq⟩
    obtain ⟨hsafe, hne⟩ := hplace rfl
    rw [(arcade_arrives hg hlate.2.1 (hmap hne) hne hsafe hgoing).mpr (h hlate hsafe hne)] at hreq
    cases hreq
  · intro h hlate hsafe hne
    refine (arcade_arrives hg hlate.2.1 (hmap hne) hne hsafe hgoing).mp ?_
    by_contra hreq
    exact h ⟨hgoing, hlate, fun _ => ⟨hsafe, hne⟩, by simpa using hreq⟩

/-- A timely input leaves no late write too early. -/
theorem Timely.none_early (h : Timely e f mode g w) (hg : g.counterError = false)
    (hlevel : f.map = 26 → f.level = 2) (hclosed : ClosedSave w.save)
    (hid : id = coopKroolDefeated ∨ id = coopArcadeCoinsPaid) :
    ¬ WritesTooEarly e f mode (reached e f mode g w id) id := by
  intro hearly
  have hgoing : (reached e f mode g w id).broke = false := hearly.1.1
  rcases hid with rfl | rfl
  · exact (krool_timely hg hclosed hgoing).mp h.krool hearly
  · exact (arcade_timely hg hlevel hgoing).mp h.arcade hearly

/-- The turn of a late id meets no counter error. -/
theorem applyItem_late_broke (hid : id = coopKroolDefeated ∨ id = coopArcadeCoinsPaid) :
    (applyItem e f mode st id).broke = st.broke := by
  have := ids
  obtain ⟨-, hcounted, hpickup, -⟩ := plainId_late hid
  unfold applyItem
  split
  · rfl
  split
  · rfl
  split
  · rfl
  rw [if_neg (by omega), if_neg (by omega), applyCollectible, hcounted, hpickup]
  split
  · rfl
  rw [if_neg fun h => absurd h.1 Bool.false_ne_true, if_neg fun h => absurd h.1 Bool.false_ne_true]
  simp only [Bool.false_eq_true, if_false]
  split <;> rfl

/-- A walk ended by a counter error has written no late id. -/
theorem none_early_of_broke (hbroke : (reached e f mode g w coopItems).broke = true)
    (hid : id = coopKroolDefeated ∨ id = coopArcadeCoinsPaid) :
    ¬ WritesTooEarly e f mode (reached e f mode g w id) id := by
  have harcade : (reached e f mode g w coopArcadeCoinsPaid).broke = true := by
    have hlast : reached e f mode g w coopItems
        = applyItem e f mode (reached e f mode g w coopArcadeCoinsPaid) coopArcadeCoinsPaid :=
      reached_succ e f mode g w coopArcadeCoinsPaid
    rw [hlast, applyItem_late_broke (.inr rfl)] at hbroke
    exact hbroke
  have hbefore : (reached e f mode g w id).broke = true := by
    rcases hid with rfl | rfl
    · rw [reached_arcade, applyItem_late_broke (.inl rfl)] at harcade
      exact harcade
    · exact harcade
  rintro ⟨hwrite, -⟩
  rw [hwrite.1] at hbefore
  cases hbefore

theorem deriveTraining_error : (deriveTraining e f mode st).g.counterError = st.g.counterError := by
  unfold deriveTraining
  split
  · dsimp only
    split
    · exact (note_kept st.g coopTrainingComplete).1
    · rfl
  · rfl

theorem finishApply_error : (finishApply f mode st).g.counterError = st.g.counterError := by
  unfold finishApply
  dsimp only
  split <;> rfl

/-- The end of the call leaves the counter error as the walk left it. -/
theorem coopItemsApply_error (safeToSave : Bool)
    (hwaits : ¬ applyWaits f (applyMode f g safeToSave) g w.save = true)
    (hsynced : g.result.synced = true) : (coopItemsApply e f g w safeToSave).g.counterError
      = (reached e f (applyMode f g safeToSave) g w coopItems).g.counterError := by
  have hend : ∀ st : ApplyState, (finishApply f (applyMode f g safeToSave)
      { deriveTraining e f (applyMode f g safeToSave) st with
        g := { (deriveTraining e f (applyMode f g safeToSave) st).g with applying := false } }).g.counterError
      = st.g.counterError := fun st => finishApply_error.trans deriveTraining_error
  rw [coopItemsApply]
  dsimp only
  rw [if_neg hwaits, if_pos hsynced, hend, walk_reached]

variable (e f) in
/-- The input of a call: the walk is not made, or writes no late id without its prerequisites. -/
def TimelyCall (g : CoopItems) (w : ItemsWorld) (safeToSave : Bool) : Prop :=
  applyWaits f (applyMode f g safeToSave) g w.save = false → g.result.synced = true →
    Timely e f (applyMode f g safeToSave) g w

variable (e f) in
/-- **When applying a peer's items keeps the inventory closed under its prerequisites**: on a timely
input always, and on any other input only when a counter error, which ends the session, stops the walk
before the late ids. Map 26 is Frantic Factory, which is level 2. -/
theorem apply_closed_iff (g : CoopItems) (w : ItemsWorld) (safeToSave : Bool)
    (hlevel : f.map = 26 → f.level = 2)
    (hclosed : coopItemsFullDependencies (ownedWords w.save) = true) :
    (TimelyCall e f g w safeToSave →
      coopItemsFullDependencies (ownedWords (coopItemsApply e f g w safeToSave).w.save) = true)
    ∧ (¬ TimelyCall e f g w safeToSave →
      (coopItemsFullDependencies (ownedWords (coopItemsApply e f g w safeToSave).w.save) = true ↔
        (coopItemsApply e f g w safeToSave).g.counterError = true)) := by
  rw [fullDependencies_iff] at hclosed ⊢
  rw [coopItemsApply_world]
  by_cases hwait : applyWaits f (applyMode f g safeToSave) g w.save = true
  · rw [if_pos hwait]
    exact ⟨fun _ => hclosed, fun h => absurd (fun hw => by rw [hwait] at hw; cases hw) h⟩
  have hwaits := Bool.eq_false_iff.mpr hwait
  by_cases hsynced : g.result.synced = true
  swap
  · rw [if_neg hwait, if_neg hsynced]
    exact ⟨fun _ => hclosed, fun h => absurd (fun _ hs => absurd hs hsynced) h⟩
  rw [if_neg hwait, if_pos hsynced, coopItemsApply_error safeToSave hwait hsynced]
  have hg : g.counterError = false := by
    simp only [applyWaits, Bool.or_eq_false_iff] at hwaits
    exact hwaits.1.2
  refine ⟨fun h => closed_of_timely hclosed fun id hid =>
    (h hwaits hsynced).none_early hg hlevel hclosed hid, fun huntimely => ⟨fun hc => ?_, fun herror => ?_⟩⟩
  · by_contra hno
    have hend : (reached e f (applyMode f g safeToSave) g w coopItems).broke = false :=
      (reached_turned e f hg coopItems).2.trans (by simpa using hno)
    have hgoing : ∀ n ≤ coopItems, (reached e f (applyMode f g safeToSave) g w n).broke = false :=
      fun n hn => reached_going hn hend
    have := ids
    refine huntimely fun _ _ => ⟨?_, ?_⟩
    · exact (krool_timely hg hclosed (hgoing _ (by omega))).mpr
        fun hearly => unclosed_of_early (.inl rfl) hearly hc
    · exact (arcade_timely hg hlevel (hgoing _ (by omega))).mpr
        fun hearly => unclosed_of_early (.inr rfl) hearly hc
  · have hbroke : (reached e f (applyMode f g safeToSave) g w coopItems).broke = true :=
      (reached_turned e f hg coopItems).2.trans herror
    exact closed_of_timely hclosed fun id hid => none_early_of_broke hbroke hid

/-- The player has walked on into a map of Jungle Japes. -/
def japes : ItemsFrame := { isles with map := 7, level := 0 }

/-- In the Isles K. Lumsy's freedom has to wait. -/
theorem isles_untimely : ¬ TimelyCall plainEngine isles islesGame islesWorld true := by
  intro h
  have hlate : Late plainEngine (applyMode isles islesGame true) islesGame islesWorld
      coopKroolDefeated :=
    ⟨rfl, rfl, islesApply_has.mpr (.inr rfl), rfl⟩
  rcases (h (by decide) rfl).krool hlate with hfree | ⟨⟨-, -, hlevel⟩, -⟩
  · cases hfree
  · exact absurd hlevel (by decide)

/-- In Jungle Japes it is written at its turn, before K. Rool's defeat. -/
theorem japes_timely : TimelyCall plainEngine japes islesGame islesWorld true := by
  intro _ _
  have := ids
  have := progressionIds
  refine ⟨fun _ => .inr ⟨⟨rfl, rfl, by decide⟩, ?_⟩, fun hlate => ?_⟩
  · have howned : ∀ id ∈ klumsyRoute, id = coopKlumsyFree ∨ coopItemOwned islesSave id = true := by
      decide
    intro id hid
    rcases howned id hid with rfl | h
    · exact .inr ⟨islesApply_has.mpr (.inl rfl), rfl⟩
    · exact .inl h
  · rcases islesApply_has.mp hlate.2.2.1 with h | h
    · omega
    · omega

/-- The same grants break the save in the Isles and keep it closed in Jungle Japes. -/
theorem apply_closed_iff_isles :
    (coopItemsFullDependencies
        (ownedWords (coopItemsApply plainEngine isles islesGame islesWorld true).w.save) = true ↔
      (coopItemsApply plainEngine isles islesGame islesWorld true).g.counterError = true)
    ∧ coopItemsFullDependencies
      (ownedWords (coopItemsApply plainEngine japes islesGame islesWorld true).w.save) = true :=
  have hclosed := fullDependencies_iff.mpr islesSave_closed
  ⟨(apply_closed_iff plainEngine isles islesGame islesWorld true (fun h => by cases h) hclosed).2
      isles_untimely,
    (apply_closed_iff plainEngine japes islesGame islesWorld true (fun h => by cases h) hclosed).1 japes_timely⟩

end Dk64Port.Coop
