import Dk64Port.Coop.ItemsDependencies

/-!
# Applied items and their prerequisites (`mod/items_game.h`)

Every id but the last two is written after its requirement was looked at.

* `SaveTurn.closed`: a turn keeps a save closed, unless it is one of the last two ids written too
  early.
* `closed_of_timely`, `unclosed_of_early`: so does the walk, and only such a write breaks it.
* `isles_unclosed`: K. Rool's defeat arrives in the Isles before K. Lumsy is free.
-/

namespace Dk64Port.Coop

variable {e : ItemsEngine} {f : ItemsFrame} {mode : ApplyMode} {id : Nat} {s s' : GameSave}
  {st : ApplyState}

/-! ## One turn -/

/-- The ids that may require something. -/
theorem requires_range (h : coopItemRequires s id = false) : (80 ≤ id ∧ id < 120)
    ∨ (2146 ≤ id ∧ id < 2155) ∨ (2192 ≤ id ∧ id < 2394) ∨ id = 5895 ∨ id = 5896 := by
  have := ids
  have := progressionIds
  have hcount : coopSnideCount = 40 := rfl
  have hlengths : coopWorldUnlocks.length = 100 ∧ coopWarpTags.length = 87 := by decide
  rcases requires_cases h with ⟨i, hi, rfl⟩ | ⟨i, hi, rfl⟩ | rfl | ⟨i, hi, rfl⟩ | hid
    | ⟨i, tag, ht, rfl⟩ | ⟨i, unlock, hu, rfl⟩ | rfl | rfl
  · omega
  · omega
  · omega
  · omega
  · omega
  · have := (List.getElem?_eq_some_iff.mp ht).1
    omega
  · have := (List.getElem?_eq_some_iff.mp hu).1
    omega
  · omega
  · omega

/-- An id that may not be owned freely has a flag, and is no medal. -/
theorem flag_of_requires (h : coopItemRequires s id = false) :
    (coopItemFlag id).isSome ∧ ∀ level < 7, ∀ kong < 5, id ≠ medalId level kong := by
  have := ids
  have hrange := requires_range h
  refine ⟨?_, fun level hlevel kong hkong => ?_⟩
  · by_cases hprog : coopProgressionFirst ≤ id ∧ id < coopProgressionEnd
    · rw [← progressionFlag_eq hprog.1 hprog.2]
      exact progressionFlag_isSome hprog.1 hprog.2 (by omega)
    · have hp : ¬ isPickup id = true := by
        simp only [isPickup, decide_eq_true_eq]
        omega
      exact (flag_or_pickup (by omega) (by omega)).resolve_right hp
  · unfold medalId
    omega

/-- **A turn keeps the save closed, unless it writes one of the last two ids too early.** -/
theorem SaveTurn.closed (h : SaveTurn e id s s') (hc : ClosedSave s)
    (hlast : id = coopKroolDefeated ∨ id = coopArcadeCoinsPaid → coopItemOwned s id = false →
      coopItemOwned s' id = true → coopItemRequires s id = true) : ClosedSave s' := by
  intro j hj
  by_contra hreq
  have hmono : coopItemRequires s j = true → coopItemRequires s' j = true :=
    requires_mono h.grows.flag
  obtain ⟨hflag, hmedal⟩ := flag_of_requires (Bool.eq_false_iff.mpr hreq)
  obtain ⟨x, hx⟩ := Option.isSome_iff_exists.mp hflag
  have hset : s'.flag x = true := owned_iff_flag hx ▸ hj
  have hold : coopItemOwned s j = false := by
    by_contra hold
    exact hreq (hmono (hc j (by simpa using hold)))
  rcases h.new_flag hset with hs | hid | ⟨level, hlevel, kong, hkong, hm⟩
  · rw [owned_iff_flag hx, hs] at hold
    cases hold
  · obtain rfl := coopItemFlag_injective hx hid
    apply hreq
    cases h with
    | same =>
      rw [hold] at hj
      cases hj
    | flag _ _ _ hslam hrequires =>
      by_cases hl : j = coopKroolDefeated ∨ j = coopArcadeCoinsPaid
      · exact hmono (hlast hl hold hj)
      · push Not at hl
        exact hmono (hrequires hl.1 hl.2)
    | slam _ _ hrequires => exact hmono hrequires
    | tier hid hslam =>
      have := ids
      have hcases := id_cases hx
      omega
    | feed level kong hid =>
      have := ids
      have hcases := id_cases hx
      have hrange : coopTroffFirst ≤ j ∧ j < coopTroffEnd := by
        by_contra hn
        rw [coopTroffBucket, if_pos (by omega)] at hid
        cases hid
      omega
    | credit _ _ hblueprint => exact hmono hblueprint
    | medal _ _ hblueprint => exact hmono hblueprint
  · exact hmedal level hlevel kong hkong (coopItemFlag_injective hx hm)

/-! ## The last two ids -/

variable (e f mode)

/-- An id that is neither progression nor credited to a counter: its turn sets its flag. -/
structure PlainId (id : Nat) : Prop where
  flag : (coopItemFlag id).isSome
  counted : counted id = false
  pickup : isPickup id = false
  range : id < coopProgressionFirst ∨ coopTroffEnd ≤ id

/-- The turn of such an id writes it. -/
def PlainWrite (st : ApplyState) (id : Nat) : Prop :=
  st.broke = false ∧ coopItemHas st.g.result.apply id = true ∧ coopItemOwned st.w.save id = false
    ∧ mode.liveOnly = false ∧ (id = coopArcadeCoinsPaid → mode.safeToSave = true ∧ f.level ≠ 2)
    ∧ e.cancelled id (coopItemFlag id) = false

/-- It does so although the save does not own what the id requires. -/
def WritesTooEarly (st : ApplyState) (id : Nat) : Prop :=
  PlainWrite e f mode st id ∧ coopItemRequires st.w.save id = false

variable {e f mode}

theorem plainId_late (h : id = coopKroolDefeated ∨ id = coopArcadeCoinsPaid) : PlainId id := by
  have := ids
  rcases h with rfl | rfl
  · exact ⟨by decide, by decide, by decide, .inr (by omega)⟩
  · exact ⟨by decide, by decide, by decide, .inr (by omega)⟩

theorem applyItem_plain (h : PlainId id) (hnew : coopItemOwned st.w.save id = false) :
    coopItemOwned (applyItem e f mode st id).w.save id = true ↔ PlainWrite e f mode st id := by
  have := ids
  obtain ⟨hflag, hcounted, hpickup, hrange⟩ := h
  obtain ⟨x, hx⟩ := Option.isSome_iff_exists.mp hflag
  have hexact : exactLiveWorld f mode id = false := by
    rw [exactLiveWorld, decide_eq_false (by omega)]
    rfl
  unfold applyItem PlainWrite
  by_cases hbroke : st.broke = true
  · rw [if_pos hbroke, hnew, hbroke]
    simp
  rw [if_neg hbroke, Bool.eq_false_iff.mpr hbroke]
  by_cases hhas : coopItemHas st.g.result.apply id = true
  swap
  · rw [if_pos (.inl hhas), hnew, Bool.eq_false_iff.mpr hhas]
    simp
  rw [if_neg (by rw [hhas, hnew]; simp), hhas, hnew, hexact]
  by_cases hlive : mode.liveOnly = true
  · rw [if_pos ⟨hlive, by simp⟩, hnew, hlive]
    simp
  rw [if_neg fun hl => hlive hl.1, if_neg (by omega), if_neg (by omega), applyCollectible, hcounted,
    hpickup, Bool.eq_false_iff.mpr hlive]
  by_cases hgate : id = coopArcadeCoinsPaid ∧ (¬ mode.safeToSave = true ∨ f.level = 2)
  · rw [if_pos hgate, hnew]
    have : ¬ (id = coopArcadeCoinsPaid → mode.safeToSave = true ∧ f.level ≠ 2) := by
      intro hg
      have := hg hgate.1
      grind
    simp [this]
  have hgate' : id = coopArcadeCoinsPaid → mode.safeToSave = true ∧ f.level ≠ 2 := by
    intro hid
    push Not at hgate
    exact hgate hid
  rw [if_neg hgate]
  by_cases hcancel : e.cancelled id (coopItemFlag id) = true
  · have hsave : (e.setFlag id st.w (coopItemFlag id)).save = st.w.save := if_pos hcancel
    simp [hsave, hnew, hcancel]
  · have hsave : (e.setFlag id st.w (coopItemFlag id)).save = st.w.save.raise (coopItemFlag id) :=
      if_neg hcancel
    have howned : coopItemOwned (e.setFlag id st.w (coopItemFlag id)).save id = true := by
      rw [owned_iff_flag hx, hsave, hx]
      simp [GameSave.raise]
    simpa [howned, hcancel, ApplyState.record] using hgate'

/-- What the last two ids require is set by none of the turns after theirs. -/
theorem requires_late {j : Nat} (h : SaveTurn e j s s')
    (hj : j = coopKroolDefeated ∨ j = coopArcadeCoinsPaid ∨ j = coopTrainingComplete)
    (hid : id = coopKroolDefeated ∨ id = coopArcadeCoinsPaid)
    (hr : coopItemRequires s' id = true) : coopItemRequires s id = true := by
  have hback : ∀ r, r = coopKlumsyFree ∨ r = coopFactoryArcadeLever ∨ r = coopGbFirst + 54 →
      coopItemOwned s' r = true → coopItemOwned s r = true := by
    intro r hrid ho
    have := ids
    have := progressionIds
    have hlever : coopFactoryArcadeLever = 2309 := by decide
    obtain ⟨x, hx⟩ : ∃ x, coopItemFlag r = some x := by
      rcases hrid with rfl | rfl | rfl <;> exact Option.isSome_iff_exists.mp (by decide)
    rw [owned_iff_flag hx] at ho ⊢
    rcases h.new_flag ho with hs | hjx | ⟨level, hlevel, kong, hkong, hm⟩
    · exact hs
    · have := coopItemFlag_injective hx hjx
      omega
    · have := coopItemFlag_injective hx hm
      unfold medalId at this
      omega
  rcases hid with rfl | rfl
  · rw [requires_krool] at hr ⊢
    exact hback _ (.inl rfl) hr
  · rw [requires_arcade, Bool.and_eq_true] at hr ⊢
    exact ⟨hback _ (.inr (.inl rfl)) hr.1, hback _ (.inr (.inr rfl)) hr.2⟩

/-- The turn of a late id keeps the save closed exactly when it is not too early. -/
theorem closed_late (hid : id = coopKroolDefeated ∨ id = coopArcadeCoinsPaid)
    (hc : ClosedSave st.w.save) :
    ClosedSave (applyItem e f mode st id).w.save ↔ ¬ WritesTooEarly e f mode st id := by
  have hturn : SaveTurn e id st.w.save (applyItem e f mode st id).w.save := applyItem_turn
  constructor
  · rintro hc' ⟨hwrite, hreq⟩
    have hown := (applyItem_plain (plainId_late hid) hwrite.2.2.1).mpr hwrite
    have hr := requires_late hturn (by omega) hid (hc' id hown)
    rw [hreq] at hr
    cases hr
  · intro hearly
    refine hturn.closed hc fun _ hnew hown => ?_
    by_contra hr
    exact hearly ⟨(applyItem_plain (plainId_late hid) hnew).mp hown, Bool.eq_false_iff.mpr hr⟩

/-! ## The call -/

variable (e f)

theorem reached_arcade (mode : ApplyMode) (g : CoopItems) (w : ItemsWorld) :
    reached e f mode g w coopArcadeCoinsPaid
      = applyItem e f mode (reached e f mode g w coopKroolDefeated) coopKroolDefeated :=
  reached_succ e f mode g w coopKroolDefeated

theorem walk_eq (mode : ApplyMode) (g : CoopItems) (w : ItemsWorld) :
    walk e f mode { g := { g with applying := true }, w := w }
      = applyItem e f mode (reached e f mode g w coopArcadeCoinsPaid) coopArcadeCoinsPaid :=
  reached_succ e f mode g w coopArcadeCoinsPaid

variable {e f}

/-- The walk reaches the late ids with a closed save. -/
theorem reached_closed {g : CoopItems} {w : ItemsWorld} (hclosed : ClosedSave w.save) :
    ∀ n ≤ coopKroolDefeated, ClosedSave (reached e f mode g w n).w.save := by
  have := ids
  intro n
  induction n with
  | zero => exact fun _ => hclosed
  | succ n ih =>
    intro hn
    rw [reached_succ]
    exact applyItem_turn.closed (ih (by omega)) fun hid => by omega

/-- A late write that comes too early leaves a save that is not closed. -/
theorem unclosed_of_early {g : CoopItems} {w : ItemsWorld}
    (hid : id = coopKroolDefeated ∨ id = coopArcadeCoinsPaid)
    (hearly : WritesTooEarly e f mode (reached e f mode g w id) id) :
    ¬ ClosedSave (deriveTraining e f mode
      (walk e f mode { g := { g with applying := true }, w := w })).w.save := by
  intro hc
  obtain ⟨hwrite, hreq⟩ := hearly
  have hown := (applyItem_plain (plainId_late hid) hwrite.2.2.1).mpr hwrite
  rw [walk_eq] at hc
  have harcade : SaveTurn e coopArcadeCoinsPaid (reached e f mode g w coopArcadeCoinsPaid).w.save
      (applyItem e f mode (reached e f mode g w coopArcadeCoinsPaid) coopArcadeCoinsPaid).w.save :=
    applyItem_turn
  have hlast : id = coopArcadeCoinsPaid → coopItemOwned (applyItem e f mode
      (reached e f mode g w coopArcadeCoinsPaid) coopArcadeCoinsPaid).w.save coopArcadeCoinsPaid = true :=
    fun h => by rw [h] at hown; exact hown
  generalize applyItem e f mode (reached e f mode g w coopArcadeCoinsPaid) coopArcadeCoinsPaid = last
    at hc harcade hlast
  have htraining : SaveTurn e coopTrainingComplete last.w.save (deriveTraining e f mode last).w.save :=
    deriveTraining_turn
  have hback : coopItemRequires last.w.save id = true → False := by
    intro hr
    have hprev := requires_late harcade (.inr (.inl rfl)) hid hr
    rcases hid with rfl | rfl
    · rw [reached_arcade] at hprev
      rw [requires_late applyItem_turn (.inl rfl) (.inl rfl) hprev] at hreq
      cases hreq
    · rw [hreq] at hprev
      cases hprev
  refine hback (requires_late htraining (.inr (.inr rfl)) hid (hc _ (htraining.grows.owned ?_)))
  rcases hid with rfl | rfl
  · rw [← reached_arcade] at hown
    exact harcade.grows.owned hown
  · exact hlast rfl

/-- Without such a write it is closed. -/
theorem closed_of_timely {g : CoopItems} {w : ItemsWorld} (hclosed : ClosedSave w.save)
    (htimely : ∀ id, id = coopKroolDefeated ∨ id = coopArcadeCoinsPaid →
      ¬ WritesTooEarly e f mode (reached e f mode g w id) id) :
    ClosedSave (deriveTraining e f mode
      (walk e f mode { g := { g with applying := true }, w := w })).w.save := by
  have := ids
  have := progressionIds
  have hbefore : ClosedSave (reached e f mode g w coopArcadeCoinsPaid).w.save := by
    rw [reached_arcade]
    exact (closed_late (.inl rfl) (reached_closed hclosed _ (Nat.le_refl _))).mpr
      (htimely _ (.inl rfl))
  have hafter := (closed_late (.inr rfl) hbefore).mpr (htimely _ (.inr rfl))
  rw [walk_eq]
  generalize applyItem e f mode (reached e f mode g w coopArcadeCoinsPaid) coopArcadeCoinsPaid = last
    at hafter
  exact deriveTraining_turn.closed hafter fun hid => by omega

/-! ## In the Isles -/

/-- A full capture of a save that is not closed ends the session. -/
theorem captureSafe_unclosed (layout : Nat → Nat) (g : CoopItems)
    (h : coopItemsFullDependencies (ownedWords s) = false) :
    (captureSafe g (s.view f layout)).counterError = true := by
  unfold captureSafe
  split
  · rfl
  dsimp only
  rw [if_pos (by rw [show collectItems (fun _ => 0) (s.view f layout).owned = ownedWords s from rfl, h]
                 simp)]
  rfl

/-- The ids to look at. -/
def dependentIds : List Nat :=
  List.range' 80 40 ++ List.range' 2146 9 ++ List.range' 2192 202 ++ [5895, 5896]

theorem closedSave_of_all (h : (dependentIds.all fun id =>
    !coopItemOwned s id || coopItemRequires s id) = true) : ClosedSave s := by
  intro id hown
  by_contra hreq
  have hrange := requires_range (Bool.eq_false_iff.mpr hreq)
  have hmem : id ∈ dependentIds := by
    simp only [dependentIds, List.mem_append, List.mem_range'_1, List.mem_cons, List.not_mem_nil]
    omega
  have hid := List.all_eq_true.mp h id hmem
  rw [hown, Bool.eq_false_iff.mpr hreq] at hid
  cases hid

/-- A save with the given flags and nothing else. -/
def flagSave (flags : List Nat) : GameSave where
  flag x := flags.contains x
  pickup _ := false
  characterProgress _ := ⟨fun _ => 0, 0, fun _ => 0, fun _ => 0, fun _ => 0⟩
  melons := 0
  troffTotal _ := 0

/-- The keys, the lobbies and the keys turned in. -/
def routeFlags : List Nat :=
  keyFlags ++ [0x1BB, 0x1BC, 0x1BD, 0x1BE, 0x1BF, 0x1C0, 0x1C1, 0x1C2, 0x1C3]

/-- All keys are turned in; K. Lumsy is not free yet. -/
def islesSave : GameSave := flagSave routeFlags

/-- The peer freed him and beat K. Rool. -/
def finishedSave : GameSave := flagSave (0x315 :: 0x1B0 :: routeFlags)

/-- What the peer's result grants. -/
def islesGame : CoopItems where
  input := { enabled := 1, file := 1, ready := 1, scope := 1 }
  result := { status := 2, scope := 1
              apply := setItemBit (setItemBit (fun _ => 0) coopKlumsyFree) coopKroolDefeated }
  lockedFile := 1
  baseline := true
  join := true
  bound := true

/-- The player stands in the Isles, with the HUD loaded. -/
def isles : ItemsFrame := ⟨34, 7, true, false, false, false⟩

/-- An engine that cancels no write. -/
def plainEngine : ItemsEngine where
  coopPickups _ := ⟨0, 0, 0, 0, 0⟩
  calls := Live.plainCalls
  propReady _ _ _ := true
  actorReady _ _ _ := true
  propRetire _ _ m := m
  actorRetire _ _ m := m
  rewardRetire _ m := m
  cancelled _ _ := false

theorem islesSave_closed : ClosedSave islesSave := closedSave_of_all (by decide +kernel)

theorem finishedSave_closed : ClosedSave finishedSave := closedSave_of_all (by decide +kernel)

theorem islesApply_has : coopItemHas islesGame.result.apply id = true ↔
    id = coopKlumsyFree ∨ id = coopKroolDefeated := by
  have := ids
  have := progressionIds
  rw [coopItemHas_eq_true]
  show id < coopItems ∧ itemBit (setItemBit (setItemBit (fun _ => 0) coopKlumsyFree)
    coopKroolDefeated) id = true ↔ _
  rw [itemBit_setItemBit (by decide), itemBit_setItemBit (by decide),
    show itemBit (fun _ => 0) id = false from itemBit_zero, Bool.false_or, Bool.or_eq_true,
    beq_iff_eq, beq_iff_eq]
  omega

/-- Without a flag an id is owned alike in saves that differ in flags alone. -/
theorem owned_of_flag_none (hpickup : s.pickup = s'.pickup)
    (hprogress : s.characterProgress = s'.characterProgress) (hmelons : s.melons = s'.melons)
    (h : coopItemFlag id = none) : coopItemOwned s id = coopItemOwned s' id := by
  have hids := ids
  unfold coopItemOwned
  split_ifs with h1 h2 h3 h4 h5 h6
  · subst h1
    cases h
  · subst h2
    cases h
  · subst h3
    cases h
  · rw [coopTroffOwned, coopTroffOwned, hprogress]
  · unfold coopProgressionOwned GameSave.progression
    split_ifs
    · rfl
    · rw [progressionFlag_eq h5 (by omega), h]
      rfl
    · rw [hmelons]
    · rw [hprogress]
  · rw [h]
    rfl
  · rw [hpickup]

/-- The result grants what the peer owns and the save does not. -/
theorem isles_granted (id : Nat) : coopItemHas islesGame.result.apply id
    = (coopItemOwned finishedSave id && !coopItemOwned islesSave id) := by
  have hklumsy : coopItemFlag coopKlumsyFree = some 0x315 := by decide
  have hkrool : coopItemFlag coopKroolDefeated = some 0x1B0 := by decide
  rw [Bool.eq_iff_iff, islesApply_has]
  cases h : coopItemFlag id with
  | none =>
    rw [show coopItemOwned finishedSave id = coopItemOwned islesSave id from
      owned_of_flag_none rfl rfl rfl h]
    have hne : id ≠ coopKlumsyFree ∧ id ≠ coopKroolDefeated := by
      constructor <;> rintro rfl
      · rw [hklumsy] at h
        cases h
      · rw [hkrool] at h
        cases h
    simp [hne]
  | some x =>
    have hsets : (finishedSave.flag x && !islesSave.flag x) = true ↔ x = 0x315 ∨ x = 0x1B0 := by
      have hroute : routeFlags.contains 0x315 = false ∧ routeFlags.contains 0x1B0 = false := by decide
      show ((0x315 :: 0x1B0 :: routeFlags).contains x && !routeFlags.contains x) = true ↔ _
      grind
    rw [owned_iff_flag h, owned_iff_flag h, hsets]
    constructor
    · rintro (rfl | rfl)
      · exact .inl (Option.some.inj (h.symm.trans hklumsy))
      · exact .inr (Option.some.inj (h.symm.trans hkrool))
    · rintro (rfl | rfl)
      · exact .inl (coopItemFlag_injective h hklumsy)
      · exact .inr (coopItemFlag_injective h hkrool)

/-- The walk waits with K. Lumsy, because the Isles are loaded. -/
theorem isles_waits {safe : Bool} (w : ItemsWorld) :
    coopProgressionApply plainEngine isles coopKlumsyFree safe w = (false, w) := by
  unfold coopProgressionApply
  split
  · rfl
  · rw [if_neg (by decide), if_neg (by decide), if_neg (by decide), if_neg (by decide),
      if_pos (by decide)]
    exact if_pos rfl

/-- The save with a loaded map. -/
def islesWorld : ItemsWorld := ⟨islesSave, Live.fairyIsland⟩

theorem isles_reached (mode : ApplyMode) :
    ∀ n ≤ coopKroolDefeated, reached plainEngine isles mode islesGame islesWorld n
      = { g := { islesGame with applying := true }, w := islesWorld } := by
  intro n
  induction n with
  | zero => exact fun _ => rfl
  | succ n ih =>
    intro hn
    have hids := ids
    have hprog := progressionIds
    rw [reached_succ, ih (by omega)]
    unfold applyItem
    rw [if_neg (by simp)]
    split
    · rfl
    rename_i hskip
    have hhas : coopItemHas islesGame.result.apply n = true := by
      by_contra hno
      exact hskip (.inl hno)
    obtain rfl : n = coopKlumsyFree := (islesApply_has.mp hhas).resolve_right (by omega)
    split
    · rfl
    rw [if_neg (by omega), if_pos (by omega)]
    unfold applyProgression
    dsimp only
    rw [isles_waits, if_neg (by rw [show coopProgressionValid islesWorld.save = true by decide]; simp)]
    split
    · rfl
    split
    · rfl
    split <;> rfl

/-- **K. Rool's defeat reaches a save in the Isles before K. Lumsy is free**: local save and peer are
closed and the result is what the peer owns and the save does not, but the save is not closed after
the call, and no full capture accepts it any more. -/
theorem isles_unclosed :
    coopItemsFullDependencies (ownedWords islesWorld.save) = true
    ∧ coopItemsFullDependencies (ownedWords finishedSave) = true
    ∧ (∀ id, coopItemHas islesGame.result.apply id
      = (coopItemOwned finishedSave id && !coopItemOwned islesWorld.save id))
    ∧ coopItemsFullDependencies
      (ownedWords (coopItemsApply plainEngine isles islesGame islesWorld true).w.save) = false
    ∧ ∀ g f layout, (captureSafe g
      ((coopItemsApply plainEngine isles islesGame islesWorld true).w.save.view f layout)).counterError
        = true := by
  have hclosed : coopItemsFullDependencies (ownedWords islesWorld.save) = true :=
    fullDependencies_iff.mpr islesSave_closed
  have hearly : WritesTooEarly plainEngine isles (applyMode isles islesGame true)
      (reached plainEngine isles (applyMode isles islesGame true) islesGame islesWorld
        coopKroolDefeated) coopKroolDefeated := by
    rw [isles_reached _ _ (Nat.le_refl _)]
    refine ⟨⟨rfl, islesApply_has.mpr (.inr rfl), by decide, by decide, fun h => ?_, rfl⟩, ?_⟩
    · have := ids
      omega
    · rw [requires_krool]
      decide
  have hafter : coopItemsFullDependencies
      (ownedWords (coopItemsApply plainEngine isles islesGame islesWorld true).w.save) = false := by
    rw [Bool.eq_false_iff, Ne, fullDependencies_iff, coopItemsApply_world, if_neg (by decide),
      if_pos (show islesGame.result.synced = true from rfl)]
    exact unclosed_of_early (.inl rfl) hearly
  exact ⟨hclosed, fullDependencies_iff.mpr finishedSave_closed, isles_granted, hafter,
    fun g f layout => captureSafe_unclosed layout g hafter⟩

end Dk64Port.Coop
