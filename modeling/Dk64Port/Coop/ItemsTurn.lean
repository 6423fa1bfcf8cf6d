import Dk64Port.Coop.ItemsApply

/-!
# What one turn of the walk does to the save

* `SaveTurn`: the writes of a turn, each with what was checked before it.
* `applyItem_turn`: **every turn of the walk is one of them.**
* `SaveTurn.grows`: none of them loses anything.
* `SaveTurn.new_flag`: the flags it may set.
* `coopItemsApply_preserves`: what every turn keeps, a call keeps.
-/

namespace Dk64Port.Coop

variable (e : ItemsEngine)

/-- The bit or flag of a collectible set. -/
def taken (s : GameSave) (id : Nat) : GameSave :=
  if isPickup id then s.take (pickupBit id) else s.raise (coopItemFlag id)

/-- What a turn for `id` may do to the save. -/
inductive SaveTurn (id : Nat) : GameSave → GameSave → Prop
  /-- Nothing: the id waits, is owned, or its write was cancelled. -/
  | same (s : GameSave) : SaveTurn id s s
  /-- A permanent flag alone; only the last two ids are written without looking at what they
  require. -/
  | flag (s : GameSave) (hnew : coopItemOwned s id = false) (hflag : (coopItemFlag id).isSome)
      (hcounted : counted id = false) (hslam : id ≠ coopFirstSlam)
      (hrequires : id ≠ coopKroolDefeated → id ≠ coopArcadeCoinsPaid →
        coopItemRequires s id = true) : SaveTurn id s (s.raise (coopItemFlag id))
  /-- The first slam, which is tier 1 for every Kong. -/
  | slam (s : GameSave) (hnew : coopItemOwned s id = false) (hid : id = coopFirstSlam)
      (hrequires : coopItemRequires s id = true) :
      SaveTurn id s ((s.raise (coopItemFlag id)).setProgression (List.range 5) 1 fun held => max held 1)
  /-- An upgrade. -/
  | tier (s : GameSave) (hid : coopMoveFirst ≤ id ∧ id < coopTrainingFirst)
      (hslam : s.flag 0x180 = true) : SaveTurn id s (raiseTier s id)
  /-- A banana fed. -/
  | feed (s : GameSave) (level kong : Nat)
      (hid : coopTroffBucket id = some
        (level, kong, (s.characterProgress kong).colouredBananasFedToTns level + 1))
      (hheld : (s.characterProgress kong).colouredBananas level ≠ 0)
      (hfits : troffOverfull s level kong = false) : SaveTurn id s (s.feed level kong)
  /-- A collectible credited to its counter. -/
  | credit (s : GameSave) (hnew : coopItemOwned s id = false) (hcounted : counted id = true)
      (hblueprint : coopItemRequires s id = true)
      (hfits : creditOverflows e s id = false) : SaveTurn id s (creditCounter e (taken s id) id)
  /-- The same with the medal that the credit earns. -/
  | medal (s : GameSave) (hnew : coopItemOwned s id = false) (hcounted : counted id = true)
      (hblueprint : coopItemRequires s id = true) (hfits : creditOverflows e s id = false)
      (hcoloured : counterField e id = .coloured) (hlevel : (collectible e id).level < 7) :
      SaveTurn id s ((creditCounter e (taken s id) id).raise
        (coopItemFlag (medalId (collectible e id).level (collectible e id).kong)))

variable {e} {f : ItemsFrame} {mode : ApplyMode} {id : Nat} {s s' : GameSave} {w : ItemsWorld}
  {st : ApplyState}

/-! ## Writes that may be cancelled -/

theorem setFlag_save (id : Nat) (w : ItemsWorld) (flag : Option Nat) :
    (e.setFlag id w flag).save = w.save ∨ (e.setFlag id w flag).save = w.save.raise flag := by
  by_cases h : e.cancelled id flag = true
  · exact .inl (if_pos h)
  · exact .inr (if_neg h)

theorem taken_save (w : ItemsWorld) (id : Nat) :
    (if isPickup id then e.setPickup id w (pickupBit id) else e.setFlag id w (coopItemFlag id)).save = w.save
    ∨ (if isPickup id then e.setPickup id w (pickupBit id) else e.setFlag id w (coopItemFlag id)).save
      = taken w.save id := by
  unfold taken
  split
  · by_cases h : e.cancelled id none = true
    · exact .inl (if_pos h)
    · exact .inr (if_neg h)
  · exact setFlag_save id w _

/-! ## Progression -/

theorem owned_progression (h : coopProgressionFirst ≤ id) (h' : id < coopProgressionEnd) :
    coopItemOwned s id = coopProgressionOwned s id := by
  have := ids
  rw [coopItemOwned, if_neg (by omega), if_neg (by omega), if_neg (by omega), if_neg (by omega),
    if_pos h]

theorem counted_eq_false (h : coopProgressionFirst ≤ id) (h' : id < coopJapesBoulderBunch) :
    counted id = false := by
  have := ids
  have hgb : coopItemGb id = none := by
    rw [coopItemGb, if_neg (by omega), if_neg (by omega)]
  simp only [counted, hgb, isPickup, isActor, Option.isSome_none, Bool.false_or,
    Bool.or_eq_false_iff, decide_eq_false_iff_not, beq_eq_false_iff_ne]
  omega

theorem progressionIds : coopKongFirst = 2141 ∧ coopLobby = 2145 ∧ coopKeyTurnFirst = 2146
    ∧ coopKlumsyFree = 2154 ∧ coopSlamFirst = 2170 ∧ coopBeltFirst = 2172 ∧ coopGunFirst = 2174
    ∧ coopGunUpgradeFirst = 2179 ∧ coopInstrumentFirst = 2181 ∧ coopInstrumentUpgradeFirst = 2186
    ∧ coopMelonFirst = 2189 ∧ coopTrainingSpawned = 2191 ∧ coopTrainingSkillFirst = 2192
    ∧ coopTrainingComplete = 2196 ∧ coopFirstSlam = 2197 := by decide

theorem isSome_ite {p : Prop} [Decidable p] {a b : Option Nat} (ha : p → a.isSome)
    (hb : ¬ p → b.isSome) : (if p then a else b).isSome := by
  split
  · exact ha ‹_›
  · exact hb ‹_›

theorem isSome_row {α : Type} {rows : List α} {i : Nat} {flag : α → Nat} (h : i < rows.length) :
    ((rows[i]?).map flag).isSome := by
  rw [Option.isSome_map, List.getElem?_eq_getElem h]
  rfl

theorem progressionFlag_isSome (h : coopProgressionFirst ≤ id) (h' : id < coopProgressionEnd)
    (hmoves : id < coopMoveFirst ∨ coopTrainingFirst ≤ id) : (coopProgressionFlag id).isSome := by
  have := ids
  have hlengths : coopWorldUnlocks.length = 100 ∧ coopWarpTags.length = 87
      ∧ trainingFlags.length = 8 ∧ storyFlags.length = 14 := by decide
  refine isSome_ite (fun _ => isSome_row (by omega)) fun h1 => isSome_ite (fun _ => rfl)
    fun h2 => isSome_ite (fun _ => isSome_row (by omega)) fun h3 => isSome_ite (fun h4 => ?_)
    fun h4 => isSome_ite (fun h5 => ?_) fun h5 => by omega
  all_goals
    rw [List.getElem?_eq_getElem (by omega)]
    rfl

theorem progressionFlag_eq (h : coopProgressionFirst ≤ id) (h' : id < coopProgressionEnd) :
    coopProgressionFlag id = coopItemFlag id := (coopItemFlag_progression h h').symm

/-- A progression id written by its flag alone. -/
theorem turn_flag (hfirst : coopProgressionFirst ≤ id) (hlast : id < coopProgressionEnd)
    (hmoves : id < coopMoveFirst ∨ coopTrainingFirst ≤ id) (hslam : id ≠ coopFirstSlam)
    (hnew : coopItemOwned w.save id = false) (hrequires : coopItemRequires w.save id = true) :
    SaveTurn e id w.save (e.setFlag id w (coopProgressionFlag id)).save := by
  have := ids
  rw [progressionFlag_eq hfirst hlast]
  rcases setFlag_save (e := e) id w (coopItemFlag id) with h | h
  · rw [h]
    exact .same _
  · rw [h]
    exact .flag _ hnew (progressionFlag_eq hfirst hlast ▸ progressionFlag_isSome hfirst hlast hmoves)
      (counted_eq_false hfirst (by omega)) hslam fun _ _ => hrequires

/-- The requirement of a world unlock that is not refused. -/
theorem requires_world (h : coopWorldFirst ≤ id) (h' : id < coopProgressionEnd)
    (hb : worldBlocked f s id = false) : coopItemRequires s id = true := by
  have := ids
  have := progressionIds
  rw [coopItemRequires, if_neg (by omega), if_neg (by omega), if_neg (by omega), if_neg (by omega),
    if_neg (by omega), if_neg (by omega), if_pos ⟨h, h'⟩]
  unfold worldBlocked at hb
  cases hu : coopWorldUnlocks[id - coopWorldFirst]? with
  | none => rfl
  | some unlock =>
    rw [hu] at hb
    simp only [Bool.or_eq_false_iff, Bool.not_eq_false'] at hb
    exact hb.2

/-- The requirement of a Bananaport or a Blocker that is not refused. -/
theorem requires_warp (h : coopWarpFirst ≤ id) (h' : id < coopWorldFirst)
    (hb : id < coopBlockerFirst → warpBlocked f s id = false) : coopItemRequires s id = true := by
  have := ids
  have := progressionIds
  rw [coopItemRequires, if_neg (by omega), if_neg (by omega), if_neg (by omega), if_neg (by omega),
    if_neg (by omega)]
  split
  · rename_i hid
    have hb := hb hid.2
    unfold warpBlocked at hb
    cases ht : coopWarpTags[id - coopWarpFirst]? with
    | none => rfl
    | some tag =>
      rw [ht] at hb
      simp only [Bool.or_eq_false_iff, Bool.not_eq_false'] at hb
      exact hb.2
  · rw [if_neg (by omega), if_neg (by omega), if_neg (by omega)]

/-- The requirement of a training id that is not refused. -/
theorem requires_training (h : coopTrainingFirst ≤ id) (h' : id < coopWarpFirst)
    (hb : trainingBlocked s id = false) : coopItemRequires s id = true := by
  have := ids
  have := progressionIds
  simp only [trainingBlocked, Bool.or_eq_false_iff, Bool.and_eq_false_iff,
    decide_eq_false_iff_not, Bool.not_eq_false'] at hb
  rw [coopItemRequires, if_neg (by omega), if_neg (by omega), if_neg (by omega)]
  split_ifs with h1 h2 h3 h4 h5 h6
  · exact hb.1.resolve_left fun hn => hn h1
  · exact hb.2.resolve_left fun hn => hn h2
  all_goals first | omega | rfl

/-- The requirement of a Kong, a key turned in or a lobby that is not refused. -/
theorem requires_story (h : coopProgressionFirst ≤ id) (h' : id < coopMoveFirst)
    (hb : storyBlocked f s id = false) : coopItemRequires s id = true := by
  have := ids
  have := progressionIds
  rw [coopItemRequires, if_neg (by omega)]
  unfold storyBlocked at hb
  by_cases hturn : coopKeyTurnFirst ≤ id ∧ id < coopKlumsyFree
  · rw [if_neg (by omega), decide_eq_true hturn] at hb
    rw [if_pos hturn]
    simp only [Bool.or_eq_false_iff, Bool.true_and, Bool.not_eq_false'] at hb
    exact hb.1.2
  · rw [if_neg hturn]
    by_cases hk : id = coopKlumsyFree
    · rw [if_neg (by omega), decide_eq_true hk] at hb
      rw [if_pos hk]
      simp only [Bool.or_eq_false_iff, Bool.true_and, Bool.not_eq_false'] at hb
      exact hb.2
    · rw [if_neg hk, if_neg (by omega), if_neg (by omega), if_neg (by omega), if_neg (by omega),
        if_neg (by omega), if_neg (by omega)]

/-- **The writes of `coop_progression_apply`.** -/
theorem coopProgressionApply_turn {safe : Bool} (hnew : coopItemOwned w.save id = false) :
    SaveTurn e id w.save (coopProgressionApply e f id safe w).2.save := by
  have := ids
  have := progressionIds
  unfold coopProgressionApply readBack
  split
  · exact .same _
  rename_i hrange
  split
  · split
    · exact .same _
    · rename_i hworld hb
      exact turn_flag (by omega) (by omega) (by omega) (by omega) hnew
        (requires_world hworld (by omega) (Bool.eq_false_iff.mpr hb))
  split
  · exact .same _
  split
  · split
    · exact .same _
    · rename_i hworld _ hwarp hb
      refine turn_flag (by omega) (by omega) (by omega) (by omega) hnew
        (requires_warp hwarp (by omega) fun hlt => Bool.eq_false_iff.mpr fun hw => hb ⟨hlt, hw⟩)
  split
  · split
    · exact .same _
    · rename_i hworld _ hwarp htraining hb
      have hreq := requires_training (s := w.save) htraining (by omega) (Bool.eq_false_iff.mpr hb)
      dsimp only
      by_cases hslam : id = coopFirstSlam
      · rw [progressionFlag_eq (by omega) (by omega), if_pos hslam]
        rcases setFlag_save (e := e) id w (coopItemFlag id) with h | h
        · rw [h, ← owned_progression (by omega) (by omega), hnew]
          exact h ▸ .same _
        · split
          · rename_i hread
            have hflag : coopItemFlag id = some 0x180 := by rw [hslam]; decide
            rw [← owned_progression (by omega) (by omega), owned_iff_flag hflag, h, hflag] at hread
            simp [GameSave.raise] at hread
          · rw [h]
            exact .slam _ hnew hslam hreq
      · rw [if_neg hslam]
        have hturn := turn_flag (e := e) (w := w) (by omega) (by omega) (by omega) hslam hnew hreq
        split <;> exact hturn
  split
  · split
    · exact .same _
    · rename_i hb
      exact turn_flag (by omega) (by omega) (by omega) (by omega) hnew
        (requires_story (f := f) (by omega) (by omega) (Bool.eq_false_iff.mpr hb))
  split
  · exact .same _
  · rename_i hslam
    exact .tier _ (by omega) (by simpa using hslam)

/-! ## Feeding -/

theorem coopTroffApply_turn : SaveTurn e id st.w.save (coopTroffApply f mode st id).2.w.save := by
  unfold coopTroffApply
  cases hb : coopTroffBucket id with
  | none => exact .same _
  | some b =>
    obtain ⟨level, kong, amount⟩ := b
    dsimp only
    split_ifs with h1 h2 h3
    · exact .same _
    · exact .same _
    · exact .same _
    · exact .same _
    · exact .same _
    · push Not at h3
      obtain ⟨rfl, hheld⟩ := h3
      exact .feed _ level kong hb hheld (Bool.eq_false_iff.mpr h2)

/-! ## Collectibles -/

@[simp] theorem taken_characterProgress :
    (taken s id).characterProgress = s.characterProgress := by
  unfold taken
  split <;> rfl

/-- The write of a collectible leaves the counters alone. -/
theorem creditDisturbed_of_eq (h : s'.characterProgress = s.characterProgress) :
    creditDisturbed e s s' id = false := by
  unfold creditDisturbed
  rw [h]
  split <;> simp

/-- What Snide takes is there: the only requirement of a counted id. -/
theorem requires_counted (hcounted : counted id = true)
    (h : (coopItemGb id).isSome → id < coopMedalFirst →
      s.flag (0x1D5 + (id - coopSnideFirst)) = true) : coopItemRequires s id = true := by
  have := ids
  have := progressionIds
  have hrange : id < coopProgressionFirst ∨ id = coopJapesBoulderBunch := by
    by_contra hn
    rcases Nat.lt_or_ge id coopJapesBoulderBunch with hlt | hge
    · rw [counted_eq_false (by omega) hlt] at hcounted
      cases hcounted
    · have hgb : coopItemGb id = none := by rw [coopItemGb, if_neg (by omega), if_neg (by omega)]
      simp only [counted, hgb, isPickup, isActor, Option.isSome_none, Bool.false_or,
        Bool.or_eq_true, decide_eq_true_eq, beq_iff_eq] at hcounted
      omega
  unfold coopItemRequires
  split_ifs with h1
  · refine h ?_ h1.2
    rw [coopItemGb, if_pos h1]
    rfl
  all_goals first | omega | rfl

theorem owned_pickup (h : isPickup id = true) : coopItemOwned s id = s.pickup (pickupBit id) := by
  have := ids
  simp only [isPickup, decide_eq_true_eq] at h
  rw [coopItemOwned, if_neg (by omega), if_neg (by omega), if_neg (by omega), if_neg (by omega),
    if_neg (by omega), if_neg (by omega)]

/-- A collectible that was written is owned. -/
theorem owned_taken (hid : (coopItemFlag id).isSome ∨ isPickup id = true) :
    coopItemOwned (taken s id) id = true := by
  unfold taken
  by_cases hp : isPickup id = true
  · rw [if_pos hp, owned_pickup hp]
    simp [GameSave.take]
  · rw [if_neg hp]
    obtain ⟨f, hf⟩ := Option.isSome_iff_exists.mp (hid.resolve_right hp)
    rw [owned_iff_flag hf, hf]
    simp [GameSave.raise]

theorem deriveMedal_turn {w : GameSave} (hnew : coopItemOwned w id = false)
    (hcounted : counted id = true) (hblueprint : coopItemRequires w id = true)
    (hfits : creditOverflows e w id = false) (hst : st.w.save = creditCounter e (taken w id) id) :
    SaveTurn e id w (deriveMedal e st id).w.save := by
  unfold deriveMedal
  dsimp only
  split_ifs with h1 h2 h3
  · exact hst ▸ .credit w hnew hcounted hblueprint hfits
  · exact hst ▸ .credit w hnew hcounted hblueprint hfits
  all_goals
    push Not at h1
    rcases setFlag_save (e := e) id st.w
      (coopItemFlag (medalId (collectible e id).level (collectible e id).kong)) with h | h
    · exact (h.trans hst) ▸ .credit w hnew hcounted hblueprint hfits
    · rw [hst] at h
      exact h ▸ .medal w hnew hcounted hblueprint hfits h1.1 h1.2

theorem applyCollectible_turn (hnew : coopItemOwned st.w.save id = false)
    (hid : (coopItemFlag id).isSome ∨ isPickup id = true) (hslam : id ≠ coopFirstSlam)
    (hfree : counted id = false → id ≠ coopKroolDefeated → id ≠ coopArcadeCoinsPaid →
      coopItemRequires st.w.save id = true) :
    SaveTurn e id st.w.save (applyCollectible e f mode st id).w.save := by
  unfold applyCollectible
  split
  · exact .same _
  split
  · exact .same _
  split
  · exact .same _
  rename_i hwait hover
  have hsave := taken_save (e := e) st.w id
  dsimp only
  generalize (if isPickup id then e.setPickup id st.w (pickupBit id)
    else e.setFlag id st.w (coopItemFlag id)) = w at hsave ⊢
  rcases hsave with hsave | hsave
  · rw [if_pos (by rw [hsave]; simp [hnew])]
    exact hsave ▸ .same _
  rw [if_neg (by rw [hsave, owned_taken hid]; simp)]
  by_cases hcounted : counted id = true
  · have hblueprint : coopItemRequires st.w.save id = true := by
      refine requires_counted hcounted fun hgb hlt => ?_
      by_contra hflag
      refine hwait ⟨hcounted, ?_⟩
      simp [creditWaits, hgb, hlt, Bool.eq_false_iff.mpr hflag]
    have hfits : creditOverflows e st.w.save id = false :=
      Bool.eq_false_iff.mpr fun h => hover ⟨hcounted, h⟩
    rw [if_pos hcounted, creditDisturbed_of_eq (by rw [hsave, taken_characterProgress]),
      if_neg (by simp), hsave]
    have hmedal : ∀ st' : ApplyState, st'.w.save = creditCounter e (taken st.w.save id) id →
        SaveTurn e id st.w.save (deriveMedal e st' id).w.save :=
      fun st' => deriveMedal_turn hnew hcounted hblueprint hfits
    have hrainbow : SaveTurn e id st.w.save (creditCounter e (taken st.w.save id) id) :=
      .credit _ hnew hcounted hblueprint hfits
    split_ifs <;> first | exact hrainbow | exact hmedal _ rfl
  · have hcounted' : counted id = false := Bool.eq_false_iff.mpr hcounted
    have hp : isPickup id = false := by
      simp only [counted, Bool.or_eq_false_iff] at hcounted'
      exact hcounted'.1.1.2
    rw [if_neg hcounted]
    have hraise : w.save = st.w.save.raise (coopItemFlag id) := by
      rw [hsave, taken, if_neg (by rw [hp]; simp)]
    exact hraise ▸ .flag _ hnew (hid.resolve_right (by rw [hp]; simp)) hcounted' hslam
      (hfree hcounted')

/-- An id outside the progression that is not counted requires nothing, but for the last two. -/
theorem requires_generic (h : id < coopProgressionFirst ∨ coopProgressionEnd ≤ id)
    (hcounted : counted id = false) (hkrool : id ≠ coopKroolDefeated)
    (harcade : id ≠ coopArcadeCoinsPaid) : coopItemRequires s id = true := by
  have := ids
  have := progressionIds
  have hsnide : ¬ (coopSnideFirst ≤ id ∧ id < coopMedalFirst) := by
    intro hs
    simp [counted, coopItemGb, hs] at hcounted
  rw [coopItemRequires, if_neg hsnide, if_neg (by omega), if_neg (by omega), if_neg (by omega),
    if_neg (by omega), if_neg (by omega), if_neg (by omega), if_neg hkrool, if_neg harcade]

/-- The ids of the collectible branch have a flag or a pickup bit. -/
theorem flag_or_pickup (h : id < coopProgressionFirst ∨ coopTroffEnd ≤ id) (hlt : id < coopItems) :
    (coopItemFlag id).isSome ∨ isPickup id = true := by
  have := ids
  have hlengths : coopGoldenBananas.length = 161 ∧ coopActorPickups.length = 120
      ∧ keyFlags.length = 8 := by decide +kernel
  by_cases hp : isPickup id = true
  · exact .inr hp
  · simp only [isPickup, decide_eq_true_eq] at hp
    left
    unfold coopItemFlag
    refine isSome_ite (fun _ => rfl) fun h1 => isSome_ite (fun _ => rfl) fun h2 => isSome_ite (fun _ => rfl)
      fun h3 => isSome_ite (fun h4 => ?_) fun h4 => isSome_ite (fun _ => rfl) fun h5 => isSome_ite (fun _ => rfl)
      fun h6 => isSome_ite (fun _ => rfl) fun h7 => isSome_ite (fun _ => rfl) fun h8 => isSome_ite (fun _ => rfl)
      fun h9 => isSome_ite (fun _ => rfl) fun h10 => isSome_ite (fun _ => rfl)
      fun h11 => isSome_ite (fun _ => isSome_row (by omega)) fun h12 => isSome_ite (fun _ => isSome_row (by omega))
      fun h13 => by omega
    rw [List.getElem?_eq_getElem (by omega)]
    rfl

/-- **Every turn of the walk does one of the writes of `SaveTurn`.** -/
theorem applyItem_turn : SaveTurn e id st.w.save (applyItem e f mode st id).w.save := by
  have := ids
  unfold applyItem
  split
  · exact .same _
  split
  · exact .same _
  rename_i hskip
  have hnew : coopItemOwned st.w.save id = false := by
    by_contra hn
    exact hskip (.inr (by simpa using hn))
  have hlt : id < coopItems := by
    by_contra hn
    exact hskip (.inl (by simp [coopItemHas, hn]))
  split
  · exact .same _
  split
  · have hturn : SaveTurn e id st.w.save (coopTroffApply f mode st id).2.w.save :=
      coopTroffApply_turn
    generalize coopTroffApply f mode st id = out at hturn
    obtain ⟨ok, st'⟩ := out
    cases ok <;> exact hturn
  split
  · unfold applyProgression
    dsimp only
    have hturn : SaveTurn e id st.w.save (coopProgressionApply e f id (mode.safeToSave
        || exactLiveWorld f mode id || (mode.trainingGround && coopTrainingGroundApplyId id))
        st.w).2.save :=
      coopProgressionApply_turn hnew
    generalize coopProgressionApply e f id (mode.safeToSave || exactLiveWorld f mode id
      || (mode.trainingGround && coopTrainingGroundApplyId id)) st.w = out at hturn
    obtain ⟨ok, w⟩ := out
    split
    · exact .same _
    split
    · exact .same _
    split
    · exact .same _
    split
    · exact .same _
    cases ok
    · exact hturn
    · dsimp only
      split <;> exact hturn
  · rename_i htroff hprog
    have hrange : id < coopProgressionFirst ∨ coopTroffEnd ≤ id := by omega
    have := progressionIds
    exact applyCollectible_turn hnew (flag_or_pickup hrange hlt) (by omega)
      fun hcounted => requires_generic (by omega) hcounted

/-! ## Nothing is lost -/

namespace GameSave

theorem grows_raise (s : GameSave) (flag : Option Nat) : s.Grows (s.raise flag) :=
  { Grows.refl s with flag := fun f h => by simp [raise, h] }

theorem grows_take (s : GameSave) (bit : Nat × Nat) : s.Grows (s.take bit) :=
  { Grows.refl s with pickup := fun b h => by simp [take, h] }

theorem setProgression_progression (s : GameSave) (kongs : List Nat) (b : Nat) (value : Nat → Nat)
    (k field : Nat) : (s.setProgression kongs b value).progression k field
      = if k ∈ kongs ∧ field = b then value (s.progression k field) else s.progression k field := by
  unfold setProgression progression
  dsimp only
  by_cases hk : k ∈ kongs <;> by_cases hb : field = b <;> simp [hk, hb]

theorem setProgression_fed (s : GameSave) (kongs : List Nat) (b : Nat) (value : Nat → Nat) (k : Nat) :
    ((s.setProgression kongs b value).characterProgress k).colouredBananasFedToTns
      = (s.characterProgress k).colouredBananasFedToTns := by
  unfold setProgression
  dsimp only
  split <;> rfl

/-- A byte that is only raised, and keeps its bits where bits count. -/
theorem grows_setProgression (s : GameSave) (kongs : List Nat) (b : Nat) (value : Nat → Nat)
    (hle : ∀ held, held ≤ value held)
    (hbits : b = 2 ∨ b = 4 → ∀ held, held &&& value held = held) :
    s.Grows (s.setProgression kongs b value) where
  flag _ h := h
  pickup _ h := h
  tier k field := by
    rw [setProgression_progression]
    split
    · exact hle _
    · exact Nat.le_refl _
  bits k field hfield := by
    rw [setProgression_progression]
    split
    · rename_i h
      exact hbits (h.2 ▸ hfield) _
    · exact Nat.and_self _
  melons := Nat.le_refl _
  fed k level := Nat.le_of_eq (by rw [setProgression_fed])

theorem setKong_characterProgress (s : GameSave) (kong : Nat)
    (p : CharacterProgress → CharacterProgress) (k : Nat) :
    (s.setKong kong p).characterProgress k
      = if k = kong then p (s.characterProgress k) else s.characterProgress k := rfl

/-- Counters may move when the progression and the bananas fed do not shrink. -/
theorem grows_setKong (s : GameSave) (kong : Nat) (p : CharacterProgress → CharacterProgress)
    (hprog : ∀ x, (p x).progression = x.progression)
    (hfed : ∀ x level, x.colouredBananasFedToTns level ≤ (p x).colouredBananasFedToTns level) :
    s.Grows (s.setKong kong p) := by
  have hbyte : ∀ k field, (s.setKong kong p).progression k field = s.progression k field := by
    intro k field
    unfold progression
    rw [setKong_characterProgress]
    split
    · rw [hprog]
    · rfl
  refine ⟨fun _ h => h, fun _ h => h, fun k field => Nat.le_of_eq (hbyte k field).symm,
    fun k field _ => by rw [hbyte, Nat.and_self], Nat.le_refl _, fun k level => ?_⟩
  rw [setKong_characterProgress]
  split
  · exact hfed _ _
  · exact Nat.le_refl _

end GameSave

theorem setCounter_progression (p : CharacterProgress) (level value : Nat) (c : CounterField) :
    (p.setCounter level value c).progression = p.progression := by
  cases c <;> rfl

theorem setCounter_fed (p : CharacterProgress) (level value : Nat) (c : CounterField) :
    (p.setCounter level value c).colouredBananasFedToTns = p.colouredBananasFedToTns := by
  cases c <;> rfl

theorem grows_taken (s : GameSave) (id : Nat) : s.Grows (taken s id) := by
  unfold taken
  split
  · exact s.grows_take _
  · exact s.grows_raise _

theorem grows_credit (s : GameSave) (id : Nat) : s.Grows (creditCounter e s id) := by
  unfold creditCounter
  dsimp only
  split
  · refine ⟨fun _ h => h, fun _ h => h, fun k field => ?_, fun k field _ => ?_, Nat.le_refl _,
      fun k level => ?_⟩ <;> simp only [GameSave.progression] <;> split <;>
      first | exact Nat.le_refl _ | exact Nat.and_self _
  · exact s.grows_setKong _ _ (fun _ => setCounter_progression ..)
      fun _ _ => Nat.le_of_eq (by rw [setCounter_fed])

theorem grows_raiseTier (s : GameSave) (id : Nat) : s.Grows (raiseTier s id) := by
  unfold raiseTier
  split
  · exact { GameSave.Grows.refl s with melons := Nat.le_max_left _ _ }
  · cases hm : coopProgressionMove id with
    | none => exact .refl s
    | some m =>
      refine s.grows_setProgression _ _ _ (fun held => ?_) fun hb held => ?_
      · split
        · exact Nat.left_le_or
        · exact Nat.le_max_left _ _
      · have hbits : m.bits = true := by
          unfold coopProgressionMove at hm
          split_ifs at hm <;> obtain rfl := Option.some.inj hm <;> simp_all
        rw [if_pos hbits]
        apply Nat.eq_of_testBit_eq
        intro i
        cases h : held.testBit i <;> simp [h]

theorem grows_feed (s : GameSave) (level kong : Nat) : s.Grows (s.feed level kong) := by
  have h := s.grows_setKong kong (fun p =>
      { p with
        colouredBananas := Function.update p.colouredBananas level (p.colouredBananas level - 1)
        colouredBananasFedToTns :=
          Function.update p.colouredBananasFedToTns level (p.colouredBananasFedToTns level + 1) })
    (fun _ => rfl) fun x l => by
      by_cases hl : l = level
      · subst hl
        simp
      · simp [Function.update_of_ne hl]
  exact ⟨h.flag, h.pickup, h.tier, h.bits, h.melons, h.fed⟩

/-- **No turn loses anything.** -/
theorem SaveTurn.grows (h : SaveTurn e id s s') : s.Grows s' := by
  cases h with
  | same => exact .refl s
  | flag => exact s.grows_raise _
  | slam =>
    exact (s.grows_raise _).trans (GameSave.grows_setProgression _ _ _ _
      (fun held => Nat.le_max_left _ _) fun hb => by omega)
  | tier => exact grows_raiseTier s id
  | feed level kong => exact grows_feed s level kong
  | credit => exact (grows_taken s id).trans (grows_credit _ id)
  | medal => exact ((grows_taken s id).trans (grows_credit _ id)).trans (GameSave.grows_raise _ _)

/-! ## The flags of a turn -/

theorem flag_setProgression {kongs : List Nat} {b : Nat} {value : Nat → Nat} :
    (s.setProgression kongs b value).flag = s.flag := rfl

theorem flag_raiseTier : (raiseTier s id).flag = s.flag := by
  unfold raiseTier
  split
  · rfl
  · split <;> rfl

theorem flag_credit : (creditCounter e s id).flag = s.flag := by
  unfold creditCounter
  dsimp only
  split <;> rfl

theorem flag_taken {x : Nat} (h : (taken s id).flag x = true) :
    s.flag x = true ∨ coopItemFlag id = some x := by
  unfold taken at h
  split at h
  · exact .inl h
  · simpa [GameSave.raise] using h

theorem kong_lt : (collectible e id).kong < 5 := by
  have hrows : ∀ row ∈ coopActorPickups, row.kong < 5 := by decide
  unfold collectible
  split
  · exact Fin.isLt _
  split
  · rename_i hactor
    dsimp only
    unfold actorRow
    cases ha : coopActorPickups[id - coopActorPickupFirst]? with
    | none => decide
    | some row => exact hrows row (List.mem_of_getElem? ha)
  split
  · decide
  · dsimp only
    cases hgb : coopItemGb id with
    | none => decide
    | some slot => exact (level_lt_of_gb hgb).2

/-- A turn sets its own flag and the flag of a medal at most. -/
theorem SaveTurn.new_flag (h : SaveTurn e id s s') {x : Nat} (hx : s'.flag x = true) :
    s.flag x = true ∨ coopItemFlag id = some x
    ∨ ∃ level < 7, ∃ kong < 5, coopItemFlag (medalId level kong) = some x := by
  cases h with
  | same => exact .inl hx
  | flag => exact (by simpa [GameSave.raise] using hx : _ ∨ _).imp_right .inl
  | slam =>
    rw [flag_setProgression] at hx
    exact (by simpa [GameSave.raise] using hx : _ ∨ _).imp_right .inl
  | tier => exact .inl (flag_raiseTier ▸ hx)
  | feed => exact .inl hx
  | credit =>
    rw [flag_credit] at hx
    exact (flag_taken hx).imp_right .inl
  | medal _ _ _ _ hcoloured hlevel =>
    have hraised : (creditCounter e (taken s id) id).flag x = true
        ∨ coopItemFlag (medalId (collectible e id).level (collectible e id).kong) = some x := by
      simpa [GameSave.raise] using hx
    rcases hraised with hx | hx
    · rw [flag_credit] at hx
      exact (flag_taken hx).imp_right .inl
    · exact .inr (.inr ⟨_, hlevel, _, kong_lt, hx⟩)

/-! ## The call -/

theorem requires_finished (h : id = coopTrainingComplete ∨ id = coopFirstSlam) :
    coopItemRequires s id = coopTrainingPrerequisites s := by
  have := ids
  have := progressionIds
  rw [coopItemRequires, if_neg (by omega), if_neg (by omega), if_neg (by omega), if_neg (by omega),
    if_pos h]

/-- Completing the training is a turn of its own. -/
theorem deriveTraining_turn :
    SaveTurn e coopTrainingComplete st.w.save (deriveTraining e f mode st).w.save := by
  unfold deriveTraining
  split
  · rename_i h
    have hnew : coopItemOwned st.w.save coopTrainingComplete = false := by
      simpa using h.2.2.2.2.2
    have hturn : SaveTurn e coopTrainingComplete st.w.save
        (e.setFlag coopTrainingComplete st.w (coopItemFlag coopTrainingComplete)).save := by
      rcases setFlag_save (e := e) coopTrainingComplete st.w
          (coopItemFlag coopTrainingComplete) with hs | hs
      · exact hs ▸ .same _
      · exact hs ▸ .flag _ hnew (by decide) (by decide) (by decide)
          fun _ _ => (requires_finished (.inl rfl)).trans h.2.2.2.1
    dsimp only
    split <;> exact hturn
  · exact .same _

theorem finishApply_save : (finishApply f mode st).w = st.w := by
  unfold finishApply
  dsimp only
  split <;> rfl

theorem finishApply_with (g : CoopItems) : (finishApply f mode { st with g := g }).w = st.w :=
  finishApply_save

variable (e f)

/-- The state in which the walk of a call reaches an id. -/
def reached (mode : ApplyMode) (g : CoopItems) (w : ItemsWorld) (id : Nat) : ApplyState :=
  Run.run (applyItem e f mode) { g := { g with applying := true }, w := w } (List.range id)

theorem reached_succ (mode : ApplyMode) (g : CoopItems) (w : ItemsWorld) (id : Nat) :
    reached e f mode g w (id + 1) = applyItem e f mode (reached e f mode g w id) id := by
  rw [reached, List.range_succ, Run.run_snoc]
  rfl

theorem walk_reached (mode : ApplyMode) (g : CoopItems) (w : ItemsWorld) :
    walk e f mode { g := { g with applying := true }, w := w } = reached e f mode g w coopItems := by
  rw [walk, reached]

theorem coopItemsApply_world (g : CoopItems) (w : ItemsWorld) (safeToSave : Bool) :
    (coopItemsApply e f g w safeToSave).w
      = if applyWaits f (applyMode f g safeToSave) g w.save then w
        else if g.result.synced then
          (deriveTraining e f (applyMode f g safeToSave) (walk e f (applyMode f g safeToSave)
            { g := { g with applying := true }, w := w })).w
        else w := by
  unfold coopItemsApply
  dsimp only
  split
  · rfl
  split
  · exact finishApply_with _
  · exact finishApply_save

variable {e f}

/-- What every turn keeps, the walk keeps. -/
theorem reached_preserves {P : GameSave → Prop}
    (hP : ∀ {id s s'}, SaveTurn e id s s' → P s → P s') {g : CoopItems} {w : ItemsWorld}
    (h : P w.save) (n : Nat) : P (reached e f mode g w n).w.save := by
  induction n with
  | zero => exact h
  | succ n ih =>
    rw [reached_succ]
    exact hP applyItem_turn ih

/-- **What every turn keeps, a call keeps.** -/
theorem coopItemsApply_preserves {P : GameSave → Prop}
    (hP : ∀ {id s s'}, SaveTurn e id s s' → P s → P s') {g : CoopItems} {w : ItemsWorld}
    {safeToSave : Bool} (h : P w.save) : P (coopItemsApply e f g w safeToSave).w.save := by
  have htraining : ∀ st : ApplyState, P st.w.save →
      P (deriveTraining e f (applyMode f g safeToSave) st).w.save :=
    fun _ => hP deriveTraining_turn
  rw [coopItemsApply_world]
  split
  · exact h
  split
  · rw [walk_reached]
    exact htraining _ (reached_preserves hP h _)
  · exact h

end Dk64Port.Coop
