import Dk64Port.Coop.Collectibles

/-!
# The inventory of a save (`mod/inventory_types.h`, `mod/progression_game.h`, `mod/troff_game.h`)

What a save owns is read from permanent flags, pickup bits, upgrade tiers and the bananas fed to
Troff and Scoff, and the numeric inventory has to agree with the flags.

* `coopItemOwned`: whether the save owns an item id.
* `coopItemsCountersValid`: the numeric inventory is consistent.
* `GameSave.Grows`: what only grows, and `Grows.owned`: nothing owned is lost by it.
-/

namespace Dk64Port.Coop

/-! ## Data -/

/-- `CoopCharacterProgress`; `progression` is indexed by the inventory byte, the counters by level. -/
structure CharacterProgress where
  progression : Nat → Nat
  coins : Nat
  colouredBananas : Nat → Nat
  colouredBananasFedToTns : Nat → Nat
  goldenBananas : Nat → Nat

/-- The loaded save. `flag` is `isFlagSet(flag, 0)`, `pickup` is `func_global_asm_8060E3B0` by level
and ordinal, `troffTotal` is `D_global_asm_807FC930`. -/
structure GameSave where
  flag : Nat → Bool
  pickup : Nat × Nat → Bool
  characterProgress : Nat → CharacterProgress
  melons : Nat
  troffTotal : Nat → Nat

/-- The outcome of `coop_progression_move`: a Kong (5 means all five), an inventory byte, a value
and whether the value is a bit or a tier. -/
structure ProgressionMove where
  kong : Nat
  field : Nat
  value : Nat
  bits : Bool
deriving DecidableEq

namespace GameSave

variable (s : GameSave)

/-- `isFlagSet` of a flag that may be `-1`. -/
def flagged (flag : Option Nat) : Bool := flag.any s.flag

/-- `progression[field]` of a Kong. -/
def progression (kong field : Nat) : Nat := (s.characterProgress kong).progression field

end GameSave

/-- The Kongs below 5 an upgrade is for. -/
def moveKongs (kong : Nat) : List Nat := (List.range 5).filter fun k => kong == 5 || k == kong

/-- `coop_progression_move`. -/
def coopProgressionMove (id : Nat) : Option ProgressionMove :=
  if coopMoveFirst ≤ id ∧ id < coopSlamFirst then
    some ⟨(id - coopMoveFirst) / 3, 0, 1 + (id - coopMoveFirst) % 3, false⟩
  else if coopSlamFirst ≤ id ∧ id < coopBeltFirst then some ⟨5, 1, 2 + (id - coopSlamFirst), false⟩
  else if coopBeltFirst ≤ id ∧ id < coopGunFirst then some ⟨5, 3, 1 + (id - coopBeltFirst), false⟩
  else if coopGunFirst ≤ id ∧ id < coopGunUpgradeFirst then some ⟨id - coopGunFirst, 2, 1, true⟩
  else if coopGunUpgradeFirst ≤ id ∧ id < coopInstrumentFirst then
    some ⟨5, 2, 2 <<< (id - coopGunUpgradeFirst), true⟩
  else if coopInstrumentFirst ≤ id ∧ id < coopInstrumentUpgradeFirst then
    some ⟨id - coopInstrumentFirst, 4, 1, true⟩
  else if coopInstrumentUpgradeFirst ≤ id ∧ id < coopMelonFirst then
    some ⟨5, 4, 2 <<< (id - coopInstrumentUpgradeFirst), true⟩
  else none

/-- `coop_troff_bucket`: level, Kong and amount of a Troff'n'Scoff milestone. -/
def coopTroffBucket (id : Nat) : Option (Nat × Nat × Nat) :=
  if id < coopTroffFirst ∨ coopTroffEnd ≤ id then none
  else
    let index := id - coopTroffFirst
    let bucket := index / coopTroffCapacity
    some (bucket / coopTroffKongs, bucket % coopTroffKongs, index % coopTroffCapacity + 1)

/-! ## Ownership -/

/-- An upgrade is there: a set bit, or a tier reached. -/
def ProgressionMove.reached (m : ProgressionMove) (held : Nat) : Bool :=
  if m.bits then held &&& m.value != 0 else decide (m.value ≤ held)

/-- `coop_progression_owned`. -/
def coopProgressionOwned (s : GameSave) (id : Nat) : Bool :=
  if id < coopProgressionFirst ∨ coopProgressionEnd ≤ id then false
  else if id < coopMoveFirst ∨ coopTrainingFirst ≤ id then s.flagged (coopProgressionFlag id)
  else if coopMelonFirst ≤ id then decide (2 + (id - coopMelonFirst) ≤ s.melons)
  else match coopProgressionMove id with
    | none => false
    | some m => (moveKongs m.kong).all fun k => m.reached (s.progression k m.field)

/-- `coop_troff_owned`. -/
def coopTroffOwned (s : GameSave) (id : Nat) : Bool :=
  match coopTroffBucket id with
  | none => false
  | some (level, kong, amount) =>
    decide (amount ≤ (s.characterProgress kong).colouredBananasFedToTns level)

/-- `coop_item_owned`. -/
def coopItemOwned (s : GameSave) (id : Nat) : Bool :=
  if id = coopJapesBoulderBunch then s.flag 0x01D
  else if id = coopKroolDefeated then s.flag 0x1B0
  else if id = coopArcadeCoinsPaid then s.flag 0x083
  else if coopTroffFirst ≤ id ∧ id < coopTroffEnd then coopTroffOwned s id
  else if coopProgressionFirst ≤ id then coopProgressionOwned s id
  else if id < coopPickupFirst ∨ coopActorPickupFirst ≤ id then s.flagged (coopItemFlag id)
  else s.pickup (pickupBit id)

/-! ## The numeric inventory -/

/-- `coop_progression_valid`: byte 1 is the slam and byte 3 the belt, shared by all Kongs; bytes 2
and 4 share all but their lowest bit. -/
def coopProgressionValid (s : GameSave) : Bool :=
  decide (s.melons ≤ 3) && (List.range 5).all fun k =>
    decide (s.progression k 0 ≤ 3) && decide (s.progression k 1 ≤ 3)
      && decide (s.progression k 2 ≤ 7) && decide (s.progression k 3 ≤ 2)
      && decide (s.progression k 4 ≤ 15)
      && !(s.flag 0x180 && s.progression k 1 == 0)
      && s.progression k 1 == s.progression 0 1 && s.progression k 3 == s.progression 0 3
      && s.progression k 2 &&& 6 == s.progression 0 2 &&& 6
      && s.progression k 4 &&& 14 == s.progression 0 4 &&& 14

/-- The ids `coop_items_counters_valid` counts. -/
def gbIds : List Nat := List.range' coopSnideFirst (coopPickupFirst - coopSnideFirst)

/-- The golden bananas and taken blueprints a save owns of a level and Kong. -/
def gbCount (s : GameSave) (level kong : Nat) : Nat :=
  gbIds.countP fun id => coopItemGb id == some (level, kong) && coopItemOwned s id

/-- `coop_items_counters_valid`; `layout` is `func_global_asm_80631C20`, the pickups the loaded setup
gives a level. -/
def coopItemsCountersValid (layout : Nat → Nat) (s : GameSave) : Bool :=
  coopProgressionValid s
    && gbIds.all (fun id => !((coopItemGb id).isSome && coopItemOwned s id)
      || !decide (id < coopMedalFirst) || s.flag (0x1D5 + (id - coopSnideFirst)))
    && (List.range 8).all fun level =>
      layout level == pickupStart (level + 1) - pickupStart level
        && (List.range 5).all fun kong =>
          let p := s.characterProgress kong
          p.goldenBananas level == gbCount s level kong && decide (p.coins ≤ 999)
            && decide (p.colouredBananas level + p.colouredBananasFedToTns level ≤ 100)

/-! ## What only grows -/

/-- A save that lost nothing: flags, pickups, tiers, the bits of the shared upgrades, melons and the
bananas fed. -/
structure GameSave.Grows (s s' : GameSave) : Prop where
  flag : ∀ f, s.flag f = true → s'.flag f = true
  pickup : ∀ b, s.pickup b = true → s'.pickup b = true
  tier : ∀ k field, s.progression k field ≤ s'.progression k field
  bits : ∀ k field, field = 2 ∨ field = 4 →
    s.progression k field &&& s'.progression k field = s.progression k field
  melons : s.melons ≤ s'.melons
  fed : ∀ k level, (s.characterProgress k).colouredBananasFedToTns level
    ≤ (s'.characterProgress k).colouredBananasFedToTns level

variable {s s' s'' : GameSave} {id id' f : Nat}

namespace GameSave

theorem Grows.refl (s : GameSave) : Grows s s :=
  ⟨fun _ h => h, fun _ h => h, fun _ _ => Nat.le_refl _, fun _ _ _ => Nat.and_self _, Nat.le_refl _,
    fun _ _ => Nat.le_refl _⟩

theorem Grows.trans (h : Grows s s') (h' : Grows s' s'') : Grows s s'' where
  flag f hf := h'.flag f (h.flag f hf)
  pickup b hb := h'.pickup b (h.pickup b hb)
  tier k field := Nat.le_trans (h.tier k field) (h'.tier k field)
  bits k field hfield := by
    have hin := h.bits k field hfield
    calc s.progression k field &&& s''.progression k field
        = s.progression k field &&& s'.progression k field &&& s''.progression k field := by rw [hin]
      _ = s.progression k field &&& s'.progression k field := by
        rw [Nat.and_assoc, h'.bits k field hfield]
      _ = s.progression k field := hin
  melons := Nat.le_trans h.melons h'.melons
  fed k level := Nat.le_trans (h.fed k level) (h'.fed k level)

theorem Grows.flagged (h : Grows s s') {flag : Option Nat} (hs : s.flagged flag = true) :
    s'.flagged flag = true := by
  cases flag with
  | none => exact hs
  | some f => exact h.flag f hs

end GameSave

theorem move_bits {m : ProgressionMove} (h : coopProgressionMove id = some m) (hb : m.bits = true) :
    m.field = 2 ∨ m.field = 4 := by
  unfold coopProgressionMove at h
  split_ifs at h <;> obtain rfl := Option.some.inj h <;> simp_all

/-- What reached an upgrade reaches it when nothing is lost. -/
theorem reached_mono {m : ProgressionMove} {a b : Nat} (hle : a ≤ b)
    (hbits : m.bits = true → a &&& b = a) (h : m.reached a = true) : m.reached b = true := by
  unfold ProgressionMove.reached at h ⊢
  split at h
  · rename_i hm
    rw [if_pos hm]
    simp only [bne_iff_ne, ne_eq] at h ⊢
    intro hz
    apply h
    rw [← hbits hm, Nat.and_assoc, hz, Nat.and_zero]
  · rename_i hm
    rw [if_neg hm]
    simp only [decide_eq_true_eq] at h ⊢
    omega

theorem GameSave.Grows.progressionOwned (h : s.Grows s') (ho : coopProgressionOwned s id = true) :
    coopProgressionOwned s' id = true := by
  unfold coopProgressionOwned at ho ⊢
  split_ifs at ho ⊢ with h1 h2 h3
  · exact h.flagged ho
  · simp only [decide_eq_true_eq] at ho ⊢
    exact Nat.le_trans ho h.melons
  · cases hm : coopProgressionMove id with
    | none => rw [hm] at ho; exact ho
    | some m =>
      rw [hm] at ho
      simp only [List.all_eq_true] at ho ⊢
      exact fun k hk => reached_mono (h.tier k m.field) (fun hb => h.bits k _ (move_bits hm hb))
        (ho k hk)

/-- **Nothing owned is lost.** -/
theorem GameSave.Grows.owned (h : s.Grows s') (ho : coopItemOwned s id = true) :
    coopItemOwned s' id = true := by
  unfold coopItemOwned at ho ⊢
  split_ifs at ho ⊢
  · exact h.flag _ ho
  · exact h.flag _ ho
  · exact h.flag _ ho
  · unfold coopTroffOwned at ho ⊢
    cases hb : coopTroffBucket id with
    | none => rw [hb] at ho; exact ho
    | some b =>
      rw [hb] at ho
      simp only [decide_eq_true_eq] at ho ⊢
      exact Nat.le_trans ho (h.fed _ _)
  · exact h.progressionOwned ho
  · exact h.flagged ho
  · exact h.pickup _ ho

/-! ## Flags and ownership -/

theorem id_cases (h : coopItemFlag id = some f) : id < 321 ∨ (2021 ≤ id ∧ id < 2155)
    ∨ (2191 ≤ id ∧ id < 2394) ∨ (5894 ≤ id ∧ id < 5897) := by
  by_contra hn
  rw [coopItemFlag_eq_none (by omega) (by omega) (by omega) (by omega)] at h
  cases h

theorem coopItemFlag_progression (h : 2141 ≤ id) (h' : id < 2394) :
    coopItemFlag id = coopProgressionFlag id := by
  have := ids
  rw [coopItemFlag, if_neg (by omega), if_neg (by omega), if_neg (by omega), if_neg (by omega),
    if_neg (by omega), if_neg (by omega), if_neg (by omega), if_neg (by omega), if_neg (by omega),
    if_neg (by omega), if_neg (by omega), if_neg (by omega), if_neg (by omega)]

/-- **An id with a permanent flag is owned exactly when the flag is set.** -/
theorem owned_iff_flag (h : coopItemFlag id = some f) : coopItemOwned s id = s.flag f := by
  have hids := ids
  have hcases := id_cases h
  unfold coopItemOwned
  split_ifs with h1 h2 h3 h4 h5 h6
  · subst h1
    cases h
    rfl
  · subst h2
    cases h
    rfl
  · subst h3
    cases h
    rfl
  · omega
  · unfold coopProgressionOwned
    rw [if_neg (by omega), if_pos (by omega), ← coopItemFlag_progression (by omega) (by omega), h]
    rfl
  · rw [h]
    rfl
  · omega

/-! ## What an id requires -/

/-- `coop_training_prerequisites`. -/
def coopTrainingPrerequisites (s : GameSave) : Bool :=
  s.flag 0x17F && (List.range 4).all fun i => s.flag (0x182 + i)

/-- The requirement of one row: enough of its ids have their flag. -/
def requirementFlagged (s : GameSave) (r : CoopWorldRequirement) : Bool :=
  decide (r.minimum ≤ (List.range r.count).countP fun i => s.flagged (coopItemFlag (r.first + i)))

/-- The prerequisite and the requirements of a world unlock. -/
def worldRequires (s : GameSave) (unlock : CoopWorldUnlock) : Bool :=
  (!decide (0 ≤ unlock.prerequisite)
      || s.flagged ((coopWorldUnlocks[unlock.prerequisite.toNat]?).map (·.flag)))
    && coopWorldRequirements.all fun r => r.flag != unlock.flag || requirementFlagged s r

/-- What has to be revealed before a Bananaport is tagged. -/
def warpRequires (s : GameSave) (tag : CoopWarpTag) : Bool :=
  !decide (0 ≤ tag.requiredItem) || s.flagged (coopItemFlag tag.requiredItem.toNat)

/-- The key and the lobby of a key turned in. -/
def turnRequires (s : GameSave) (i : Nat) : Bool :=
  s.flagged (coopItemFlag (70 + i)) && s.flagged (coopItemFlag coopLobby)

/-- The lobby and all the keys turned in. -/
def klumsyRequires (s : GameSave) : Bool :=
  s.flagged (coopItemFlag coopLobby)
    && (List.range 8).all fun i => s.flagged (coopItemFlag (coopKeyTurnFirst + i))

/-- The flags `coop_items_full_dependencies` wants of a save that owns the id. -/
def coopItemRequires (s : GameSave) (id : Nat) : Bool :=
  if coopSnideFirst ≤ id ∧ id < coopMedalFirst then s.flag (0x1D5 + (id - coopSnideFirst))
  else if coopKeyTurnFirst ≤ id ∧ id < coopKlumsyFree then turnRequires s (id - coopKeyTurnFirst)
  else if id = coopKlumsyFree then klumsyRequires s
  else if coopTrainingSkillFirst ≤ id ∧ id < coopTrainingComplete then s.flag 0x17F
  else if id = coopTrainingComplete ∨ id = coopFirstSlam then coopTrainingPrerequisites s
  else if coopWarpFirst ≤ id ∧ id < coopBlockerFirst then
    (coopWarpTags[id - coopWarpFirst]?).all (warpRequires s)
  else if coopWorldFirst ≤ id ∧ id < coopProgressionEnd then
    (coopWorldUnlocks[id - coopWorldFirst]?).all (worldRequires s)
  else if id = coopKroolDefeated then s.flagged (coopItemFlag coopKlumsyFree)
  else if id = coopArcadeCoinsPaid then
    s.flagged (coopItemFlag coopFactoryArcadeLever) && s.flagged (coopItemFlag (coopGbFirst + 54))
  else true

theorem requirementFlagged_mono (h : ∀ f, s.flag f = true → s'.flag f = true)
    {r : CoopWorldRequirement} (hr : requirementFlagged s r = true) :
    requirementFlagged s' r = true := by
  simp only [requirementFlagged, decide_eq_true_eq] at hr ⊢
  refine Nat.le_trans hr (List.countP_mono_left fun i _ hi => ?_)
  cases hf : coopItemFlag (r.first + i) with
  | none => rw [hf] at hi; exact hi
  | some f => rw [hf] at hi; exact h f hi

/-- Requirements are about set flags only, so they stay met. -/
theorem requires_mono (h : ∀ f, s.flag f = true → s'.flag f = true)
    (hr : coopItemRequires s id = true) : coopItemRequires s' id = true := by
  have hflagged : ∀ o, s.flagged o = true → s'.flagged o = true := by
    rintro (_ | f) ho
    · exact ho
    · exact h f ho
  have hpre : coopTrainingPrerequisites s = true → coopTrainingPrerequisites s' = true := by
    simp only [coopTrainingPrerequisites, Bool.and_eq_true, List.all_eq_true]
    exact fun hp => ⟨h _ hp.1, fun i hi => h _ (hp.2 i hi)⟩
  unfold coopItemRequires at hr ⊢
  split_ifs at hr ⊢
  · exact h _ hr
  · simp only [turnRequires, Bool.and_eq_true] at hr ⊢
    exact ⟨hflagged _ hr.1, hflagged _ hr.2⟩
  · simp only [klumsyRequires, Bool.and_eq_true, List.all_eq_true] at hr ⊢
    exact ⟨hflagged _ hr.1, fun i hi => hflagged _ (hr.2 i hi)⟩
  · exact h _ hr
  · exact hpre hr
  · cases ht : coopWarpTags[id - coopWarpFirst]? with
    | none => rfl
    | some tag =>
      rw [ht] at hr
      simp only [Option.all_some, warpRequires, Bool.or_eq_true] at hr ⊢
      exact hr.imp_right (hflagged _)
  · cases hu : coopWorldUnlocks[id - coopWorldFirst]? with
    | none => rfl
    | some unlock =>
      rw [hu] at hr
      simp only [Option.all_some, worldRequires, Bool.and_eq_true, Bool.or_eq_true,
        List.all_eq_true] at hr ⊢
      exact ⟨hr.1.imp_right (hflagged _),
        fun r hr' => (hr.2 r hr').imp_right (requirementFlagged_mono h)⟩
  · exact hflagged _ hr
  · simp only [Bool.and_eq_true] at hr ⊢
    exact ⟨hflagged _ hr.1, hflagged _ hr.2⟩
  · rfl

end Dk64Port.Coop
