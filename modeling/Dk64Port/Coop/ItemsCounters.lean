import Dk64Port.Coop.ItemsClosed
import Mathlib.Algebra.Group.Nat.Defs

/-!
# The numeric inventory under applied items (`mod/items_game.h`, `mod/troff_game.h`)

Golden bananas are counted by Kong and level beside the flags they came from, bananas move from held
to fed, and all Kongs share the slam, the belt and the upgrades of guns and instruments.

* `coopItemsCountersValid_iff`: **the numeric inventory is consistent**, field by field.
* `SaveTurn.countersValid`: **a turn keeps it consistent.**
-/

namespace Dk64Port.Coop

variable {e : ItemsEngine} {f : ItemsFrame} {mode : ApplyMode} {id : Nat} {s s' : GameSave}
  {st : ApplyState} {layout : Nat → Nat}

/-! ## A consistent inventory -/

/-- `coop_progression_valid` for one Kong. -/
structure KongValid (s : GameSave) (k : Nat) : Prop where
  moves : s.progression k 0 ≤ 3
  slam : s.progression k 1 ≤ 3
  gun : s.progression k 2 ≤ 7
  belt : s.progression k 3 ≤ 2
  instrument : s.progression k 4 ≤ 15
  gift : s.flag 0x180 = true → s.progression k 1 ≠ 0
  sharedSlam : s.progression k 1 = s.progression 0 1
  sharedBelt : s.progression k 3 = s.progression 0 3
  sharedGun : s.progression k 2 &&& 6 = s.progression 0 2 &&& 6
  sharedInstrument : s.progression k 4 &&& 14 = s.progression 0 4 &&& 14

/-- What `coop_progression_valid` says, Kong by Kong. -/
theorem progressionValid_iff :
    coopProgressionValid s = true ↔ s.melons ≤ 3 ∧ ∀ k < 5, KongValid s k := by
  simp only [coopProgressionValid, Bool.and_eq_true, List.all_eq_true, List.mem_range,
    decide_eq_true_eq, beq_iff_eq, Bool.not_eq_true', Bool.and_eq_false_iff, beq_eq_false_iff_ne]
  refine and_congr_right fun _ => forall₂_congr fun k _ => ?_
  constructor
  · rintro ⟨⟨⟨⟨⟨⟨⟨⟨⟨h0, h1⟩, h2⟩, h3⟩, h4⟩, hgift⟩, hs1⟩, hs3⟩, hs2⟩, hs4⟩
    exact ⟨h0, h1, h2, h3, h4, fun hf => hgift.resolve_left (by simp [hf]), hs1, hs3, hs2, hs4⟩
  · rintro ⟨h0, h1, h2, h3, h4, hgift, hs1, hs3, hs2, hs4⟩
    refine ⟨⟨⟨⟨⟨⟨⟨⟨⟨h0, h1⟩, h2⟩, h3⟩, h4⟩, ?_⟩, hs1⟩, hs3⟩, hs2⟩, hs4⟩
    by_cases hf : s.flag 0x180 = true
    · exact .inr (hgift hf)
    · exact .inl (by simpa using hf)

/-- The counters of one Kong and level. -/
structure CountersAgree (s : GameSave) (level kong : Nat) : Prop where
  golden : (s.characterProgress kong).goldenBananas level = gbCount s level kong
  coins : (s.characterProgress kong).coins ≤ 999
  bananas : (s.characterProgress kong).colouredBananas level
    + (s.characterProgress kong).colouredBananasFedToTns level ≤ 100

/-- Every blueprint reward Snide gave has its blueprint. -/
def SnideBacked (s : GameSave) : Prop :=
  ∀ id ∈ gbIds, (coopItemGb id).isSome → coopItemOwned s id = true → id < coopMedalFirst →
    s.flag (0x1D5 + (id - coopSnideFirst)) = true

/-- **What `coop_items_counters_valid` says.** -/
theorem coopItemsCountersValid_iff : coopItemsCountersValid layout s = true ↔
    (s.melons ≤ 3 ∧ ∀ k < 5, KongValid s k) ∧ SnideBacked s
      ∧ ∀ level < 8, layout level = pickupStart (level + 1) - pickupStart level
        ∧ ∀ kong < 5, CountersAgree s level kong := by
  have hbool : ∀ a b c d : Bool, (!(a && b) || !c || d) = true ↔
      (a = true → b = true → c = true → d = true) := by decide
  rw [coopItemsCountersValid, Bool.and_eq_true, Bool.and_eq_true, progressionValid_iff, and_assoc]
  simp only [List.all_eq_true, hbool, decide_eq_true_eq, List.mem_range, Bool.and_eq_true, beq_iff_eq]
  refine and_congr_right fun _ => and_congr_right fun _ => forall₂_congr fun level _ =>
    and_congr_right fun _ => forall₂_congr fun kong _ => ?_
  exact ⟨fun ⟨⟨hg, hc⟩, hb⟩ => ⟨hg, hc, hb⟩, fun ⟨hg, hc, hb⟩ => ⟨⟨hg, hc⟩, hb⟩⟩

/-! ## Upgrades -/

/-- Bytes that stay the same stay valid. -/
theorem KongValid.congr {k : Nat} (h : KongValid s k)
    (hbyte : ∀ k field, s'.progression k field = s.progression k field)
    (hgift : s'.flag 0x180 = true → s.flag 0x180 = true) : KongValid s' k := by
  obtain ⟨h0, h1, h2, h3, h4, hg, hs1, hs3, hs2, hs4⟩ := h
  constructor <;> simp only [hbyte] <;> first | assumption | exact fun hf => hg (hgift hf)

/-- The upgrades by inventory byte: tiers of a Kong's moves, shared tiers, and bits of which only the
lowest belongs to one Kong. -/
def MoveShape (m : ProgressionMove) : Prop :=
  (m.field = 0 ∧ m.bits = false ∧ m.value ≤ 3)
    ∨ (m.field = 1 ∧ m.bits = false ∧ m.value ≤ 3 ∧ m.kong = 5)
    ∨ (m.field = 3 ∧ m.bits = false ∧ m.value ≤ 2 ∧ m.kong = 5)
    ∨ (m.field = 2 ∧ m.bits = true ∧ m.value < 2 ^ 3 ∧ (m.kong = 5 ∨ m.value &&& 6 = 0))
    ∨ (m.field = 4 ∧ m.bits = true ∧ m.value < 2 ^ 4 ∧ (m.kong = 5 ∨ m.value &&& 14 = 0))

instance (m : ProgressionMove) : Decidable (MoveShape m) := by
  unfold MoveShape
  infer_instance

/-- Every row of the upgrades has one of the five shapes. -/
theorem move_shape {m : ProgressionMove} (h : coopProgressionMove id = some m) : MoveShape m := by
  have := ids
  have := progressionIds
  have hrows : ∀ i < 34, ∀ m ∈ coopProgressionMove (coopMoveFirst + i), MoveShape m := by decide
  have hrange : coopMoveFirst ≤ id ∧ id < coopMelonFirst := by
    by_contra hn
    rw [coopProgressionMove, if_neg (by omega), if_neg (by omega), if_neg (by omega),
      if_neg (by omega), if_neg (by omega), if_neg (by omega), if_neg (by omega)] at h
    cases h
  have hrow := hrows (id - coopMoveFirst) (by omega) m
  rw [show coopMoveFirst + (id - coopMoveFirst) = id by omega] at hrow
  exact hrow h

theorem mem_moveKongs {k kong : Nat} : k ∈ moveKongs kong ↔ k < 5 ∧ (kong = 5 ∨ k = kong) := by
  simp [moveKongs]

/-- A shared part of the byte stays shared: either all Kongs get the bits or the bits are not shared. -/
theorem shared_or {a b v mask : Nat} {p q : Prop} [Decidable p] [Decidable q]
    (h : a &&& mask = b &&& mask) (hv : (p ↔ q) ∨ v &&& mask = 0) :
    (if p then a ||| v else a) &&& mask = (if q then b ||| v else b) &&& mask := by
  rcases hv with hpq | hv
  · by_cases hp : p
    · rw [if_pos hp, if_pos (hpq.mp hp), Nat.and_or_distrib_right, Nat.and_or_distrib_right, h]
    · rw [if_neg hp, if_neg fun hq => hp (hpq.mpr hq), h]
  · split <;> split <;>
      simp only [Nat.and_or_distrib_right, hv, Nat.or_zero, h]

/-- **An upgrade of one of the shapes keeps every Kong valid.** -/
theorem kongValid_raiseMove {m : ProgressionMove} (hm : MoveShape m) (h : ∀ k < 5, KongValid s k) :
    ∀ k < 5, KongValid (s.setProgression (moveKongs m.kong) m.field fun held =>
      if m.bits then held ||| m.value else max held m.value) k := by
  intro k hk
  obtain ⟨h0, h1, h2, h3, h4, hg, hs1, hs3, hs2, hs4⟩ := h k hk
  obtain ⟨kong, field, value, bits⟩ := m
  simp only [MoveShape] at hm
  rcases hm with ⟨rfl, rfl, hv⟩ | ⟨rfl, rfl, hv, rfl⟩ | ⟨rfl, rfl, hv, rfl⟩ | ⟨rfl, rfl, hv, hkong⟩
    | ⟨rfl, rfl, hv, hkong⟩
  -- the bytes the upgrade leaves alone
  all_goals
    constructor <;>
      simp only [GameSave.setProgression_progression, mem_moveKongs, hk, flag_setProgression] <;>
      try simp only [Nat.reduceEqDiff, and_false, if_false, and_true, true_and, true_or, if_true,
        Nat.succ_ne_self, Nat.zero_lt_succ, Bool.false_eq_true]
  all_goals try assumption
  -- the byte it writes
  case inl.moves =>
    split
    · exact Nat.max_le.mpr ⟨h0, hv⟩
    · exact h0
  case inr.inl.slam => exact Nat.max_le.mpr ⟨h1, hv⟩
  case inr.inl.gift =>
    intro hf
    have := hg hf
    omega
  case inr.inl.sharedSlam => rw [hs1]
  case inr.inr.inl.belt => exact Nat.max_le.mpr ⟨h3, hv⟩
  case inr.inr.inl.sharedBelt => rw [hs3]
  case inr.inr.inr.inl.gun =>
    split
    · have hor : s.progression k 2 ||| value < 2 ^ 3 := Nat.or_lt_two_pow (by omega) hv
      omega
    · exact h2
  case inr.inr.inr.inl.sharedGun =>
    exact shared_or hs2 (hkong.imp_left fun h5 => by simp [h5])
  case inr.inr.inr.inr.instrument =>
    split
    · have hor : s.progression k 4 ||| value < 2 ^ 4 := Nat.or_lt_two_pow (by omega) hv
      omega
    · exact h4
  case inr.inr.inr.inr.sharedInstrument =>
    exact shared_or hs4 (hkong.imp_left fun h5 => by simp [h5])

/-- So does raising a tier or the melons. -/
theorem raiseTier_valid (hid : id < coopTrainingFirst)
    (h : s.melons ≤ 3 ∧ ∀ k < 5, KongValid s k) :
    (raiseTier s id).melons ≤ 3 ∧ ∀ k < 5, KongValid (raiseTier s id) k := by
  have := ids
  have := progressionIds
  unfold raiseTier
  split
  · refine ⟨?_, fun k hk => (h.2 k hk).congr (fun _ _ => rfl) fun hf => hf⟩
    dsimp only
    omega
  split
  · exact h
  · rename_i hm
    exact ⟨h.1, kongValid_raiseMove (move_shape hm) h.2⟩

/-- The first slam gives tier 1 to all five. -/
theorem slam_valid (h : s.melons ≤ 3 ∧ ∀ k < 5, KongValid s k) : ∀ k < 5,
      KongValid ((s.raise (coopItemFlag id)).setProgression (List.range 5) 1 fun held => max held 1)
        k := by
  intro k hk
  obtain ⟨h0, h1, h2, h3, h4, hg, hs1, hs3, hs2, hs4⟩ := h.2 k hk
  have hbyte : ∀ k field, (s.raise (coopItemFlag id)).progression k field = s.progression k field :=
    fun _ _ => rfl
  constructor <;>
    simp only [GameSave.setProgression_progression, List.mem_range, hk, hbyte] <;>
    try simp only [Nat.reduceEqDiff, and_false, if_false, and_true, if_true,
      Nat.succ_ne_self, Nat.zero_lt_succ]
  all_goals try assumption
  · exact Nat.max_le.mpr ⟨h1, by decide⟩
  · omega
  · rw [hs1]

/-! ## Golden bananas -/

/-- Counting once more: one more element of a list without repetitions counts. -/
theorem countP_one_more {α : Type} {p q : α → Bool} {a : α} {l : List α} (hl : l.Nodup) (ha : a ∈ l)
    (hp : p a = false) (hq : q a = true) (hother : ∀ b ∈ l, b ≠ a → q b = p b) :
    l.countP q = l.countP p + 1 := by
  induction l with
  | nil => cases ha
  | cons b l ih =>
    obtain ⟨hb, hl⟩ := List.nodup_cons.mp hl
    by_cases hab : b = a
    · subst hab
      have hrest : l.countP q = l.countP p :=
        List.countP_congr fun c hc => by
          rw [hother c (List.mem_cons_of_mem _ hc) fun h => hb (h ▸ hc)]
      rw [List.countP_cons_of_pos hq, List.countP_cons_of_neg (by simp [hp]), hrest]
    · have hrest := ih hl ((List.mem_cons.mp ha).resolve_left fun h => hab h.symm)
        fun c hc => hother c (List.mem_cons_of_mem _ hc)
      have hsame := hother b List.mem_cons_self hab
      rw [List.countP_cons, List.countP_cons, hrest, hsame]
      omega

/-- The counted golden bananas are the rewards of Snide and those with a flag of their own. -/
theorem gb_range (h : (coopItemGb id).isSome) : (coopSnideFirst ≤ id ∧ id < coopMedalFirst)
    ∨ (coopGbFirst ≤ id ∧ id < coopPickupFirst) := by
  by_contra hn
  rw [coopItemGb, if_neg fun h => hn (.inl h), if_neg fun h => hn (.inr h)] at h
  cases h

theorem gb_flag (h : (coopItemGb id).isSome) : (coopItemFlag id).isSome := by
  have := ids
  have hrange := gb_range h
  have hp : ¬ isPickup id = true := by
    simp only [isPickup, decide_eq_true_eq]
    omega
  exact (flag_or_pickup (by omega) (by omega)).resolve_right hp

/-- A turn makes one golden banana owned at most, its own. -/
theorem SaveTurn.owned_gb (h : SaveTurn e id s s') {j : Nat} (hj : (coopItemGb j).isSome)
    (hne : j ≠ id) : coopItemOwned s' j = coopItemOwned s j := by
  obtain ⟨x, hx⟩ := Option.isSome_iff_exists.mp (gb_flag hj)
  rw [Bool.eq_iff_iff]
  refine ⟨fun ho => ?_, h.grows.owned⟩
  rw [owned_iff_flag hx] at ho ⊢
  rcases h.new_flag ho with hs | hid | ⟨level, hlevel, kong, hkong, hm⟩
  · exact hs
  · exact absurd (coopItemFlag_injective hx hid) hne
  · have := ids
    have hrange := gb_range hj
    have hid := coopItemFlag_injective hx hm
    unfold medalId at hid
    omega

/-- A turn that credits no golden banana leaves their number alone. -/
theorem SaveTurn.gbCount_same (h : SaveTurn e id s s') {level kong : Nat}
    (hid : coopItemGb id ≠ some (level, kong)) : gbCount s' level kong = gbCount s level kong := by
  refine List.countP_congr fun j _ => ?_
  by_cases hj : coopItemGb j = some (level, kong)
  · rw [h.owned_gb (by rw [hj]; rfl) fun heq => hid (heq ▸ hj)]
  · simp [hj]

/-- A golden banana that becomes owned counts for its level and Kong. -/
theorem SaveTurn.gbCount_succ (h : SaveTurn e id s s') {level kong : Nat}
    (hid : coopItemGb id = some (level, kong)) (hnew : coopItemOwned s id = false)
    (hown : coopItemOwned s' id = true) : gbCount s' level kong = gbCount s level kong + 1 := by
  have := ids
  have hrange := gb_range (show (coopItemGb id).isSome from by rw [hid]; rfl)
  have hmem : id ∈ gbIds := by
    rw [gbIds, List.mem_range'_1]
    omega
  unfold gbCount
  refine countP_one_more (List.nodup_range' ..) hmem (by simp [hnew]) (by simp [hid, hown])
    fun j _ hj => ?_
  · by_cases hgb : coopItemGb j = some (level, kong)
    · rw [h.owned_gb (by rw [hgb]; rfl) hj]
    · have hbeq : (coopItemGb j == some (level, kong)) = false := by simpa using hgb
      rw [hbeq, Bool.false_and, Bool.false_and]

/-! ## The counters of a turn -/

/-- Saves with the same counters and golden bananas agree alike. -/
theorem CountersAgree.congr {level kong : Nat} (h : CountersAgree s level kong)
    (hgolden : (s'.characterProgress kong).goldenBananas level
      = (s.characterProgress kong).goldenBananas level)
    (hcoins : (s'.characterProgress kong).coins = (s.characterProgress kong).coins)
    (hbananas : (s'.characterProgress kong).colouredBananas level
        + (s'.characterProgress kong).colouredBananasFedToTns level
      = (s.characterProgress kong).colouredBananas level
        + (s.characterProgress kong).colouredBananasFedToTns level)
    (hcount : gbCount s' level kong = gbCount s level kong) : CountersAgree s' level kong :=
  ⟨hgolden.trans (h.golden.trans hcount.symm), hcoins ▸ h.coins, hbananas ▸ h.bananas⟩

/-- A golden banana is counted where `coop_item_gb` says. -/
theorem collectible_gb (h : (coopItemGb id).isSome) :
    coopItemGb id = some ((collectible e id).level, (collectible e id).kong)
      ∧ creditAmount e id = 1 ∧ counterField e id = .golden ∧ isRainbow id = false := by
  have := ids
  have hrange := gb_range h
  obtain ⟨slot, hslot⟩ := Option.isSome_iff_exists.mp h
  have hp : isPickup id = false := by
    simp only [isPickup, decide_eq_false_iff_not]
    omega
  have ha : isActor id = false := by
    simp only [isActor, decide_eq_false_iff_not]
    omega
  have hc : collectible e id = ⟨slot.1, slot.2, 1, gbMap id⟩ := by
    rw [collectible, hp, ha, if_neg (by simp), if_neg (by simp), if_neg (by omega), hslot]
    rfl
  refine ⟨by rw [hc, hslot], by rw [creditAmount, hc]; rfl, by rw [counterField, if_pos h], ?_⟩
  rw [isRainbow, ha]
  rfl

/-- What is not a rainbow coin is credited to one Kong. -/
theorem credit_kong {k : Nat} (hr : isRainbow id = false) :
    (creditCounter e s id).characterProgress k
      = if k = (collectible e id).kong then
          (s.characterProgress k).setCounter (collectible e id).level
            ((s.characterProgress k).counter (collectible e id).level (counterField e id)
              + creditAmount e id) (counterField e id)
        else s.characterProgress k := by
  rw [creditCounter, if_neg (by rw [hr]; simp)]
  rfl

/-- A rainbow coin is credited to every Kong. -/
theorem credit_rainbow {k : Nat} (hr : isRainbow id = true) (hk : k < 5) :
    (creditCounter e s id).characterProgress k
      = (s.characterProgress k).setCounter 0 ((s.characterProgress k).coins + 5) .coins := by
  rw [creditCounter, if_pos hr]
  exact if_pos hk

/-- A rainbow coin leaves every Kong's coins within their bound. -/
theorem rainbow_countersAgree {level kong : Nat} (hold : CountersAgree s level kong)
    (hr : isRainbow id = true)
    (hchars : s'.characterProgress = (creditCounter e s id).characterProgress)
    (hfits : creditOverflows e s id = false) (hsame : gbCount s' level kong = gbCount s level kong)
    (hkong : kong < 5) : CountersAgree s' level kong := by
  have hcoins : (s.characterProgress kong).coins ≤ 994 := by
    rw [creditOverflows, if_pos hr] at hfits
    simpa using List.any_eq_false.mp hfits kong (List.mem_range.mpr hkong)
  have hnow := credit_rainbow (e := e) (s := s) hr hkong
  rw [← hchars] at hnow
  refine ⟨?_, ?_, ?_⟩
  · rw [hnow, hsame]
    exact hold.golden
  · rw [hnow]
    simp only [CharacterProgress.setCounter]
    omega
  · rw [hnow]
    exact hold.bananas

/-- What a credit leaves: the counters of every Kong, and one count more for a golden banana. -/
theorem credit_countersAgree (hv : ∀ level < 8, ∀ kong < 5, CountersAgree s level kong)
    (hchars : s'.characterProgress = (creditCounter e s id).characterProgress)
    (hfits : creditOverflows e s id = false)
    (hcount : ∀ level kong, gbCount s' level kong
      = gbCount s level kong + if coopItemGb id = some (level, kong) then 1 else 0)
    {level kong : Nat} (hlevel : level < 8) (hkong : kong < 5) : CountersAgree s' level kong := by
  have hold := hv level hlevel kong hkong
  have hsame : ¬ (coopItemGb id).isSome → gbCount s' level kong = gbCount s level kong := by
    intro hgb
    rw [hcount, if_neg fun h => hgb (by rw [h]; rfl), Nat.add_zero]
  have hother : counterField e id ≠ .golden → ¬ (coopItemGb id).isSome :=
    fun hfield hgb => hfield (collectible_gb hgb).2.2.1
  by_cases hr : isRainbow id = true
  · refine rainbow_countersAgree hold hr hchars hfits (hsame fun h => ?_) hkong
    rw [(collectible_gb (e := e) h).2.2.2] at hr
    cases hr
  have hr := Bool.eq_false_iff.mpr hr
  have hnow := credit_kong (e := e) (s := s) (k := kong) hr
  rw [← hchars] at hnow
  by_cases hk : kong = (collectible e id).kong
  swap
  · rw [if_neg hk] at hnow
    refine hold.congr (by rw [hnow]) (by rw [hnow]) (by rw [hnow]) ?_
    rw [hcount, if_neg fun h => hk ?_, Nat.add_zero]
    have hgb := (collectible_gb (e := e) (show (coopItemGb id).isSome from by rw [h]; rfl)).1
    rw [h] at hgb
    cases hgb
    rfl
  rw [if_pos hk] at hnow
  have hcap : (s.characterProgress kong).counter (collectible e id).level (counterField e id)
      + creditAmount e id
      ≤ (s.characterProgress kong).capacity (collectible e id).level kong (counterField e id) := by
    rw [creditOverflows, if_neg (by rw [hr]; simp)] at hfits
    simpa [hk] using hfits
  cases hfield : counterField e id with
  | golden =>
    have hgb : (coopItemGb id).isSome := by
      by_contra hn
      rw [counterField, if_neg hn] at hfield
      split at hfield <;> cases hfield
    obtain ⟨hslot, hone, -, -⟩ := collectible_gb (e := e) hgb
    rw [hfield] at hnow hcap
    rw [hone] at hnow hcap
    rw [hslot, ← hk] at hcount
    have hsix : coopSnideCapacity (collectible e id).level kong ≤ 6 := by
      unfold coopSnideCapacity
      split <;> decide
    simp only [CharacterProgress.counter, CharacterProgress.capacity, CharacterProgress.setCounter]
      at hnow hcap
    have hgolden : (s'.characterProgress kong).goldenBananas
        = Function.update (s.characterProgress kong).goldenBananas (collectible e id).level
          (((s.characterProgress kong).goldenBananas (collectible e id).level + 1) % 2 ^ 16) := by
      rw [hnow]
    by_cases hl : level = (collectible e id).level
    · subst hl
      refine ⟨?_, by rw [hnow]; exact hold.coins, by rw [hnow]; exact hold.bananas⟩
      rw [hgolden, hcount, if_pos rfl, ← hold.golden, Function.update_self,
        Nat.mod_eq_of_lt (by omega)]
    · refine hold.congr (by rw [hgolden, Function.update_of_ne hl]) (by rw [hnow]) (by rw [hnow]) ?_
      rw [hcount, if_neg fun h => hl (by cases h; rfl), Nat.add_zero]
  | coloured =>
    have hsame := hsame (hother (by rw [hfield]; simp))
    rw [hfield] at hnow hcap
    simp only [CharacterProgress.counter, CharacterProgress.capacity, CharacterProgress.setCounter]
      at hnow hcap
    refine ⟨by rw [hnow, hsame]; exact hold.golden, by rw [hnow]; exact hold.coins, ?_⟩
    rw [hnow]
    by_cases hl : level = (collectible e id).level
    · subst hl
      have := hold.bananas
      dsimp only
      rw [Function.update_self]
      omega
    · dsimp only
      rw [Function.update_of_ne hl]
      exact hold.bananas
  | coins =>
    have hsame := hsame (hother (by rw [hfield]; simp))
    rw [hfield] at hnow hcap
    simp only [CharacterProgress.counter, CharacterProgress.capacity, CharacterProgress.setCounter]
      at hnow hcap
    refine ⟨by rw [hnow, hsame]; exact hold.golden, ?_, by rw [hnow]; exact hold.bananas⟩
    rw [hnow]
    dsimp only
    omega

/-! ## One turn -/

/-- A credited pickup leaves the upgrades alone. -/
theorem progression_credit {k field : Nat} :
    (creditCounter e s id).progression k field = s.progression k field := by
  unfold creditCounter GameSave.progression
  dsimp only
  split
  · dsimp only
    split
    · rw [setCounter_progression]
    · rfl
  · rw [GameSave.setKong_characterProgress]
    split
    · rw [setCounter_progression]
    · rfl

theorem feed_kong (s : GameSave) (level kong k : Nat) :
    (s.feed level kong).characterProgress k = if k = kong then
    { s.characterProgress k with
      colouredBananas := Function.update (s.characterProgress k).colouredBananas level
        ((s.characterProgress k).colouredBananas level - 1)
      colouredBananasFedToTns := Function.update (s.characterProgress k).colouredBananasFedToTns level
        ((s.characterProgress k).colouredBananasFedToTns level + 1) }
    else s.characterProgress k := rfl

/-- So does what is fed to Troff and Scoff. -/
theorem progression_feed {level kong k field : Nat} :
    (s.feed level kong).progression k field = s.progression k field := by
  rw [GameSave.progression, feed_kong]
  split <;> rfl

/-- So does the bit or flag of a collectible. -/
theorem progression_taken {k field : Nat} :
    (taken s id).progression k field = s.progression k field := by
  rw [GameSave.progression, taken_characterProgress]
  rfl

theorem melons_credit : (creditCounter e (taken s id) id).melons = s.melons := by
  unfold creditCounter taken
  dsimp only
  split <;> split <;> rfl

/-- Only the first slam sets the flag of the shared slam. -/
theorem SaveTurn.gift (h : SaveTurn e id s s') (hid : id ≠ coopFirstSlam)
    (hf : s'.flag 0x180 = true) : s.flag 0x180 = true := by
  have hslam : coopItemFlag coopFirstSlam = some 0x180 := by decide
  rcases h.new_flag hf with hs | hx | ⟨level, hlevel, kong, hkong, hm⟩
  · exact hs
  · exact absurd (coopItemFlag_injective hx hslam) hid
  · have := ids
    have := progressionIds
    have heq := coopItemFlag_injective hm hslam
    unfold medalId at heq
    omega

/-- Every golden banana is counted. -/
theorem counted_gb (h : (coopItemGb id).isSome) : counted id = true := by
  simp [counted, h]

theorem gb_eq_none (h : coopProgressionFirst ≤ id) : coopItemGb id = none := by
  have := ids
  rw [coopItemGb, if_neg (by omega), if_neg (by omega)]

/-- **One turn keeps the upgrades valid.** -/
theorem SaveTurn.progressionValid (h : SaveTurn e id s s')
    (hv : s.melons ≤ 3 ∧ ∀ k < 5, KongValid s k) : s'.melons ≤ 3 ∧ ∀ k < 5, KongValid s' k := by
  have := ids
  have := progressionIds
  have hgift : id ≠ coopFirstSlam → s'.flag 0x180 = true → s.flag 0x180 = true := h.gift
  have hcredit : counted id = true → id ≠ coopFirstSlam := by
    rintro hcounted rfl
    rw [counted_eq_false (by omega) (by omega)] at hcounted
    cases hcounted
  cases h with
  | same => exact hv
  | flag _ _ _ hslam => exact ⟨hv.1, fun k hk => (hv.2 k hk).congr (fun _ _ => rfl) (hgift hslam)⟩
  | slam => exact ⟨hv.1, slam_valid hv⟩
  | tier hid => exact raiseTier_valid hid.2 hv
  | feed level kong hid =>
    refine ⟨hv.1, fun k hk => (hv.2 k hk).congr (fun _ _ => progression_feed) fun hf => hf⟩
  | credit _ hcounted =>
    exact ⟨Nat.le_trans (Nat.le_of_eq melons_credit) hv.1, fun k hk => (hv.2 k hk).congr
      (fun _ _ => progression_credit.trans progression_taken) (hgift (hcredit hcounted))⟩
  | medal _ hcounted =>
    exact ⟨Nat.le_trans (Nat.le_of_eq melons_credit) hv.1, fun k hk => (hv.2 k hk).congr
      (fun _ _ => progression_credit.trans progression_taken) (hgift (hcredit hcounted))⟩

/-- A golden banana that becomes owned has what it requires. -/
theorem SaveTurn.gb_requires (h : SaveTurn e id s s') (hgb : (coopItemGb id).isSome)
    (hnew : coopItemOwned s id = false) (hown : coopItemOwned s' id = true) :
    coopItemRequires s id = true := by
  have := ids
  have := progressionIds
  have hrange := gb_range hgb
  cases h with
  | same =>
    rw [hnew] at hown
    cases hown
  | flag _ _ hcounted =>
    rw [counted_gb hgb] at hcounted
    cases hcounted
  | slam _ hid => omega
  | tier hid => omega
  | feed level kong hid =>
    rw [coopTroffBucket, if_pos (by omega)] at hid
    cases hid
  | credit _ _ hblueprint => exact hblueprint
  | medal _ _ hblueprint => exact hblueprint

/-- **One turn keeps the rewards of Snide backed by blueprints.** -/
theorem SaveTurn.snideBacked (h : SaveTurn e id s s') (hs : SnideBacked s) : SnideBacked s' := by
  intro j hj hgb hown hlt
  refine h.grows.flag _ ?_
  by_cases hne : j = id
  · subst hne
    by_cases hold : coopItemOwned s j = true
    · exact hs j hj hgb hold hlt
    · have hreq := h.gb_requires hgb (Bool.eq_false_iff.mpr hold) hown
      have := ids
      have hrange := gb_range hgb
      rwa [coopItemRequires, if_pos (by omega)] at hreq
  · exact hs j hj hgb (h.owned_gb hgb hne ▸ hown) hlt

/-- What is fed was held, so their sum stays. -/
theorem feed_countersAgree (hv : ∀ level < 8, ∀ kong < 5, CountersAgree s level kong)
    {level kong l k : Nat} (hheld : (s.characterProgress kong).colouredBananas level ≠ 0)
    (hcount : gbCount (s.feed level kong) l k = gbCount s l k) (hl : l < 8) (hk : k < 5) :
    CountersAgree (s.feed level kong) l k := by
  have hold := hv l hl k hk
  have hnow := feed_kong s level kong k
  by_cases hkong : k = kong
  · subst hkong
    rw [if_pos rfl] at hnow
    refine hold.congr (by rw [hnow]) (by rw [hnow]) ?_ hcount
    rw [hnow]
    dsimp only
    by_cases hlevel : l = level
    · subst hlevel
      rw [Function.update_self, Function.update_self]
      omega
    · rw [Function.update_of_ne hlevel, Function.update_of_ne hlevel]
  · rw [if_neg hkong] at hnow
    exact hold.congr (by rw [hnow]) (by rw [hnow]) (by rw [hnow]) hcount

/-- The counters of a save whose upgrades alone changed. -/
theorem setProgression_countersAgree {kongs : List Nat} {b : Nat} {value : Nat → Nat}
    {level kong : Nat} (h : CountersAgree s level kong)
    (hchars : s'.characterProgress = (s.setProgression kongs b value).characterProgress)
    (hcount : gbCount s' level kong = gbCount s level kong) : CountersAgree s' level kong := by
  have hnow : s'.characterProgress kong = if kong ∈ kongs then
      { s.characterProgress kong with
        progression := fun i => if i = b then value ((s.characterProgress kong).progression i)
          else (s.characterProgress kong).progression i }
      else s.characterProgress kong := by
    rw [hchars]
    rfl
  split at hnow <;> exact h.congr (by rw [hnow]) (by rw [hnow]) (by rw [hnow]) hcount

/-- **One turn keeps the counters of every Kong and level.** -/
theorem SaveTurn.countersAgree (h : SaveTurn e id s s')
    (hv : ∀ level < 8, ∀ kong < 5, CountersAgree s level kong) :
    ∀ level < 8, ∀ kong < 5, CountersAgree s' level kong := by
  have := ids
  have := progressionIds
  intro l hl k hk
  have hsame : coopItemGb id = none → gbCount s' l k = gbCount s l k :=
    fun hgb => h.gbCount_same (by rw [hgb]; simp)
  have hcredit : coopItemOwned s id = false →
      ((coopItemGb id).isSome → coopItemOwned s' id = true) → ∀ level kong, gbCount s' level kong
        = gbCount s level kong + if coopItemGb id = some (level, kong) then 1 else 0 := by
    intro hnew hown level kong
    split
    · rename_i hgb
      exact h.gbCount_succ hgb hnew (hown (by rw [hgb]; rfl))
    · rename_i hgb
      exact h.gbCount_same hgb
  have htaken : (coopItemGb id).isSome →
      coopItemOwned (creditCounter e (taken s id) id) id = true :=
    fun hgb => (grows_credit _ id).owned (owned_taken (.inl (gb_flag hgb)))
  have hchars : (creditCounter e (taken s id) id).characterProgress
      = (creditCounter e s id).characterProgress := by
    unfold creditCounter
    dsimp only
    split <;> simp [GameSave.setKong]
  cases h with
  | same => exact hv l hl k hk
  | flag _ _ hcounted =>
    refine (hv l hl k hk).congr rfl rfl rfl (hsame ?_)
    by_contra hgb
    rw [counted_gb (Option.isSome_iff_ne_none.mpr hgb)] at hcounted
    cases hcounted
  | slam _ hid =>
    have hslam : ((s.raise (coopItemFlag id)).setProgression (List.range 5) 1
        fun held => max held 1).characterProgress
        = (s.setProgression (List.range 5) 1 fun held => max held 1).characterProgress := rfl
    exact setProgression_countersAgree (hv l hl k hk) hslam (hsame (gb_eq_none (by omega)))
  | tier hid =>
    have hgb := hsame (gb_eq_none (by omega))
    generalize hs' : raiseTier s id = s' at hgb ⊢
    unfold raiseTier at hs'
    split at hs'
    · subst hs'
      exact (hv l hl k hk).congr rfl rfl rfl hgb
    split at hs'
    · subst hs'
      exact hv l hl k hk
    · subst hs'
      exact setProgression_countersAgree (hv l hl k hk) rfl hgb
  | feed level kong hid hheld =>
    refine feed_countersAgree hv hheld (hsame (gb_eq_none ?_)) hl hk
    by_contra hn
    rw [coopTroffBucket, if_pos (by omega)] at hid
    cases hid
  | credit hnew _ _ hfits =>
    exact credit_countersAgree hv hchars hfits (hcredit hnew htaken) hl hk
  | medal hnew _ _ hfits =>
    have hmedal : ((creditCounter e (taken s id) id).raise (coopItemFlag
        (medalId (collectible e id).level (collectible e id).kong))).characterProgress
        = (creditCounter e s id).characterProgress := hchars
    exact credit_countersAgree hv hmedal hfits
      (hcredit hnew fun hgb => (GameSave.grows_raise _ _).owned (htaken hgb)) hl hk

/-- **A turn keeps the numeric inventory consistent.** -/
theorem SaveTurn.countersValid (h : SaveTurn e id s s')
    (hv : coopItemsCountersValid layout s = true) : coopItemsCountersValid layout s' = true := by
  rw [coopItemsCountersValid_iff] at hv ⊢
  obtain ⟨hp, hs, hc⟩ := hv
  exact ⟨h.progressionValid hp, h.snideBacked hs, fun level hl => ⟨(hc level hl).1,
    h.countersAgree (fun level hl => (hc level hl).2) level hl⟩⟩

/-! ## A new save -/

/-- The pickups of a complete setup. -/
def setupLayout (level : Nat) : Nat := pickupStart (level + 1) - pickupStart level

theorem newSave_owned (h : (coopItemGb id).isSome) : coopItemOwned (flagSave []) id = false := by
  obtain ⟨x, hx⟩ := Option.isSome_iff_exists.mp (gb_flag h)
  rw [owned_iff_flag hx]
  rfl

/-- A new save passes. -/
theorem newSave_countersValid : coopItemsCountersValid setupLayout (flagSave []) = true := by
  rw [coopItemsCountersValid_iff]
  refine ⟨⟨Nat.zero_le _, fun k _ => ?_⟩, fun id _ hgb hown => ?_,
    fun level _ => ⟨rfl, fun kong _ => ⟨?_, Nat.zero_le _, Nat.zero_le _⟩⟩⟩
  · refine ⟨?_, ?_, ?_, ?_, ?_, fun h => ?_, rfl, rfl, rfl, rfl⟩
    · exact Nat.zero_le _
    · exact Nat.zero_le _
    · exact Nat.zero_le _
    · exact Nat.zero_le _
    · exact Nat.zero_le _
    · cases h
  · rw [newSave_owned hgb] at hown
    cases hown
  · refine (List.countP_eq_zero.mpr fun id _ => ?_).symm
    by_cases hgb : coopItemGb id = some (level, kong)
    · rw [newSave_owned (by rw [hgb]; rfl), Bool.and_false]
      exact Bool.false_ne_true
    · simp [hgb]

end Dk64Port.Coop
