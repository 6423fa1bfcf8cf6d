import Dk64Port.Coop.Combat
import Dk64Port.Lib.BitFields
import Mathlib.Data.Fintype.Basic
import Mathlib.Tactic.FinCases
import Mathlib.Algebra.Group.Nat.Defs

/-!
# Combat frames on the wire

`combat_words` packs the page numbers into the feature word, identity and state into one word, and
the boss motion into the record of slot zero. On valid frames nothing of it is lost, in both
directions.

* `combatFromWords_combatWords`: **a valid frame arrives as it was sent.**
* `combatWords_combatFromWords`: **words that show a valid frame are the words of that frame.**
-/

namespace Dk64Port.Coop

open BitFields

variable {f : CoopCombatFrame} {e : CoopEnemy} {m : CoopBossMotion}
  {w : Fin coopCombatWireWords → Word} {i : Fin coopEnemies}

/-! ## The packed words -/

/-- The fields of a record fit the identity word. -/
structure FitsIdentity (e : CoopEnemy) : Prop where
  key : e.key.toNat ≤ 256
  state : e.state.toNat ≤ 3
  kind : e.kind.toNat ≤ 63

/-- `e.key | (e.state << 9) | (e.kind << 11)`. -/
def packIdentity (e : CoopEnemy) : Word := e.key ||| (e.state <<< 9) ||| (e.kind <<< 11)

/-- The identity word, as a number: 9 bits of key, 2 of state, 6 of kind. -/
theorem toNat_packIdentity (h : FitsIdentity e) :
    (packIdentity e).toNat = e.key.toNat + 512 * e.state.toNat + 2048 * e.kind.toNat := by
  obtain ⟨hkey, hstate, hkind⟩ := h
  have hlow : (e.key ||| (e.state <<< 9)).toNat = e.key.toNat + 2 ^ 9 * e.state.toNat :=
    toNat_or_shiftLeft (by omega) (by omega)
  have htop : (packIdentity e).toNat
      = (e.key ||| (e.state <<< 9)).toNat + 2 ^ 11 * e.kind.toNat :=
    toNat_or_shiftLeft (by omega) (by omega)
  omega

/-- The key of an identity word. -/
theorem key_of_identity (x : Word) : (x &&& enemyKeyMask).toNat = x.toNat % 512 :=
  toNat_and_mask (k := 9) (by decide)

/-- The state of an identity word. -/
theorem state_of_identity (x : Word) : ((x >>> 9) &&& 3).toNat = x.toNat / 512 % 4 :=
  toNat_field (k := 2) (by decide)

/-- The kind of an identity word. -/
theorem kind_of_identity (x : Word) :
    ((x >>> 11) &&& enemyKindMask).toNat = x.toNat / 2048 % 64 :=
  toNat_field (k := 6) (by decide)

/-- An identity word has 17 bits. -/
theorem identity_fits_iff (x : Word) : x &&& ~~~ enemyIdentityMask = 0 ↔ x.toNat < 2 ^ 17 :=
  and_not_mask_eq_zero (k := 17) (by decide)

/-- `f.enabled | (f.page << 8) | (f.pages << 16)`. -/
def packFeature (f : CoopCombatFrame) : Word := f.enabled ||| (f.page <<< 8) ||| (f.pages <<< 16)

/-- The feature word, as a number: three bytes. -/
theorem toNat_packFeature (h1 : f.enabled.toNat < 256) (h2 : f.page.toNat < 256)
    (h3 : f.pages.toNat < 256) : (packFeature f).toNat
      = f.enabled.toNat + 256 * f.page.toNat + 65536 * f.pages.toNat := by
  have hlow : (f.enabled ||| (f.page <<< 8)).toNat = f.enabled.toNat + 2 ^ 8 * f.page.toNat :=
    toNat_or_shiftLeft (by omega) (by omega)
  have htop : (packFeature f).toNat
      = (f.enabled ||| (f.page <<< 8)).toNat + 2 ^ 16 * f.pages.toNat :=
    toNat_or_shiftLeft (by omega) (by omega)
  omega

/-- A feature word has 24 bits. -/
theorem feature_fits_iff (x : Word) : x &&& 0xFF000000 = 0 ↔ x.toNat < 2 ^ 24 :=
  and_not_mask_eq_zero (k := 24) (by decide)

theorem byte_of_feature (x : Word) (s : Nat) : ((x >>> s) &&& 0xFF).toNat = x.toNat / 2 ^ s % 256 :=
  toNat_field (k := 8) (by decide)

/-! ## Records in the words -/

/-- The words of enemy slot `i` start at `4 + 7 * i`. -/
theorem wordAt_combatWords_enemy (f : CoopCombatFrame) (i : Fin coopEnemies) (k : Fin 7) :
    wordAt (combatWords f) (4 + 7 * i.val + k.val) = enemyWord f i k := by
  have hi : i.val < 20 := i.isLt
  have hq : (4 + 7 * i.val + k.val - 4) / 7 = i.val := by omega
  have hr : (4 + 7 * i.val + k.val - 4) % 7 = k.val := by omega
  rw [wordAt_of_lt (by omega : 4 + 7 * i.val + k.val < 204), combatWords,
    dif_neg (by omega : ¬ 4 + 7 * i.val + k.val < 4),
    dif_pos (by omega : 4 + 7 * i.val + k.val < 144)]
  exact congrArg₂ (fun i k => enemyWord f i k) (Fin.ext hq) (Fin.ext hr)

/-- The words of shot `i` start at `144 + 7 * i`. -/
theorem wordAt_combatWords_shot (f : CoopCombatFrame) (i : Fin coopShots) (k : Fin 7) :
    wordAt (combatWords f) (144 + 7 * i.val + k.val) = shotWord (f.shots i) k := by
  have hi : i.val < 8 := i.isLt
  have hq : (144 + 7 * i.val + k.val - 144) / 7 = i.val := by omega
  have hr : (144 + 7 * i.val + k.val - 144) % 7 = k.val := by omega
  rw [wordAt_of_lt (by omega : 144 + 7 * i.val + k.val < 204), combatWords,
    dif_neg (by omega : ¬ 144 + 7 * i.val + k.val < 4),
    dif_neg (by omega : ¬ 144 + 7 * i.val + k.val < 144),
    dif_pos (by omega : 144 + 7 * i.val + k.val < 200)]
  exact congrArg₂ (fun i k => shotWord (f.shots i) k) (Fin.ext hq) (Fin.ext hr)

/-- The seven words of slot `i`, read back. -/
theorem enemyFromWords_combatWords (f : CoopCombatFrame) (i : Fin coopEnemies) :
    enemyFromWords (combatWords f) i =
      { key := if wireIdentity f i &&& ~~~ enemyIdentityMask ≠ 0 then 257
          else wireIdentity f i &&& enemyKeyMask
        state := (wireIdentity f i >>> 9) &&& 3
        kind := (wireIdentity f i >>> 11) &&& enemyKindMask
        life := (wireEnemy f i).life, peerLife := (wireEnemy f i).peerLife
        x := (wireEnemy f i).x, y := (wireEnemy f i).y, z := (wireEnemy f i).z
        yaw := (wireEnemy f i).yaw } := by
  have hw := wordAt_combatWords_enemy f i
  have h0 : wordAt (combatWords f) (4 + 7 * i.val) = wireIdentity f i := hw 0
  have h1 : wordAt (combatWords f) (4 + 7 * i.val + 1) = (wireEnemy f i).life := hw 1
  have h2 : wordAt (combatWords f) (4 + 7 * i.val + 2) = (wireEnemy f i).peerLife := hw 2
  have h3 : wordAt (combatWords f) (4 + 7 * i.val + 3) = (wireEnemy f i).x := hw 3
  have h4 : wordAt (combatWords f) (4 + 7 * i.val + 4) = (wireEnemy f i).y := hw 4
  have h5 : wordAt (combatWords f) (4 + 7 * i.val + 5) = (wireEnemy f i).z := hw 5
  have h6 : wordAt (combatWords f) (4 + 7 * i.val + 6) = (wireEnemy f i).yaw := hw 6
  simp only [enemyFromWords, Nat.add_zero, h0, h1, h2, h3, h4, h5, h6]

/-- A record that fits, in a slot without collision, is read back. -/
theorem enemyFromWords_of_fits (hfit : FitsIdentity (wireEnemy f i))
    (hfree : ¬ (i.val = 0 ∧ f.bossMotion.kind ≠ 0 ∧ (f.enemies i).key ≠ 0)) :
    enemyFromWords (combatWords f) i = wireEnemy f i := by
  have hid : wireIdentity f i = packIdentity (wireEnemy f i) := by
    have hnot : ¬ ((i.val = 0 ∧ f.bossMotion.kind ≠ 0 ∧ (f.enemies i).key ≠ 0)
        ∨ 256 < (wireEnemy f i).key ∨ 3 < (wireEnemy f i).state
        ∨ enemyKindMask < (wireEnemy f i).kind) := by
      obtain ⟨hkey, hstate, hkind⟩ := hfit
      have hmask : enemyKindMask.toNat = 63 := rfl
      rw [BitVec.lt_def, BitVec.lt_def, BitVec.lt_def, hmask]
      rintro (h | h | h | h)
      · exact hfree h
      · exact absurd hkey (Nat.not_le.mpr h)
      · exact absurd hstate (Nat.not_le.mpr h)
      · exact absurd hkind (Nat.not_le.mpr h)
    exact if_neg hnot
  have hnat := toNat_packIdentity hfit
  obtain ⟨hkey, hstate, hkind⟩ := hfit
  have hsmall : packIdentity (wireEnemy f i) &&& ~~~ enemyIdentityMask = 0 := by
    rw [identity_fits_iff]
    omega
  rw [enemyFromWords_combatWords, hid, if_neg (not_not.mpr hsmall)]
  refine CoopEnemy.ext (BitVec.eq_of_toNat_eq ?_) rfl (BitVec.eq_of_toNat_eq ?_) rfl
    (BitVec.eq_of_toNat_eq ?_) rfl rfl rfl rfl
  · dsimp only
    rw [key_of_identity]
    omega
  · dsimp only
    rw [state_of_identity]
    omega
  · dsimp only
    rw [kind_of_identity]
    omega

/-! ## The boss motion -/

/-- Pose and clip hash, as a number: 5 bits and 6. -/
theorem toNat_packPose (hp : m.pose.toNat ≤ 31) (hc : m.clipHash.toNat ≤ 63) :
    (m.pose ||| (m.clipHash <<< 5)).toNat = m.pose.toNat + 32 * m.clipHash.toNat :=
  toNat_or_shiftLeft (k := 5) (by omega) (by omega)

theorem pose_fits_iff (x : Word) : x &&& ~~~ (0x7FF : Word) = 0 ↔ x.toNat < 2 ^ 11 :=
  and_not_mask_eq_zero (k := 11) (by decide)

theorem pose_of_peerLife (x : Word) : (x &&& enemyPoseMask).toNat = x.toNat % 32 :=
  toNat_and_mask (k := 5) (by decide)

theorem clipHash_of_peerLife (x : Word) :
    ((x >>> 5) &&& enemyPoseHashMask).toNat = x.toNat / 32 % 64 :=
  toNat_field (k := 6) (by decide)

/-- The bounds of a boss motion that its record needs. -/
structure FitsMotion (m : CoopBossMotion) : Prop where
  kind : 1 ≤ m.kind.toNat ∧ m.kind.toNat ≤ 11
  pose : m.pose.toNat ≤ 31
  clipHash : m.clipHash.toNat ≤ 63

/-- The kind of the record that carries a boss motion is above every enemy kind. -/
theorem toNat_wireKind (h : FitsMotion m) :
    (bossWireKindBase + m.kind).toNat = 48 + m.kind.toNat := by
  obtain ⟨⟨-, hk⟩, -, -⟩ := h
  have hb : bossWireKindBase.toNat = 48 := rfl
  rw [BitVec.toNat_add, hb, Nat.mod_eq_of_lt (by omega)]

theorem fitsIdentity_bossMotionEnemy (h : FitsMotion m) : FitsIdentity (bossMotionEnemy m) where
  key := (by decide : (1 : Word).toNat ≤ 256)
  state := (by decide : enemyAlive.toNat ≤ 3)
  kind := by
    have hk := toNat_wireKind h
    obtain ⟨⟨-, h2⟩, -, -⟩ := h
    change (bossWireKindBase + m.kind).toNat ≤ 63
    omega

/-- The record of a boss motion is recognised. -/
theorem carriesBossMotion_bossMotionEnemy (h : FitsMotion m) :
    carriesBossMotion (bossMotionEnemy m) = true := by
  have hk := toNat_wireKind h
  obtain ⟨⟨h1, h2⟩, -, -⟩ := h
  refine decide_eq_true ⟨rfl, rfl, ?_, ?_⟩
  · change bossWireKindBase < bossWireKindBase + m.kind
    rw [BitVec.lt_def, hk]
    exact Nat.lt_of_lt_of_le (by decide : bossWireKindBase.toNat < 49) (by omega)
  · change bossWireKindBase + m.kind ≤ bossWireKindBase + coopBossKindCount
    rw [BitVec.le_def, hk]
    exact Nat.le_trans (by omega : 48 + m.kind.toNat ≤ 59) (by decide)

/-- And read back. -/
theorem bossMotionFromEnemy_bossMotionEnemy (h : FitsMotion m) :
    bossMotionFromEnemy (bossMotionEnemy m) = m := by
  obtain ⟨-, hp, hc⟩ := h
  have hnat := toNat_packPose hp hc
  have hsmall : (bossMotionEnemy m).peerLife &&& ~~~ (0x7FF : Word) = 0 := by
    rw [pose_fits_iff]
    change (m.pose ||| (m.clipHash <<< 5)).toNat < 2 ^ 11
    omega
  refine CoopBossMotion.ext ?_ rfl rfl rfl rfl rfl ?_ ?_
  · change bossWireKindBase + m.kind - bossWireKindBase = m.kind
    rw [BitVec.add_comm, BitVec.add_sub_cancel]
  · rw [bossMotionFromEnemy, if_neg (not_not.mpr hsmall)]
    refine BitVec.eq_of_toNat_eq ?_
    rw [pose_of_peerLife]
    change (m.pose ||| (m.clipHash <<< 5)).toNat % 32 = m.pose.toNat
    omega
  · refine BitVec.eq_of_toNat_eq ?_
    rw [bossMotionFromEnemy, clipHash_of_peerLife]
    change (m.pose ||| (m.clipHash <<< 5)).toNat / 32 % 64 = m.clipHash.toNat
    omega

/-- A record that carries a boss motion in range is the record of that motion. -/
theorem bossMotionEnemy_bossMotionFromEnemy (hc : carriesBossMotion e = true)
    (hp : (bossMotionFromEnemy e).pose.toNat ≤ 31) :
    bossMotionEnemy (bossMotionFromEnemy e) = e := by
  obtain ⟨hkey, hstate, hlow, hhigh⟩ := of_decide_eq_true hc
  have hsmall : e.peerLife.toNat < 2 ^ 11 := by
    by_contra hbig
    rw [bossMotionFromEnemy, if_pos (mt (pose_fits_iff _).mp hbig)] at hp
    exact absurd hp (show ¬ (enemyPoseMask + 1).toNat ≤ 31 by decide)
  have hpose : (bossMotionFromEnemy e).pose = e.peerLife &&& enemyPoseMask :=
    if_neg (not_not.mpr ((pose_fits_iff _).mpr hsmall))
  have hhash : (bossMotionFromEnemy e).clipHash = (e.peerLife >>> 5) &&& enemyPoseHashMask := rfl
  refine CoopEnemy.ext hkey.symm rfl hstate.symm (BitVec.eq_of_toNat_eq ?_) ?_ rfl rfl rfl rfl
  · have h1 := pose_of_peerLife e.peerLife
    have h2 := clipHash_of_peerLife e.peerLife
    rw [← hpose] at h1
    rw [← hhash] at h2
    refine (toNat_packPose (by omega) (by omega)).trans ?_
    omega
  · change bossWireKindBase + (e.kind - bossWireKindBase) = e.kind
    rw [BitVec.add_comm, BitVec.sub_add_cancel]

/-! ## What a valid frame fits -/

/-- The parts of `valid_combat` the packing needs. -/
structure FitsWire (f : CoopCombatFrame) : Prop where
  enabled : f.enabled.toNat ≤ 3
  page : f.page.toNat < 14
  pages : f.pages.toNat ≤ 14
  enemies : ∀ i, FitsIdentity (f.enemies i) ∧ (f.enemies i).kind.toNat ≤ 34
    ∧ ((f.enemies i).key = 0 → f.enemies i = {})
  motion : f.bossMotion = {} ∨ FitsMotion f.bossMotion ∧ (f.enemies 0).key = 0

theorem fitsIdentity_empty : FitsIdentity {} := ⟨by decide, by decide, by decide⟩

/-- A valid enemy fits its words. -/
theorem fits_of_validEnemy (h : validEnemy f e = true) :
    FitsIdentity e ∧ e.kind.toNat ≤ 34 ∧ (e.key = 0 → e = {}) := by
  unfold validEnemy at h
  by_cases hk : e.key = 0
  · rw [if_pos hk, decide_eq_true_eq] at h
    rw [h]
    exact ⟨fitsIdentity_empty, by decide, fun _ => rfl⟩
  · rw [if_neg hk] at h
    simp only [Bool.and_eq_true, decide_eq_true_eq] at h
    obtain ⟨⟨⟨⟨⟨-, -, hkey, -, -, -, hstate⟩, -, hkind, -⟩, -⟩, -⟩, -⟩ := h
    have hkind' : e.kind.toNat ≤ 34 := BitVec.le_def.mp hkind
    exact ⟨⟨BitVec.le_def.mp hkey, BitVec.le_def.mp hstate, by omega⟩, hkind', fun h0 => absurd h0 hk⟩

/-- A valid boss motion fits its record. -/
theorem fits_of_validBossMotion (hb : validBoss f f.boss = true)
    (h : validBossMotion f m = true) : m = {} ∨ m.kind ≠ 0 ∧ FitsMotion m := by
  unfold validBossMotion at h
  by_cases hk : m.kind = 0
  · rw [if_pos hk, decide_eq_true_eq] at h
    obtain ⟨h1, h2, h3, h4, h5, h6, h7⟩ := h
    exact .inl (CoopBossMotion.ext hk h1 h2 h3 h4 h5 h6 h7)
  · rw [if_neg hk] at h
    simp only [Bool.and_eq_true, decide_eq_true_eq] at h
    obtain ⟨⟨⟨⟨-, hkind, -, -, hpose, hhash, -, -⟩, -⟩, -⟩, -⟩ := h
    rw [validBoss, if_neg (hkind ▸ hk)] at hb
    have hle : f.boss.kind ≤ coopBossKindCount := (of_decide_eq_true hb).2.1
    have hpos : m.kind.toNat ≠ 0 := fun h0 => hk (BitVec.eq_of_toNat_eq h0)
    have hle' : m.kind.toNat ≤ 11 := by
      rw [hkind]
      exact BitVec.le_def.mp hle
    exact .inr ⟨hk, ⟨by omega, hle'⟩, BitVec.le_def.mp hpose, BitVec.le_def.mp hhash⟩

/-- **A valid frame fits the wire.** -/
theorem fitsWire_of_valid (h : validCombat f = true) : FitsWire f := by
  simp only [validCombat, Bool.and_eq_true, decide_eq_true_eq] at h
  obtain ⟨⟨⟨⟨⟨⟨hhead, henemies⟩, -⟩, -⟩, hboss⟩, hmotion⟩, hslot⟩ := h
  obtain ⟨henabled, -, -, -, hoff, hon⟩ := of_decide_eq_true hhead
  have hpages : f.page.toNat < 14 ∧ f.pages.toNat ≤ 14 := by
    by_cases he : f.enabled = 0
    · have hp : f.page = 0 ∧ f.pages = 0 := by
        simp only [he, true_and, not_or, not_not] at hoff
        exact ⟨hoff.2.2.2.1, hoff.2.2.2.2⟩
      rw [hp.1, hp.2]
      exact ⟨by decide, by decide⟩
    · simp only [he, not_false_eq_true, true_and, not_or, Nat.not_lt, ne_eq] at hon
      have hle : f.pages.toNat ≤ 14 := hon.2.1
      have hlt : f.page.toNat < f.pages.toNat :=
        Nat.lt_of_not_le fun hc => hon.2.2 (BitVec.le_def.mpr hc)
      exact ⟨by omega, hle⟩
  refine ⟨BitVec.le_def.mp henabled, hpages.1, hpages.2,
    fun i => fits_of_validEnemy (henemies i), ?_⟩
  rcases fits_of_validBossMotion hboss hmotion with hm | ⟨hk, hm⟩
  · exact .inl hm
  · refine .inr ⟨hm, ?_⟩
    by_contra h0
    exact hslot ⟨hk, h0⟩

/-! ## Both directions -/

theorem wireEnemy_of_still (h : f.bossMotion.kind = 0) (i : Fin coopEnemies) :
    wireEnemy f i = f.enemies i :=
  if_neg fun hn => hn.2 h

theorem wireEnemy_of_ne_zero (h : i.val ≠ 0) : wireEnemy f i = f.enemies i :=
  if_neg fun hn => h hn.1

theorem FitsMotion.kind_ne_zero (h : FitsMotion m) : m.kind ≠ 0 := by
  intro h0
  have h1 := h.kind.1
  rw [h0] at h1
  exact absurd h1 (by decide)

theorem fitsIdentity_wireEnemy (h : FitsWire f) (i : Fin coopEnemies) :
    FitsIdentity (wireEnemy f i) := by
  unfold wireEnemy
  split
  · rename_i hm
    rcases h.motion with hm0 | ⟨hm1, -⟩
    · rw [hm0] at hm
      exact absurd rfl hm.2
    · exact fitsIdentity_bossMotionEnemy hm1
  · exact (h.enemies i).1

/-- Every slot arrives as it was sent. -/
theorem enemyFromWords_of_fitsWire (h : FitsWire f) (i : Fin coopEnemies) :
    enemyFromWords (combatWords f) i = wireEnemy f i := by
  refine enemyFromWords_of_fits (fitsIdentity_wireEnemy h i) ?_
  rintro ⟨hi, hm, hkey⟩
  have hi0 : i = 0 := Fin.ext hi
  subst hi0
  rcases h.motion with hm0 | ⟨-, hfree⟩
  · rw [hm0] at hm
    exact hm rfl
  · exact hkey hfree

/-- No enemy is taken for a boss motion. -/
theorem not_carriesBossMotion (h : e.kind.toNat ≤ 34) : carriesBossMotion e = false := by
  refine decide_eq_false ?_
  rintro ⟨-, -, hk, -⟩
  have hb : bossWireKindBase.toNat = 48 := rfl
  rw [BitVec.lt_def] at hk
  omega

/-- The head of a frame, its shots and its boss. -/
theorem shots_combatFromWords (f : CoopCombatFrame) :
    (combatFromWords (combatWords f)).shots = f.shots := by
  funext i
  have hw := wordAt_combatWords_shot f i
  exact CoopShot.ext (hw 0) (hw 1) (hw 2) (hw 3) (hw 4) (hw 5) (hw 6)

/-- The three bytes of the feature word, read back. -/
theorem feature_combatFromWords (h : FitsWire f) :
    (combatFromWords (combatWords f)).enabled = f.enabled
    ∧ (combatFromWords (combatWords f)).page = f.page
    ∧ (combatFromWords (combatWords f)).pages = f.pages := by
  obtain ⟨h1, h2, h3, -, -⟩ := h
  have hnat : (packFeature f).toNat
      = f.enabled.toNat + 256 * f.page.toNat + 65536 * f.pages.toNat :=
    toNat_packFeature (by omega) (by omega) (by omega)
  have hw : combatWords f 0 = packFeature f := rfl
  have hsmall : packFeature f &&& 0xFF000000 = 0 := by
    rw [feature_fits_iff]
    omega
  refine ⟨?_, ?_, ?_⟩
  · unfold combatFromWords
    dsimp only
    rw [hw, if_neg (not_not.mpr hsmall)]
    refine BitVec.eq_of_toNat_eq ?_
    have hb := byte_of_feature (packFeature f) 0
    rw [BitVec.ushiftRight_zero] at hb
    omega
  · refine BitVec.eq_of_toNat_eq ((byte_of_feature _ 8).trans ?_)
    rw [hw]
    omega
  · refine BitVec.eq_of_toNat_eq ((byte_of_feature _ 16).trans ?_)
    rw [hw]
    omega

/-- **A valid frame arrives as it was sent.** -/
theorem combatFromWords_combatWords (hv : validCombat f = true) :
    combatFromWords (combatWords f) = f := by
  have h := fitsWire_of_valid hv
  obtain ⟨henabled, hpage, hpages⟩ := feature_combatFromWords h
  have hslots := enemyFromWords_of_fitsWire h
  refine CoopCombatFrame.ext henabled rfl rfl rfl (funext fun i => ?_) (shots_combatFromWords f)
    rfl hpage hpages ?_
  · unfold combatFromWords
    dsimp only
    rw [hslots 0, hslots i]
    rcases h.motion with hm | ⟨hm, hfree⟩
    · have hstill : f.bossMotion.kind = 0 := by rw [hm]
      rw [wireEnemy_of_still hstill, wireEnemy_of_still hstill,
        not_carriesBossMotion (h.enemies 0).2.1, if_neg fun hn => Bool.false_ne_true hn.2]
    · have h0 : wireEnemy f 0 = bossMotionEnemy f.bossMotion := if_pos ⟨rfl, hm.kind_ne_zero⟩
      rw [h0, carriesBossMotion_bossMotionEnemy hm]
      by_cases hi : i.val = 0
      · have hi0 : i = 0 := Fin.ext hi
        rw [if_pos ⟨hi, rfl⟩, hi0]
        exact ((h.enemies 0).2.2 hfree).symm
      · rw [if_neg fun hn => hi hn.1, wireEnemy_of_ne_zero hi]
  · unfold combatFromWords
    dsimp only
    rw [hslots 0]
    rcases h.motion with hm | ⟨hm, hfree⟩
    · rw [wireEnemy_of_still (by rw [hm]), not_carriesBossMotion (h.enemies 0).2.1, hm]
      rfl
    · have h0 : wireEnemy f 0 = bossMotionEnemy f.bossMotion := if_pos ⟨rfl, hm.kind_ne_zero⟩
      rw [h0, carriesBossMotion_bossMotionEnemy hm, if_pos rfl,
        bossMotionFromEnemy_bossMotionEnemy hm]

/-- A fitting record repacks to the identity word it was read from. -/
theorem packIdentity_enemyFromWords (h : FitsIdentity (enemyFromWords w i)) :
    packIdentity (enemyFromWords w i) = wordAt w (4 + 7 * i.val) := by
  have hnat := toNat_packIdentity h
  obtain ⟨hkey, -, -⟩ := h
  have hsmall : (wordAt w (4 + 7 * i.val)).toNat < 2 ^ 17 := by
    by_contra hbig
    have h257 : (enemyFromWords w i).key = 257 := if_pos (mt (identity_fits_iff _).mp hbig)
    rw [h257] at hkey
    exact absurd hkey (by decide)
  have hkey' : (enemyFromWords w i).key.toNat = (wordAt w (4 + 7 * i.val)).toNat % 512 := by
    rw [← key_of_identity]
    exact congrArg BitVec.toNat (if_neg (not_not.mpr ((identity_fits_iff _).mpr hsmall)))
  have hstate : (enemyFromWords w i).state.toNat = (wordAt w (4 + 7 * i.val)).toNat / 512 % 4 :=
    state_of_identity _
  have hkind : (enemyFromWords w i).kind.toNat = (wordAt w (4 + 7 * i.val)).toNat / 2048 % 64 :=
    kind_of_identity _
  refine BitVec.eq_of_toNat_eq ?_
  omega

/-- Words that show a frame that fits show its records, slot for slot. -/
theorem wireEnemy_combatFromWords (h : FitsWire (combatFromWords w)) (i : Fin coopEnemies) :
    wireEnemy (combatFromWords w) i = enemyFromWords w i := by
  cases hc : carriesBossMotion (enemyFromWords w 0) with
  | false =>
    have hm : (combatFromWords w).bossMotion = {} := if_neg (by rw [hc]; exact Bool.false_ne_true)
    rw [wireEnemy_of_still (by rw [hm])]
    exact if_neg fun hn => Bool.false_ne_true (hc.symm.trans hn.2)
  | true =>
    have hm : (combatFromWords w).bossMotion = bossMotionFromEnemy (enemyFromWords w 0) := if_pos hc
    have hkind : (combatFromWords w).bossMotion.kind ≠ 0 := by
      intro h0
      rw [hm] at h0
      obtain ⟨-, -, hk, -⟩ := of_decide_eq_true hc
      have hk0 : (enemyFromWords w 0).kind - bossWireKindBase = 0#32 := h0
      rw [BitVec.sub_eq_iff_eq_add, BitVec.zero_add] at hk0
      rw [hk0] at hk
      exact absurd hk (BitVec.lt_irrefl _)
    by_cases hi : i.val = 0
    · have hi0 : i = 0 := Fin.ext hi
      subst hi0
      have hw : wireEnemy (combatFromWords w) 0 = bossMotionEnemy (combatFromWords w).bossMotion :=
        if_pos ⟨rfl, hkind⟩
      rw [hw, hm]
      refine bossMotionEnemy_bossMotionFromEnemy hc ?_
      rcases h.motion with h0 | ⟨hfit, -⟩
      · exact absurd (by rw [h0]) hkind
      · exact hm ▸ hfit.pose
    · rw [wireEnemy_of_ne_zero hi]
      exact if_neg fun hn => hi hn.1

/-- The words of a slot are those of the record they show. -/
theorem enemyWord_combatFromWords (h : FitsWire (combatFromWords w)) (i : Fin coopEnemies)
    (k : Fin 7) : enemyWord (combatFromWords w) i k = wordAt w (4 + 7 * i.val + k.val) := by
  have hslot := wireEnemy_combatFromWords h i
  have hfit : FitsIdentity (enemyFromWords w i) := hslot ▸ fitsIdentity_wireEnemy h i
  have hid : wireIdentity (combatFromWords w) i = wordAt w (4 + 7 * i.val) := by
    have hnot : ¬ ((i.val = 0 ∧ (combatFromWords w).bossMotion.kind ≠ 0
          ∧ ((combatFromWords w).enemies i).key ≠ 0)
        ∨ 256 < (wireEnemy (combatFromWords w) i).key ∨ 3 < (wireEnemy (combatFromWords w) i).state
        ∨ enemyKindMask < (wireEnemy (combatFromWords w) i).kind) := by
      rw [hslot]
      obtain ⟨hkey, hstate, hkind⟩ := hfit
      rintro (⟨hi, hm, hkey⟩ | h1 | h1 | h1)
      · have hi0 : i = 0 := Fin.ext hi
        subst hi0
        rcases h.motion with h0 | ⟨-, hfree⟩
        · rw [h0] at hm
          exact hm rfl
        · exact hkey hfree
      · exact absurd hkey (Nat.not_le.mpr (BitVec.lt_def.mp h1))
      · exact absurd hstate (Nat.not_le.mpr (BitVec.lt_def.mp h1))
      · exact absurd hkind (Nat.not_le.mpr (BitVec.lt_def.mp h1))
    rw [← packIdentity_enemyFromWords hfit, ← hslot]
    exact if_neg hnot
  rw [enemyWord, hid, hslot]
  fin_cases k <;> rfl

/-- And so is the feature word. -/
theorem packFeature_combatFromWords (h : FitsWire (combatFromWords w)) :
    packFeature (combatFromWords w) = w 0 := by
  have henabled := h.enabled
  have hpage := h.page
  have hpages := h.pages
  have hnat := toNat_packFeature (f := combatFromWords w) (by omega) (by omega) (by omega)
  have hsmall : (w 0).toNat < 2 ^ 24 := by
    by_contra hbig
    have hfour : (combatFromWords w).enabled = 4 := if_pos (mt (feature_fits_iff _).mp hbig)
    rw [hfour] at henabled
    exact absurd henabled (by decide)
  have h1 : (combatFromWords w).enabled.toNat = (w 0).toNat % 256 := by
    have hb := byte_of_feature (w 0) 0
    rw [BitVec.ushiftRight_zero] at hb
    have he : (combatFromWords w).enabled = w 0 &&& 0xFF :=
      if_neg (not_not.mpr ((feature_fits_iff _).mpr hsmall))
    rw [he, hb, Nat.pow_zero, Nat.div_one]
  have h2 : (combatFromWords w).page.toNat = (w 0).toNat / 256 % 256 := byte_of_feature _ 8
  have h3 : (combatFromWords w).pages.toNat = (w 0).toNat / 65536 % 256 := byte_of_feature _ 16
  refine BitVec.eq_of_toNat_eq ?_
  omega

/-- **Words that show a valid frame are the words of that frame.** -/
theorem combatWords_combatFromWords (hv : validCombat (combatFromWords w) = true) :
    combatWords (combatFromWords w) = w := by
  have h := fitsWire_of_valid hv
  funext n
  have hn : n.val < 204 := n.isLt
  have hword : ∀ j, j = n.val → wordAt w j = w n := by
    rintro j rfl
    rw [wordAt_of_lt n.isLt]
  by_cases h1 : n.val < 4
  · rw [combatWords, dif_pos h1]
    obtain ⟨n, -⟩ := n
    obtain rfl | rfl | rfl | rfl : n = 0 ∨ n = 1 ∨ n = 2 ∨ n = 3 := by
      dsimp only at h1
      omega
    · exact packFeature_combatFromWords h
    all_goals rfl
  by_cases h2 : n.val < 144
  · rw [combatWords, dif_neg h1, dif_pos h2, enemyWord_combatFromWords h]
    exact hword _ (by dsimp only; omega)
  by_cases h3 : n.val < 200
  · rw [combatWords, dif_neg h1, dif_neg h2, dif_pos h3]
    have hshot : ∀ (i : Fin coopShots) (k : Fin 7), shotWord ((combatFromWords w).shots i) k
        = wordAt w (144 + 7 * i.val + k.val) := by
      intro i k
      fin_cases k <;> rfl
    rw [hshot]
    exact hword _ (by dsimp only; omega)
  · rw [combatWords, dif_neg h1, dif_neg h2, dif_neg h3]
    obtain h | h | h | h : n = 200 ∨ n = 201 ∨ n = 202 ∨ n = 203 := by
      rw [Fin.ext_iff, Fin.ext_iff, Fin.ext_iff, Fin.ext_iff]
      change n.val = 200 ∨ n.val = 201 ∨ n.val = 202 ∨ n.val = 203
      omega
    all_goals
      subst h
      rfl

end Dk64Port.Coop
