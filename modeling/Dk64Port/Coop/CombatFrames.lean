import Dk64Port.Coop.CombatSound

/-!
# The frames of a capture (`mod/combat_actor.h`)

Every frame a capture makes is one `valid_combat` accepts, as long as the registered actors stand
within the bounds of the wire and an id of a projectile stands for one kind of projectile.

* `captureBoss_valid`: what is shown of the boss.
* `enemyRecord_valid`, `keys_nodup`: the records of a page.
* `capture_valid`: **the frame of a capture is valid.**
* `captured_pages_valid`: **what is sent of the captures is acceptable, page by page.**
-/

namespace Dk64Port.Coop.CombatGame

variable {cfg : CombatConfig} {room : CombatRoom} {g : CombatGame} {i j : Nat} {s : EnemySpawner}

/-! ## The words of a frame -/

theorem poseEncode_le (frame : Word) (count : Nat) :
    poseEncode cfg frame count ≤ enemyPoseMask := by
  unfold poseEncode
  dsimp only
  split_ifs
  · decide
  · decide
  · decide
  · rename_i hle
    rw [BitVec.le_def, BitVec.toNat_ofNat, Nat.mod_eq_of_lt (by omega)]
    have : enemyPoseMask.toNat = 31 := rfl
    omega

theorem clipHash_le (clip : Word) : clipHash clip ≤ enemyPoseHashMask := by
  unfold clipHash
  rw [BitVec.le_def, BitVec.toNat_and]
  exact Nat.and_le_right

/-- A sample of a pose is in range, and there is none unless poses are shared. -/
theorem poseSample_bounded (cfg : CombatConfig) (actor : CombatActor) :
    (poseSample cfg actor).1 ≤ enemyPoseMask ∧ (poseSample cfg actor).2 ≤ enemyPoseHashMask
      ∧ ¬ ((poseSample cfg actor).1 = 0 ∧ (poseSample cfg actor).2 ≠ 0)
      ∧ ¬ (cfg.enabled < 3 ∧ (poseSample cfg actor).1 ≠ 0) := by
  have hzero : (0 : Word) ≤ enemyPoseMask ∧ (0 : Word) ≤ enemyPoseHashMask ∧
      ¬ ((0 : Word) = 0 ∧ (0 : Word) ≠ 0) ∧ ¬ (cfg.enabled < 3 ∧ (0 : Word) ≠ 0) :=
    ⟨by decide, by decide, fun h => h.2 rfl, fun h => h.2 rfl⟩
  unfold poseSample
  split
  · rename_i h3
    split
    · exact hzero
    · split
      · rename_i track _ _
        dsimp only
        refine ⟨poseEncode_le _ _, ?_, ?_, ?_⟩
        · split
          · exact clipHash_le _
          · decide
        · rintro ⟨h0, hne⟩
          exact hne (if_neg (not_not.mpr h0))
        · rintro ⟨hlt, -⟩
          rw [h3] at hlt
          exact absurd hlt (by decide)
      · exact hzero
  · exact hzero

/-- The boss part of a frame. -/
structure BossPart (cfg : CombatConfig) (room : CombatRoom) (f : CoopCombatFrame) : Prop where
  boss : validBoss f f.boss = true
  motion : validBossMotion f f.bossMotion = true
  reserve : f.bossMotion.kind ≠ 0 → f.bossMotion.kind = coopBossKind room.currentMap
    ∧ 2 ≤ cfg.enabled

theorem bossActor_registered {kind : Word} {a : Nat} (h : bossActor room kind = some a) :
    registered room a = true := by
  have hmem := List.mem_of_find?_eq_some h
  rw [List.mem_filterMap] at hmem
  obtain ⟨b, hb, rfl⟩ := hmem
  simpa [registered] using hb

theorem ite_le {c : Prop} [Decidable c] {v w n : Word} (hv : v ≤ n) (hw : w ≤ n) :
    (if c then v else w) ≤ n := by
  split
  · exact hv
  · exact hw

theorem coopBossKind_le (map : Word) : coopBossKind map ≤ coopBossKindCount := by
  unfold coopBossKind
  repeat' apply ite_le
  all_goals decide

/-- **What a capture shows of the boss is valid.** -/
theorem captureBoss_valid (hs : Sound g) (hnear : Near room) (hen : cfg.enabled ≠ 0)
    (hinput : g.input.enabled = cfg.enabled) (hb : g.input.boss = {})
    (hm : g.input.bossMotion = {}) : BossPart cfg room (captureBoss cfg room g).input := by
  have hnone : BossPart cfg room g.input := by
    refine ⟨?_, ?_, fun h => ?_⟩
    · rw [hb]
      rfl
    · rw [hm]
      rfl
    · rw [hm] at h
      exact absurd rfl h
  have htrack : ∀ kind found, (trackBoss room g kind found).input = g.input := by
    intro kind found
    rcases trackBoss_cases room g kind found with e | ⟨a, -, -, e⟩
    · rw [e]
    · rw [e]
      rcases refreshBoss_cases room g kind a (bossPhase kind (room.actor a)) with
        ⟨-, p, -, e'⟩ | e' <;> rw [e']
  rcases captureBoss_cases cfg room g rfl with e | e | ⟨hkind, hlife, hk, e⟩
  · rwa [e]
  · rwa [e, htrack]
  · have ht : SoundBoss (trackBoss room g (coopBossKind room.currentMap)
        (bossActor room (coopBossKind room.currentMap))).boss := (sound_trackBoss hs _ _).boss
    have hti := htrack (coopBossKind room.currentMap)
      (bossActor room (coopBossKind room.currentMap))
    have hmotion := shownMotion_cases cfg room (trackBoss room g (coopBossKind room.currentMap)
      (bossActor room (coopBossKind room.currentMap))) (coopBossKind room.currentMap)
      (bossActor room (coopBossKind room.currentMap))
    rw [e]
    generalize trackBoss room g (coopBossKind room.currentMap)
      (bossActor room (coopBossKind room.currentMap)) = g' at *
    generalize shownMotion cfg room g' (coopBossKind room.currentMap)
      (bossActor room (coopBossKind room.currentMap)) = m at *
    have hen' : g'.input.enabled = cfg.enabled := by rw [hti, hinput]
    have hphase : (BitVec.ofNat 32 g'.boss.phase).toNat = g'.boss.phase := by
      rw [BitVec.toNat_ofNat, Nat.mod_eq_of_lt]
      have := ht.phase_le
      omega
    refine ⟨?_, ?_, ?_⟩
    · show validBoss _ ⟨coopBossKind room.currentMap, g'.boss.life, 0,
        BitVec.ofNat 32 g'.boss.phase⟩ = true
      unfold validBoss
      rw [if_neg hkind]
      refine decide_eq_true ⟨?_, coopBossKind_le _, hlife, ht.life_le,
        (by decide : (0 : Word) ≤ enemyLifeMask), ?_, ?_⟩
      · show g'.input.enabled ≠ 0
        rwa [hen']
      · rw [BitVec.le_def, hphase]
        exact ht.phase_le
      · rintro ⟨h11, hlt⟩
        rw [BitVec.lt_def, hphase] at hlt
        have := ht.spider_le (hk.trans h11)
        have h1 : (1 : Word).toNat = 1 := rfl
        omega
    · show validBossMotion _ m = true
      rcases hmotion with hm' | ⟨h2, a, hfound, hm'⟩
      · rw [hm', hti, hm]
        rfl
      · obtain ⟨hx, hy, hz⟩ := hnear a (bossActor_registered hfound)
        obtain ⟨hp1, hp2, hp3, hp4⟩ := poseSample_bounded cfg (room.actor a)
        rw [hm']
        unfold validBossMotion
        rw [if_neg (show (bossMotionOf cfg (coopBossKind room.currentMap) g'.boss.life
          (room.actor a)).kind ≠ 0 from hkind)]
        rw [Bool.and_eq_true, Bool.and_eq_true, Bool.and_eq_true]
        refine ⟨⟨⟨decide_eq_true ⟨?_, rfl, rfl, and_fff_lt _, hp1, hp2, hp3, ?_⟩, hx⟩, hy⟩, hz⟩
        · show 2 ≤ g'.input.enabled
          rwa [hen']
        · show ¬ (g'.input.enabled < 3 ∧ _)
          rwa [hen']
    · show m.kind ≠ 0 → m.kind = _ ∧ _
      intro hne
      rcases hmotion with hm' | ⟨h2, a, hfound, hm'⟩
      · rw [hm', hti, hm] at hne
        exact absurd rfl hne
      · rw [hm']
        exact ⟨rfl, h2⟩

/-! ## The records of a page -/

/-- The packed word has no bit that the wire does not know. -/
theorem enemyPackMask_all (w : Word) : w &&& ~~~ enemyPackMask = 0 := by
  have h : ~~~ enemyPackMask = 0#32 := by decide
  rw [h]
  exact BitVec.and_zero

/-- The health a record packs. -/
theorem health_packPose (yaw health pose : Word) :
    (packPose yaw health pose >>> 12) &&& 0x7FFF = health &&& 0x7FFF := by
  have hy : (yaw &&& 0xFFF).toNat < 2 ^ 12 := by
    rw [show (0xFFF : Word) = BitFields.mask 32 12 from rfl, BitFields.toNat_and_mask (by decide)]
    exact Nat.mod_lt _ (by decide)
  have hh : (health &&& 0x7FFF).toNat < 2 ^ 15 := by
    rw [show (0x7FFF : Word) = BitFields.mask 32 15 from rfl, BitFields.toNat_and_mask (by decide)]
    exact Nat.mod_lt _ (by decide)
  have hp : (pose &&& enemyPoseMask).toNat < 2 ^ 5 := by
    rw [show enemyPoseMask = BitFields.mask 32 5 from rfl, BitFields.toNat_and_mask (by decide)]
    exact Nat.mod_lt _ (by decide)
  have hpack : (enemyPack yaw health).toNat
      = (yaw &&& 0xFFF).toNat + 2 ^ 12 * (health &&& 0x7FFF).toNat :=
    BitFields.toNat_or_shiftLeft hy (by omega)
  have hpose : (packPose yaw health pose).toNat
      = (enemyPack yaw health).toNat + 2 ^ 27 * (pose &&& enemyPoseMask).toNat :=
    BitFields.toNat_or_shiftLeft (by omega) (by omega)
  apply BitVec.eq_of_toNat_eq
  have hmask : (0x7FFF : Word) = BitFields.mask 32 15 := rfl
  rw [hmask] at hh hpack ⊢
  rw [BitFields.toNat_field (by decide), hpose, hpack]
  omega

/-- A positive health does not pack to zero. -/
theorem health_ne_zero {health : BitVec 16} (h : 0 < health.toInt) :
    health.signExtend 32 &&& 0x7FFF ≠ 0 := by
  intro h0
  have hlt : health.toNat < 2 ^ 15 := by
    rw [BitVec.toInt_eq_toNat_cond] at h
    split at h <;> omega
  have hpos : health.toNat ≠ 0 := by
    intro hz
    rw [BitVec.toInt_eq_toNat_cond, hz] at h
    simp at h
  have hmsb : health.msb = false := by
    rw [BitVec.msb_eq_decide]
    exact decide_eq_false (by omega)
  have hext : (health.signExtend 32).toNat = health.toNat := by
    rw [BitVec.signExtend_eq_setWidth_of_msb_false hmsb, BitVec.toNat_setWidth,
      Nat.mod_eq_of_lt (by omega)]
  have := congrArg BitVec.toNat h0
  have hmask : (0x7FFF : Word).toNat = 2 ^ 15 - 1 := by decide
  rw [BitVec.toNat_and, hext, hmask, Nat.and_two_pow_sub_one_eq_mod, Nat.mod_eq_of_lt hlt] at this
  exact hpos this

theorem slotLive_iff {slot : EnemySlot} : slotLive room slot s = true ↔
    ∃ a, slot.actor = some a ∧ s.tiedActor = some a ∧ registered room a = true
      ∧ (room.actor a).unk54 = slot.generation ∧ combatEnemyKind (room.actor a).unk58 = slot.kind
      ∧ (room.actor a).objectPropertiesBitfield &&& 0x10 ≠ 0
      ∧ 0 < (room.actor a).health.toInt := by
  unfold slotLive actorLive
  cases slot.actor with
  | none => simp
  | some a =>
    simp only [Bool.and_eq_true, decide_eq_true_eq, and_assoc, Option.some.injEq,
      exists_eq_left']

theorem slotKey_ne_zero (h : i < 256) : BitVec.ofNat 32 (i + 1) ≠ 0 := by
  intro h0
  have := congrArg BitVec.toNat h0
  rw [BitVec.toNat_ofNat, Nat.mod_eq_of_lt (by omega)] at this
  exact absurd this (Nat.succ_ne_zero i)

/-- **The record of a slot the second pass admits is valid.** -/
theorem enemyRecord_valid (hs : SoundSlot (g.slots i)) (hnear : Near room) (hi : i < 256)
    (ha : admits room g (s, i) = true) :
    validEnemyRecord (entryRecord cfg room g (s, i)) = true := by
  unfold admits at ha
  dsimp only at ha
  rw [Bool.and_eq_true, decide_eq_true_eq, Bool.or_eq_true] at ha
  obtain ⟨hlife, hor⟩ := ha
  have hactor := hs.actor_ne hlife
  have hkind := one_le_of_ne_zero (hs.kind_ne hactor)
  have hkey : BitVec.ofNat 32 (i + 1) ≤ (256 : Word) := by
    rw [BitVec.le_def, BitVec.toNat_ofNat, Nat.mod_eq_of_lt (by omega)]
    have : (256 : Word).toNat = 256 := rfl
    omega
  have h1 : (1 : Word) ≠ 0 := by decide
  unfold entryRecord enemyRecord
  cases hact : (g.slots i).actor with
  | none => exact absurd hact hactor
  | some a =>
    dsimp only
    by_cases hlive : slotLive room (g.slots i) s = true ∧ (g.slots i).defeated = false
    · obtain ⟨b, hb, -, hreg, -, -, -, hhealth⟩ := slotLive_iff.mp hlive.1
      obtain rfl : b = a := Option.some.inj (hb.symm.trans hact)
      obtain ⟨hx, hy, hz⟩ := hnear b hreg
      rw [if_pos hlive, hlive.2]
      unfold validEnemyRecord validEnemy
      rw [if_neg (slotKey_ne_zero hi)]
      rw [Bool.and_eq_true, Bool.and_eq_true, Bool.and_eq_true, Bool.and_eq_true]
      refine ⟨⟨⟨⟨decide_eq_true ⟨h1, h1, hkey, hlife, hs.life_le, ?_, ?_⟩,
        decide_eq_true ⟨hkind, hs.kind_le, enemyPackMask_all _, ?_⟩⟩, hx⟩, hy⟩, hz⟩
      · exact (by decide : enemyAlive ≤ enemyAlive)
      · exact (by decide : enemyAlive ≤ enemyRequest)
      · show if enemyAlive = enemyAlive then _ else _
        rw [if_pos rfl]
        show (packPose _ _ _ >>> 12) &&& 0x7FFF ≠ 0
        rw [health_packPose]
        exact health_ne_zero hhealth
    · have hdef : (g.slots i).defeated = true := by
        rcases hor with hl | hd
        · by_contra hd
          exact hlive ⟨hl, by simpa using hd⟩
        · exact hd
      rw [if_neg hlive, hdef]
      unfold validEnemyRecord validEnemy
      rw [if_neg (slotKey_ne_zero hi)]
      rw [Bool.and_eq_true, Bool.and_eq_true, Bool.and_eq_true, Bool.and_eq_true]
      have h0 : boundedPosition 0 = true := by decide
      refine ⟨⟨⟨⟨decide_eq_true ⟨h1, h1, hkey, hlife, hs.life_le, ?_, ?_⟩,
        decide_eq_true ⟨hkind, hs.kind_le, enemyPackMask_all _, ?_⟩⟩, h0⟩, h0⟩, h0⟩
      · exact (by decide : enemyAlive ≤ enemyDefeated)
      · exact (by decide : enemyDefeated ≤ enemyRequest)
      · show if (if True then enemyDefeated else enemyAlive) = enemyAlive then _ else _
        rw [if_pos trivial, if_neg (by decide)]
        show ((0 : Word) >>> 12) &&& 0x7FFF = 0
        decide

/-- The key of a table entry. -/
def slotKey (i : Nat) : Word := BitVec.ofNat 32 (i + 1)

@[simp] theorem entryRecord_key (e : EnemySpawner × Nat) :
    (entryRecord cfg room g e).key = slotKey e.2 := by
  unfold entryRecord enemyRecord
  dsimp only
  cases (g.slots e.2).actor with
  | none => rfl
  | some a =>
    dsimp only
    split <;> rfl

theorem slotKey_inj (hi : i < 256) (hj : j < 256) (h : slotKey i = slotKey j) : i = j := by
  have := congrArg BitVec.toNat h
  unfold slotKey at this
  rw [BitVec.toNat_ofNat, BitVec.toNat_ofNat, Nat.mod_eq_of_lt (by omega),
    Nat.mod_eq_of_lt (by omega)] at this
  omega

/-- The indices of a table are those of its entries, in order. -/
theorem zipIdx_index_lt {l : List EnemySpawner} {e : EnemySpawner × Nat} (h : e ∈ l.zipIdx) :
    e.2 < l.length := by
  obtain ⟨s, i⟩ := e
  have := List.mem_zipIdx h
  omega

/-- Keys of different entries differ. -/
theorem keys_nodup {l : List (EnemySpawner × Nat)} (hl : l.Sublist room.spawners.zipIdx)
    (hlen : room.spawners.length ≤ 256) : (l.map fun e => slotKey e.2).Nodup := by
  have hidx : (l.map Prod.snd).Nodup := by
    refine (hl.map Prod.snd).nodup ?_
    rw [List.zipIdx_map_snd]
    exact List.nodup_range'
  have hmap : (l.map fun e => slotKey e.2) = (l.map Prod.snd).map slotKey := by
    rw [List.map_map]
    rfl
  rw [hmap]
  refine List.Nodup.map_on (fun i hi j hj h => slotKey_inj ?_ ?_ h) hidx
  · obtain ⟨e, he, rfl⟩ := List.mem_map.mp hi
    exact Nat.lt_of_lt_of_le (zipIdx_index_lt (hl.subset he)) hlen
  · obtain ⟨e, he, rfl⟩ := List.mem_map.mp hj
    exact Nat.lt_of_lt_of_le (zipIdx_index_lt (hl.subset he)) hlen

/-! ## The enemies of a frame -/

/-- The records of a page in the places an enemy may take. -/
def placed (first : Nat) (records : List CoopEnemy) (k : Fin coopEnemies) : CoopEnemy :=
  if k.val < first then {} else records.getD (k.val - first) {}

theorem placed_cases (first : Nat) (records : List CoopEnemy) (k : Fin coopEnemies) :
    placed first records k = {} ∨ first ≤ k.val ∧ ∃ h : k.val - first < records.length,
      placed first records k = records[k.val - first] := by
  unfold placed
  split
  · exact .inl rfl
  · rename_i hk
    by_cases h : k.val - first < records.length
    · refine .inr ⟨Nat.le_of_not_lt hk, h, ?_⟩
      rw [List.getD_eq_getElem?_getD, List.getElem?_eq_getElem h, Option.getD_some]
    · left
      rw [List.getD_eq_getElem?_getD, List.getElem?_eq_none (Nat.le_of_not_lt h), Option.getD_none]

/-- Records with keys of their own keep them in their places. -/
theorem distinctKeys_placed {first : Nat} {records : List CoopEnemy}
    (h : (records.map CoopEnemy.key).Nodup) : DistinctKeys (placed first records) := by
  intro k l hlk hne heq
  rcases placed_cases first records k with e | ⟨hk, hk', e⟩
  · rw [e] at hne
    exact hne rfl
  · rcases placed_cases first records l with e' | ⟨hl, hl', e'⟩
    · rw [e'] at heq
      rw [← heq] at hne
      exact hne rfl
    · rw [e, e'] at heq
      have hi : l.val - first < (records.map CoopEnemy.key).length := by rwa [List.length_map]
      have hj : k.val - first < (records.map CoopEnemy.key).length := by rwa [List.length_map]
      have hkeys : (records.map CoopEnemy.key)[l.val - first]
          = (records.map CoopEnemy.key)[k.val - first] := by
        rw [List.getElem_map, List.getElem_map]
        exact heq
      have hsame := (List.Nodup.getElem_inj_iff h).mp hkeys
      have hval : l.val < k.val := hlk
      omega

/-- The state after the first pass. -/
def refreshed (room : CombatRoom) (g : CombatGame) : CombatGame :=
  (refreshSlots room (settleLayout room g)).1

/-- The eligible slots the first pass counts. -/
def eligible (room : CombatRoom) (g : CombatGame) : Nat :=
  (refreshSlots room (settleLayout room g)).2

/-- The first record of a page, among the eligible slots. -/
def pageStart (cfg : CombatConfig) (room : CombatRoom) (g : CombatGame) : Nat :=
  (refreshed room g).capturePage.toNat % pagesFor cfg room (eligible room g)
    * enemyCapacity cfg room

theorem captureEnemies_of_listing (h : Listing room) : captureEnemies cfg room g =
    { refreshed room g with
      capturePage := (refreshed room g).capturePage + 1
      input := { (refreshed room g).input with
        layout := (refreshed room g).layout
        pages := BitVec.ofNat 32 (pagesFor cfg room (eligible room g))
        page := BitVec.ofNat 32
          ((refreshed room g).capturePage.toNat % pagesFor cfg room (eligible room g))
        enemies := placed (firstEnemy cfg room)
          (pageRecords cfg room (refreshed room g) (pageStart cfg room g)) } } :=
  if_pos h

theorem refreshed_frame (room : CombatRoom) (g : CombatGame) :
    (refreshed room g).input = g.input ∧ (refreshed room g).layout = layoutHash room
      ∧ (refreshed room g).table = room.table := by
  unfold refreshed
  rw [refreshSlots_frame]
  dsimp only
  unfold settleLayout
  split
  · exact ⟨rfl, rfl, rfl⟩
  · rename_i h
    simp only [not_or, not_not] at h
    exact ⟨rfl, h⟩

theorem layoutHash_ne_zero (room : CombatRoom) : layoutHash room ≠ 0 := by
  unfold layoutHash
  dsimp only
  split
  · assumption
  · decide

/-- No more slots are eligible than the table has. -/
theorem eligible_le (room : CombatRoom) (g : CombatGame) :
    eligible room g ≤ room.spawners.length := by
  unfold eligible
  rw [(refreshSlots_spec room (settleLayout room g)).1]
  refine Nat.le_trans (List.length_filter_le _ _) ?_
  rw [List.length_zipIdx]

theorem enemyCapacity_bounds (cfg : CombatConfig) (room : CombatRoom) :
    19 ≤ enemyCapacity cfg room ∧ enemyCapacity cfg room ≤ 20 := by
  unfold enemyCapacity
  split <;> decide

/-- **The pages fit the wire.** -/
theorem pagesFor_bounds (cfg : CombatConfig) (room : CombatRoom) {n : Nat} (h : n ≤ 256) :
    0 < pagesFor cfg room n ∧ pagesFor cfg room n ≤ coopCombatPages := by
  obtain ⟨hlo, hhi⟩ := enemyCapacity_bounds cfg room
  have hpages : Paging.pagesOf (enemyCapacity cfg room) n ≤ coopCombatPages := by
    unfold Paging.pagesOf
    have hmono : (n + enemyCapacity cfg room - 1) / enemyCapacity cfg room
        ≤ (n + enemyCapacity cfg room - 1) / 19 := Nat.div_le_div_left hlo (by decide)
    have : coopCombatPages = 14 := rfl
    omega
  unfold pagesFor
  split
  · exact ⟨Nat.zero_lt_one, by decide⟩
  · rename_i hne
    exact ⟨Nat.pos_of_ne_zero hne, hpages⟩

theorem pageRecords_sublist (cfg : CombatConfig) (room : CombatRoom) (g : CombatGame) (first : Nat) :
    ∃ l : List (EnemySpawner × Nat), l.Sublist room.spawners.zipIdx ∧
      (∀ e ∈ l, admits room g e = true) ∧ l.length ≤ enemyCapacity cfg room ∧
      pageRecords cfg room g first = l.map (entryRecord cfg room g) := by
  refine ⟨((room.spawners.zipIdx.filter (admits room g)).drop first).take
    (enemyCapacity cfg room), ?_, fun e he => ?_, List.length_take_le _ _, pageRecords_eq first⟩
  · exact ((List.take_sublist _ _).trans (List.drop_sublist _ _)).trans List.filter_sublist
  · exact (List.mem_filter.mp (List.mem_of_mem_drop (List.mem_of_mem_take he))).2

/-- The enemy part of a frame, apart from what each record holds. -/
structure EnemyPart (cfg : CombatConfig) (room : CombatRoom) (f : CoopCombatFrame) : Prop where
  distinct : DistinctKeys f.enemies
  layout : ∀ k, (f.enemies k).key ≠ 0 → f.layout ≠ 0
  pages : f.pages ≠ 0 ∧ f.pages.toNat ≤ coopCombatPages ∧ f.page < f.pages
  reserve : coopBossKind room.currentMap ≠ 0 → 2 ≤ cfg.enabled → (f.enemies 0).key = 0

/-- Of the maps with enemies only that of the spider has a boss. -/
theorem combatMap_boss (h : coopCombatMap room.currentMap = true)
    (hb : coopBossKind room.currentMap ≠ 0) : coopBossKind room.currentMap = 11 := by
  have hmem : room.currentMap.toNat ∈ combatMaps := List.contains_iff_mem.mp h
  have hall : ∀ n ∈ combatMaps, coopBossKind (BitVec.ofNat 32 n) ≠ 0 →
      coopBossKind (BitVec.ofNat 32 n) = 11 := by decide
  have := hall _ hmem
  rw [BitVec.ofNat_toNat, BitVec.setWidth_eq] at this
  exact this hb

/-- The page count of a frame, as a number. -/
theorem toNat_pagesFor (cfg : CombatConfig) (room : CombatRoom) {n : Nat} (h : n ≤ 256) :
    (BitVec.ofNat 32 (pagesFor cfg room n)).toNat = pagesFor cfg room n := by
  have hle := (pagesFor_bounds cfg room h).2
  have h14 : coopCombatPages = 14 := rfl
  rw [BitVec.toNat_ofNat, Nat.mod_eq_of_lt (by omega)]

/-- **The pages a capture lists its enemies on.** -/
theorem captureEnemies_part (henemies : g.input.enemies = fun _ => {})
    (hpages : g.input.pages = 1 ∧ g.input.page = 0) :
    EnemyPart cfg room (captureEnemies cfg room g).input := by
  by_cases hl : Listing room
  · obtain ⟨hmap, -, -, hlen, -⟩ := id hl
    obtain ⟨l, hsub, -, -, hrec⟩ := pageRecords_sublist cfg room
      (refreshed room g) (pageStart cfg room g)
    have helig := Nat.le_trans (eligible_le room g) hlen
    obtain ⟨hpos, hle⟩ := pagesFor_bounds cfg room helig
    have h14 : coopCombatPages = 14 := rfl
    have hpagesNat := toNat_pagesFor cfg room helig
    rw [captureEnemies_of_listing hl, hrec]
    refine ⟨distinctKeys_placed ?_, fun _ _ => ?_, ⟨?_, ?_, ?_⟩, fun hb h2 => ?_⟩
    · rw [List.map_map]
      exact (List.map_congr_left fun e _ => entryRecord_key e) ▸ keys_nodup hsub hlen
    · rw [(refreshed_frame room g).2.1]
      exact layoutHash_ne_zero room
    · intro h0
      have := congrArg BitVec.toNat h0
      rw [hpagesNat] at this
      exact absurd this (Nat.ne_of_gt hpos)
    · rw [hpagesNat]
      exact hle
    · have hmod := Nat.mod_lt (refreshed room g).capturePage.toNat hpos
      rw [BitVec.lt_def, hpagesNat, BitVec.toNat_ofNat, Nat.mod_eq_of_lt (by omega)]
      exact hmod
    · have hres : firstEnemy cfg room = 1 := by
        unfold firstEnemy reservesSlot
        rw [decide_eq_true ⟨combatMap_boss hmap hb, h2⟩]
        rfl
      dsimp only
      unfold placed
      rw [hres]
      rfl
  · have hnone : captureEnemies cfg room g = g := if_neg hl
    rw [hnone]
    refine ⟨?_, fun k hk => ?_, ?_, fun _ _ => ?_⟩
    · rw [henemies]
      exact fun _ _ _ h => absurd rfl h
    · rw [henemies] at hk
      exact absurd rfl hk
    · rw [hpages.1, hpages.2]
      decide
    · rw [henemies]

/-- **The records a capture lists.** -/
theorem captureEnemies_valid (hs : Sound g) (hnear : Near room)
    (henemies : g.input.enemies = fun _ => {}) (k : Fin coopEnemies) :
    validEnemyRecord ((captureEnemies cfg room g).input.enemies k) = true := by
  by_cases hl : Listing room
  · obtain ⟨-, -, -, hlen, -⟩ := id hl
    obtain ⟨l, hsub, hadm, -, hrec⟩ := pageRecords_sublist cfg room
      (refreshed room g) (pageStart cfg room g)
    have hsound : Sound (refreshed room g) := sound_refreshSlots hs
    rw [captureEnemies_of_listing hl, hrec]
    dsimp only
    rcases placed_cases (firstEnemy cfg room) (l.map (entryRecord cfg room (refreshed room g))) k
      with e | ⟨-, hk, e⟩
    · rw [e]
      exact validEnemyRecord_empty
    · rw [e, List.getElem_map]
      have hmem := List.getElem_mem (l := l) (by rwa [List.length_map] at hk)
      exact enemyRecord_valid (hsound.slots _) hnear
        (Nat.lt_of_lt_of_le (zipIdx_index_lt (hsub.subset hmem)) hlen) (hadm _ hmem)
  · rw [show captureEnemies cfg room g = g from if_neg hl, henemies]
    exact validEnemyRecord_empty

/-! ## The shots of a frame -/

/-- A shot is checked against the switch of its frame alone. -/
theorem validShot_congr {f : CoopCombatFrame} (hf : f.enabled ≠ 0) (shot : CoopShot) :
    validShot f shot = validShot { enabled := 1 } shot := by
  have hd : decide (f.enabled ≠ 0 ∧ coopCoconut ≤ shot.kind ∧ shot.kind ≤ coopOrange
      ∧ shot.yaw < 4096) = decide ((1 : Word) ≠ 0 ∧ coopCoconut ≤ shot.kind
        ∧ shot.kind ≤ coopOrange ∧ shot.yaw < 4096) :=
    decide_eq_decide.mpr (and_congr_left' (iff_of_true hf (by decide)))
  unfold validShot
  rw [hd]

theorem keptShots_mem {shots : Fin coopShots → LocalShotSlot} {shot : CoopShot}
    (h : shot ∈ keptShots shots) : ∃ s, (shots s).shot = shot := by
  obtain ⟨s, -, e⟩ := List.mem_map.mp (List.mem_filter.mp h).1
  exact ⟨s, e⟩

theorem keptShots_distinct {shots : Fin coopShots → LocalShotSlot} (h : SoundShots shots) :
    (keptShots shots).Pairwise fun a b => b.id ≠ 0 → a.id ≠ b.id := by
  unfold keptShots
  refine List.Pairwise.filter _ (List.pairwise_map.mpr ?_)
  exact (List.nodup_finRange coopShots).imp fun hst h0 => h.distinct _ _ (Ne.symm hst) h0

/-- **The shots a capture lists.** -/
theorem listedShots_valid {shots : Fin coopShots → LocalShotSlot} (h : SoundShots shots) :
    (∀ s : Fin coopShots, validShot { enabled := 1 } ((keptShots shots).getD s.val {}) = true)
      ∧ ∀ s t : Fin coopShots, t < s → ((keptShots shots).getD s.val {}).id ≠ 0 →
        ((keptShots shots).getD t.val {}).id ≠ ((keptShots shots).getD s.val {}).id := by
  constructor
  · intro s
    rw [List.getD_eq_getElem?_getD]
    by_cases hs : s.val < (keptShots shots).length
    · rw [List.getElem?_eq_getElem hs, Option.getD_some]
      obtain ⟨t, ht⟩ := keptShots_mem (List.getElem_mem hs)
      rw [← ht]
      exact h.valid t
    · rw [List.getElem?_eq_none (Nat.le_of_not_lt hs)]
      rfl
  · intro s t hts hne
    rw [List.getD_eq_getElem?_getD] at hne ⊢
    rw [List.getD_eq_getElem?_getD]
    by_cases hs : s.val < (keptShots shots).length
    · have ht : t.val < (keptShots shots).length := Nat.lt_trans hts hs
      rw [List.getElem?_eq_getElem hs, Option.getD_some] at hne ⊢
      rw [List.getElem?_eq_getElem ht, Option.getD_some]
      exact List.pairwise_iff_getElem.mp (keptShots_distinct h) t.val s.val ht hs hts hne
    · rw [List.getElem?_eq_none (Nat.le_of_not_lt hs)] at hne
      exact absurd rfl hne

/-! ## The frame -/

theorem prepare_input (cfg : CombatConfig) (room : CombatRoom) (g : CombatGame) :
    (g.prepare cfg room).input = {} := by
  have hmap : ∀ g : CombatGame, (changeMap room g).input = g.input := by
    intro g
    unfold changeMap
    split <;> rfl
  have hfile : ∀ g : CombatGame, (bindFile cfg room g).input = g.input := by
    intro g
    unfold bindFile
    split_ifs <;> rfl
  have hleave : ∀ g : CombatGame, (leaveRoom room g).input = g.input := by
    intro g
    unfold leaveRoom
    split <;> rfl
  unfold prepare
  rw [hleave, hfile, hmap]

theorem trackBoss_input (room : CombatRoom) (g : CombatGame) (kind : Word) (found : Option Nat) :
    (trackBoss room g kind found).input = g.input := by
  rcases trackBoss_cases room g kind found with e | ⟨a, -, -, e⟩
  · rw [e]
  · rw [e]
    rcases refreshBoss_cases room g kind a (bossPhase kind (room.actor a)) with
      ⟨-, p, -, e'⟩ | e' <;> rw [e']

/-- A boss motion is shown on a boss's map only, and to a peer that knows motions. -/
theorem captureBoss_motion (cfg : CombatConfig) (room : CombatRoom) (g : CombatGame) :
    ∃ b m, (captureBoss cfg room g).input = { g.input with boss := b, bossMotion := m }
      ∧ (g.input.bossMotion = {} → m.kind ≠ 0 →
        coopBossKind room.currentMap ≠ 0 ∧ 2 ≤ cfg.enabled) := by
  have hstill : g.input.bossMotion = {} → g.input.bossMotion.kind ≠ 0 →
      coopBossKind room.currentMap ≠ 0 ∧ 2 ≤ cfg.enabled := fun h hm => absurd (by rw [h]) hm
  rcases captureBoss_cases cfg room g rfl with e | e | ⟨hkind, -, -, e⟩
  · rw [e]
    exact ⟨_, _, rfl, hstill⟩
  · rw [e, trackBoss_input]
    exact ⟨_, _, rfl, hstill⟩
  · rw [e]
    unfold showBoss
    rw [trackBoss_input]
    refine ⟨_, _, rfl, fun h hm => ?_⟩
    rcases shownMotion_cases cfg room (trackBoss room g (coopBossKind room.currentMap)
      (bossActor room (coopBossKind room.currentMap))) (coopBossKind room.currentMap)
      (bossActor room (coopBossKind room.currentMap)) with hs | ⟨h2, -⟩
    · rw [hs, trackBoss_input] at hm
      exact hstill h hm
    · exact ⟨hkind, h2⟩

/-- The boss part of a capture changes the boss of the frame. -/
theorem captureBoss_input (cfg : CombatConfig) (room : CombatRoom) (g : CombatGame) :
    ∃ b m, (captureBoss cfg room g).input = { g.input with boss := b, bossMotion := m } := by
  obtain ⟨b, m, h, -⟩ := captureBoss_motion cfg room g
  exact ⟨b, m, h⟩

/-- A frame has several pages on a map with enemies only, and then a layout. -/
theorem captureEnemies_many (cfg : CombatConfig) (room : CombatRoom) {g : CombatGame}
    (hpages : g.input.pages = 1) (hmany : 1 < (captureEnemies cfg room g).input.pages) :
    coopCombatMap room.currentMap = true ∧ (captureEnemies cfg room g).input.layout ≠ 0 := by
  by_cases hl : Listing room
  · refine ⟨hl.1, ?_⟩
    rw [captureEnemies_of_listing hl]
    dsimp only
    rw [(refreshed_frame room g).2.1]
    exact layoutHash_ne_zero room
  · rw [show captureEnemies cfg room g = g from if_neg hl, hpages] at hmany
    exact absurd hmany (by decide)

/-- The enemy part of a capture changes the enemies of the frame. -/
theorem captureEnemies_input (cfg : CombatConfig) (room : CombatRoom) (g : CombatGame) :
    ∃ layout pages page enemies, (captureEnemies cfg room g).input =
      { g.input with layout := layout, pages := pages, page := page, enemies := enemies } := by
  by_cases hl : Listing room
  · rw [captureEnemies_of_listing hl, (refreshed_frame room g).1]
    exact ⟨_, _, _, _, rfl⟩
  · rw [show captureEnemies cfg room g = g from if_neg hl]
    exact ⟨_, _, _, _, rfl⟩

theorem setWidth_le (w : BitVec 16) : w.setWidth 32 ≤ (65535 : Word) := by
  have h := w.isLt
  have h' : (65535 : Word).toNat = 65535 := rfl
  rw [BitVec.le_def, BitVec.toNat_setWidth, Nat.mod_eq_of_lt (by omega)]
  omega

/-- **The frame of a capture is valid.** -/
theorem capture_valid (h : Sound g) (hkept : SoundShots g.shots) (ha : Admissible cfg g room) :
    validCombat (capture cfg room g).input = true := by
  unfold capture
  dsimp only
  split
  · rename_i hready
    have hfile0 := file_ne_zero hready
    have hp : Sound (g.prepare cfg room) := sound_prepare h
    have hin := prepare_input cfg room g
    have hids := ha.shotIds
    have hkept' : SoundShots (g.prepare cfg room).shots := soundShots_prepare hkept
    generalize g.prepare cfg room = g₀ at *
    have hopen : Sound (openFrame cfg room g₀) := ⟨hp.slots, hp.boss, hp.file⟩
    have hinput : (openFrame cfg room g₀).input =
        { enabled := cfg.enabled, file := BitVec.ofNat 32 g₀.file
          hands := room.hands.setWidth 32, pages := 1 } := by
      unfold openFrame
      rw [hin]
    obtain ⟨hboss, hmotion, hreserve⟩ := captureBoss_valid hopen ha.near hready.1
      (by rw [hinput]) (by rw [hinput]) (by rw [hinput])
    have hsound : Sound (captureBoss cfg room (openFrame cfg room g₀)) := sound_captureBoss hopen
    obtain ⟨b, m, hb⟩ := captureBoss_input cfg room (openFrame cfg room g₀)
    have hrec := @captureEnemies_valid cfg room _ hsound ha.near (by rw [hb, hinput])
    have henemy : EnemyPart cfg room
        (captureEnemies cfg room (captureBoss cfg room (openFrame cfg room g₀))).input :=
      captureEnemies_part (by rw [hb, hinput]) (by rw [hb, hinput]; exact ⟨rfl, rfl⟩)
    have hshots : SoundShots (captureShots room (captureEnemies cfg room
        (captureBoss cfg room (openFrame cfg room g₀)))).shots :=
      soundShots_captureShots ha.near (by rw [captureEnemies_shots, captureBoss_shots]; exact hids)
        (by rw [captureEnemies_shots, captureBoss_shots]; exact hkept')
    obtain ⟨layout, pages, page, enemies, he⟩ :=
      captureEnemies_input cfg room (captureBoss cfg room (openFrame cfg room g₀))
    obtain ⟨hvalid, hdistinct⟩ := listedShots_valid hshots
    rw [hb, hinput] at he hboss hmotion hreserve
    obtain ⟨hkeys, hlayout, ⟨hpages, hmany, hpage⟩, hslot⟩ := henemy
    unfold captureShots at hvalid hdistinct ⊢
    dsimp only at hvalid hdistinct ⊢
    rw [he] at hrec hkeys hlayout hpages hmany hpage hslot ⊢
    dsimp only at hrec hkeys hlayout hpages hmany hpage hslot hboss hmotion hreserve ⊢
    have hfile3 := hp.file
    have hfileNat : (BitVec.ofNat 32 g₀.file).toNat = g₀.file := by
      rw [BitVec.toNat_ofNat, Nat.mod_eq_of_lt (by omega)]
    have h3 : (3 : Word).toNat = 3 := rfl
    refine validCombat_iff.mpr ⟨decide_eq_true ⟨cfg.bounded, ?_, setWidth_le _, ?_, ?_, ?_⟩,
      fun k => (validEnemy_iff hready.1).mpr ⟨hrec k, hlayout k⟩, fun s => ?_, ?_, hboss, hmotion,
      ?_⟩
    · rw [BitVec.le_def, hfileNat]
      omega
    · rintro ⟨-, hf⟩
      have := congrArg BitVec.toNat hf
      rw [hfileNat] at this
      exact hfile0 this
    · rintro ⟨h0, -⟩
      exact hready.1 h0
    · rintro ⟨-, h0 | h0 | h0⟩
      · exact hpages h0
      · exact absurd hmany (Nat.not_le.mpr h0)
      · exact absurd hpage (BitVec.not_lt.mpr h0)
    · rw [validShot_congr hready.1]
      exact hvalid s
    · unfold distinctRecords
      rw [Bool.and_eq_true, decide_eq_true_eq, decide_eq_true_eq]
      exact ⟨hkeys, hdistinct⟩
    · rintro ⟨hm, hk⟩
      obtain ⟨hkind, h2⟩ := hreserve hm
      exact hk (hslot (hkind ▸ hm) h2)
  · rw [prepare_input]
    exact validCombat_empty

/-! ## The pages of the captures -/

/-- A capture keeps slot zero free where it reserves it, has a layout where it has several pages, and
shows no boss motion on several pages where it reserves no slot. -/
theorem capture_adapterFrame (cfg : CombatConfig) (room : CombatRoom) (g : CombatGame) :
    AdapterFrame (reservesSlot cfg room) (capture cfg room g).input := by
  unfold capture
  dsimp only
  split
  swap
  · rw [prepare_input]
    exact ⟨fun _ => by decide, fun _ => rfl, fun _ h => absurd rfl h⟩
  have hin := prepare_input cfg room g
  generalize g.prepare cfg room = g₀ at hin
  obtain ⟨b, m, hb, hmotion⟩ := captureBoss_motion cfg room (openFrame cfg room g₀)
  have hopen : (openFrame cfg room g₀).input.enemies = (fun _ => {})
      ∧ (openFrame cfg room g₀).input.pages = 1 ∧ (openFrame cfg room g₀).input.page = 0
      ∧ (openFrame cfg room g₀).input.bossMotion = {} := by
    unfold openFrame
    rw [hin]
    exact ⟨rfl, rfl, rfl, rfl⟩
  obtain ⟨hnone, hone, hfirst, hstill⟩ := hopen
  obtain ⟨layout, pages, page, enemies, he⟩ :=
    captureEnemies_input cfg room (captureBoss cfg room (openFrame cfg room g₀))
  have hpart : EnemyPart cfg room
      (captureEnemies cfg room (captureBoss cfg room (openFrame cfg room g₀))).input :=
    captureEnemies_part (by rw [hb]; exact hnone) (by rw [hb]; exact ⟨hone, hfirst⟩)
  have hmany := captureEnemies_many cfg room (g := captureBoss cfg room (openFrame cfg room g₀))
    (by rw [hb]; exact hone)
  unfold captureShots
  dsimp only
  rw [he, hb] at hpart hmany ⊢
  dsimp only at hpart hmany ⊢
  refine ⟨fun h0 => ?_, fun hr => ?_, fun hr hm => ?_⟩
  · by_contra hp
    exact (hmany (BitVec.not_le.mp hp)).2 h0
  · obtain ⟨hk, h2⟩ := of_decide_eq_true hr
    exact hpart.reserve (by rw [hk]; decide) h2
  · by_contra hp
    obtain ⟨hkind, h2⟩ := hmotion (by rw [hstill]) hm
    exact of_decide_eq_false hr ⟨combatMap_boss (hmany (BitVec.not_le.mp hp)).1 hkind, h2⟩

/-- A frame captured in a room that reserves the slot or does not. -/
def Captures (reserve : Bool) (f : CoopCombatFrame) : Prop :=
  ∃ cfg room g, f = (capture cfg room g).input ∧ reservesSlot cfg room = reserve

/-- The captures of a room, and one while the next room loads. -/
structure CapturedVisit (v : RoomVisit) : Prop where
  calls : ∀ c ∈ v.calls, Captures v.reserve c.input
  door : ∃ cfg room g, v.door.input = (capture cfg room g).input ∧ ¬ (g.prepare cfg room).Ready cfg room

theorem Captures.adapterFrame {reserve : Bool} {f : CoopCombatFrame} (h : Captures reserve f) :
    AdapterFrame reserve f := by
  obtain ⟨cfg, room, g, rfl, rfl⟩ := h
  exact capture_adapterFrame cfg room g

theorem CapturedVisit.adapted {v : RoomVisit} (h : CapturedVisit v) : v.Adapted := by
  refine ⟨fun c hc => (h.calls c hc).adapterFrame, ?_⟩
  obtain ⟨cfg, room, g, hdoor, hready⟩ := h.door
  rw [hdoor, capture, if_neg hready, prepare_input]
  exact readbackFrame_empty

/-- **The pages of the captures are acceptable** on the way through any rooms. -/
theorem captured_pages_valid {visits : List RoomVisit} (hv : ∀ v ∈ visits, CapturedVisit v)
    {reserve : Bool} {calls : List CombatCall} (h : ∀ c ∈ calls, Captures reserve c.input) (page : Word) :
    Acceptable ((Run.run CombatSync.update {} (visits.flatMap RoomVisit.all ++ calls)).wire page) :=
  adapter_pages_valid (fun v hmem => (hv v hmem).adapted) (fun c hc => (h c hc).adapterFrame) page

end Dk64Port.Coop.CombatGame
