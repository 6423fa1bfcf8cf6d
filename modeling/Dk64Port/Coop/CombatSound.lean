import Dk64Port.Coop.CombatTokens
import Dk64Port.Coop.CombatPages

/-!
# What the slots of the channel hold (`mod/combat_actor.h`)

An enemy slot has a token and a known kind when an actor was put into it, a boss slot has a phase of
its boss, and a shot slot has a record of its own. A capture files a shot under its id and kind, a
frame under its id alone, so an id has to stand for one kind of projectile.

* `Sound`, `SoundShots`: what the slots of the channel hold.
* `Admissible`: what the game memory of a capture keeps to.
* `sound_run`, `soundShots_run`: **it is kept by every event.**
-/

namespace Dk64Port.Coop.CombatGame

variable {cfg : CombatConfig} {room : CombatRoom} {g : CombatGame} {i j : Nat} {s : EnemySpawner}

/-! ## Sound slots -/

/-- An enemy slot has a token and a known kind exactly when an actor was put into it. -/
structure SoundSlot (slot : EnemySlot) : Prop where
  life_ne : slot.actor ≠ none → slot.life ≠ 0
  actor_ne : slot.life ≠ 0 → slot.actor ≠ none
  kind_ne : slot.actor ≠ none → slot.kind ≠ 0
  life_le : slot.life ≤ enemyLifeMask
  kind_le : slot.kind ≤ coopEnemyKindCount

/-- The phases of a boss slot. -/
structure SoundBoss (b : BossSlot) : Prop where
  life_le : b.life ≤ enemyLifeMask
  phase_le : b.phase ≤ 4
  spider_le : b.kind = 11 → b.phase ≤ 1

/-- The shots that are kept have records of their own. -/
structure SoundShots (shots : Fin coopShots → LocalShotSlot) : Prop where
  valid : ∀ s, validShot { enabled := 1 } (shots s).shot = true
  distinct : ∀ s t, s ≠ t → (shots s).shot.id ≠ 0 → (shots t).shot.id ≠ (shots s).shot.id

/-- What the slots of the channel hold. -/
structure Sound (g : CombatGame) : Prop where
  slots : ∀ i, SoundSlot (g.slots i)
  boss : SoundBoss g.boss
  file : g.file ≤ 3

theorem soundSlot_empty : SoundSlot {} :=
  ⟨fun h => absurd rfl h, fun h => absurd rfl h, fun h => absurd rfl h, by decide, by decide⟩

theorem soundBoss_empty : SoundBoss {} := ⟨by decide, by decide, fun _ => by decide⟩

theorem soundShots_empty : SoundShots fun _ => {} := ⟨fun _ => rfl, fun _ _ _ h => absurd rfl h⟩

theorem sound_start : Sound {} :=
  ⟨fun _ => soundSlot_empty, soundBoss_empty, Nat.zero_le 3⟩

theorem SoundSlot.defeated {slot : EnemySlot} (h : SoundSlot slot) (d : Bool) :
    SoundSlot { slot with defeated := d } := ⟨h.1, h.2, h.3, h.4, h.5⟩

/-- A slot that was just given to an actor of a known kind. -/
theorem soundSlot_new (a : Nat) (generation counter : Word) {type : Nat}
    (hk : combatEnemyKind type ≠ 0) :
    SoundSlot ⟨some a, generation, nextLife counter, false, combatEnemyKind type⟩ :=
  ⟨fun _ => nextLife_ne_zero counter, fun _ => Option.some_ne_none a, fun _ => hk,
    nextLife_le counter, combatEnemyKind_le type⟩

theorem Sound.setSlot (h : Sound g) {slot : EnemySlot} (hs : SoundSlot slot) :
    Sound (g.setSlot i slot) := by
  refine ⟨fun j => ?_, h.boss, h.file⟩
  rw [setSlot_slots]
  split
  · exact hs
  · exact h.slots j

/-! ## Before the frame -/

theorem sound_confirm (h : Sound g) (done : CoopEnemy) : Sound (confirm g done) := by
  unfold confirm
  split
  · exact h
  · dsimp only
    split
    · exact h.setSlot ((h.slots _).defeated false)
    · exact h

theorem sound_changeMap (h : Sound g) : Sound (changeMap room g) := by
  unfold changeMap
  split
  · exact ⟨fun _ => soundSlot_empty, soundBoss_empty, h.file⟩
  · exact h

theorem sound_bindFile (h : Sound g) : Sound (bindFile cfg room g) := by
  unfold bindFile
  split
  · rename_i hc
    split_ifs
    · exact ⟨h.slots, h.boss, hc.2.2⟩
    · exact ⟨h.slots, h.boss, h.file⟩
    · exact h
  · exact h

theorem sound_leaveRoom (h : Sound g) : Sound (leaveRoom room g) := by
  unfold leaveRoom
  split
  · exact ⟨fun _ => soundSlot_empty, soundBoss_empty, h.file⟩
  · exact h

theorem sound_prepare (h : Sound g) : Sound (g.prepare cfg room) := by
  have hconfirm : Sound (room.apply.foldl confirm g) := by
    generalize room.apply = l
    induction l generalizing g with
    | nil => exact h
    | cons done l ih => exact ih (sound_confirm h done)
  exact sound_leaveRoom (sound_bindFile (sound_changeMap
    ⟨hconfirm.slots, hconfirm.boss, hconfirm.file⟩))

/-- A ready channel is bound to a file. -/
theorem file_ne_zero (h : (g.prepare cfg room).Ready cfg room) :
    (g.prepare cfg room).file ≠ 0 := by
  obtain ⟨hen, -, hadv, htr, hfile, -⟩ := h
  have hleave : ∀ g : CombatGame, leaveRoom room g = g := fun g =>
    if_neg (by rw [htr]; decide)
  unfold prepare
  rw [hleave, bindFile, if_pos ⟨hen, hadv, hfile⟩]
  split_ifs with h0
  · exact Nat.succ_ne_zero _
  · exact h0
  · exact h0

/-! ## The boss -/

/-- The spider has two phases only. -/
theorem bossPhase_spider {actor : CombatActor} (h : bossPhase 11 actor ≤ 4) :
    bossPhase 11 actor ≤ 1 := by
  unfold bossPhase at h ⊢
  cases hd : actor.unk178 with
  | none =>
    rw [hd] at h
    dsimp only at h
    omega
  | some data =>
    rw [hd] at h
    simp only [BitVec.reduceEq, BitVec.reduceLE, if_false, if_true, false_and, and_false,
      or_self] at h ⊢
    split_ifs at h ⊢ <;> omega

theorem sound_refreshBoss (h : Sound g) {kind : Word} {a phase : Nat} (hp : phase ≤ 4)
    (hs : kind = 11 → phase ≤ 1) : Sound (refreshBoss room g kind a phase) := by
  rcases refreshBoss_cases room g kind a phase with ⟨hk, p, hpp, e⟩ | e
  · rw [e]
    refine ⟨h.slots, ⟨h.boss.life_le, ?_, fun h11 => ?_⟩, h.file⟩
    · rcases hpp with rfl | rfl
      · exact h.boss.phase_le
      · exact hp
    · rcases hpp with rfl | rfl
      · exact h.boss.spider_le h11
      · exact hs (hk.symm.trans h11)
  · rw [e]
    exact ⟨h.slots, ⟨nextLife_le _, hp, hs⟩, h.file⟩

theorem sound_trackBoss (h : Sound g) (kind : Word) (found : Option Nat) :
    Sound (trackBoss room g kind found) := by
  rcases trackBoss_cases room g kind found with e | ⟨a, -, hp, e⟩
  · rwa [e]
  · rw [e]
    refine sound_refreshBoss h hp ?_
    rintro rfl
    exact bossPhase_spider hp

theorem sound_captureBoss (h : Sound g) : Sound (captureBoss cfg room g) := by
  rcases captureBoss_cases cfg room g rfl with e | e | ⟨-, -, -, e⟩
  · rwa [e]
  · rw [e]
    exact sound_trackBoss h _ _
  · have ht : Sound (trackBoss room g (coopBossKind room.currentMap)
        (bossActor room (coopBossKind room.currentMap))) := sound_trackBoss h _ _
    rw [e]
    exact ⟨ht.slots, ht.boss, ht.file⟩

/-! ## The enemies -/

theorem sound_settleLayout (h : Sound g) : Sound (settleLayout room g) := by
  unfold settleLayout
  split
  · exact ⟨fun _ => soundSlot_empty, h.boss, h.file⟩
  · exact h

theorem sound_refreshSlot (h : Sound g) : Sound (refreshSlot room g i s) := by
  rcases refreshSlot_cases room g i s with ⟨e, -⟩ | ⟨a, hst, e⟩
  · rwa [e]
  · have hset := h.setSlot (i := i)
      (soundSlot_new a (room.actor a).unk54 g.lifeCounter hst.2.2.1)
    rw [e]
    exact ⟨hset.slots, hset.boss, hset.file⟩

theorem sound_refreshSlots (h : Sound g) :
    Sound (refreshSlots room (settleLayout room g)).1 :=
  refreshSlots_induct (sound_settleLayout h) fun _ _ _ => sound_refreshSlot

theorem sound_captureEnemies (h : Sound g) : Sound (captureEnemies cfg room g) := by
  unfold captureEnemies
  split
  · have hr : Sound (refreshSlots room (settleLayout room g)).1 := sound_refreshSlots h
    exact ⟨hr.slots, hr.boss, hr.file⟩
  · exact h

/-! ## The shots -/

/-- The registered actors stand within the bounds of the wire. -/
def Near (room : CombatRoom) : Prop :=
  ∀ a, registered room a = true → boundedPosition (room.actor a).x = true
    ∧ boundedPosition (room.actor a).y = true ∧ boundedPosition (room.actor a).z = true

/-- The player's own projectiles of the room. -/
def OwnShot (room : CombatRoom) (a : Nat) : Prop :=
  registered room a = true ∧ ownShot (room.actor a) = true

/-- The id of a projectile stands for one kind: among the player's own and those that are kept. -/
structure ShotIds (room : CombatRoom) (shots : Fin coopShots → LocalShotSlot) : Prop where
  own : ∀ a b, OwnShot room a → OwnShot room b → shotId (room.actor a) = shotId (room.actor b) →
    combatProjectileKind (room.actor a).unk58 = combatProjectileKind (room.actor b).unk58
  kept : ∀ s a, OwnShot room a → (shots s).shot.id = shotId (room.actor a) →
    (shots s).shot.kind = combatProjectileKind (room.actor a).unk58

theorem shotId_ne_zero (actor : CombatActor) : shotId actor ≠ 0 := by
  unfold shotId
  split
  · decide
  · assumption

theorem combatProjectileKind_le (type : Nat) : combatProjectileKind type ≤ coopOrange := by
  unfold combatProjectileKind
  split_ifs <;> decide

theorem one_le_of_ne_zero {w : Word} (h : w ≠ 0) : 1 ≤ w := by
  rw [BitVec.le_def]
  have h0 : w.toNat ≠ 0 := fun h' => h (BitVec.eq_of_toNat_eq h')
  have h1 : (1 : Word).toNat = 1 := rfl
  omega

theorem and_fff_lt (w : Word) : w &&& 0xFFF < 4096 := by
  rw [BitVec.lt_def, BitVec.toNat_and]
  have h : (0xFFF : Word).toNat = 0xFFF := rfl
  have h' : (4096 : Word).toNat = 4096 := rfl
  have := @Nat.and_le_right w.toNat (0xFFF : Word).toNat
  omega

theorem shotScale_bounded (actor : CombatActor) :
    boundedFloat (shotScale actor) 0x3C23D70A 0x40800000 = true := by
  have hone : boundedFloat 0x3F800000 0x3C23D70A 0x40800000 = true := by decide
  unfold shotScale
  split
  · exact hone
  · split
    · rename_i scale _ h
      rw [boundedFloat, Float32Bits.isFinite_of_le (by decide) (by decide) h.1 h.2, h.1, h.2]
      rfl
    · exact hone

/-- The record of an own projectile is valid. -/
theorem shotRecord_valid (hnear : Near room) {a : Nat} (ha : OwnShot room a) :
    validShot { enabled := 1 } (shotRecord (room.actor a)) = true := by
  obtain ⟨hx, hy, hz⟩ := hnear a ha.1
  have hkind : combatProjectileKind (room.actor a).unk58 ≠ 0 := by
    have := ha.2
    simp only [ownShot, Bool.and_eq_true, decide_eq_true_eq] at this
    exact this.2
  have hs := shotScale_bounded (room.actor a)
  have h1 : (1 : Word) ≠ 0 := by decide
  unfold validShot
  rw [if_neg (show (shotRecord (room.actor a)).id ≠ 0 from shotId_ne_zero _)]
  simp only [Bool.and_eq_true]
  exact ⟨⟨⟨⟨decide_eq_true ⟨h1, one_le_of_ne_zero hkind, combatProjectileKind_le _, and_fff_lt _⟩,
    hx⟩, hy⟩, hz⟩, hs⟩

theorem soundShots_age (h : SoundShots g.shots) : SoundShots fun s => ageShot (g.shots s) := by
  have hage : ∀ slot, ageShot slot = {} ∨ (ageShot slot).shot = slot.shot := by
    intro slot
    unfold ageShot
    split_ifs
    · exact .inl rfl
    · exact .inr rfl
    · exact .inr rfl
  constructor
  · intro s
    rcases hage (g.shots s) with e | e
    · rw [e]
      rfl
    · rw [e]
      exact h.valid s
  · intro s t hst h0
    rcases hage (g.shots s) with e | e
    · rw [e] at h0
      exact absurd rfl h0
    · rw [e] at h0 ⊢
      rcases hage (g.shots t) with e' | e'
      · rw [e']
        exact Ne.symm h0
      · rw [e']
        exact h.distinct s t hst h0

/-- The slot a projectile goes to is its own, or a free one when it has none. -/
theorem shotSlot_cases {shots : Fin coopShots → LocalShotSlot} {actor : CombatActor}
    {s : Fin coopShots} (h : shotSlot shots actor = some s) :
    ((shots s).shot.id = shotId actor) ∨ ((shots s).shot.id = 0 ∧
      ∀ t, (shots t).shot.id = shotId actor →
        (shots t).shot.kind ≠ combatProjectileKind actor.unk58) := by
  unfold shotSlot at h
  dsimp only at h
  split at h
  · rename_i t ht
    have := List.find?_some ht
    simp only [Bool.and_eq_true, beq_iff_eq] at this
    cases h
    exact .inl this.1
  · rename_i hnone
    have hfree := List.find?_some h
    simp only [beq_iff_eq] at hfree
    refine .inr ⟨hfree, fun t hid hkind => ?_⟩
    have := List.find?_eq_none.mp hnone t (List.mem_finRange t)
    simp [hid, hkind] at this

/-- **One projectile is filed**: the slots stay sound and ids keep standing for one kind. -/
theorem soundShots_sample (hnear : Near room) {shots : Fin coopShots → LocalShotSlot}
    (h : SoundShots shots) (hids : ShotIds room shots) {a : Option Nat}
    (ha : ∀ b, a = some b → registered room b = true) :
    SoundShots (sampleShot room shots a) ∧ ShotIds room (sampleShot room shots a) := by
  unfold sampleShot
  cases a with
  | none => exact ⟨h, hids⟩
  | some a =>
    dsimp only
    split
    · exact ⟨h, hids⟩
    · rename_i hown
      have hmine : OwnShot room a := ⟨ha a rfl, by simpa using hown⟩
      split
      · exact ⟨h, hids⟩
      · rename_i s hs
        -- no other slot has the projectile's id
        have hother : ∀ t, t ≠ s → (shots t).shot.id ≠ shotId (room.actor a) := by
          intro t hts hid
          rcases shotSlot_cases hs with hsid | ⟨hfree, hno⟩
          · exact h.distinct s t (Ne.symm hts) (hsid ▸ shotId_ne_zero _) (hid.trans hsid.symm)
          · exact hno t hid (hids.kept t a hmine hid)
        refine ⟨⟨fun t => ?_, fun t u htu h0 => ?_⟩, hids.own, fun t b hb hid => ?_⟩
        · split
          · exact shotRecord_valid hnear hmine
          · exact h.valid t
        · by_cases ht : t = s
          · rw [if_pos ht, if_neg (fun hu => htu (ht.trans hu.symm))]
            exact hother u fun hu => htu (ht.trans hu.symm)
          · rw [if_neg ht] at h0 ⊢
            by_cases hu : u = s
            · rw [if_pos hu]
              exact Ne.symm (hother t ht)
            · rw [if_neg hu]
              exact h.distinct t u htu h0
        · by_cases ht : t = s
          · rw [if_pos ht] at hid ⊢
            exact hids.own a b hmine hb hid
          · rw [if_neg ht] at hid ⊢
            exact hids.kept t b hb hid

theorem shotIds_age (h : ShotIds room g.shots) : ShotIds room fun s => ageShot (g.shots s) := by
  refine ⟨h.own, fun s a ha hid => ?_⟩
  unfold ageShot at hid ⊢
  split_ifs at hid ⊢
  · exact absurd hid.symm (shotId_ne_zero _)
  · exact h.kept s a ha hid
  · exact h.kept s a ha hid

theorem sound_captureShots (h : Sound g) : Sound (captureShots room g) := ⟨h.slots, h.boss, h.file⟩

/-- **The shots that are kept after a capture.** -/
theorem soundShots_captureShots (hnear : Near room) (hids : ShotIds room g.shots)
    (h : SoundShots g.shots) : SoundShots (captureShots room g).shots := by
  have hfold : ∀ (l : List (Option Nat)), (∀ b, some b ∈ l → registered room b = true) →
      ∀ shots, SoundShots shots → ShotIds room shots →
        SoundShots (l.foldl (sampleShot room) shots) := by
    intro l
    induction l with
    | nil => exact fun _ _ hs _ => hs
    | cons a l ih =>
      intro hreg shots hs hi
      obtain ⟨hs', hi'⟩ := soundShots_sample hnear hs hi
        (fun b hb => hreg b (hb ▸ List.mem_cons_self))
      exact ih (fun b hb => hreg b (List.mem_cons_of_mem a hb)) _ hs' hi'
  exact hfold room.registry (fun b hb => by simpa [registered] using hb) _
    (soundShots_age h) (shotIds_age hids)

theorem soundShots_prepare (h : SoundShots g.shots) : SoundShots (g.prepare cfg room).shots := by
  have hconfirm : SoundShots (room.apply.foldl confirm g).shots := by
    generalize room.apply = l
    induction l generalizing g with
    | nil => exact h
    | cons done l ih =>
      refine ih ?_
      unfold confirm
      split
      · exact h
      · dsimp only
        split <;> exact h
  have hmap : SoundShots (changeMap room { room.apply.foldl confirm g with input := {} }).shots := by
    unfold changeMap
    split
    · exact soundShots_empty
    · exact hconfirm
  have hfile : ∀ g : CombatGame, (bindFile cfg room g).shots = g.shots := by
    intro g
    unfold bindFile
    split_ifs <;> rfl
  unfold prepare leaveRoom
  split
  · exact soundShots_empty
  · rw [hfile]
    exact hmap

/-! ## One event -/

@[simp] theorem captureBoss_shots : (captureBoss cfg room g).shots = g.shots := by
  have htrack : ∀ kind found, (trackBoss room g kind found).shots = g.shots := by
    intro kind found
    rcases trackBoss_cases room g kind found with e | ⟨a, -, -, e⟩
    · rw [e]
    · rw [e]
      rcases refreshBoss_cases room g kind a (bossPhase kind (room.actor a)) with
        ⟨-, p, -, e'⟩ | e' <;> rw [e']
  rcases captureBoss_cases cfg room g rfl with e | e | ⟨-, -, -, e⟩ <;> rw [e]
  · exact htrack _ _
  · exact htrack _ _

/-- The first pass changes slots and the counter of tokens. -/
theorem refreshSlots_frame (room : CombatRoom) (g : CombatGame) :
    (refreshSlots room g).1 =
      { g with
        slots := (refreshSlots room g).1.slots
        lifeCounter := (refreshSlots room g).1.lifeCounter
        spawns := (refreshSlots room g).1.spawns } := by
  refine refreshSlots_induct (P := fun g' => g' = { g with
    slots := g'.slots, lifeCounter := g'.lifeCounter, spawns := g'.spawns }) rfl ?_
  intro g' i s h
  rcases refreshSlot_cases room g' i s with ⟨e, -⟩ | ⟨a, -, e⟩
  · rw [e]
    exact h
  · rw [e, h]
    rfl

@[simp] theorem captureEnemies_shots : (captureEnemies cfg room g).shots = g.shots := by
  unfold captureEnemies
  split
  · dsimp only
    rw [refreshSlots_frame]
    dsimp only
    unfold settleLayout
    split <;> rfl
  · rfl

/-- What the game memory of a capture keeps to. -/
structure Admissible (cfg : CombatConfig) (g : CombatGame) (room : CombatRoom) : Prop where
  near : Near room
  shotIds : ShotIds room (g.prepare cfg room).shots

/-- **A capture keeps the slots sound.** -/
theorem capture_sound (h : Sound g) : Sound (capture cfg room g) := by
  have hp : Sound (g.prepare cfg room) := sound_prepare h
  unfold capture
  dsimp only
  split
  · have hopen : Sound (openFrame cfg room (g.prepare cfg room)) := ⟨hp.slots, hp.boss, hp.file⟩
    exact sound_captureShots (sound_captureEnemies (sound_captureBoss hopen))
  · exact hp

/-- **A capture keeps the shots sound.** -/
theorem capture_soundShots (h : SoundShots g.shots) (ha : Admissible cfg g room) :
    SoundShots (capture cfg room g).shots := by
  have hp : SoundShots (g.prepare cfg room).shots := soundShots_prepare h
  unfold capture
  dsimp only
  split
  · refine soundShots_captureShots ha.near ?_ ?_
    · rw [captureEnemies_shots, captureBoss_shots]
      exact ha.shotIds
    · rw [captureEnemies_shots, captureBoss_shots]
      exact hp
  · exact hp

theorem sound_step (h : Sound g) (e : CombatEvent) : Sound (step cfg g e) := by
  cases e with
  | capture room => exact capture_sound h
  | defeat i a =>
    show Sound (defeat g i a)
    unfold defeat
    split
    · exact h.setSlot ((h.slots i).defeated true)
    · exact h
  | localKongChanged => exact ⟨h.slots, h.boss, h.file⟩

/-- **The slots are sound after any run.** -/
theorem sound_run (cfg : CombatConfig) (es : List CombatEvent) : Sound (Run.run (step cfg) {} es) :=
  Run.run_invariant_of_steps (I := Sound) (fun _ e h => sound_step h e) sound_start es

/-- The captures of a run keep to what is assumed of the game memory. -/
def AdmissibleStep (cfg : CombatConfig) (g : CombatGame) : CombatEvent → Prop
  | .capture room => Admissible cfg g room
  | .defeat _ _ => True
  | .localKongChanged => True

/-- **The shots are sound after any run** over admissible memory. -/
theorem soundShots_run {es : List CombatEvent}
    (hes : Run.Along (step cfg) (AdmissibleStep cfg) {} es) :
    SoundShots (Run.run (step cfg) {} es).shots := by
  refine Run.invariant (I := fun g : CombatGame => SoundShots g.shots) (fun g e ha h => ?_)
    soundShots_empty hes
  cases e with
  | capture room => exact capture_soundShots h ha
  | defeat i a =>
    show SoundShots (defeat g i a).shots
    unfold defeat
    split <;> exact h
  | localKongChanged => exact soundShots_empty

end Dk64Port.Coop.CombatGame
