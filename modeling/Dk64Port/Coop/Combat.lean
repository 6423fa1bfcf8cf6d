import Dk64Port.Coop.ItemsPolicy
import Dk64Port.Coop.Player
import Mathlib.Algebra.GroupWithZero.Nat

/-!
# Combat frames (`mod/combat_types.h`, `native/combat.cpp`)

One page of the enemies of a map with the shots, the boss and its motion, what a valid frame is, and
its compact wire form: identity and state share a word, and the boss motion travels in enemy slot
zero.
-/

namespace Dk64Port.Coop

/-- `COOP_ENEMIES`. -/
abbrev coopEnemies : Nat := 20

instance : NeZero coopEnemies := ⟨Nat.succ_ne_zero _⟩

/-- `COOP_ENEMY_KEYS`. -/
abbrev coopEnemyKeys : Nat := 256

/-- `COOP_COMBAT_PAGES`: nineteen records a page for every key. -/
abbrev coopCombatPages : Nat := (coopEnemyKeys + (coopEnemies - 1) - 1) / (coopEnemies - 1)

/-- `COOP_SHOTS`. -/
abbrev coopShots : Nat := 8

instance : NeZero coopShots := ⟨Nat.succ_ne_zero _⟩

/-- `COOP_COMBAT_WIRE_WORDS`. -/
abbrev coopCombatWireWords : Nat := 204

/-- `COOP_ENEMY_ABSENT`. -/
def enemyAbsent : Word := 0

/-- `COOP_ENEMY_ALIVE`. -/
def enemyAlive : Word := 1

/-- `COOP_ENEMY_DEFEATED`. -/
def enemyDefeated : Word := 2

/-- `COOP_ENEMY_REQUEST`. -/
def enemyRequest : Word := 3

/-- `COOP_BLUE_BEAVER`, the first kind. -/
def coopBlueBeaver : Word := 1

/-- `COOP_ENEMY_KIND_COUNT`. -/
def coopEnemyKindCount : Word := 34

/-- `COOP_COCONUT`, the first shot. -/
def coopCoconut : Word := 1

/-- `COOP_ORANGE`, the last shot. -/
def coopOrange : Word := 6

/-- `COOP_BOSS_FUNGI_SPIDER`. -/
def coopBossFungiSpider : Word := 11

/-- `COOP_BOSS_KIND_COUNT`. -/
def coopBossKindCount : Word := coopBossFungiSpider

/-- `COOP_ENEMY_PACK_MASK`. -/
def enemyPackMask : Word := 0xFFF ||| (0x7FFF <<< 12) ||| (0x1F <<< 27)

/-- `COOP_ENEMY_LIFE_MASK`. -/
def enemyLifeMask : Word := 0x03FFFFFF

/-- `COOP_ENEMY_POSE_MASK`. -/
def enemyPoseMask : Word := 0x1F

/-- `COOP_ENEMY_POSE_HASH_MASK`. -/
def enemyPoseHashMask : Word := 0x3F

/-- `COOP_ENEMY_POSE_HASH_PACK_MASK`. -/
def enemyPoseHashPackMask : Word := enemyPoseHashMask <<< 26

/-- `COOP_ENEMY_KEY_MASK`. -/
def enemyKeyMask : Word := 0x1FF

/-- `COOP_ENEMY_KIND_MASK`. -/
def enemyKindMask : Word := 0x3F

/-- `COOP_ENEMY_IDENTITY_MASK`. -/
def enemyIdentityMask : Word := 0x1FFFF

/-- `boss_wire_kind_base`. -/
def bossWireKindBase : Word := 48

/-- `CoopEnemy`. -/
@[ext] structure CoopEnemy where
  key : Word := 0
  life : Word := 0
  state : Word := 0
  peerLife : Word := 0
  kind : Word := 0
  x : Word := 0
  y : Word := 0
  z : Word := 0
  yaw : Word := 0
deriving DecidableEq

/-- `CoopShot`. -/
@[ext] structure CoopShot where
  id : Word := 0
  kind : Word := 0
  x : Word := 0
  y : Word := 0
  z : Word := 0
  yaw : Word := 0
  scale : Word := 0
deriving DecidableEq

/-- `CoopBoss`. -/
@[ext] structure CoopBoss where
  kind : Word := 0
  life : Word := 0
  peerLife : Word := 0
  phase : Word := 0
deriving DecidableEq

/-- `CoopBossMotion`. -/
@[ext] structure CoopBossMotion where
  kind : Word := 0
  life : Word := 0
  x : Word := 0
  y : Word := 0
  z : Word := 0
  yaw : Word := 0
  pose : Word := 0
  clipHash : Word := 0
deriving DecidableEq

/-- `CoopCombatFrame`. -/
@[ext] structure CoopCombatFrame where
  enabled : Word := 0
  file : Word := 0
  layout : Word := 0
  hands : Word := 0
  enemies : Fin coopEnemies → CoopEnemy := fun _ => {}
  shots : Fin coopShots → CoopShot := fun _ => {}
  boss : CoopBoss := {}
  page : Word := 0
  pages : Word := 0
  bossMotion : CoopBossMotion := {}

/-- `coop_enemy_health`. -/
def enemyHealth (e : CoopEnemy) : Word := (e.yaw >>> 12) &&& 0x7FFF

/-- `coop_enemy_peer_life`. -/
def enemyPeerLife (e : CoopEnemy) : Word := e.peerLife &&& enemyLifeMask

/-- `coop_enemy_pack`. -/
def enemyPack (yaw health : Word) : Word := (yaw &&& 0xFFF) ||| ((health &&& 0x7FFF) <<< 12)

/-! ## Valid frames -/

/-- `bounded_float`. -/
def boundedFloat (bits min max : Word) : Bool :=
  Float32Bits.isFinite bits && Float32Bits.le min bits && Float32Bits.le bits max

/-- `bounded_float(bits, -100000, 100000)`. -/
def boundedPosition (bits : Word) : Bool := boundedFloat bits 0xC7C35000 float100000

/-- The checks of one enemy record. -/
def validEnemy (f : CoopCombatFrame) (e : CoopEnemy) : Bool :=
  if e.key = 0 then decide (e = {})
  else
    decide (f.enabled ≠ 0 ∧ f.layout ≠ 0 ∧ e.key ≤ 256 ∧ e.life ≠ 0 ∧ e.life ≤ enemyLifeMask
      ∧ enemyAlive ≤ e.state ∧ e.state ≤ enemyRequest)
    && decide (coopBlueBeaver ≤ e.kind ∧ e.kind ≤ coopEnemyKindCount
      ∧ e.yaw &&& ~~~ enemyPackMask = 0
      ∧ if e.state = enemyAlive then enemyHealth e ≠ 0 else enemyHealth e = 0)
    && boundedPosition e.x && boundedPosition e.y && boundedPosition e.z

/-- The checks of one shot record; `0x3C23D70A` is `0.01f` and `0x40800000` is `4.0f`. -/
def validShot (f : CoopCombatFrame) (s : CoopShot) : Bool :=
  if s.id = 0 then decide (s = {})
  else
    decide (f.enabled ≠ 0 ∧ coopCoconut ≤ s.kind ∧ s.kind ≤ coopOrange ∧ s.yaw < 4096)
    && boundedPosition s.x && boundedPosition s.y && boundedPosition s.z
    && boundedFloat s.scale 0x3C23D70A 0x40800000

/-- The checks of the boss record. -/
def validBoss (f : CoopCombatFrame) (b : CoopBoss) : Bool :=
  if b.kind = 0 then decide (b.life = 0 ∧ b.peerLife = 0 ∧ b.phase = 0)
  else
    decide (f.enabled ≠ 0 ∧ b.kind ≤ coopBossKindCount ∧ b.life ≠ 0 ∧ b.life ≤ enemyLifeMask
      ∧ b.peerLife ≤ enemyLifeMask ∧ b.phase ≤ 4 ∧ ¬ (b.kind = coopBossFungiSpider ∧ 1 < b.phase))

/-- The checks of the boss motion. -/
def validBossMotion (f : CoopCombatFrame) (m : CoopBossMotion) : Bool :=
  if m.kind = 0 then
    decide (m.life = 0 ∧ m.x = 0 ∧ m.y = 0 ∧ m.z = 0 ∧ m.yaw = 0 ∧ m.pose = 0 ∧ m.clipHash = 0)
  else
    decide (2 ≤ f.enabled ∧ m.kind = f.boss.kind ∧ m.life = f.boss.life ∧ m.yaw < 4096
      ∧ m.pose ≤ enemyPoseMask ∧ m.clipHash ≤ enemyPoseHashMask
      ∧ ¬ (m.pose = 0 ∧ m.clipHash ≠ 0) ∧ ¬ (f.enabled < 3 ∧ m.pose ≠ 0))
    && boundedPosition m.x && boundedPosition m.y && boundedPosition m.z

/-- The checks of the frame itself. -/
def validFrameHead (f : CoopCombatFrame) : Bool :=
  decide (f.enabled ≤ 3 ∧ f.file ≤ 3 ∧ f.hands ≤ 65535 ∧ ¬ (f.enabled ≠ 0 ∧ f.file = 0)
    ∧ ¬ (f.enabled = 0 ∧ (f.file ≠ 0 ∨ f.layout ≠ 0 ∨ f.hands ≠ 0 ∨ f.page ≠ 0 ∨ f.pages ≠ 0))
    ∧ ¬ (f.enabled ≠ 0 ∧ (f.pages = 0 ∨ coopCombatPages < f.pages.toNat ∨ f.pages ≤ f.page)))

/-- No two records of the frame have one key, no two shots one id. -/
def distinctRecords (f : CoopCombatFrame) : Bool :=
  decide (∀ i j, j < i → (f.enemies i).key ≠ 0 → (f.enemies j).key ≠ (f.enemies i).key)
  && decide (∀ i j, j < i → (f.shots i).id ≠ 0 → (f.shots j).id ≠ (f.shots i).id)

/-- `valid_combat`. -/
def validCombat (f : CoopCombatFrame) : Bool :=
  validFrameHead f && decide (∀ i, validEnemy f (f.enemies i) = true)
    && decide (∀ i, validShot f (f.shots i) = true) && distinctRecords f
    && validBoss f f.boss && validBossMotion f f.bossMotion
    && decide (¬ (f.bossMotion.kind ≠ 0 ∧ (f.enemies 0).key ≠ 0))

/-! ## The wire form -/

/-- The record that carries the boss motion. -/
def bossMotionEnemy (m : CoopBossMotion) : CoopEnemy where
  key := 1
  life := m.life
  state := enemyAlive
  peerLife := m.pose ||| (m.clipHash <<< 5)
  kind := bossWireKindBase + m.kind
  x := m.x
  y := m.y
  z := m.z
  yaw := m.yaw

/-- The record in slot `i` on the wire. -/
def wireEnemy (f : CoopCombatFrame) (i : Fin coopEnemies) : CoopEnemy :=
  if i.val = 0 ∧ f.bossMotion.kind ≠ 0 then bossMotionEnemy f.bossMotion else f.enemies i

/-- The identity word of slot `i`; bit 17 makes the receiver refuse what does not fit. -/
def wireIdentity (f : CoopCombatFrame) (i : Fin coopEnemies) : Word :=
  let e := wireEnemy f i
  let identity := e.key ||| (e.state <<< 9) ||| (e.kind <<< 11)
  if (i.val = 0 ∧ f.bossMotion.kind ≠ 0 ∧ (f.enemies i).key ≠ 0) ∨ 256 < e.key ∨ 3 < e.state
      ∨ enemyKindMask < e.kind then
    identity ||| 0x20000
  else identity

/-- The seven words of one enemy. -/
def enemyWord (f : CoopCombatFrame) (i : Fin coopEnemies) : Fin 7 → Word :=
  let e := wireEnemy f i
  ![wireIdentity f i, e.life, e.peerLife, e.x, e.y, e.z, e.yaw]

/-- The seven words of one shot. -/
def shotWord (s : CoopShot) : Fin 7 → Word := ![s.id, s.kind, s.x, s.y, s.z, s.yaw, s.scale]

/-- `combat_words`. -/
def combatWords (f : CoopCombatFrame) : Fin coopCombatWireWords → Word := fun n =>
  if h : n.val < 4 then
    ![f.enabled ||| (f.page <<< 8) ||| (f.pages <<< 16), f.file, f.layout, f.hands] ⟨n.val, h⟩
  else if h : n.val < 144 then
    enemyWord f ⟨(n.val - 4) / 7, (by omega : (n.val - 4) / 7 < 20)⟩
      ⟨(n.val - 4) % 7, Nat.mod_lt _ (by decide)⟩
  else if h : n.val < 200 then
    shotWord (f.shots ⟨(n.val - 144) / 7, (by omega : (n.val - 144) / 7 < 8)⟩)
      ⟨(n.val - 144) % 7, Nat.mod_lt _ (by decide)⟩
  else
    have hn : n.val < 204 := n.isLt
    ![f.boss.kind, f.boss.life, f.boss.peerLife, f.boss.phase] ⟨n.val - 200, by omega⟩

/-- The record the seven words of slot `i` show. -/
def enemyFromWords (w : Fin coopCombatWireWords → Word) (i : Fin coopEnemies) : CoopEnemy :=
  let word := fun k => wordAt w (4 + 7 * i.val + k)
  let identity := word 0
  { key := if identity &&& ~~~ enemyIdentityMask ≠ 0 then 257 else identity &&& enemyKeyMask
    state := (identity >>> 9) &&& 3
    kind := (identity >>> 11) &&& enemyKindMask
    life := word 1
    peerLife := word 2
    x := word 3
    y := word 4
    z := word 5
    yaw := word 6 }

/-- The record of slot zero is the boss motion. -/
def carriesBossMotion (e : CoopEnemy) : Bool :=
  decide (e.key = 1 ∧ e.state = enemyAlive ∧ bossWireKindBase < e.kind
    ∧ e.kind ≤ bossWireKindBase + coopBossKindCount)

/-- The boss motion in a record; a pose out of range makes the frame invalid. -/
def bossMotionFromEnemy (e : CoopEnemy) : CoopBossMotion where
  kind := e.kind - bossWireKindBase
  life := e.life
  x := e.x
  y := e.y
  z := e.z
  yaw := e.yaw
  pose := if e.peerLife &&& ~~~ 0x7FF ≠ 0 then enemyPoseMask + 1 else e.peerLife &&& enemyPoseMask
  clipHash := (e.peerLife >>> 5) &&& enemyPoseHashMask

/-- `combat_from_words`. -/
def combatFromWords (w : Fin coopCombatWireWords → Word) : CoopCombatFrame :=
  let feature := w 0
  let first := enemyFromWords w 0
  { enabled := if feature &&& 0xFF000000 ≠ 0 then 4 else feature &&& 0xFF
    page := (feature >>> 8) &&& 0xFF
    pages := (feature >>> 16) &&& 0xFF
    file := w 1
    layout := w 2
    hands := w 3
    enemies := fun i =>
      if i.val = 0 ∧ carriesBossMotion first then {} else enemyFromWords w i
    bossMotion := if carriesBossMotion first then bossMotionFromEnemy first else {}
    shots := fun i =>
      let word := fun k => wordAt w (144 + 7 * i.val + k)
      { id := word 0, kind := word 1, x := word 2, y := word 3, z := word 4, yaw := word 5
        scale := word 6 }
    boss := { kind := w 200, life := w 201, peerLife := w 202, phase := w 203 } }

end Dk64Port.Coop
