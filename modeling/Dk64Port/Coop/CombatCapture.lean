import Dk64Port.Coop.CombatSync
import Dk64Port.Lib.RotatingPages

/-!
# Capturing the enemies of a map (`mod/combat_actor.h`)

Each frame the game side samples the boss, one page of the enemies of the spawner table and the
player's own shots. An enemy slot is given a fresh life token whenever another actor, another
actor generation or another kind stands in it; a page holds twenty enemies, or nineteen where the
boss motion takes slot zero.

* `refreshSlots`: the first pass over the table, which counts the eligible slots.
* `pageRecords`: the second pass, which lists one page of them.
* `capture`: `coop_combat_capture`.
-/

namespace Dk64Port.Coop

/-! ## What a capture reads -/

/-- The animation track of an actor that has one: clip `unk10`, frame `unk4` and the frame count
`unk0->unk12`. -/
structure AnimationTrack where
  clip : BitVec 16
  frame : Word
  count : Nat
deriving DecidableEq

/-- The private data of a boss, as each handler lays it out. -/
structure BossData where
  phase : Nat
  kutPhase : Int
  toe : Nat
deriving DecidableEq

/-- The fields of an actor that the channel reads. `owned` says that `unk11C` is the local player;
`scale` is `unk124->unkC`. -/
structure CombatActor where
  unk54 : Word := 0
  unk58 : Nat := 0
  objectPropertiesBitfield : Word := 0
  health : BitVec 16 := 0
  x : Word := 0
  y : Word := 0
  z : Word := 0
  yRotation : BitVec 16 := 0
  unkEE : BitVec 16 := 0
  controlState : Nat := 0
  owned : Bool := false
  scale : Option Word := none
  unk178 : Option BossData := none
  track : Option AnimationTrack := none
deriving DecidableEq

/-- One entry of the enemy-spawner table: its immutable identity and the actor tied to it. -/
structure EnemySpawner where
  enemyValue : Nat
  xPos : BitVec 16
  yPos : BitVec 16
  zPos : BitVec 16
  tiedActor : Option Nat
deriving DecidableEq

/-- The game memory one capture reads. Actors are named by their addresses; `registry` is the
first `D_global_asm_807FBB34` entries of the actor registry, `spawners` the spawner table at
`table`. `playable` stands for the conditions of `combat_game_ready` on the player, the pause
screen and cutscenes. -/
structure CombatRoom where
  apply : List CoopEnemy := []
  currentMap : Word
  adventure : Bool := true
  currentFile : Nat := 0
  transition : Bool := false
  playable : Bool := true
  hands : BitVec 16 := 0
  registry : List (Option Nat)
  actor : Nat → CombatActor
  bossHooked : Bool := false
  hooks : Bool := true
  table : Option Nat
  spawners : List EnemySpawner

/-- The `combat` option, at most three after `coop_init`, and the rounding of a pose sample, which
is floating-point arithmetic. -/
structure CombatConfig where
  enabled : Word
  bounded : enabled ≤ 3
  poseStep : Word → Nat → Nat

/-! ## Tables -/

/-- The actor type of each enemy kind, in wire order. -/
def combatEnemyTypes : List Nat :=
  [178, 212, 238, 187, 224, 235, 291, 183, 206, 261, 285, 241, 242, 243, 244, 245, 267, 268, 205,
    208, 209, 262, 175, 182, 290, 289, 269, 270, 271, 276, 273, 230, 181, 228]

/-- The actor type of each boss kind, in wire order. -/
def combatBossTypes : List Nat := [185, 236, 204, 216, 165, 281, 292, 293, 227, 295, 251]

/-- `combat_enemy_kind`: one-based, zero for any other type. -/
def combatEnemyKind (type : Nat) : Word :=
  match combatEnemyTypes.findIdx? (· == type) with
  | some i => BitVec.ofNat 32 (i + 1)
  | none => 0

/-- `combat_projectile_kind`. -/
def combatProjectileKind (type : Nat) : Word :=
  if type = 48 then 1
  else if type = 36 then 2
  else if type = 42 then 3
  else if type = 43 then 4
  else if type = 38 then 5
  else if type = 41 then 6
  else 0

/-! ## The channel's state -/

/-- `CoopEnemySlot`. -/
structure EnemySlot where
  actor : Option Nat := none
  generation : Word := 0
  life : Word := 0
  defeated : Bool := false
  kind : Word := 0
deriving DecidableEq

/-- `CoopBossSlot`. -/
structure BossSlot where
  actor : Option Nat := none
  generation : Word := 0
  life : Word := 0
  phase : Nat := 0
  kind : Word := 0
deriving DecidableEq

/-- `CoopLocalShotSlot`. -/
structure LocalShotSlot where
  shot : CoopShot := {}
  missed : Nat := 0
deriving DecidableEq

/-- The static state of the channel. `spawns` counts the life tokens given out so far; the code
keeps only their counter. -/
structure CombatGame where
  slots : Nat → EnemySlot := fun _ => {}
  boss : BossSlot := {}
  layout : Word := 0
  file : Nat := 0
  fileChanged : Bool := false
  capturePage : Word := 0
  lifeCounter : Word := 0
  table : Option Nat := none
  map : Word := 0xFFFFFFFF
  shots : Fin coopShots → LocalShotSlot := fun _ => {}
  input : CoopCombatFrame := {}
  spawns : Nat := 0

namespace CombatGame

variable (cfg : CombatConfig) (room : CombatRoom)

/-- One slot is replaced. -/
def setSlot (g : CombatGame) (i : Nat) (slot : EnemySlot) : CombatGame :=
  { g with slots := fun j => if j = i then slot else g.slots j }

/-- The next life token, never zero. -/
def nextLife (counter : Word) : Word :=
  let next := (counter + 1) &&& enemyLifeMask
  if next = 0 then 1 else next

/-! ## Before the frame -/

/-- A defeat the peer has confirmed is forgotten. -/
def confirm (g : CombatGame) (done : CoopEnemy) : CombatGame :=
  if done.state ≠ enemyAbsent ∨ done.key = 0 ∨ 256 < done.key then g
  else
    let i := done.key.toNat - 1
    let slot := g.slots i
    if slot.defeated = true ∧ slot.life = done.life ∧ slot.kind = done.kind then
      g.setSlot i { slot with defeated := false }
    else g

/-- Another map forgets everything that was captured. -/
def changeMap (g : CombatGame) : CombatGame :=
  if g.map ≠ room.currentMap then
    { g with
      map := room.currentMap, layout := 0, capturePage := 0, table := none, boss := {}
      slots := fun _ => {}, shots := fun _ => {} }
  else g

/-- The save file the channel is bound to. -/
def bindFile (g : CombatGame) : CombatGame :=
  if cfg.enabled ≠ 0 ∧ room.adventure = true ∧ room.currentFile < 3 then
    if g.file = 0 then { g with file := room.currentFile + 1 }
    else if g.file ≠ room.currentFile + 1 then { g with fileChanged := true }
    else g
  else g

/-- A transition invalidates the capture before the map is unloaded. -/
def leaveRoom (g : CombatGame) : CombatGame :=
  if room.transition = true then
    { g with
      layout := 0, table := none, boss := {}, slots := fun _ => {}, shots := fun _ => {} }
  else g

/-- The state in which a capture decides whether to go on. -/
def prepare (g : CombatGame) : CombatGame :=
  let g := room.apply.foldl confirm g
  leaveRoom room (bindFile cfg room (changeMap room { g with input := {} }))

/-- `combat_game_ready` and a registry of at most 64 actors. -/
def Ready (g : CombatGame) : Prop :=
  cfg.enabled ≠ 0 ∧ g.fileChanged = false ∧ room.adventure = true ∧ room.transition = false
    ∧ room.currentFile < 3 ∧ room.playable = true ∧ room.registry.length ≤ 64

instance (g : CombatGame) : Decidable (g.Ready cfg room) :=
  inferInstanceAs (Decidable (_ ∧ _))

/-! ## The boss -/

/-- `coop_enemy_pose_encode`; the limits are `0.0f` and `254.0f`. -/
def poseEncode (frame : Word) (count : Nat) : Word :=
  if ¬ (Float32Bits.le 0 frame = true ∧ Float32Bits.le frame 0x437E0000 = true) ∨ count = 0
      ∨ 255 < count then 0
  else if count = 1 then 1
  else
    let step := cfg.poseStep frame count
    BitVec.ofNat 32 (1 + if 30 < step then 30 else step)

/-- `coop_enemy_clip_hash`. -/
def clipHash (clip : Word) : Word :=
  (clip ^^^ (clip >>> 6) ^^^ (clip >>> 12)) &&& enemyPoseHashMask

/-- The pose and clip of an actor, zero unless poses are shared and its track can be sampled. -/
def poseSample (actor : CombatActor) : Word × Word :=
  if cfg.enabled = 3 then
    match actor.track with
    | none => (0, 0)
    | some track =>
      if 0 ≤ track.clip.toInt ∧ track.clip.toInt < 2048 ∧ track.count ≠ 0 then
        let pose := poseEncode cfg track.frame track.count
        (pose, if pose ≠ 0 then clipHash (track.clip.setWidth 32) else 0)
      else (0, 0)
  else (0, 0)

/-- `combat_boss_phase`; five is no phase. -/
def bossPhase (kind : Word) (actor : CombatActor) : Nat :=
  match actor.unk178 with
  | none => 5
  | some data =>
    if kind = 1 then if data.phase ≤ 4 then data.phase else 5
    else if kind = 2 ∧ data.phase ≤ 3 then
      if data.phase = 3 ∧ actor.controlState = 0x56 then 4 else data.phase
    else if (kind = 3 ∨ kind = 4) ∧ data.phase ≤ 4 then data.phase
    else if kind = 5 then
      if 0 ≤ data.kutPhase ∧ data.kutPhase ≤ 3 then data.kutPhase.toNat else 5
    else if 6 ≤ kind ∧ kind ≤ 8 then
      if 3 < data.phase then 5
      else if data.phase = 3 ∧ actor.controlState = 0x37 then 4 else data.phase
    else if kind = 9 then
      if 3 < data.toe then 5
      else if actor.controlState = 0x37 then data.toe + 1 else data.toe
    else if kind = 10 then
      if 3 < data.phase then 5
      else if data.phase = 3 ∧ actor.controlState = 0x37 then 4 else data.phase
    else if kind = 11 then
      if actor.health = 6 ∧ (actor.controlState = 0x1E ∨ actor.controlState = 0x27) then 0
      else if actor.health = 1 ∧ (actor.controlState = 0x28 ∨ actor.controlState = 0x23
          ∨ actor.controlState = 0x37 ∨ actor.controlState = 0x40) then 1
      else 5
    else 5

/-- The boss actor of the room: the first live one of its type. -/
def bossActor (kind : Word) : Option Nat :=
  (room.registry.filterMap id).find? fun a =>
    (room.actor a).unk58 == combatBossTypes.getD (kind.toNat - 1) 0
      && decide ((room.actor a).objectPropertiesBitfield &&& 0x10 ≠ 0)

/-- The boss slot is renewed for another actor and follows the phase upwards. -/
def refreshBoss (g : CombatGame) (kind : Word) (a phase : Nat) : CombatGame :=
  let actor := room.actor a
  let g :=
    if g.boss.actor ≠ some a ∨ g.boss.generation ≠ actor.unk54 ∨ g.boss.kind ≠ kind then
      { g with
        boss := ⟨some a, actor.unk54, nextLife g.lifeCounter, phase, kind⟩
        lifeCounter := nextLife g.lifeCounter
        spawns := g.spawns + 1 }
    else g
  if g.boss.phase ≤ phase then { g with boss := { g.boss with phase := phase } } else g

/-- The boss motion of an actor. -/
def bossMotionOf (bossKind token : Word) (actor : CombatActor) : CoopBossMotion where
  kind := bossKind
  life := token
  x := actor.x
  y := actor.y
  z := actor.z
  yaw := actor.yRotation.signExtend 32 &&& 0xFFF
  pose := (poseSample cfg actor).1
  clipHash := (poseSample cfg actor).2

/-- The phase of the boss actor, if there is one. -/
def foundPhase (kind : Word) : Option Nat → Nat
  | none => 5
  | some a => bossPhase kind (room.actor a)

/-- The boss slot follows the actor while its phase can be told. -/
def trackBoss (g : CombatGame) (kind : Word) (found : Option Nat) : CombatGame :=
  match found with
  | none => g
  | some a =>
    if bossPhase kind (room.actor a) ≤ 4 then
      refreshBoss room g kind a (bossPhase kind (room.actor a))
    else g

/-- The motion of the boss actor, for a channel that shares movement. -/
def shownMotion (g : CombatGame) (kind : Word) (found : Option Nat) : CoopBossMotion :=
  match found with
  | some a =>
    if 2 ≤ cfg.enabled then bossMotionOf cfg kind g.boss.life (room.actor a)
    else g.input.bossMotion
  | none => g.input.bossMotion

/-- The frame with the boss of the channel in it. -/
def showBoss (g : CombatGame) (kind : Word) (m : CoopBossMotion) : CombatGame :=
  { g with input := { g.input with
      boss := ⟨kind, g.boss.life, 0, BitVec.ofNat 32 g.boss.phase⟩
      bossMotion := m } }

/-- The boss part of a capture. -/
def captureBoss (g : CombatGame) : CombatGame :=
  let kind := coopBossKind room.currentMap
  if kind = 0 ∨ room.bossHooked = false then g
  else
    let found := bossActor room kind
    let phase := foundPhase room kind found
    let g := trackBoss room g kind found
    if g.boss.life ≠ 0 ∧ g.boss.kind = kind ∧ (phase ≤ 4 ∨ g.boss.phase = 4) then
      showBoss g kind (shownMotion cfg room g kind found)
    else g

/-! ## The enemies -/

/-- One step of the layout hash. -/
def hashField (hash field : Word) : Word := (hash ^^^ field) * 16777619

/-- The hash of the immutable identities of the table, never zero. -/
def layoutHash : Word :=
  let hash := room.spawners.zipIdx.foldl (fun hash (s, i) =>
    [BitVec.ofNat 32 i, BitVec.ofNat 32 s.enemyValue, s.xPos.setWidth 32, s.yPos.setWidth 32,
      s.zPos.setWidth 32].foldl hashField hash) 2166136261
  if hash ≠ 0 then hash else 1

/-- Another layout or another table forgets the slots and starts with page zero. -/
def settleLayout (g : CombatGame) : CombatGame :=
  if g.layout ≠ layoutHash room ∨ g.table ≠ room.table then
    { g with
      slots := fun _ => {}, capturePage := 0, layout := layoutHash room, table := room.table }
  else g

/-- The actor is in the registry. -/
def registered (a : Nat) : Bool := room.registry.contains (some a)

/-- The slot of a spawner after its refresh: a live enemy of a known kind stands in it. -/
def refreshSlot (g : CombatGame) (i : Nat) (s : EnemySpawner) : CombatGame :=
  match s.tiedActor with
  | none => g
  | some a =>
    let actor := room.actor a
    let kind := combatEnemyKind actor.unk58
    if registered room a = true ∧ kind ≠ 0 ∧ actor.objectPropertiesBitfield &&& 0x10 ≠ 0 then
      let slot := g.slots i
      if slot.actor ≠ some a ∨ slot.generation ≠ actor.unk54 ∨ slot.kind ≠ kind then
        let g := g.setSlot i ⟨some a, actor.unk54, nextLife g.lifeCounter, false, kind⟩
        { g with lifeCounter := nextLife g.lifeCounter, spawns := g.spawns + 1 }
      else g
    else g

/-- The slot counts: it has a life, and its enemy is live and healthy or known to be defeated. -/
def countsSlot (g : CombatGame) (i : Nat) (s : EnemySpawner) : Bool :=
  let slot := g.slots i
  let live := match s.tiedActor with
    | none => false
    | some a =>
      let actor := room.actor a
      registered room a && decide (combatEnemyKind actor.unk58 ≠ 0)
        && decide (actor.objectPropertiesBitfield &&& 0x10 ≠ 0)
        && !(decide (actor.health.toInt ≤ 0) && !slot.defeated)
  decide (slot.life ≠ 0) && (live || slot.defeated)

/-- The first pass: slots are refreshed and the eligible ones counted. -/
def refreshSlots (g : CombatGame) : CombatGame × Nat :=
  room.spawners.zipIdx.foldl (fun (g, eligible) (s, i) =>
    let g := refreshSlot room g i s
    (g, if countsSlot room g i s then eligible + 1 else eligible)) (g, 0)

/-- `combat_actor_live`, for a registry of at most 64 actors. -/
def actorLive (a : Nat) (generation : Word) : Bool :=
  registered room a && decide ((room.actor a).unk54 = generation)

/-- The enemy of a slot is there and healthy. -/
def slotLive (slot : EnemySlot) (s : EnemySpawner) : Bool :=
  match slot.actor with
  | none => false
  | some a =>
    let actor := room.actor a
    decide (s.tiedActor = some a) && actorLive room a slot.generation
      && decide (combatEnemyKind actor.unk58 = slot.kind)
      && decide (actor.objectPropertiesBitfield &&& 0x10 ≠ 0) && decide (0 < actor.health.toInt)

/-- `coop_enemy_pack_pose`. -/
def packPose (yaw health pose : Word) : Word :=
  enemyPack yaw health ||| ((pose &&& enemyPoseMask) <<< 27)

/-- The record of slot `i`. -/
def enemyRecord (i : Nat) (slot : EnemySlot) (s : EnemySpawner) : CoopEnemy :=
  let base : CoopEnemy :=
    { key := BitVec.ofNat 32 (i + 1), life := slot.life
      state := if slot.defeated then enemyDefeated else enemyAlive, kind := slot.kind }
  match slot.actor with
  | none => base
  | some a =>
    if slotLive room slot s = true ∧ slot.defeated = false then
      let actor := room.actor a
      let sample := poseSample cfg actor
      { base with
        x := actor.x, y := actor.y, z := actor.z
        peerLife := sample.2 <<< 26
        yaw := packPose (actor.yRotation.signExtend 32) (actor.health.signExtend 32) sample.1 }
    else base

/-- Slot zero is kept for the boss motion of the Fungi spider. -/
def reservesSlot : Bool :=
  decide (coopBossKind room.currentMap = 11 ∧ 2 ≤ cfg.enabled)

/-- The enemies of a page. -/
def enemyCapacity : Nat := if reservesSlot cfg room then coopEnemies - 1 else coopEnemies

/-- The first slot an enemy may take. -/
def firstEnemy : Nat := if reservesSlot cfg room then 1 else 0

/-- One step of the second pass: what has been seen and listed so far. -/
def listSlot (g : CombatGame) (first : Nat) (acc : Nat × List CoopEnemy)
    (entry : EnemySpawner × Nat) : Nat × List CoopEnemy :=
  let slot := g.slots entry.2
  if coopEnemies ≤ firstEnemy cfg room + acc.2.length then acc
  else if slot.life = 0 ∨ (slotLive room slot entry.1 = false ∧ slot.defeated = false) then acc
  else if acc.1 < first then (acc.1 + 1, acc.2)
  else (acc.1 + 1, acc.2 ++ [enemyRecord cfg room entry.2 slot entry.1])

/-- The second pass: the records of one page. -/
def pageRecords (g : CombatGame) (first : Nat) : List CoopEnemy :=
  (room.spawners.zipIdx.foldl (listSlot cfg room g first) (0, [])).2

/-- The enemy part of a capture takes place. -/
def Listing : Prop :=
  coopCombatMap room.currentMap = true ∧ room.hooks = true ∧ room.spawners.length ≠ 0
    ∧ room.spawners.length ≤ 256 ∧ room.table ≠ none

instance : Decidable (Listing room) := inferInstanceAs (Decidable (_ ∧ _))

/-- The pages the eligible slots take, at least one. -/
def pagesFor (eligible : Nat) : Nat :=
  if Paging.pagesOf (enemyCapacity cfg room) eligible = 0 then 1
  else Paging.pagesOf (enemyCapacity cfg room) eligible

/-- The enemy part of a capture. -/
def captureEnemies (g : CombatGame) : CombatGame :=
  if Listing room then
    let g := settleLayout room g
    let (g, eligible) := refreshSlots room g
    let pages := pagesFor cfg room eligible
    let page := g.capturePage.toNat % pages
    let records := pageRecords cfg room g (page * enemyCapacity cfg room)
    { g with
      capturePage := g.capturePage + 1
      input := { g.input with
        layout := g.layout
        pages := BitVec.ofNat 32 pages
        page := BitVec.ofNat 32 page
        enemies := fun k =>
          if k.val < firstEnemy cfg room then {}
          else records.getD (k.val - firstEnemy cfg room) {} } }
  else g

/-! ## The shots -/

/-- `COOP_SHOT_HOLD_FRAMES`. -/
abbrev shotHoldFrames : Nat := 6

/-- A shot that was missed too often is dropped. -/
def ageShot (slot : LocalShotSlot) : LocalShotSlot :=
  if slot.shot.id ≠ 0 then
    if shotHoldFrames < slot.missed + 1 then {} else { slot with missed := slot.missed + 1 }
  else slot

/-- The wire id of a projectile. -/
def shotId (actor : CombatActor) : Word := if actor.unk54 + 1 = 0 then 1 else actor.unk54 + 1

/-- The player's own projectile. -/
def ownShot (actor : CombatActor) : Bool :=
  actor.owned && decide (actor.objectPropertiesBitfield &&& 0x10 ≠ 0)
    && decide (combatProjectileKind actor.unk58 ≠ 0)

/-- The scale of a shot, one when there is none between `0.01f` and `4.0f`. -/
def shotScale (actor : CombatActor) : Word :=
  match actor.scale with
  | none => 0x3F800000
  | some scale =>
    if Float32Bits.le 0x3C23D70A scale = true ∧ Float32Bits.le scale 0x40800000 = true then scale
    else 0x3F800000

/-- The record of a projectile. -/
def shotRecord (actor : CombatActor) : CoopShot where
  id := shotId actor
  kind := combatProjectileKind actor.unk58
  x := actor.x
  y := actor.y
  z := actor.z
  yaw := actor.unkEE.signExtend 32 &&& 0xFFF
  scale := shotScale actor

/-- The slot a projectile is kept in: its own, or the first free one. -/
def shotSlot (shots : Fin coopShots → LocalShotSlot) (actor : CombatActor) :
    Option (Fin coopShots) :=
  let own := (List.finRange coopShots).find? fun s =>
    (shots s).shot.id == shotId actor && (shots s).shot.kind == combatProjectileKind actor.unk58
  match own with
  | some s => some s
  | none => (List.finRange coopShots).find? fun s => (shots s).shot.id == 0

/-- One registered actor is sampled. -/
def sampleShot (shots : Fin coopShots → LocalShotSlot) (a : Option Nat) :
    Fin coopShots → LocalShotSlot :=
  match a with
  | none => shots
  | some a =>
    if ownShot (room.actor a) = false then shots
    else
      match shotSlot shots (room.actor a) with
      | none => shots
      | some s => fun t => if t = s then ⟨shotRecord (room.actor a), 0⟩ else shots t

/-- The shots kept, in slot order. -/
def keptShots (shots : Fin coopShots → LocalShotSlot) : List CoopShot :=
  ((List.finRange coopShots).map fun s => (shots s).shot).filter fun shot => shot.id != 0

/-- The shot part of a capture. -/
def captureShots (g : CombatGame) : CombatGame :=
  let shots := room.registry.foldl (sampleShot room) fun s => ageShot (g.shots s)
  { g with
    shots := shots
    input := { g.input with shots := fun s => (keptShots shots).getD s.val {} } }

/-! ## The capture -/

/-- The frame's own words. -/
def openFrame (g : CombatGame) : CombatGame :=
  { g with input := { g.input with
      enabled := cfg.enabled, file := BitVec.ofNat 32 g.file, hands := room.hands.setWidth 32
      pages := 1 } }

/-- `coop_combat_capture`. -/
def capture (g : CombatGame) : CombatGame :=
  let g := g.prepare cfg room
  if g.Ready cfg room then
    captureShots room (captureEnemies cfg room (captureBoss cfg room (openFrame cfg room g)))
  else g

end CombatGame

end Dk64Port.Coop
