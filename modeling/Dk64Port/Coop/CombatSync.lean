import Dk64Port.Coop.Combat
import Mathlib.Data.List.FinRange
import Mathlib.Logic.Function.Basic

/-!
# Enemy pairing (`CombatSync` of `native/combat.cpp`)

Both sides page their enemies; `CombatSync` keeps the last pages of both, binds a key to a pair of
lives once it saw both of them alive, and tells the game which defeats and health values to apply.

* `CombatSync.update`: one call of `CombatSync::update`, cut at its early returns.
* `CombatSync.wire`: one page as it is sent.
-/

namespace Dk64Port.Coop

/-- `COOP_COMBAT_WAITING`, and the statuses after it. -/
def combatWaiting : Word := 1

def combatShots : Word := 2

def combatReady : Word := 3

def combatLayoutMismatch : Word := 4

/-- `COOP_COMBAT_MOVEMENT`. -/
def combatMovement : Word := 1

/-- `COOP_COMBAT_POSE`. -/
def combatPose : Word := 2

/-- `CoopCombatResult`. -/
structure CoopCombatResult where
  status : Word := 0
  paired : Word := 0
  hands : Word := 0
  movement : Word := 0
  apply : Fin coopEnemies → CoopEnemy := fun _ => {}
  shots : Fin coopShots → CoopShot := fun _ => {}
  motion : Fin coopEnemies → CoopEnemy := fun _ => {}
  boss : CoopBoss := {}
  bossMotion : CoopBossMotion := {}

/-- `coop_boss_kind`. -/
def coopBossKind (map : Word) : Word :=
  if map = 8 ∨ map = 196 then 1
  else if map = 83 ∨ map = 197 then 2
  else if map = 154 then 3
  else if map = 111 then 4
  else if map = 199 then 5
  else if map = 203 then 6
  else if map = 204 then 7
  else if map = 205 then 8
  else if map = 214 then 9
  else if map = 207 then 10
  else if map = 60 then coopBossFungiSpider
  else 0

/-- The maps of `coop_combat_map`. -/
def combatMaps : List Nat :=
  [4, 7, 12, 13, 16, 19, 20, 21, 22, 23, 24, 38, 26, 30, 43, 46, 47, 49, 179, 48, 52, 57, 58, 59,
    60, 61, 62, 64, 70, 71, 72, 84, 85, 86, 91, 92, 93, 94, 95, 200, 87, 88, 105, 108, 112, 113,
    114, 151, 163, 164, 166, 183, 17, 34, 169, 173, 175, 193]

/-- `coop_combat_map`. -/
def coopCombatMap (map : Word) : Bool := combatMaps.contains map.toNat

/-- `Binding`. -/
structure Binding where
  key : Word := 0
  localLife : Word := 0
  peerLife : Word := 0
  kind : Word := 0
deriving DecidableEq

/-- `BossBinding`. -/
structure BossBinding where
  localLife : Word := 0
  peerLife : Word := 0
  kind : Word := 0
deriving DecidableEq

/-- The seven words of `context`. -/
structure CombatContext where
  epoch : Word := 0
  peerEpoch : Word := 0
  file : Word := 0
  peerFile : Word := 0
  layout : Word := 0
  peerLayout : Word := 0
  map : Word := 0
deriving DecidableEq

/-- The last record of every slot of every page. -/
abbrev EnemyPages := Fin coopCombatPages → Fin coopEnemies → CoopEnemy

/-- `CombatSync`. -/
structure CombatSync where
  bindings : Fin coopEnemyKeys → Binding := fun _ => {}
  bossBinding : BossBinding := {}
  context : CombatContext := {}
  localPages : EnemyPages := fun _ _ => {}
  remotePages : EnemyPages := fun _ _ => {}
  localPageCount : Word := 0
  remotePageCount : Word := 0
  localHost : Bool := false
  outgoing : CoopCombatFrame := {}
  output : CoopCombatResult := {}

/-- `find_enemy`: the first record with the key. -/
def findEnemy (pages : EnemyPages) (pageCount key : Word) : Option CoopEnemy :=
  if key = 0 then none
  else
    (List.finRange coopCombatPages).findSome? fun page =>
      if page.val < pageCount.toNat then
        ((List.finRange coopEnemies).map (pages page)).find? fun e => decide (e.key = key)
      else none

/-- One slot of `store_page`: the key leaves the other pages, then the slot is written. -/
def storeSlot (frame : CoopCombatFrame) (pages : EnemyPages) (i : Fin coopEnemies) : EnemyPages :=
  fun page slot =>
    if page.val = frame.page.toNat ∧ slot = i then frame.enemies i
    else if (frame.enemies i).key ≠ 0 ∧ page.val < frame.pages.toNat ∧ page.val ≠ frame.page.toNat
        ∧ (pages page slot).key = (frame.enemies i).key then {}
    else pages page slot

/-- `store_page`. -/
def storePage (pages : EnemyPages) (pageCount : Word) (frame : CoopCombatFrame) : EnemyPages :=
  let pages : EnemyPages := if pageCount ≠ frame.pages then fun _ _ => {} else pages
  (List.finRange coopEnemies).foldl (storeSlot frame) fun page =>
    if page.val = frame.page.toNat then fun _ => {} else pages page

/-- `key - 1`, the slot of a key among the bindings. -/
def keySlot (key : Word) : Fin coopEnemyKeys :=
  ⟨(key.toNat - 1) % coopEnemyKeys, Nat.mod_lt _ (by decide)⟩

/-- The binding is the one of this record. -/
def Binding.holds (b : Binding) (e : CoopEnemy) : Bool :=
  decide (b.key = e.key ∧ b.localLife = e.life ∧ b.kind = e.kind)

/-- A guest commits a defeat only after the host showed it. -/
def CombatSync.wireState (s : CombatSync) (e : CoopEnemy) : Word :=
  if ¬ s.localHost ∧ e.state = enemyDefeated then
    match findEnemy s.remotePages s.remotePageCount e.key with
    | none => enemyRequest
    | some peer =>
      if peer.state ≠ enemyDefeated ∨ enemyPeerLife peer ≠ e.life then enemyRequest else e.state
  else e.state

/-- One record as it is sent. -/
def CombatSync.wireEnemy (s : CombatSync) (e : CoopEnemy) : CoopEnemy :=
  if e.key = 0 then e
  else
    let b := s.bindings (keySlot e.key)
    { e with
      peerLife :=
        if b.holds e then (e.peerLife &&& enemyPoseHashPackMask) ||| b.peerLife
        else e.peerLife &&& enemyPoseHashPackMask
      state := s.wireState e }

/-- The record of a page by its number. -/
def pageEnemy (pages : EnemyPages) (page : Word) (i : Fin coopEnemies) : CoopEnemy :=
  if h : page.toNat < coopCombatPages then pages ⟨page.toNat, h⟩ i else {}

/-- `CombatSync::wire`. -/
def CombatSync.wire (s : CombatSync) (page : Word) : CoopCombatFrame :=
  if s.outgoing.enabled = 0 ∨ s.outgoing.pages = 0 ∨ s.outgoing.pages ≤ page then {}
  else
    { s.outgoing with
      page := page
      enemies := fun i => s.wireEnemy (pageEnemy s.localPages page i) }

/-! ## One update -/

/-- The frame of the game, without what the bridge owns. -/
def readbackFrame (input : CoopCombatFrame) : CoopCombatFrame :=
  let f : CoopCombatFrame := if validCombat input then input else {}
  if ∃ i, (f.enemies i).state = enemyRequest then {}
  else
    { f with
      enemies := fun i =>
        { f.enemies i with peerLife := (f.enemies i).peerLife &&& enemyPoseHashPackMask }
      boss := { f.boss with peerLife := 0 } }

/-- What the game and the session hand to one update. -/
structure CombatCall where
  host : Bool
  player : State
  input : CoopCombatFrame
  peer : State
  remote : CoopCombatFrame
  fresh : Bool

/-- The peer's frame may be paired with the local one. -/
def CombatCall.engaged (c : CombatCall) : Bool :=
  decide ((readbackFrame c.input).enabled ≠ 0) && c.fresh && validCombat c.remote
    && decide (c.remote.enabled ≠ 0) && validState c.player && validState c.peer
    && decide (c.player.flags = stateActive ∧ c.peer.flags = stateActive
      ∧ c.player.map = c.peer.map)

/-- `next`, the context of this call. -/
def CombatCall.context (c : CombatCall) : CombatContext where
  epoch := c.player.epoch
  peerEpoch := c.peer.epoch
  file := (readbackFrame c.input).file
  peerFile := c.remote.file
  layout := (readbackFrame c.input).layout
  peerLayout := c.remote.layout
  map := c.player.map

/-- No peer to pair with. -/
def CombatSync.disengage (s : CombatSync) : CombatSync :=
  { s with
    bindings := fun _ => {}
    bossBinding := {}
    context := {}
    remotePages := fun _ _ => {}
    remotePageCount := 0 }

/-- A new context forgets both caches, then the page of this call is stored again. -/
def CombatSync.enter (next : CombatContext) (s : CombatSync) : CombatSync :=
  if s.context = next then s
  else
    { s with
      bindings := fun _ => {}
      bossBinding := {}
      context := next
      remotePages := fun _ _ => {}
      remotePageCount := 0
      localPages := storePage (fun _ _ => {}) 0 s.outgoing
      localPageCount := s.outgoing.pages }

/-- `output.movement |= ...`. -/
def CombatSync.allowMovement (remote : CoopCombatFrame) (s : CombatSync) : CombatSync :=
  let movement :=
    if 2 ≤ s.outgoing.enabled ∧ 2 ≤ remote.enabled then s.output.movement ||| combatMovement
    else s.output.movement
  let movement :=
    if s.outgoing.enabled = 3 ∧ remote.enabled = 3 then movement ||| combatPose else movement
  { s with output := { s.output with movement := movement } }

/-- The boss is bound to the peer's boss. -/
def CombatSync.bindBoss (remote : CoopCombatFrame) (s : CombatSync) : CombatSync :=
  let b : BossBinding :=
    if s.bossBinding.localLife ≠ s.outgoing.boss.life ∨ s.bossBinding.peerLife ≠ remote.boss.life
        ∨ s.bossBinding.kind ≠ s.outgoing.boss.kind then
      { localLife := s.outgoing.boss.life, peerLife := remote.boss.life
        kind := s.outgoing.boss.kind }
    else s.bossBinding
  { s with
    bossBinding := b
    outgoing := { s.outgoing with boss := { s.outgoing.boss with peerLife := b.peerLife } } }

/-- A guest moves its boss like the host's. -/
def CombatSync.followBoss (host : Bool) (expected : Word) (remote : CoopCombatFrame)
    (s : CombatSync) : CombatSync :=
  if 2 ≤ s.outgoing.enabled ∧ 2 ≤ remote.enabled then
    let s := s.allowMovement remote
    if ¬ host ∧ remote.bossMotion.kind = expected ∧ remote.bossMotion.life = remote.boss.life then
      { s with
        output := { s.output with
          bossMotion := { remote.bossMotion with life := s.outgoing.boss.life } } }
    else s
  else s

/-- The phase both bosses should reach. -/
def CombatSync.bossTarget (host : Bool) (remote : CoopCombatFrame) (s : CombatSync) : Word :=
  if host then
    if remote.boss.phase < s.outgoing.boss.phase then s.outgoing.boss.phase else remote.boss.phase
  else remote.boss.phase

/-- The boss catches up one phase target at a time. -/
def CombatSync.advanceBoss (target : Word) (s : CombatSync) : CombatSync :=
  if s.outgoing.boss.phase < target then
    { s with
      output := { s.output with
        boss :=
          { kind := s.outgoing.boss.kind, life := s.outgoing.boss.life
            peerLife := s.bossBinding.peerLife, phase := target } } }
  else s

/-- The boss of the map is paired like an enemy, with its phase in place of a health. -/
def CombatSync.pairBoss (host : Bool) (map : Word) (remote : CoopCombatFrame) (s : CombatSync) :
    CombatSync :=
  let expected := coopBossKind map
  if expected ≠ 0 ∧ s.outgoing.boss.kind = expected ∧ remote.boss.kind = expected then
    let s := s.bindBoss remote
    if remote.boss.peerLife = s.outgoing.boss.life then
      let s : CombatSync :=
        { s with
          output := { s.output with status := combatReady, paired := s.output.paired + 1 } }
      let s := s.followBoss host expected remote
      s.advanceBoss (s.bossTarget host remote)
    else s
  else { s with bossBinding := {} }

/-- A binding of other lives is dropped; a new one needs both sides alive. -/
def Binding.renew (b : Binding) (e p : CoopEnemy) : Binding :=
  if b.key ≠ e.key ∨ b.localLife ≠ e.life ∨ b.peerLife ≠ p.life then
    if e.state = enemyAlive ∧ p.state = enemyAlive then
      { key := e.key, localLife := e.life, peerLife := p.life, kind := e.kind }
    else {}
  else b

/-- A command to the game about the record of slot `i`. -/
def CombatSync.command (s : CombatSync) (i : Fin coopEnemies) (e p : CoopEnemy)
    (state yaw : Word) : CombatSync :=
  { s with
    output := { s.output with
      apply := Function.update s.output.apply i
        { key := e.key, life := e.life, state := state, peerLife := p.life, kind := e.kind
          yaw := yaw } } }

/-- Health only converges downward. -/
def CombatSync.lowerHealth (host : Bool) (s : CombatSync) (i : Fin coopEnemies)
    (e p : CoopEnemy) : CombatSync :=
  if e.state = enemyAlive ∧ p.state = enemyAlive then
    let target :=
      if host then if enemyHealth e < enemyHealth p then enemyHealth e else enemyHealth p
      else enemyHealth p
    if target ≠ 0 ∧ target < enemyHealth e then s.command i e p enemyAlive (enemyPack 0 target)
    else s
  else s

/-- A guest moves its copy like the host's. -/
def CombatSync.followMotion (host : Bool) (s : CombatSync) (i : Fin coopEnemies)
    (e p : CoopEnemy) : CombatSync :=
  if ¬ host ∧ s.output.movement ≠ 0 ∧ e.state = enemyAlive ∧ p.state = enemyAlive then
    { s with
      output := { s.output with
        motion := Function.update s.output.motion i
          { p with
            life := e.life
            peerLife := (p.peerLife &&& enemyPoseHashPackMask) ||| p.life } } }
  else s

/-- The state of the peer's record that makes this side defeat its own. -/
def defeatTrigger (host : Bool) : Word := if host then enemyRequest else enemyDefeated

/-- The part of the loop after the peer acknowledged the life. -/
def CombatSync.settleEnemy (host : Bool) (input : CoopCombatFrame) (s : CombatSync)
    (i : Fin coopEnemies) (e p : CoopEnemy) : CombatSync :=
  let s : CombatSync := { s with output := { s.output with paired := s.output.paired + 1 } }
  let localDefeated := decide ((input.enemies i).key = e.key ∧ (input.enemies i).life = e.life
    ∧ (input.enemies i).state = enemyDefeated)
  if localDefeated ∧ p.state = enemyDefeated then
    let s : CombatSync :=
      if host then s
      else
        { s with
          outgoing := { s.outgoing with
            enemies := Function.update s.outgoing.enemies i { e with state := enemyDefeated } } }
    s.command i e p enemyAbsent 0
  else
    let s := (s.lowerHealth host i e p).followMotion host i e p
    if e.state = enemyAlive ∧ p.state = defeatTrigger host then s.command i e p enemyDefeated 0
    else s

/-- One record of the loop over the enemies of the frame. -/
def CombatSync.pairEnemy (host : Bool) (input : CoopCombatFrame) (s : CombatSync)
    (i : Fin coopEnemies) : CombatSync :=
  let e := s.outgoing.enemies i
  if e.key = 0 then s
  else
    let drop : CombatSync :=
      { s with bindings := Function.update s.bindings (keySlot e.key) {} }
    match findEnemy s.remotePages s.remotePageCount e.key with
    | none => drop
    | some p =>
      if e.kind ≠ p.kind then drop
      else
        let b := (s.bindings (keySlot e.key)).renew e p
        let s : CombatSync := { s with bindings := Function.update s.bindings (keySlot e.key) b }
        if b.key = 0 then s
        else
          let e := { e with peerLife := (e.peerLife &&& enemyPoseHashPackMask) ||| b.peerLife }
          let s : CombatSync :=
            { s with
              outgoing := { s.outgoing with enemies := Function.update s.outgoing.enemies i e } }
          if enemyPeerLife p ≠ e.life then s else s.settleEnemy host input i e p

/-- The loop over the enemies of the frame. -/
def CombatSync.pairLoop (c : CombatCall) (s : CombatSync) : CombatSync :=
  (List.finRange coopEnemies).foldl (CombatSync.pairEnemy c.host c.input) s

/-- The enemies of the frame, on a combat map whose layouts agree. -/
def CombatSync.pairEnemies (c : CombatCall) (s : CombatSync) : CombatSync :=
  if ¬ coopCombatMap c.player.map ∨ s.outgoing.layout = 0 ∨ c.remote.layout = 0 then
    { s with bindings := fun _ => {} }
  else if s.outgoing.layout ≠ c.remote.layout then
    { s with
      bindings := fun _ => {}
      output := { s.output with status := combatLayoutMismatch } }
  else
    let s : CombatSync := { s with output := { s.output with status := combatReady } }
    let s := (s.allowMovement c.remote).pairLoop c
    { s with outgoing := s.wire c.input.page }

/-- The part of an update behind the guards. -/
def CombatSync.engage (c : CombatCall) (s : CombatSync) : CombatSync :=
  let s : CombatSync :=
    { s with output := { status := combatShots, hands := c.remote.hands, shots := c.remote.shots } }
  let s := s.enter c.context
  let s : CombatSync :=
    { s with
      remotePages := storePage s.remotePages s.remotePageCount c.remote
      remotePageCount := c.remote.pages }
  (s.pairBoss c.host c.player.map c.remote).pairEnemies c

/-- `CombatSync::update`. -/
def CombatSync.update (s : CombatSync) (c : CombatCall) : CombatSync :=
  let s : CombatSync := { s with localHost := c.host, outgoing := readbackFrame c.input, output := {} }
  if s.outgoing.enabled = 0 then
    { s.disengage with localPages := fun _ _ => {}, localPageCount := 0 }
  else
    let s : CombatSync :=
      { s with
        localPages := storePage s.localPages s.localPageCount s.outgoing
        localPageCount := s.outgoing.pages
        output := { status := combatWaiting } }
    if ¬ c.engaged then s.disengage else s.engage c

/-! ## What the caches hold -/

/-- The page cache holds nothing but blanks, what it held, and the records of the frame. -/
theorem storePage_entry {P : CoopEnemy → Prop} {pages : EnemyPages} {frame : CoopCombatFrame}
    (count : Word) (hblank : P {}) (hframe : ∀ i, P (frame.enemies i))
    (hpages : ∀ page slot, P (pages page slot)) (page : Fin coopCombatPages)
    (slot : Fin coopEnemies) : P (storePage pages count frame page slot) := by
  have hslot : ∀ (l : List (Fin coopEnemies)) (pages : EnemyPages),
      (∀ page slot, P (pages page slot)) →
      ∀ page slot, P (l.foldl (storeSlot frame) pages page slot) := by
    intro l
    induction l with
    | nil => exact fun _ h => h
    | cons i l ih =>
      intro pages h
      refine ih _ fun page slot => ?_
      unfold storeSlot
      split_ifs
      · exact hframe i
      · exact hblank
      · exact h page slot
  unfold storePage
  refine hslot _ _ (fun page slot => ?_) page slot
  split
  · exact hblank
  · split
    · exact hblank
    · exact hpages page slot

end Dk64Port.Coop
