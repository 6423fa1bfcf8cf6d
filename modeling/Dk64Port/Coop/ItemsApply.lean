import Dk64Port.Coop.CombatSync
import Dk64Port.Coop.ItemSave
import Dk64Port.Coop.ItemsGame
import Dk64Port.Coop.LiveRefresh
import Mathlib.Algebra.Group.Nat.Defs
import Mathlib.Algebra.GroupWithZero.Nat

/-!
# Applying the items of a peer (`mod/items_game.h`, `mod/progression_game.h`, `mod/troff_game.h`)

Every frame the game walks over the item ids in order and writes those the result grants and the
save does not own. Each kind of id has its own reasons to wait, its own write and its own
bookkeeping; a counter that does not add up ends the walk for the rest of the session.

* `coopProgressionApply`, `coopTroffApply`, `applyCollectible`: the three kinds of grants.
* `applyItem`: one turn of the walk.
* `coopItemsApply`: the call of a frame.
* `GameSave.view`: what the capture of the same frame sees of the save.
-/

namespace Dk64Port.Coop

/-! ## The frame -/

/-- The state of the game during one frame: `current_map`, `getLevelIndex(current_map, 1)`, the HUD
object `D_global_asm_80754280`, the reward queue `D_global_asm_807FD730`, `refresh_enabled` and
`peer_same_map`. -/
structure ItemsFrame where
  map : Nat
  level : Nat
  hud : Bool
  rewardQueue : Bool
  refreshEnabled : Bool
  peerSameMap : Bool

/-- What the walk takes from elsewhere: the generated table of the ordinary pickups, the calls of the
live refresh, the sources of the collectibles on the loaded map, and which writes another mod
cancels: by the id whose turn it is and the flag, or `none` for a pickup bit. -/
structure ItemsEngine where
  coopPickups : Nat → CoopPickup
  calls : Live.Calls
  propReady : Live.Memory → Nat → Nat → Bool
  actorReady : Live.Memory → Nat → Nat → Bool
  propRetire : Nat → Nat → Live.Memory → Live.Memory
  actorRetire : Nat → Nat → Live.Memory → Live.Memory
  rewardRetire : Nat → Live.Memory → Live.Memory
  cancelled : Nat → Option Nat → Bool

/-- The save and the loaded map. -/
structure ItemsWorld where
  save : GameSave
  memory : Live.Memory

/-- `coop_items_main_world`. -/
def coopItemsMainWorld (map : Nat) : Bool := [34, 7, 38, 26, 30, 48, 72, 87].contains map

/-- `coop_items_safe_map`. -/
def coopItemsSafeMap (map : Nat) : Bool := coopItemsMainWorld map || map == 171

/-- `coop_items_snapshot_map`. -/
def coopItemsSnapshotMap (map : Nat) : Bool :=
  coopItemsSafeMap map || map == 176 || coopCombatMap (BitVec.ofNat 32 map)
    || [174, 178, 187, 194, 44, 45, 170].contains map

/-- `coop_items_apply_map`. -/
def coopItemsApplyMap (map : Nat) : Bool := map != 176 && coopItemsSnapshotMap map

/-- `coop_training_ground_apply_id`. -/
def coopTrainingGroundApplyId (id : Nat) : Bool :=
  decide (coopTrainingSpawned ≤ id ∧ id ≤ coopFirstSlam) || id == coopWorldTrainingExit

/-- `coop_live_world_has_flag`. -/
def coopLiveWorldHasFlag (map flag : Nat) : Bool :=
  coopLiveWorldStates.any fun row => row.map == map && row.flag == flag

/-- What `coop_items_capture` sees of a save. -/
def GameSave.view (f : ItemsFrame) (layout : Nat → Nat) (s : GameSave) : ItemsView where
  snapshotMap := coopItemsSnapshotMap f.map
  applyMap := coopItemsApplyMap f.map
  rewardQueue := f.rewardQueue
  countersValid := coopItemsCountersValid layout s
  owned := coopItemOwned s
  flagged id := s.flagged (coopItemFlag id)

/-! ## Writes -/

namespace GameSave

/-- A set flag. -/
def raise (s : GameSave) (flag : Option Nat) : GameSave :=
  { s with flag := fun f => s.flag f || flag == some f }

/-- A set pickup bit. -/
def take (s : GameSave) (bit : Nat × Nat) : GameSave :=
  { s with pickup := fun b => s.pickup b || b == bit }

/-- A Kong's progress rewritten. -/
def setKong (s : GameSave) (kong : Nat) (p : CharacterProgress → CharacterProgress) : GameSave :=
  { s with
    characterProgress := fun k =>
      if k = kong then p (s.characterProgress k) else s.characterProgress k }

/-- A byte of the progression of each given Kong rewritten. -/
def setProgression (s : GameSave) (kongs : List Nat) (field : Nat) (value : Nat → Nat) : GameSave :=
  { s with
    characterProgress := fun k =>
      let p := s.characterProgress k
      if k ∈ kongs then
        { p with
          progression := fun b => if b = field then value (p.progression b) else p.progression b }
      else p }

end GameSave

variable (e : ItemsEngine) (f : ItemsFrame)

/-- `setFlag(flag, 1, 0)` in the turn of `id`; the callback of the write is silent while the walk is
on. -/
def ItemsEngine.setFlag (id : Nat) (w : ItemsWorld) (flag : Option Nat) : ItemsWorld :=
  { w with save := if e.cancelled id flag then w.save else w.save.raise flag }

/-- `func_global_asm_8060E430(ordinal, 1, level)`. -/
def ItemsEngine.setPickup (id : Nat) (w : ItemsWorld) (bit : Nat × Nat) : ItemsWorld :=
  { w with save := if e.cancelled id none then w.save else w.save.take bit }

/-! ## Progression -/

/-- The world unlocks that `coop_progression_apply` refuses. -/
def worldBlocked (s : GameSave) (id : Nat) : Bool :=
  match coopWorldUnlocks[id - coopWorldFirst]? with
  | none => true
  | some unlock => (f.level == unlock.level && !f.refreshEnabled) || !worldRequires s unlock

/-- The Bananaports it refuses: the loaded ones, and one that is not revealed. -/
def warpBlocked (s : GameSave) (id : Nat) : Bool :=
  match coopWarpTags[id - coopWarpFirst]? with
  | none => true
  | some pad => f.map == pad.map || !warpRequires s pad

/-- The training it refuses. -/
def trainingBlocked (s : GameSave) (id : Nat) : Bool :=
  (decide (coopTrainingSkillFirst ≤ id ∧ id < coopTrainingComplete) && !s.flag 0x17F)
    || (decide (id = coopTrainingComplete ∨ id = coopFirstSlam) && !coopTrainingPrerequisites s)

/-- The level a captive Kong is loaded in. -/
def kongLevels : List Nat := [0, 1, 1, 2]

/-- The Kongs, keys and lobbies it refuses. -/
def storyBlocked (s : GameSave) (id : Nat) : Bool :=
  if id < coopLobby then kongLevels[id - coopKongFirst]? == some f.level
  else
    f.level == 7
      || (decide (coopKeyTurnFirst ≤ id ∧ id < coopKlumsyFree)
        && !turnRequires s (id - coopKeyTurnFirst))
      || (decide (id = coopKlumsyFree) && !klumsyRequires s)

/-- The upgrade tiers and bits: `melons`, or a byte of the progression. -/
def raiseTier (s : GameSave) (id : Nat) : GameSave :=
  if coopMelonFirst ≤ id then { s with melons := max s.melons (2 + (id - coopMelonFirst)) }
  else match coopProgressionMove id with
    | none => s
    | some m => s.setProgression (moveKongs m.kong) m.field fun held =>
        if m.bits then held ||| m.value else max held m.value

/-- `return coop_progression_owned(id)`. -/
def readBack (id : Nat) (w : ItemsWorld) : Bool × ItemsWorld := (coopProgressionOwned w.save id, w)

/-- `coop_progression_apply`. -/
def coopProgressionApply (id : Nat) (safe : Bool) (w : ItemsWorld) : Bool × ItemsWorld :=
  if ¬ safe ∨ ¬ f.hud ∨ id < coopProgressionFirst ∨ coopProgressionEnd ≤ id then (false, w)
  else if coopWorldFirst ≤ id then
    if worldBlocked f w.save id then (false, w)
    else readBack id (e.setFlag id w (coopProgressionFlag id))
  else if 8 ≤ f.level then (false, w)
  else if coopWarpFirst ≤ id then
    if id < coopBlockerFirst ∧ warpBlocked f w.save id then (false, w)
    else readBack id (e.setFlag id w (coopProgressionFlag id))
  else if coopTrainingFirst ≤ id then
    if trainingBlocked w.save id then (false, w)
    else
      let w' := e.setFlag id w (coopProgressionFlag id)
      if ¬ coopProgressionOwned w'.save id then (false, w')
      else if id = coopFirstSlam then
        -- the gift of the first slam is at least tier 1 for every Kong
        readBack id { w' with save := w'.save.setProgression (List.range 5) 1 fun held => max held 1 }
      else readBack id w'
  else if id < coopMoveFirst then
    if storyBlocked f w.save id then (false, w)
    else readBack id (e.setFlag id w (coopProgressionFlag id))
  else if ¬ w.save.flag 0x180 then (false, w)
  else readBack id { w with save := raiseTier w.save id }

/-! ## One turn of the walk -/

/-- The state of a walk. `broke` says that a `break` was taken; `derived` and `credited` record the
rewards the walk derived itself and the ids it credited to a counter. -/
structure ApplyState where
  g : CoopItems
  w : ItemsWorld
  broke : Bool := false
  troffPending : Bool := false
  trainingScenePending : Bool := false
  liveWorldApplied : Bool := false
  derived : List Nat := []
  credited : List Nat := []

namespace ApplyState

/-- `g->counter_error = 1` with the `break` that follows it. -/
def fail (st : ApplyState) : ApplyState :=
  { st with g := { st.g with counterError := true }, broke := true }

/-- `g->previous[id / 32] |= 1u << (id % 32); g->save_pending = 1`. -/
def record (st : ApplyState) (id : Nat) : ApplyState :=
  { st with g := { coopItemsApplied st.g id with savePending := true } }

end ApplyState

/-- What the walk was called with: `stable`, and the three modes it derives from the frame. -/
structure ApplyMode where
  stable : Bool
  trainingGround : Bool
  liveOnly : Bool
  safeToSave : Bool

variable (mode : ApplyMode)

/-- What all Kongs have fed in a level. -/
def troffPaid (s : GameSave) (level : Nat) : Nat :=
  ((List.range coopTroffKongs).map fun k =>
    (s.characterProgress k).colouredBananasFedToTns level).sum

/-- A Kong holds and has fed more than a level has. -/
def troffOverfull (s : GameSave) (level kong : Nat) : Bool :=
  decide (coopTroffCapacity < (s.characterProgress kong).colouredBananasFedToTns level
    + (s.characterProgress kong).colouredBananas level)

/-- One banana of a Kong fed: the held, the fed and the cached counter. -/
def GameSave.feed (s : GameSave) (level kong : Nat) : GameSave :=
  { s.setKong kong fun p =>
      { p with
        colouredBananas := Function.update p.colouredBananas level (p.colouredBananas level - 1)
        colouredBananasFedToTns :=
          Function.update p.colouredBananasFedToTns level (p.colouredBananasFedToTns level + 1) } with
    troffTotal := Function.update s.troffTotal level (troffPaid s level + 1) }

/-- `coop_troff_apply`: the next milestone only, and only with a banana to feed. -/
def coopTroffApply (st : ApplyState) (id : Nat) : Bool × ApplyState :=
  let error : ApplyState := { st with g := { st.g with counterError := true } }
  match coopTroffBucket id with
  | none => (false, st)
  | some (level, kong, amount) =>
    let p := st.w.save.characterProgress kong
    if ¬ mode.safeToSave ∨ ¬ st.g.bound ∨ ¬ f.hud ∨ f.map = 42 then (false, st)
    else if troffOverfull st.w.save level kong then (false, error)
    else if amount ≠ p.colouredBananasFedToTns level + 1 ∨ p.colouredBananas level = 0 then
      (false, st)
    else if (List.range coopTroffKongs).any (troffOverfull st.w.save level) then (false, error)
    else if troffPaid st.w.save level < st.w.save.troffTotal level then (false, error)
    else
      (true, { st with
        w := { st.w with save := st.w.save.feed level kong }
        credited := id :: st.credited }.record id)

/-- The permanent world unit of an id is loaded and may be refreshed in place. -/
def exactLiveWorld (id : Nat) : Bool :=
  decide (coopWorldFirst ≤ id ∧ id < coopProgressionEnd) && mode.stable && f.refreshEnabled
    && (coopWorldUnlocks[id - coopWorldFirst]?).any fun unlock => coopLiveWorldHasFlag f.map unlock.flag

/-- The level of a world unlock is loaded. -/
def loadedWorld (id : Nat) : Bool :=
  decide (coopWorldFirst ≤ id)
    && (coopWorldUnlocks[id - coopWorldFirst]?).any fun unlock => f.level == unlock.level

/-- The loaded map as the live refresh sees it: with the flags of the save. -/
def ItemsWorld.loaded (w : ItemsWorld) : Live.Memory := { w.memory with flag := w.save.flag }

/-- The flag of a world unlock. -/
def worldFlag (id : Nat) : Nat := ((coopWorldUnlocks[id - coopWorldFirst]?).map (·.flag)).getD 0

/-- Every progression id the save owns is recorded as known. -/
def recordProgression (g : CoopItems) (s : GameSave) : CoopItems :=
  Run.run (fun g p => if coopProgressionOwned s p then coopItemsApplied g p else g) g
    (List.range' coopProgressionFirst (coopProgressionEnd - coopProgressionFirst))

/-- The progression branch of the walk. -/
def applyProgression (st : ApplyState) (id : Nat) : ApplyState :=
  let exact := exactLiveWorld f mode id
  let safe := mode.safeToSave || exact || (mode.trainingGround && coopTrainingGroundApplyId id)
  if ¬ coopProgressionValid st.w.save then st.fail
  else if ¬ safe then st
  else if exact ∧ ¬ Live.ready st.w.loaded f.map (worldFlag id) then st
  else if loadedWorld f id ∧ f.refreshEnabled ∧ ¬ exact then st
  else match coopProgressionApply e f id safe st.w with
    | (false, w) => { st with w := w }
    | (true, w) =>
      let refresh := exact || loadedWorld f id || (mode.trainingGround && id == coopWorldTrainingExit)
      let out := Live.refresh e.calls w.loaded f.map (worldFlag id)
      { st with
        g := { recordProgression st.g w.save with savePending := true }
        w := if refresh then { w with memory := out.memory } else w
        liveWorldApplied := st.liveWorldApplied || (exact && out.returned)
        trainingScenePending := st.trainingScenePending
          || (mode.trainingGround && id == coopTrainingComplete && f.peerSameMap) }

/-! ## Collectibles -/

/-- The counter an id is credited to. -/
inductive CounterField
  | golden
  | coloured
  | coins
deriving DecidableEq

/-- Where an id comes from and what it is worth: an `amount` of zero is one coin, or the rainbow coin
of an actor. -/
structure Collectible where
  level : Nat := 0
  kong : Nat := 0
  amount : Nat := 1
  source : Option Nat := none

def isPickup (id : Nat) : Bool := decide (coopPickupFirst ≤ id ∧ id < coopActorPickupFirst)

def isActor (id : Nat) : Bool := decide (coopActorPickupFirst ≤ id ∧ id < coopProgressionFirst)

/-- The row of an actor pickup. -/
def actorRow (id : Nat) : CoopActorPickup :=
  (coopActorPickups[id - coopActorPickupFirst]?).getD ⟨0, 0, 0, 0, 0, 0, 0⟩

/-- The map of a golden banana. -/
def gbMap (id : Nat) : Option Nat :=
  if coopGbFirst ≤ id ∧ id < coopPickupFirst then
    (coopGoldenBananas[id - coopGbFirst]?).map (·.map)
  else none

/-- Level, Kong, amount and source map of an id. -/
def collectible (id : Nat) : Collectible :=
  if isPickup id then
    let row := e.coopPickups (id - coopPickupFirst)
    ⟨coopPickupLevel (id - coopPickupFirst), row.kong, row.amount, some row.map⟩
  else if isActor id then
    ⟨(actorRow id).level, (actorRow id).kong, (actorRow id).amount, some (actorRow id).map⟩
  else if id = coopJapesBoulderBunch then ⟨0, 4, 5, some 7⟩
  else
    let slot := (coopItemGb id).getD (0, 0)
    ⟨slot.1, slot.2, 1, gbMap id⟩

/-- The id is credited to a counter. -/
def counted (id : Nat) : Bool :=
  (coopItemGb id).isSome || isPickup id || isActor id || id == coopJapesBoulderBunch

/-- `rainbow`: an actor pickup without an amount credits coins to every Kong. -/
def isRainbow (id : Nat) : Bool := isActor id && (actorRow id).amount == 0

/-- The counter of an id that is no rainbow coin. -/
def counterField (id : Nat) : CounterField :=
  if (coopItemGb id).isSome then .golden
  else if (collectible e id).amount = 0 then .coins
  else .coloured

/-- The counter's value. -/
def CharacterProgress.counter (p : CharacterProgress) (level : Nat) : CounterField → Nat
  | .golden => p.goldenBananas level
  | .coloured => p.colouredBananas level
  | .coins => p.coins

/-- The counter rewritten; it is an `unsigned short`. -/
def CharacterProgress.setCounter (p : CharacterProgress) (level value : Nat) :
    CounterField → CharacterProgress
  | .golden => { p with goldenBananas := Function.update p.goldenBananas level (value % 2 ^ 16) }
  | .coloured => { p with colouredBananas := Function.update p.colouredBananas level (value % 2 ^ 16) }
  | .coins => { p with coins := value % 2 ^ 16 }

/-- The largest value the counter may reach, as an unsigned difference. -/
def CharacterProgress.capacity (p : CharacterProgress) (level kong : Nat) : CounterField → Nat
  | .golden => coopSnideCapacity level kong
  | .coloured => (100 + 2 ^ 32 - p.colouredBananasFedToTns level) % 2 ^ 32
  | .coins => 999

/-- `coop_collectible_source_ready`. -/
def sourceReady (m : Live.Memory) (id : Nat) : Bool :=
  if isPickup id then
    let row := e.coopPickups (id - coopPickupFirst)
    f.map != row.map || e.propReady m row.object row.type
  else if isActor id then
    f.map != (actorRow id).map || e.actorReady m (actorRow id).object (actorRow id).type
  else if coopGbFirst ≤ id ∧ id < coopPickupFirst then
    match coopGoldenBananas[id - coopGbFirst]? with
    | none => true
    | some gb =>
      f.map != gb.map
        || ((gb.prop == 0xFFFF || e.propReady m gb.prop gb.propType)
          && (gb.barrel == 0xFF || e.actorReady m gb.barrel 0x1C))
  else if id = coopJapesBoulderBunch then f.map != 7 || e.actorReady m 6 0x3D
  else true

/-- `coop_collectible_source_retire`. -/
def sourceRetire (m : Live.Memory) (id : Nat) : Live.Memory :=
  if isPickup id then
    let row := e.coopPickups (id - coopPickupFirst)
    if f.map = row.map then e.propRetire row.object row.type m else m
  else if isActor id then
    if f.map = (actorRow id).map then e.actorRetire (actorRow id).object (actorRow id).type m else m
  else if coopGbFirst ≤ id ∧ id < coopPickupFirst then
    match coopGoldenBananas[id - coopGbFirst]? with
    | none => m
    | some gb =>
      if f.map ≠ gb.map then m
      else
        let m := if gb.prop ≠ 0xFFFF then e.propRetire gb.prop gb.propType m else m
        let m := if gb.barrel ≠ 0xFF then e.actorRetire gb.barrel 0x1C m else m
        e.rewardRetire gb.flag m
  else if id = coopJapesBoulderBunch ∧ f.map = 7 then e.actorRetire 6 0x3D m
  else m

/-- A counted id waits for a safe map, the HUD, its source, or for the blueprint Snide takes. -/
def creditWaits (st : ApplyState) (id : Nat) : Bool :=
  !mode.safeToSave || !f.hud
    || ((collectible e id).source == some f.map && !sourceReady e f st.w.memory id)
    || ((coopItemGb id).isSome && decide (id < coopMedalFirst)
      && !st.w.save.flag (0x1D5 + (id - coopSnideFirst)))

/-- What a counted id adds to its counter. -/
def creditAmount (id : Nat) : Nat :=
  if (collectible e id).amount = 0 then 1 else (collectible e id).amount

/-- The credit does not fit into its counter. -/
def creditOverflows (s : GameSave) (id : Nat) : Bool :=
  let c := collectible e id
  if isRainbow id then (List.range 5).any fun k => decide (994 < (s.characterProgress k).coins)
  else
    let p := s.characterProgress c.kong
    decide (p.capacity c.level c.kong (counterField e id)
      < p.counter c.level (counterField e id) + creditAmount e id)

/-- A counter of the credit moved during the write. -/
def creditDisturbed (before after : GameSave) (id : Nat) : Bool :=
  let c := collectible e id
  if isRainbow id then
    (List.range 5).any fun k => (after.characterProgress k).coins != (before.characterProgress k).coins
  else
    (after.characterProgress c.kong).counter c.level (counterField e id)
      != (before.characterProgress c.kong).counter c.level (counterField e id)

/-- The save after the credit. -/
def creditCounter (s : GameSave) (id : Nat) : GameSave :=
  let c := collectible e id
  if isRainbow id then
    { s with
      characterProgress := fun k =>
        let p := s.characterProgress k
        if k < 5 then p.setCounter 0 (p.coins + 5) .coins else p }
  else
    s.setKong c.kong fun p =>
      p.setCounter c.level (p.counter c.level (counterField e id) + creditAmount e id)
        (counterField e id)

/-- The medal of a level and Kong. -/
def medalId (level kong : Nat) : Nat := coopMedalFirst + level * 5 + kong

/-- Coloured bananas that cross 75 still award that Kong's medal, which is then a local reward. -/
def deriveMedal (st : ApplyState) (id : Nat) : ApplyState :=
  let c := collectible e id
  let p := st.w.save.characterProgress c.kong
  let medal := medalId c.level c.kong
  if counterField e id ≠ .coloured ∨ 7 ≤ c.level then st
  else if p.colouredBananas c.level + p.colouredBananasFedToTns c.level < 75
      ∨ coopItemOwned st.w.save medal then st
  else
    let w := e.setFlag id st.w (coopItemFlag medal)
    if coopItemOwned w.save medal then
      { st with w := w, g := coopItemsNote st.g medal, derived := medal :: st.derived }
    else { st with w := w }

/-- The collectible branch of the walk, and the flags that credit nothing. -/
def applyCollectible (st : ApplyState) (id : Nat) : ApplyState :=
  if id = coopArcadeCoinsPaid ∧ (¬ mode.safeToSave ∨ f.level = 2) then st
  else if counted id ∧ creditWaits e f mode st id then st
  else if counted id ∧ creditOverflows e st.w.save id then st.fail
  else
    let w := if isPickup id then e.setPickup id st.w (pickupBit id)
      else e.setFlag id st.w (coopItemFlag id)
    if ¬ coopItemOwned w.save id then { st with w := w }
    else if counted id then
      if creditDisturbed e st.w.save w.save id then { st with w := w }.fail
      else
        let st := { st with w := { w with save := creditCounter e w.save id }, credited := id :: st.credited }
        let st := if (coopItemGb id).isSome then { st with g := { st.g with hudPending := true } }
          else st
        let st := if isRainbow id then st else deriveMedal e st id
        let st := if (collectible e id).source = some f.map then
            { st with w := { st.w with memory := sourceRetire e f st.w.memory id } }
          else st
        st.record id
    else { st with w := w }.record id

/-! ## The call -/

/-- One turn of the walk. -/
def applyItem (st : ApplyState) (id : Nat) : ApplyState :=
  if st.broke then st
  else if ¬ coopItemHas st.g.result.apply id ∨ coopItemOwned st.w.save id then st
  else if mode.liveOnly ∧ ¬ exactLiveWorld f mode id then st
  else if coopTroffFirst ≤ id ∧ id < coopTroffEnd then
    match coopTroffApply f mode st id with
    | (true, st) => st
    | (false, st) => { st with troffPending := true, broke := st.g.counterError }
  else if coopProgressionFirst ≤ id ∧ id < coopProgressionEnd then applyProgression e f mode st id
  else applyCollectible e f mode st id

/-- Four finished skills complete the training, unless the peer's result does. -/
def deriveTraining (st : ApplyState) : ApplyState :=
  if ¬ st.g.counterError ∧ (mode.safeToSave ∨ mode.trainingGround) ∧ f.hud
      ∧ coopTrainingPrerequisites st.w.save
      ∧ ¬ coopItemHas st.g.result.apply coopTrainingComplete
      ∧ ¬ coopItemOwned st.w.save coopTrainingComplete then
    let w := e.setFlag coopTrainingComplete st.w (coopItemFlag coopTrainingComplete)
    if coopItemOwned w.save coopTrainingComplete then
      { st with
        w := w
        g := coopItemsNote st.g coopTrainingComplete
        derived := coopTrainingComplete :: st.derived
        trainingScenePending := st.trainingScenePending
          || (mode.trainingGround && f.peerSameMap) }.record coopTrainingComplete
    else { st with w := w }
  else st

/-- A result that is synchronizing or synchronized. -/
def CoopItemResult.synced (r : CoopItemResult) : Bool := r.status == 2 || r.status == 3

/-- A loaded world unit is still to be written. -/
def pendingLiveWorld (g : CoopItems) (s : GameSave) : Bool :=
  g.result.synced && (List.range' coopWorldFirst coopWorldUnlockCount).any fun id =>
    coopItemHas g.result.apply id && !coopItemOwned s id && exactLiveWorld f mode id

/-- The modes `coop_items_apply` derives from the frame and the last capture. -/
def applyMode (g : CoopItems) (safeToSave : Bool) : ApplyMode :=
  let trainingGround := safeToSave && f.map == 176
  { stable := safeToSave
    trainingGround := trainingGround
    liveOnly := g.deferred && !trainingGround
    safeToSave := safeToSave && coopItemsApplyMap f.map }

/-- The walk over all ids. -/
def walk (st : ApplyState) : ApplyState := Run.run (applyItem e f mode) st (List.range coopItems)

/-- The end of `coop_items_apply`: an error takes the readiness away, otherwise the pending HUD update
and save are made when the frame allows them. -/
def finishApply (st : ApplyState) : ApplyState :=
  let saveSafe := mode.safeToSave || mode.trainingGround || st.liveWorldApplied
  if st.g.counterError then { st with g := { st.g with input.ready := 0 } }
  else
    { st with
      g := { st.g with
        hudPending := st.g.hudPending && !(saveSafe && f.hud)
        savePending := st.g.savePending && !saveSafe } }

/-- `coop_items_apply` gives up before its walk. -/
def applyWaits (g : CoopItems) (s : GameSave) : Bool :=
  g.input.ready == 0 || (mode.liveOnly && !pendingLiveWorld f mode g s) || g.fileChanged
    || g.counterError || f.rewardQueue

/-- `coop_items_apply`. -/
def coopItemsApply (g : CoopItems) (w : ItemsWorld) (safeToSave : Bool) : ApplyState :=
  let mode := applyMode f g safeToSave
  let st : ApplyState := { g := g, w := w }
  if applyWaits f mode g w.save then st
  else if g.result.synced then
    let st := deriveTraining e f mode
      (walk e f mode { st with g := { g with applying := true } })
    finishApply f mode { st with g := { st.g with applying := false } }
  else finishApply f mode st

end Dk64Port.Coop
