import Dk64Port.Coop.TransientObjects
import Dk64Port.Lib.RotatingPages
import Dk64Port.Lib.Run
import Mathlib.Data.List.FinRange

/-!
# Sampling a room (`mod/transient_game.h`)

One capture gives every reviewed source of the room an ordinal and samples the eight ordinals of
one page, then adds the minigame successes of the epoch and at last the cutscene record, which
takes the last place of a full frame. The page moves on with every enabled capture.

* `capture`: `coop_transient_capture`.
* `sources`: what takes an ordinal, in order; `sampleRoom_eq` says that one pass of the code is a
  pass over that list.
-/

namespace Dk64Port.Coop

/-- `MAP_JAPES_SHELL`. -/
abbrev mapJapesShell : Nat := 12

/-- `MAP_FUNGI`. -/
abbrev mapFungi : Nat := 48

/-- `MAP_CAVES_ICE_CASTLE`. -/
abbrev mapCavesIceCastle : Nat := 98

/-! ## What a capture reads -/

/-- The fields of a `Prop_ScriptData` the channel reads: `unk44[0]` and `unk48[0]`. -/
structure PropScriptData where
  unk44 : BitVec 16
  unk48 : BitVec 8
deriving DecidableEq

/-- The actor tied to a spawner: its type, its properties, the countdown word of its clam data
(when it has private data) and its control state. -/
structure SpawnedActor where
  unk58 : Nat
  objectPropertiesBitfield : Word
  additionalActorData : Option (BitVec 32)
  controlState : BitVec 8
deriving DecidableEq

/-- `CoopCountdownData` behind an actor of type `unk58`. -/
structure TimerActor where
  unk58 : Nat
  additionalActorData : Option (Word × BitVec 32)
  controlState : BitVec 8
deriving DecidableEq

/-- A loaded actor as the Ice Tomato search sees it: `unk178` is the private controller mode. -/
structure LoadedActor where
  unk58 : Nat
  objectPropertiesBitfield : Word
  unk178 : Option (BitVec 8)
  unk11C : Option TimerActor
deriving DecidableEq

/-- `ACTOR_CLAM`. -/
abbrev actorClam : Nat := 286

/-- `ACTOR_TOMATO_ICE`. -/
abbrev actorTomatoIce : Nat := 164

/-- `ACTOR_TIMER_CONTROLLER`. -/
abbrev actorTimerController : Nat := 177

/-- The five minigames whose success is shared. -/
inductive Minigame
  | kosh
  | minecart
  | rabbit
  | batty
  | owl
deriving DecidableEq

/-- A success latch: the epoch and the one-based key. -/
structure SuccessLatch where
  epoch : Word := 0
  key : Word := 0
deriving DecidableEq

/-- The game memory and the latches one capture reads. `findProp` is the game's own lookup
`func_global_asm_80659470`, `slots` and `props` are the arrays at `D_global_asm_807F6240` and
`D_global_asm_807F6000`. -/
structure GameRoom where
  enabled : Bool
  present : Bool
  currentFile : Nat
  currentMap : Nat
  epoch : Word
  transition : Bool
  slots : Nat → BitVec 16
  findProp : Nat → Int
  props : Option (Nat → Option PropScriptData)
  spawners : Option (List (Option SpawnedActor))
  actors : List (Option LoadedActor)
  board : Fin 16 → BitVec 8
  boardActive : Bool
  success : Minigame → SuccessLatch
  isCutsceneActive : Bool
  cutscene : BitVec 16
  cutsceneState : BitVec 16
  cutsceneProgress : BitVec 16

namespace GameRoom

variable (room : GameRoom)

/-- `coop_transient_script`. -/
@[irreducible] def script (object : Nat) : Option PropScriptData :=
  match (List.range coopLiveWorldScriptSlots).find?
      fun slot => (room.slots slot).toNat == object with
  | none => none
  | some _ =>
    let prop := room.findProp object
    match room.props with
    | some props => if 0 ≤ prop then props prop.toNat else none
    | none => none

/-- `coop_tiny_temple_kong_progress`. -/
def tinyTempleKongProgress : Nat :=
  match room.script 0x0C, room.script 0x0D, room.script 0x0E with
  | some c, some d, some e =>
    if c.unk48.toNat = 11 ∨ 20 ≤ c.unk48.toNat ∧ c.unk48.toNat ≤ 22 then 4
    else if c.unk48.toNat = 10 then 3
    else if d.unk48.toNat = 10 then 2
    else if e.unk48.toNat = 10 then 1
    else 0
  | _, _, _ => 0

theorem tinyTempleKongProgress_le : room.tinyTempleKongProgress ≤ 25 := by
  unfold tinyTempleKongProgress
  split
  · split_ifs <;> omega
  · omega

/-- The five ordered controllers; any other object is not sampled. -/
def sequenceProgress (object raw : Nat) : Option Nat :=
  if room.currentMap = 7 ∧ object = 0x117 then some (japesXProgress raw)
  else if room.currentMap = 26 ∧ object = 0x14 then some (pianoProgress raw)
  else if room.currentMap = 26 ∧ object = 0x7F then some (dartboardProgress raw)
  else if room.currentMap = 16 ∧ object = 0x0C then some room.tinyTempleKongProgress
  else if room.currentMap = 84 ∧ object = 0x00 then some (tinyIglooProgress raw)
  else none

end GameRoom

/-! ## The frame -/

/-- The records sampled so far, at most eight. -/
structure Frame where
  records : List CoopTransientRecord
  fits : records.length ≤ coopTransientRecords

namespace Frame

/-- No records. -/
def empty : Frame := ⟨[], Nat.zero_le _⟩

/-- `records[count++] = record`, for a frame that is not full. -/
def push (f : Frame) (r : CoopTransientRecord) (h : f.records.length < coopTransientRecords) :
    Frame :=
  ⟨f.records ++ [r], by rw [List.length_append, List.length_singleton]; omega⟩

/-- The cutscene record takes the next place, or the last one of a full frame. -/
def place (f : Frame) (r : CoopTransientRecord) : Frame :=
  if h : f.records.length < coopTransientRecords then f.push r h
  else ⟨f.records.set (coopTransientRecords - 1) r, by simpa using f.fits⟩

end Frame

/-! ## One ordinal -/

/-- What a pass over the sources carries: the passage latch, the next ordinal and the frame. -/
structure Sampling where
  passages : Passages
  ordinal : Nat
  frame : Frame

/-- How a source of the room is sampled, when its page is the wanted one. -/
abbrev Sampler := Passages → Option CoopTransientRecord × Passages

/-- The common frame of `coop_transient_add_*`: take an ordinal, and sample the source when the
ordinal is on the wanted page and the frame is not full. -/
def Sampling.visit (page : Nat) (s : Sampling) (sample : Sampler) : Sampling :=
  let next : Sampling := { s with ordinal := s.ordinal + 1 }
  if h : s.ordinal / coopTransientRecords = page
      ∧ s.frame.records.length < coopTransientRecords then
    match sample s.passages with
    | (none, passages) => { next with passages := passages }
    | (some r, passages) => { next with passages := passages, frame := s.frame.push r h.2 }
  else next

variable (room : GameRoom)

/-- The body of `coop_transient_add_object`. -/
def sampleObject (object : Nat) (kind : ObjectKind) : Sampler := fun passages =>
  match room.script object with
  | none => (none, passages)
  | some script =>
    let state : Word := script.unk48.setWidth 32
    let key : Word := BitVec.ofNat 32 object
    if 0xFF < state then (none, passages)
    else
      match kind with
      | .timer => (some ⟨kind.word, key, state, script.unk44.setWidth 32⟩, passages)
      | .trigger =>
        let value := objectActivation room.currentMap object
        if value = 0 then (none, passages)
        else
          let fired := triggerFired room.currentMap object state.toNat value
          let passages := if fired then
            (passageLatched room.currentMap object room.epoch true passages).2 else passages
          if fired then (some ⟨kind.word, key, 2, BitVec.ofNat 32 value⟩, passages)
          else
            let (latched, passages) :=
              passageLatched room.currentMap object room.epoch false passages
            (some ⟨kind.word, key, if latched then 2 else 1, BitVec.ofNat 32 value⟩, passages)
      | .sequence =>
        match room.sequenceProgress object state.toNat with
        | none => (none, passages)
        | some progress => (some ⟨kind.word, key, BitVec.ofNat 32 progress, 0⟩, passages)
      | .script | .platform => (some ⟨kind.word, key, state, 0⟩, passages)

/-- `coop_transient_add_object`. -/
def addObject (page object : Nat) (kind : ObjectKind) (s : Sampling) : Sampling :=
  s.visit page (sampleObject room object kind)

/-- A clam the channel reviews: a live clam with private data in one of its four states. -/
def reviewedClam (actor : SpawnedActor) : Bool :=
  decide (actor.unk58 = actorClam ∧ actor.objectPropertiesBitfield &&& 0x10 ≠ 0
    ∧ actor.additionalActorData ≠ none ∧ actor.controlState ≤ 3)

/-- The clam record of spawner `i`. -/
def sampleClam (i : Nat) (actor : SpawnedActor) : Sampler := fun passages =>
  match actor.additionalActorData with
  | none => (none, passages)
  | some data =>
    let timer : Word := if data.slt 0 then 0 else data
    let timer := if 90 < timer then 90 else timer
    (some ⟨7, BitVec.ofNat 32 (i + 1), actor.controlState.setWidth 32, timer⟩, passages)

/-- `coop_transient_add_clams`: only in the shell, for a table of 1 to 256 spawners. -/
def addClams (page : Nat) (s : Sampling) : Sampling :=
  match room.spawners with
  | none => s
  | some spawners =>
    if room.currentMap ≠ mapJapesShell ∨ spawners.length = 0 ∨ 256 < spawners.length then s
    else
      spawners.zipIdx.foldl (fun s (actor, i) =>
        match actor with
        | none => s
        | some actor => if reviewedClam actor then s.visit page (sampleClam i actor) else s) s

/-- `coop_transient_ice_tomato`. -/
def iceTomato : Option LoadedActor :=
  if room.currentMap ≠ mapCavesIceCastle then none
  else
    room.actors.findSome? fun actor => actor.filter fun actor =>
      decide (actor.unk58 = actorTomatoIce ∧ actor.objectPropertiesBitfield &&& 0x10 ≠ 0
        ∧ actor.unk178 ≠ none)

/-- `coop_transient_tomato_clock`: the countdown the tomato owns, in one of its four phases. -/
def tomatoClock (tomato : LoadedActor) : Option (TimerActor × Word × BitVec 32) :=
  match tomato.unk11C with
  | none => none
  | some timer =>
    match timer.additionalActorData with
    | none => none
    | some (elapsed, duration) =>
      if timer.unk58 ≠ actorTimerController ∨ timer.controlState < 2 ∨ 5 < timer.controlState
      then none
      else some (timer, elapsed, duration)

/-- `coop_transient_tomato_board_value`: two bits a cell, `none` for a cell out of range. -/
def tomatoBoardValue : Option Word :=
  if ∃ i, (room.board i).toInt < -1 ∨ 1 < (room.board i).toInt then none
  else
    some ((List.finRange 16).foldl
      (fun value i => value ||| ((room.board i + 1).setWidth 32 <<< (i.val * 2))) 0)

/-- The body of `coop_transient_add_tomato_board`. -/
def sampleTomatoBoard : Sampler := fun passages =>
  match (iceTomato room).bind (·.unk178) with
  | none => (none, passages)
  | some state =>
    let active := (state = 3 ∨ state = 4) ∧ room.boardActive = true
    let finished := state = 6 ∨ state = 7
    if ¬ active ∧ ¬ finished then (none, passages)
    else
      match tomatoBoardValue room with
      | none => (none, passages)
      | some value => (some ⟨8, 0, if finished then 2 else 1, value⟩, passages)

/-- The body of `coop_transient_add_tomato_clock`. -/
def sampleTomatoClock : Sampler := fun passages =>
  match iceTomato room with
  | none => (none, passages)
  | some tomato =>
    match tomato.unk178 with
    | none => (none, passages)
    | some state =>
      if state = 6 ∨ state = 7 then (some ⟨9, 0, 2, 0⟩, passages)
      else if ¬ (state = 3 ∨ state = 4) ∨ room.boardActive = false then (none, passages)
      else
        match tomatoClock tomato with
        | none => (none, passages)
        | some (timer, elapsed, duration) =>
          if duration.slt 0 ∨ (60 : BitVec 32).slt duration ∨ duration < elapsed then
            (none, passages)
          else if timer.controlState = 5 then (some ⟨9, 0, 2, 0⟩, passages)
          else (some ⟨9, 0, 1, duration - elapsed⟩, passages)

/-- `coop_transient_add_tomato_board`. -/
def addTomatoBoard (page : Nat) (s : Sampling) : Sampling :=
  if room.currentMap ≠ mapCavesIceCastle then s else s.visit page (sampleTomatoBoard room)

/-- `coop_transient_add_tomato_clock`. -/
def addTomatoClock (page : Nat) (s : Sampling) : Sampling :=
  if room.currentMap ≠ mapCavesIceCastle then s else s.visit page (sampleTomatoClock room)

/-- The ordinals of one capture: copied rows, the other objects, clams, board and clock. -/
def sampleRoom (page : Nat) (passages : Passages) : Sampling :=
  let s : Sampling := ⟨passages, 0, Frame.empty⟩
  let s := (firstRows room.currentMap copiesRow [] coopLiveWorldStates).foldl
    (fun s object => addObject room page object .script s) s
  let s := (coopTransientExtraObjects.filter fun e => e.map == room.currentMap).foldl
    (fun s e => addObject room page e.object e.kind s) s
  let s := addClams room page s
  let s := addTomatoBoard room page s
  addTomatoClock room page s

/-! ## The minigame successes -/

/-- The record kind of a minigame. -/
def Minigame.kind : Minigame → Word
  | .kosh => transientMinigameSuccess
  | .minecart => 11
  | .rabbit => 12
  | .batty => 13
  | .owl => 14

/-- The map of each instance of a minigame, from the identity tables; both rounds of the Rabbit
Race and the Owl Race are in Fungi Forest. -/
def Minigame.maps : Minigame → List Nat
  | .kosh => [10, 115, 116, 117]
  | .minecart => [77, 129, 130]
  | .rabbit => [mapFungi, mapFungi]
  | .batty => [32, 121, 122]
  | .owl => [mapFungi]

/-- The latch is of this epoch, its key names an instance of the minigame, in this map. -/
def GameRoom.won (game : Minigame) : Bool :=
  let latch := room.success game
  decide (latch.epoch = room.epoch ∧ latch.key ≠ 0 ∧ latch.key.toNat ≤ game.maps.length
    ∧ game.maps.getD (latch.key.toNat - 1) 0 = room.currentMap)

/-- The common body of the five success adders. -/
def addSuccess (game : Minigame) (f : Frame) : Frame :=
  if h : room.won game = true ∧ f.records.length < coopTransientRecords then
    f.push ⟨game.kind, (room.success game).key, 1, 0⟩ h.2
  else f

/-- `coop_transient_add_kosh`. -/
def addKosh (f : Frame) : Frame := addSuccess room .kosh f

/-- `coop_transient_add_minecart`. -/
def addMinecart (f : Frame) : Frame := addSuccess room .minecart f

/-- `coop_transient_add_rabbit`. -/
def addRabbit (f : Frame) : Frame := addSuccess room .rabbit f

/-- `coop_transient_add_batty`. -/
def addBatty (f : Frame) : Frame := addSuccess room .batty f

/-- `coop_transient_add_owl`. -/
def addOwl (f : Frame) : Frame := addSuccess room .owl f

/-- The five adders, in order. -/
def addSuccesses (f : Frame) : Frame :=
  addOwl room (addBatty room (addRabbit room (addMinecart room (addKosh room f))))

/-! ## The capture -/

/-- `COOP_TRANSIENT_CUTSCENE_HOLD_FRAMES`. -/
abbrev cutsceneHoldFrames : Nat := 90

/-- The channel's static state on the game side. -/
structure TransientGame where
  input : CoopTransientInput := {}
  cutsceneEpoch : Word := 0
  cutsceneHold : Nat := 0
  lastCutscene : CoopTransientRecord := {}
  file : Nat := 0
  fileChanged : Bool := false
  revision : Word := 1
  page : Nat := 0
  passages : Passages := {}

namespace TransientGame

/-- A new epoch forgets the held cutscene. -/
def openEpoch (g : TransientGame) : TransientGame :=
  if g.cutsceneEpoch ≠ room.epoch then
    { g with cutsceneEpoch := room.epoch, cutsceneHold := 0, lastCutscene := {} }
  else g

/-- The save file the channel is bound to. -/
def bindFile (g : TransientGame) : TransientGame :=
  if room.enabled = true ∧ room.present = true ∧ room.currentFile < 3 then
    if g.file = 0 then { g with file := room.currentFile + 1 }
    else if g.file ≠ room.currentFile + 1 then { g with fileChanged := true }
    else g
  else g

/-- The capture goes on: the channel is on, the player is there, the map has a code, the file is
the bound one and no transition runs. -/
def Enabled (g : TransientGame) : Prop :=
  room.enabled = true ∧ room.present = true ∧ room.currentFile < 3 ∧ room.currentMap ≤ 255
    ∧ g.fileChanged = false ∧ room.transition = false

instance (g : TransientGame) : Decidable (g.Enabled room) := by
  unfold Enabled
  infer_instance

/-- `++transient_revision`, never zero. -/
def nextRevision (g : TransientGame) : Word :=
  if g.revision + 1 = 0 then g.revision + 2 else g.revision + 1

/-- The cutscene of this frame, when a record can name it. -/
def runningCutscene : Option CoopTransientRecord :=
  if room.isCutsceneActive = true ∧ 0 ≤ room.cutscene.toInt ∧ room.cutscene.toInt < 0xFF
      ∧ room.cutsceneState ≤ 0xFF then
    some ⟨4, room.cutscene.setWidth 32 + 1, room.cutsceneState.setWidth 32,
      room.cutsceneProgress.setWidth 32 &&& 0xFF⟩
  else none

/-- The cutscene record of this capture, running or held, with the state after it. -/
def takeCutscene (g : TransientGame) : Option CoopTransientRecord × TransientGame :=
  match runningCutscene room with
  | some r => (some r, { g with lastCutscene := r, cutsceneHold := cutsceneHoldFrames })
  | none =>
    if g.cutsceneHold ≠ 0 ∧ g.lastCutscene.kind ≠ 0 then
      (some g.lastCutscene, { g with cutsceneHold := g.cutsceneHold - 1 })
    else (none, g)

/-- The frame before the cutscene record. -/
def sampledFrame (g : TransientGame) : Frame :=
  addSuccesses room (sampleRoom room g.page g.passages).frame

/-- The frame of this capture. -/
def finalFrame (g : TransientGame) : Frame :=
  match (g.takeCutscene room).1 with
  | some r => (g.sampledFrame room).place r
  | none => g.sampledFrame room

/-- The state in which a capture decides whether to go on. -/
def prepare (g : TransientGame) : TransientGame :=
  bindFile room (openEpoch room { g with input := {} })

/-- `coop_transient_capture`. -/
def capture (g : TransientGame) : TransientGame :=
  let g := g.prepare room
  if g.Enabled room then
    let sampling := sampleRoom room g.page g.passages
    let pages := Paging.pagesOf coopTransientRecords sampling.ordinal
    let frame := g.finalFrame room
    let next := (g.takeCutscene room).2
    { next with
      revision := g.nextRevision
      passages := sampling.passages
      page := Paging.turn pages g.page
      input :=
        { enabled := 1
          file := BitVec.ofNat 32 room.currentFile
          map := BitVec.ofNat 32 room.currentMap
          epoch := room.epoch
          revision := g.nextRevision
          count := BitVec.ofNat 32 frame.records.length
          records := fun i => frame.records.getD i {} } }
  else g

end TransientGame

/-! ## The sources in order -/

/-- What takes an ordinal: the record's kind and key, and how it is sampled. -/
structure Source where
  kind : Word
  key : Word
  sample : Sampler

/-- The source of an object. -/
def objectSource (o : Nat × ObjectKind) : Source :=
  ⟨o.2.word, BitVec.ofNat 32 o.1, sampleObject room o.1 o.2⟩

/-- The source of spawner `i`, when it is tied to a reviewed clam. -/
def clamSource (entry : Option SpawnedActor × Nat) : Option Source :=
  match entry.1 with
  | none => none
  | some actor =>
    if reviewedClam actor then
      some ⟨7, BitVec.ofNat 32 (entry.2 + 1), sampleClam entry.2 actor⟩
    else none

/-- The clams of the shell. -/
def clamSources : List Source :=
  match room.spawners with
  | none => []
  | some spawners =>
    if room.currentMap ≠ mapJapesShell ∨ spawners.length = 0 ∨ 256 < spawners.length then []
    else spawners.zipIdx.filterMap clamSource

/-- The board and the clock of the ice castle. -/
def tomatoSources : List Source :=
  if room.currentMap ≠ mapCavesIceCastle then []
  else [⟨8, 0, sampleTomatoBoard room⟩, ⟨9, 0, sampleTomatoClock room⟩]

/-- Everything in the room that takes an ordinal, in order. -/
def sources : List Source :=
  (mapObjects room.currentMap).map (objectSource room) ++ clamSources room ++ tomatoSources room

/-- A pass over a list of sources. -/
def visitAll (page : Nat) (s : Sampling) (l : List Source) : Sampling :=
  l.foldl (fun s src => s.visit page src.sample) s

theorem visitAll_append (page : Nat) (s : Sampling) (l₁ l₂ : List Source) :
    visitAll page s (l₁ ++ l₂) = visitAll page (visitAll page s l₁) l₂ :=
  List.foldl_append

theorem addClams_eq (page : Nat) (s : Sampling) :
    addClams room page s = visitAll page s (clamSources room) := by
  unfold addClams clamSources
  cases room.spawners with
  | none => rfl
  | some spawners =>
    dsimp only
    split
    · rfl
    · rw [visitAll, List.foldl_filterMap]
      congr 1
      funext s ⟨actor, i⟩
      cases actor with
      | none => rfl
      | some actor => by_cases h : reviewedClam actor = true <;> simp [clamSource, h]

theorem addTomato_eq (page : Nat) (s : Sampling) :
    addTomatoClock room page (addTomatoBoard room page s)
      = visitAll page s (tomatoSources room) := by
  by_cases h : room.currentMap = mapCavesIceCastle <;>
    simp [addTomatoClock, addTomatoBoard, tomatoSources, visitAll, h]

/-- **One pass of the code is a pass over the sources.** -/
theorem sampleRoom_eq (page : Nat) (p : Passages) :
    sampleRoom room page p = visitAll page ⟨p, 0, Frame.empty⟩ (sources room) := by
  rw [sources, visitAll_append, visitAll_append, ← addTomato_eq, ← addClams_eq, mapObjects,
    List.map_append, visitAll_append]
  simp only [visitAll, List.foldl_map, objectSource, sampleRoom, addObject]

end Dk64Port.Coop
