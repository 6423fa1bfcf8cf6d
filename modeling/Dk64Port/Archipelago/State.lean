import Dk64Port.Archipelago.Protocol
import Mathlib.Algebra.Group.Nat.Defs

/-!
# The room protocol of the integration test (`native/state.cpp`)

The same protocol over five items and two locations, with the journal and the scouts in one object.
The items are laid over the list in the loop itself.

* `State.roomInfo`, `connect`, `receivedItems`, `roomUpdate`: the messages, with what the scouts make
  of them.
* `State.receive`, `recordChecks`, `disconnect`, `ready`.
-/

namespace Dk64Port.Archipelago

open ByteLayout (Byte)

/-- `item_ids`. -/
def stateItemIds : List Int := [14041104, 14041108, 14041112, 14041116, 14041120]

/-- `location_ids`. -/
def stateLocationIds : List Int := [14041180, 14041181]

/-- `check_mask`. -/
def checkMask : Word := 3

/-- `game`. -/
def stateGame : String := "DK64 Recomp Integration Test"

/-- `profile`. -/
def stateProfile : String := "dk64-recomp-first-moves-japes-v1"

/-- `binding`. -/
def Config.binding (config : Config) : Json :=
  .object [("name", .string config.name), ("profile", .string stateProfile),
    ("seed", .string config.seed), ("slot", .number config.slot), ("team", .number config.team),
    ("world_version", .string worldVersion)]

/-- `State`, with its journal as the file and the number of commits so far. -/
structure State where
  config : Config
  identity : String
  disk : AtomicFile.Disk Byte
  tried : Nat := 0
  items : List Item := []
  checks : Word := 0
  confirmed : Word := 0
  room : Bool := false
  connected : Bool := false
  synced : Bool := false
  goalSent : Bool := false
  scouts : Scouts

namespace State

/-- `item_from`: an item of another catalogue is not supported. -/
def itemFrom (value : Json) : Except Thrown Item := do
  match itemArray value with
  | some (.array [item, location, player, flags]) =>
    let item ← orProtocol (item.integer 0 (2 ^ 63 - 1))
    let location ← orProtocol (location.integer (-2 ^ 63) (2 ^ 63 - 1))
    let player ← orProtocol (player.integer 0 65535)
    let flags ← orProtocol (flags.integer 0 7)
    if h : fitsInt64 location then
      if item ∈ stateItemIds then return ⟨item, location, player, flags, h⟩
      else throw (.failure .unsupported)
    else throw (.failure .protocol)
  | _ => throw (.failure .protocol)

/-- `locations`. -/
def locationMask : Json → Except Thrown Word
  | .array values =>
    if stateLocationIds.length < values.length then throw (.failure .unsupported)
    else
      values.foldlM (fun mask value => do
        let id ← orProtocol (value.integer 0 (2 ^ 63 - 1))
        match stateLocationIds.findIdx? (· = id) with
        | none => throw (.failure .unsupported)
        | some i => return mask ||| 1#32 <<< i) 0
  | _ => throw (.failure .unsupported)

/-- `check_command`. -/
def checkCommand (mask : Word) : Json :=
  let ids := (List.range stateLocationIds.length).filterMap fun i =>
    if mask.getLsbD i then stateLocationIds[i]? else none
  .object [("cmd", .string "LocationChecks"), ("locations", .array (ids.map .number))]

/-- A command of the scouts. -/
def scoutCommand : ScoutCommand → Json
  | .locationScouts locations =>
    .object [("cmd", .string "LocationScouts"), ("create_as_hint", .number 0),
      ("locations", .array (locations.map .number))]
  | .getDataPackage games =>
    .object [("cmd", .string "GetDataPackage"), ("games", .array (games.map .string))]

/-- The argument of `journal_.commit`. -/
def document (config : Config) (items : List Item) (checks : Word) : Json :=
  .object [("binding", config.binding), ("checks", .number checks.toNat), ("format", .number 2),
    ("items", .array (items.map Item.stored))]

/-- `persist`: whether the commit succeeds, and what it leaves. -/
def persist (pf : Platform) (s : State) (items : List Item) (checks : Word) : Bool × State :=
  let bytes := pf.dump (document s.config items checks)
  if messageLimit < bytes.length then (false, s)
  else
    let attempt := { pf.attempts s.tried with removed := false }
    (attempt.succeeds && pf.settled s.tried,
      { s with disk := s.disk.replace attempt bytes, tried := s.tried + 1 })

/-- `disconnect`. -/
def disconnect (s : State) : State :=
  { s with
    room := false, connected := false, synced := false, goalSent := false, confirmed := 0
    scouts := s.scouts.disconnect }

/-- `ready`. -/
def ready (s : State) : Bool := s.room && s.connected && s.synced

/-- `record_checks`. -/
def recordChecks (pf : Platform) (s : State) (checks : Word) : Except Thrown Unit × State :=
  if checks &&& ~~~ checkMask ≠ 0 then (.error (.failure .protocol), s)
  else if checks ||| s.checks ≠ s.checks then
    let r := s.persist pf s.items (checks ||| s.checks)
    if r.1 then (.ok (), { r.2 with checks := checks ||| s.checks })
    else (.error (.failure .storage), r.2)
  else (.ok (), s)

/-- The `Connect` command. -/
def connectCommand (s : State) : Json :=
  .object [("cmd", .string "Connect"), ("game", .string stateGame), ("items_handling", .number 7),
    ("name", .string s.config.name),
    ("password", if s.config.password = "" then .null else .string s.config.password),
    ("slot_data", .boolean true), ("tags", .array [.string "AP"]),
    ("uuid", .string ("dk64recomp-" ++ s.identity)),
    ("version", .object [("build", .number 5), ("class", .string "Version"), ("major", .number 0),
      ("minor", .number 6)])]

/-- What `RoomInfo` checks before the scouts read it. -/
def checkRoom (s : State) (message : Json) : Except Thrown Unit := do
  if s.room then throw (.failure .protocol)
  let games ← orProtocol (message.get "games")
  let seedName ← orProtocol (message.get "seed_name")
  if !seedName.isText s.config.seed || !games.hasText stateGame then throw (.failure .seed)

/-- `RoomInfo`. -/
def roomInfo (s : State) (message : Json) : Except Thrown (List Json) × State :=
  match s.checkRoom message with
  | .error e => (.error e, s)
  | .ok _ =>
    match s.scouts.room message with
    | (scouts, none) => (.error (.failure .protocol), { s with scouts := scouts })
    | (scouts, some _) => (.ok [s.connectCommand], { s with scouts := scouts, room := true })

/-- What `Connected` reads before it touches the state. -/
def connectChecked (s : State) (message : Json) : Except Thrown Word := do
  if !s.room || s.connected then throw (.failure .protocol)
  let data ← orProtocol (message.get "slot_data")
  let team ← orProtocol ((← orProtocol (message.get "team")).integer 0 65535)
  if team ≠ s.config.team then throw (.failure .slot)
  let slot ← orProtocol ((← orProtocol (message.get "slot")).integer 1 65535)
  if slot ≠ s.config.slot then throw (.failure .slot)
  let ownProfile ← orProtocol (data.get "recomp_profile")
  if !ownProfile.isText stateProfile then throw (.failure .slot)
  let version ← orProtocol (data.get "Version")
  if !version.isText worldVersion then throw (.failure .slot)
  locationMask (← orProtocol (message.get "checked_locations"))

/-- The missing locations are the others. -/
def checkMissing (confirmed : Word) (message : Json) : Except Thrown Unit := do
  let missing ← locationMask (← orProtocol (message.get "missing_locations"))
  if confirmed ||| missing ≠ checkMask ∨ confirmed &&& missing ≠ 0 then throw (.failure .unsupported)

/-- `Connected`. -/
def connect (s : State) (message : Json) : Except Thrown (List Json) × State :=
  match s.connectChecked message with
  | .error e => (.error e, s)
  | .ok confirmed =>
    let s := { s with confirmed := confirmed }
    match checkMissing confirmed message with
    | .error e => (.error e, s)
    | .ok _ =>
      match s.scouts.connected message s.config.team s.config.slot with
      | (scouts, none) => (.error (.failure .protocol), { s with scouts := scouts })
      | (scouts, some commands) =>
        (.ok (syncCommand :: commands.map scoutCommand),
          { s with scouts := scouts, connected := true, synced := s.items.isEmpty })

/-- The index and the items of a `ReceivedItems`. -/
def readUpdate (s : State) (message : Json) : Except Thrown (Nat × List Item) := do
  if !s.connected then throw (.failure .protocol)
  let index ← orProtocol ((← orProtocol (message.get "index")).integer 0 itemLimit)
  let values ← orProtocol ((← orProtocol (message.get "items")).valuesUpTo (itemLimit - index.toNat))
  return (index.toNat, ← values.mapM itemFrom)

/-- `ReceivedItems`. -/
def receivedItems (pf : Platform) (s : State) (message : Json) : Except Thrown (List Json) × State :=
  match s.readUpdate message with
  | .error e => (.error e, s)
  | .ok (index, incoming) =>
    if s.items.length < index ∨ s.synced = false ∧ index ≠ 0 then
      (.ok [syncCommand, checkCommand (s.checks &&& ~~~ s.confirmed)], { s with synced := false })
    else if index = 0 ∧ incoming.length < s.items.length then (.error (.failure .protocol), s)
    else
      let overlap := min incoming.length (s.items.length - index)
      if incoming.take overlap ≠ (s.items.drop index).take overlap then
        (.error (.failure .protocol), s)
      else
        let updated := s.items ++ incoming.drop overlap
        if updated = s.items then (.ok [], { s with synced := true })
        else
          let r := s.persist pf updated s.checks
          if r.1 then (.ok [], { r.2 with items := updated, synced := true })
          else (.error (.failure .storage), r.2)

/-- What the scouts make of a message, and the commands they give. -/
def scouted {α : Type} (commands : α → List Json) (s : State) :
    Scouts × Option α → Except Thrown (List Json) × State
  | (scouts, none) => (.error (.failure .protocol), { s with scouts := scouts })
  | (scouts, some result) => (.ok (commands result), { s with scouts := scouts })

/-- The confirmed locations after a `RoomUpdate`. -/
def updatedMask (s : State) (message : Json) : Except Thrown Word := do
  match message.get "checked_locations" with
  | none => return s.confirmed
  | some values => return s.confirmed ||| (← locationMask values)

/-- `RoomUpdate`. -/
def roomUpdate (s : State) (message : Json) : Except Thrown (List Json) × State :=
  if !s.connected then (.error (.failure .protocol), s)
  else
    match s.updatedMask message with
    | .error e => (.error e, s)
    | .ok confirmed =>
      let s := { s with confirmed := confirmed }
      s.scouted (fun _ => []) (s.scouts.roomUpdate message)

/-- One turn of the loop of `receive`. -/
def handle (pf : Platform) (s : State) (message : Json) : Except Thrown (List Json) × State :=
  match message.get "cmd" with
  | some (.string cmd) =>
    if cmd = "RoomInfo" then s.roomInfo message
    else if cmd = "Connected" then s.connect message
    else if cmd = "ReceivedItems" then s.receivedItems pf message
    else if cmd = "LocationInfo" then
      if !s.connected then (.error (.failure .protocol), s)
      else s.scouted (·.map scoutCommand) (s.scouts.locationInfo message)
    else if cmd = "DataPackage" then
      if !s.connected then (.error (.failure .protocol), s)
      else s.scouted (fun _ => []) (s.scouts.dataPackage message)
    else if cmd = "RoomUpdate" then s.roomUpdate message
    else if cmd = "ConnectionRefused" then (.error (.failure .slot), s)
    else if cmd = "InvalidPacket" then (.error (.failure .protocol), s)
    else (.ok [], s)
  | _ => (.error (.failure .protocol), s)

/-- `receive`. -/
def receive (pf : Platform) (s : State) (text : List Byte) : Except Thrown (List Json) × State :=
  receiveBatch pf (handle pf) s text

end State

end Dk64Port.Archipelago
