import Dk64Port.Archipelago.CampaignChannel
import Dk64Port.Archipelago.Scouts

/-!
# The room protocol of a campaign (`native/campaign_protocol.cpp`)

The server greets, accepts the player, and then says which items were received: the whole list, or
the items from an index on. What is received goes to the journal. An update that does not continue
what is known is answered with a request for the whole list.

* `batchLoop`, `parseBounded`: a text is a batch of messages, each of them handled in turn.
* `CampaignProtocol.roomInfo`, `connect`, `receivedItems`, `roomUpdate`: the messages. A handler gives
  what it throws or the commands, and the state it leaves.
* `CampaignProtocol.receive`, `observe`, `disconnect`, `ready`.

The adapters of the channel that wait for the worker are the journal itself: an update that it refuses
is thrown as a protocol error.
-/

namespace Dk64Port.Archipelago

open ByteLayout (Byte)

/-! ## Reading -/

/-- What is thrown where a value is missing or of another kind. -/
def orProtocol {α : Type} : Option α → Except Thrown α
  | some a => return a
  | none => throw (.failure .protocol)

namespace Json

/-- A text that equals another. -/
def isText (text : String) : Json → Bool
  | .string value => value = text
  | _ => false

/-- An array that has a text. -/
def hasText (text : String) : Json → Bool
  | .array values => values.any (isText text)
  | _ => false

end Json

/-- `{"cmd": "Sync"}`. -/
def syncCommand : Json := .object [("cmd", .string "Sync")]

/-- `world_version`. -/
def worldVersion : String := "1.5.8"

/-- `parse_bounded`. -/
def parseBounded (pf : Platform) (text : List Byte) : Except Thrown Json :=
  if messageLimit < text.length then throw (.failure .protocol) else orProtocol (pf.parse text)

/-- The loop of `receive`: what is thrown or the commands, and the state that is left. -/
def batchLoop {σ : Type} (handle : σ → Json → Except Thrown (List Json) × σ) :
    σ → List Json → Except Thrown (List Json) × σ
  | s, [] => (.ok [], s)
  | s, message :: batch =>
    match handle s message with
    | (.error e, s) => (.error e, s)
    | (.ok commands, s) =>
      match batchLoop handle s batch with
      | (.error e, s) => (.error e, s)
      | (.ok rest, s) => (.ok (commands ++ rest), s)

/-- `receive`: a batch of at most 256 messages. -/
def receiveBatch {σ : Type} (pf : Platform) (handle : σ → Json → Except Thrown (List Json) × σ) (s : σ)
    (text : List Byte) : Except Thrown (List Json) × σ :=
  match parseBounded pf text with
  | .error e => (.error e, s)
  | .ok (.array batch) =>
    if 256 < batch.length then (.error (.failure .protocol), s) else batchLoop handle s batch
  | .ok _ => (.error (.failure .protocol), s)

/-- The array of an item, which may come as an object. -/
def itemArray (value : Json) : Option Json :=
  match value with
  | .object _ => do
    return .array [← value.get "item", ← value.get "location", ← value.get "player",
      ← value.get "flags"]
  | _ => some value

/-- `received_item`: its bounds are those of `stored_item`. -/
def receivedItem (value : Json) : Option Item := (itemArray value).bind storedItem

/-! ## The protocol -/

/-- What the protocol uses of a `Config`. -/
structure Config where
  name : String
  seed : String
  password : String
  team : Nat
  slot : Nat

/-- What the protocol uses of a `CampaignSeed`. -/
structure RoomSeed extends CampaignSeed where
  seedName : String
  player : String
  team : Nat
  slot : Nat

/-- `CampaignProtocol`, with the journal behind its channel. -/
structure CampaignProtocol where
  config : Config
  seed : RoomSeed
  selected : CheckSet := 0
  confirmed : CheckSet := 0
  room : Bool := false
  connected : Bool := false
  synced : Bool := false
  journal : JournalStorage

namespace CampaignProtocol

/-- `disconnect`. -/
def disconnect (s : CampaignProtocol) : CampaignProtocol :=
  { s with room := false, connected := false, synced := false, confirmed := 0 }

/-- `ready`. -/
def ready (s : CampaignProtocol) : Bool := s.room && s.connected && s.synced

/-- `location_set`. -/
def locationSet (t : LocationTable) (selected : CheckSet) : Json → Option CheckSet
  | .array values =>
    if t.count < values.length then none else values.foldlM (storedCheck t selected) 0
  | _ => none

/-- `check_command`, none when it names no location. -/
def checkCommands (t : LocationTable) (observed confirmed : CheckSet) : List Json :=
  let locations := t.ids (observed &&& ~~~ confirmed)
  if locations = [] then []
  else
    [.object [("cmd", .string "LocationChecks"),
      ("locations", .array (locations.map fun id => .number id.toNat))]]

/-- `campaign_game`. -/
def campaignGame : String := "Donkey Kong 64"

/-- The `Connect` command. -/
def connectCommand (s : CampaignProtocol) : Json :=
  .object [("cmd", .string "Connect"), ("game", .string campaignGame), ("items_handling", .number 1),
    ("name", .string s.seed.player),
    ("password", if s.config.password = "" then .null else .string s.config.password),
    ("tags", .array [.string "AP"]), ("uuid", .string ("dk64recomp-campaign-" ++ s.seed.bindingHex)),
    ("version", .object [("build", .number 5), ("class", .string "Version"), ("major", .number 0),
      ("minor", .number 6)])]

/-- `RoomInfo`. -/
def roomInfo (s : CampaignProtocol) (message : Json) : Except Thrown (List Json × CampaignProtocol) := do
  if s.room then throw (.failure .protocol)
  let games ← orProtocol (message.get "games")
  let seedName ← orProtocol (message.get "seed_name")
  if !seedName.isText s.seed.seedName || !games.hasText campaignGame then throw (.failure .seed)
  return ([s.connectCommand], { s with room := true })

/-- `Connected`. -/
def connect (t : LocationTable) (s : CampaignProtocol) (message : Json) :
    Except Thrown (List Json × CampaignProtocol) := do
  if !s.room || s.connected then throw (.failure .protocol)
  let team ← orProtocol ((← orProtocol (message.get "team")).integer 0 65535)
  if team ≠ s.seed.team then throw (.failure .slot)
  let slot ← orProtocol ((← orProtocol (message.get "slot")).integer 1 65535)
  if slot ≠ s.seed.slot then throw (.failure .slot)
  let slotData ← orProtocol (message.get "slot_data")
  if !((slotData.get "Version").any (·.isText worldVersion)) then throw (.failure .unsupported)
  let checked ← orProtocol (locationSet t s.selected (← orProtocol (message.get "checked_locations")))
  let missing ← orProtocol (locationSet t s.selected (← orProtocol (message.get "missing_locations")))
  if checked &&& missing ≠ 0 ∨ checked ||| missing ≠ s.selected then throw (.failure .unsupported)
  return ([syncCommand],
    { s with
      confirmed := checked, synced := decide (s.journal.durable.receiptCount = 0)
      connected := true })

/-- The index and the items of a `ReceivedItems`. -/
def readUpdate (s : CampaignProtocol) (message : Json) : Except Thrown (Nat × List Item) := do
  if !s.connected then throw (.failure .protocol)
  let index ← orProtocol ((← orProtocol (message.get "index")).integer 0 itemLimit)
  let values ← orProtocol ((← orProtocol (message.get "items")).valuesUpTo (itemLimit - index.toNat))
  return (index.toNat, ← orProtocol (values.mapM receivedItem))

/-- `ReceivedItems`. -/
def receivedItems (pf : Platform) (cat : Catalog) (t : LocationTable) (s : CampaignProtocol)
    (message : Json) : Except Thrown (List Json) × CampaignProtocol :=
  match s.readUpdate message with
  | .error e => (.error e, s)
  | .ok (index, incoming) =>
    let durable := s.journal.durable
    if durable.receiptCount < index ∨ s.synced = false ∧ index ≠ 0 then
      (.ok (syncCommand :: checkCommands t durable.observed s.confirmed), { s with synced := false })
    else if index = 0 ∧ incoming.length < durable.receiptCount then (.error (.failure .protocol), s)
    else
      match s.journal.receive pf cat t index incoming with
      | (.error _, journal) => (.error (.failure .protocol), { s with journal := journal })
      | (.ok _, journal) => (.ok [], { s with journal := journal, synced := true })

/-- `RoomUpdate`. -/
def roomUpdate (t : LocationTable) (s : CampaignProtocol) (message : Json) :
    Except Thrown (List Json × CampaignProtocol) :=
  if !s.connected then throw (.failure .protocol)
  else
    match message.get "checked_locations" with
    | none => return ([], s)
    | some values => do
      let checked ← orProtocol (locationSet t s.selected values)
      return ([], { s with confirmed := s.confirmed ||| checked })

/-- A handler that changes nothing where it throws. -/
def orUnchanged {σ : Type} (s : σ) :
    Except Thrown (List Json × σ) → Except Thrown (List Json) × σ
  | .error e => (.error e, s)
  | .ok (commands, s) => (.ok commands, s)

/-- One turn of the loop of `receive`. -/
def handle (pf : Platform) (cat : Catalog) (t : LocationTable) (s : CampaignProtocol) (message : Json) :
    Except Thrown (List Json) × CampaignProtocol :=
  match message.get "cmd" with
  | some (.string cmd) =>
    if cmd = "RoomInfo" then orUnchanged s (s.roomInfo message)
    else if cmd = "Connected" then orUnchanged s (s.connect t message)
    else if cmd = "ReceivedItems" then s.receivedItems pf cat t message
    else if cmd = "RoomUpdate" then orUnchanged s (s.roomUpdate t message)
    else if cmd = "ConnectionRefused" then (.error (.failure .slot), s)
    else if cmd = "InvalidPacket" then (.error (.failure .protocol), s)
    else (.ok [], s)
  | _ => (.error (.failure .protocol), s)

/-- `receive`. -/
def receive (pf : Platform) (cat : Catalog) (t : LocationTable) (s : CampaignProtocol)
    (text : List Byte) : Except Thrown (List Json) × CampaignProtocol :=
  receiveBatch pf (handle pf cat t) s text

/-- `observe`. -/
def observe (pf : Platform) (t : LocationTable) (s : CampaignProtocol) (observed : CheckSet) :
    Except Thrown Unit × CampaignProtocol :=
  if !t.subset observed s.selected then (.error (.failure .protocol), s)
  else
    match s.journal.record pf t observed with
    | (.error _, journal) => (.error (.failure .protocol), { s with journal := journal })
    | (.ok _, journal) => (.ok (), { s with journal := journal })

end CampaignProtocol

end Dk64Port.Archipelago
