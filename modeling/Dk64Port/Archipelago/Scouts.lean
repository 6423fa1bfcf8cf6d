import Dk64Port.Archipelago.CampaignJournal
import Dk64Port.Archipelago.ShopLabels
import Dk64Port.Lib.SortedMap
import Mathlib.Data.List.Sort
import Mathlib.Data.String.Basic
import Mathlib.Algebra.Group.Nat.Defs

/-!
# Scouted locations (`native/scouts.cpp`, `native/presentation.hpp`)

The server is asked which item lies at each selected location, and for the names of the items of each
game that comes up. From the answers a snapshot is built, with a label for each shop.

* `Scouts.room`, `connected`, `locationInfo`, `dataPackage`, `roomUpdate`, `disconnect`: the
  messages. A call gives the state it leaves, and `none` where it throws.
* `Scouts.buildSnapshot`: `none` where it throws.
* `makeShopLabel`: the texts of a label.
-/

namespace Dk64Port.Archipelago

open ByteLayout (Byte)

/-! ## Reading a message -/

/-- The bytes of a text. -/
def textBytes (text : String) : List Byte := text.toUTF8.toList.map (·.toBitVec)

namespace Json

/-- `contains`. -/
def has (key : String) : Json → Bool
  | .object fields => (field key fields).isSome
  | _ => false

/-- `at`. -/
def get (key : String) : Json → Option Json
  | .object fields => field key fields
  | _ => none

/-- `number`. -/
def numberIn (low : Int) (high : Int := 2 ^ 63 - 1) : Json → Option Int := integer low high

/-- `text_value`. -/
def textValue : Json → Option String
  | .string text =>
    let bytes := textBytes text
    if bytes = [] ∨ 512 < bytes.length ∨ bytes.any (fun c => decide (c < 32 ∨ c = 127)) = true then none
    else some text
  | _ => none

/-- `field`. -/
def fieldAt (name : String) (index : Nat) : Json → Option Json
  | .object fields => field name fields
  | .array values => values[index]?
  | _ => none

/-- An object of at least one and at most `limit` fields. -/
def fieldsUpTo (limit : Nat) : Json → Option (List (String × Json))
  | .object fields => if fields = [] ∨ limit < fields.length then none else some fields
  | _ => none

/-- An array of at most `limit` values. -/
def valuesUpTo (limit : Nat) : Json → Option (List Json)
  | .array values => if limit < values.length then none else some values
  | _ => none

end Json

/-- `object_slot`: a number between 1 and 65535. -/
def objectSlot (key : String) : Option Nat :=
  if key.toList = [] ∨ key.toList.any (fun c => !c.isDigit) = true then none
  else
    let result := key.toList.foldl (fun n c => n * 10 + (c.toNat - '0'.toNat)) 0
    if result = 0 ∨ 65535 < result then none else some result

/-- `hex_checksum`. -/
def hexChecksum (value : String) : Bool :=
  (textBytes value).length = 40 && (textBytes value).all fun c =>
    decide (0x30 ≤ c ∧ c ≤ 0x39 ∨ 0x61 ≤ c ∧ c ≤ 0x66)

/-! ## The state -/

def maxSlots : Nat := 4096

def maxGames : Nat := 128

def maxNames : Nat := 32768

/-- `Slot`. -/
structure ScoutSlot where
  game : String
  name : String
  type : Nat
deriving DecidableEq

/-- `Placement`. -/
structure Placement where
  item : Int
  recipient : Nat
  flags : Nat
deriving DecidableEq

/-- `Scouts`. -/
structure Scouts where
  selected : List Int
  team : Nat := 0
  roomMetadata : Bool := false
  enabled : Bool := false
  checksums : SortedMap String String := {}
  slots : SortedMap Nat ScoutSlot := {}
  aliases : SortedMap Nat String := {}
  placements : SortedMap Int Placement := {}
  itemNames : SortedMap String (SortedMap Int String) := {}
  requestedGames : SortedMap String Unit := {}

/-- Nothing is known yet about the selected locations. -/
def Scouts.unasked (selected : List Int) : Scouts := { selected := selected }

/-- A command for the server. -/
inductive ScoutCommand where
  | locationScouts (locations : List Int)
  | getDataPackage (games : List String)

/-- The constructor: `none` where it throws. -/
def Scouts.create (t : LocationTable) (selected : List Int) : Option Scouts :=
  let sorted := selected.mergeSort (fun a b => decide (a ≤ b))
  if selected = [] ∨ t.count < selected.length ∨ ¬ sorted.IsChain (· ≠ ·)
      ∨ ¬ ∀ id ∈ sorted, 0 ≤ id ∧ id ≤ 4294967295 ∧ t.index (BitVec.ofInt 32 id) ≠ none then none
  else some { selected := sorted }

namespace Scouts

/-- `disconnect`. -/
def disconnect (s : Scouts) : Scouts := { selected := s.selected }

/-! ## The messages -/

/-- The loop of `room` over the checksums. -/
def parsedChecksums (fields : List (String × Json)) : Option (SortedMap String String) :=
  fields.foldlM (fun parsed entry => do
    let name ← Json.textValue (.string entry.1)
    let checksum ← entry.2.textValue
    if hexChecksum checksum then parsed.emplace name checksum else none) {}

/-- `room`. -/
def room (s : Scouts) (message : Json) : Scouts × Option Unit :=
  let s := { s with checksums := {}, roomMetadata := false }
  if !message.has "datapackage_checksums" then (s, some ())
  else
    match (do parsedChecksums (← (← message.get "datapackage_checksums").fieldsUpTo maxGames)) with
    | none => (s, none)
    | some parsed => ({ s with checksums := parsed, roomMetadata := true }, some ())

/-- The loop of `connected` over `slot_info`. -/
def parsedSlots (s : Scouts) (fields : List (String × Json)) : Option (SortedMap Nat ScoutSlot) :=
  fields.foldlM (fun parsed entry => do
    let id ← objectSlot entry.1
    let game ← (← entry.2.fieldAt "game" 1).textValue
    let name ← (← entry.2.fieldAt "name" 0).textValue
    let type ← (← entry.2.fieldAt "type" 2).numberIn 0 3
    if s.checksums.contains game then
      parsed.emplace id { game := game, name := name, type := type.toNat }
    else none) {}

/-- A player: team, slot and alias. -/
def player (value : Json) : Option (Nat × Nat × String) := do
  let team ← (← value.fieldAt "team" 0).numberIn 0 65535
  let slot ← (← value.fieldAt "slot" 1).numberIn 1 65535
  let playerAlias ← (← value.fieldAt "alias" 2).textValue
  let _ ← (← value.fieldAt "name" 3).textValue
  return (team.toNat, slot.toNat, playerAlias)

/-- The loop of `connected` over `players`. -/
def parsedAliases (team : Nat) (values : List Json) : Option (SortedMap Nat String) :=
  values.foldlM (fun parsed value => do
    let (playerTeam, slot, playerAlias) ← player value
    if playerTeam = team then parsed.emplace slot playerAlias else some parsed) {}

/-- `connected`. -/
def connected (s : Scouts) (message : Json) (team slot : Nat) : Scouts × Option (List ScoutCommand) :=
  let hasPlayers := message.has "players"
  let hasSlots := message.has "slot_info"
  if !s.roomMetadata || (!hasPlayers && !hasSlots) then (s, some [])
  else if !hasPlayers || !hasSlots then (s, none)
  else
    match (do
      let fields ← (← message.get "slot_info").fieldsUpTo maxSlots
      let values ← (← message.get "players").valuesUpTo maxSlots
      return (← s.parsedSlots fields, ← parsedAliases team values)) with
    | none => (s, none)
    | some (slots, aliases) =>
      if !slots.contains slot || !aliases.contains slot then (s, none)
      else
        ({ s with
            team := team, slots := slots, aliases := aliases, placements := {}, itemNames := {}
            requestedGames := {}, enabled := true }, some [.locationScouts s.selected])

/-- One turn of the loop of `location_info`. -/
def placed (s : Scouts) (parsed : SortedMap Int Placement) (value : Json) :
    Option (SortedMap Int Placement) := do
  let location ← (← value.fieldAt "location" 1).numberIn 0
  let item ← (← value.fieldAt "item" 0).numberIn (-2 ^ 63)
  let recipient ← (← value.fieldAt "player" 2).numberIn 1 65535
  let flags ← (← value.fieldAt "flags" 3).numberIn 0 7
  -- `binary_search` in the sorted locations
  if location ∈ s.selected ∧ s.slots.contains recipient.toNat = true
      ∧ s.aliases.contains recipient.toNat = true then
    parsed.emplace location { item := item, recipient := recipient.toNat, flags := flags.toNat }
  else none

/-- The games whose names are needed and not asked for yet: `none` where `at` throws. -/
def neededGames (s : Scouts) : Option (SortedMap String Unit) :=
  s.placements.entries.foldlM (fun needed entry => do
    let slot ← s.slots.find entry.2.recipient
    if !s.itemNames.contains slot.game && !s.requestedGames.contains slot.game then
      some (needed.set slot.game ())
    else some needed) {}

/-- `location_info`. -/
def locationInfo (s : Scouts) (message : Json) : Scouts × Option (List ScoutCommand) :=
  if !s.enabled then (s, some [])
  else
    match (do
      let values ← (← message.get "locations").valuesUpTo s.selected.length
      if values.length ≠ s.selected.length then none else values.foldlM s.placed {}) with
    | none => (s, none)
    | some parsed =>
      if s.placements.entries ≠ [] ∧ s.placements.entries ≠ parsed.entries then (s, none)
      else
        let s := { s with placements := parsed }
        match s.neededGames with
        | none => (s, none)
        | some needed =>
          if needed.entries = [] then (s, some [])
          else
            ({ s with requestedGames := needed.keys.foldl (·.set · ()) s.requestedGames },
              some [.getDataPackage needed.keys])

/-- The items of a game that are placed: `none` where `at` throws. -/
def neededItems (s : Scouts) (game : String) : Option (SortedMap Int Unit) :=
  s.placements.entries.foldlM (fun needed entry => do
    let slot ← s.slots.find entry.2.recipient
    return if slot.game = game then needed.set entry.2.item () else needed) {}

/-- The loop of `data_package` over the names of a game. -/
def resolvedNames (needed : SortedMap Int Unit) (names : List (String × Json)) :
    Option (SortedMap Int String) :=
  names.foldlM (fun resolved entry => do
    let name ← Json.textValue (.string entry.1)
    let id ← entry.2.numberIn (-2 ^ 63)
    if needed.contains id then resolved.emplace id name else some resolved) {}

/-- One turn of the loop of `data_package` over the games. -/
def packaged (s : Scouts) (updated : SortedMap String (SortedMap Int String))
    (entry : String × Json) : Option (SortedMap String (SortedMap Int String)) := do
  let (game, package) := entry
  if !s.requestedGames.contains game || !s.checksums.contains game || updated.contains game then none
  else
    let checksum ← (← package.get "checksum").textValue
    let names ← package.get "item_name_to_id"
    match names with
    | .object names =>
      if s.checksums.find game ≠ some checksum ∨ maxNames < names.length then none
      else
        let needed ← s.neededItems game
        let resolved ← resolvedNames needed names
        if needed.keys.all resolved.contains then updated.emplace game resolved else none
    | _ => none

/-- `data_package`. -/
def dataPackage (s : Scouts) (message : Json) : Scouts × Option Unit :=
  if !s.enabled then (s, some ())
  else
    match (do
      let fields ← (← (← message.get "data").get "games").fieldsUpTo maxGames
      fields.foldlM s.packaged s.itemNames) with
    | none => (s, none)
    | some updated => ({ s with itemNames := updated }, some ())

/-- One turn of the loop of `room_update`: the aliases and the slots seen. -/
def renamed (s : Scouts) (updated : SortedMap Nat String × SortedMap Nat Unit) (value : Json) :
    Option (SortedMap Nat String × SortedMap Nat Unit) := do
  let (team, slot, playerAlias) ← player value
  if team = s.team then
    if !s.slots.contains slot then none
    else
      let seen ← updated.2.emplace slot ()
      some (updated.1.set slot playerAlias, seen)
  else some updated

/-- `room_update`. -/
def roomUpdate (s : Scouts) (message : Json) : Scouts × Option Unit :=
  if !s.enabled || !message.has "players" then (s, some ())
  else
    match (do
      let values ← (← message.get "players").valuesUpTo maxSlots
      values.foldlM s.renamed (s.aliases, {})) with
    | none => (s, none)
    | some (aliases, _) => ({ s with aliases := aliases }, some ())

end Scouts

/-! ## The snapshot -/

/-- One byte of `clean`. -/
def cleanByte (output : List Byte) (c : Byte) : List Byte :=
  let c := if 0x61 ≤ c ∧ c ≤ 0x7A then c - 0x20 else c
  if 0x41 ≤ c ∧ c ≤ 0x5A ∨ 0x30 ≤ c ∧ c ≤ 0x39 then output ++ [c]
  else if c = 0x20 ∧ output ≠ [] ∧ output.getLast? ≠ some 0x20 then output ++ [0x20]
  else output

/-- `clean`. -/
def clean (input : List Byte) (fallback : String) : List Byte :=
  let output := input.foldl cleanByte []
  let output := if output.getLast? = some 0x20 then output.dropLast else output
  if output = [] then textBytes fallback else output

/-- A text in the field of a label that was zero. -/
def labelText (text : List Byte) : Vector Byte labelLength :=
  Vector.ofFn fun i => (text[i.val]?).getD 0

/-- `make_shop_label` with its default of 130 frames: `none` where it throws. -/
def makeShopLabel (t : LocationTable) (location : Word) (item recipient : String) : Option ShopLabel :=
  match (t.index location).bind fun i => t.locations[i]? with
  | none => none
  | some row =>
    if row.detector ≠ .shop ∨ 512 < (textBytes item).length ∨ 512 < (textBytes recipient).length then
      none
    else
      some
        { location := location
          frames := 130
          item := labelText ((clean (textBytes item) "UNKNOWN ITEM").take 32)
          subtitle := labelText
            ((textBytes "TO " ++ clean (textBytes recipient) "UNKNOWN PLAYER").take 32) }

/-- `ScoutRecord`. -/
structure ScoutRecord where
  location : Int
  item : Int
  recipient : Nat
  flags : Nat
  game : String
  itemName : String
  recipientName : String

/-- `ScoutSnapshot`. -/
structure ScoutSnapshot where
  enabled : Bool := false
  locations : List ScoutRecord := []
  shopLabels : List ShopLabel := []

/-- A location whose detector is `AP_DETECT_SHOP`. -/
def isShop (t : LocationTable) (location : Int) : Bool :=
  decide (0 ≤ location ∧ location ≤ 4294967295) &&
    ((t.index (BitVec.ofInt 32 location)).bind fun i => t.locations[i]?).any (·.detector = .shop)

/-- One turn of the loop of `build_snapshot`: `none` where it throws. -/
def Scouts.resolve (t : LocationTable) (s : Scouts) (result : ScoutSnapshot)
    (entry : Int × Placement) : Option ScoutSnapshot := do
  let (location, placement) := entry
  let slot ← s.slots.find placement.recipient
  match (s.itemNames.find slot.game).bind (·.find placement.item) with
  | none => return result
  | some itemName =>
    let recipientName ← s.aliases.find placement.recipient
    let record : ScoutRecord :=
      { location := location, item := placement.item, recipient := placement.recipient
        flags := placement.flags, game := slot.game, itemName := itemName
        recipientName := recipientName }
    let result := { result with locations := result.locations ++ [record] }
    if isShop t location then
      let label ← makeShopLabel t (BitVec.ofInt 32 location) itemName recipientName
      return { result with shopLabels := result.shopLabels ++ [label] }
    else return result

/-- `build_snapshot`. -/
def Scouts.buildSnapshot (t : LocationTable) (s : Scouts) : Option ScoutSnapshot :=
  if !s.enabled then some { enabled := false }
  else s.placements.entries.foldlM (s.resolve t) { enabled := true }

end Dk64Port.Archipelago
