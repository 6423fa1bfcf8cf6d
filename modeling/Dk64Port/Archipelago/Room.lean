import Dk64Port.Archipelago.Protocol
import Dk64Port.Lib.PrefixSync
import Dk64Port.Lib.Run

/-!
# A room: an honest server and its client

The server has a list that only grows. On a connection it greets, accepts the player, and then says
the whole list or a part from an index up to which it has said everything. The messages of a
connection arrive in order, several of them in a text; what is under way is lost with the connection.

* `RoomClient`, `RoomClient.Lawful`: a client by its functions, and what it makes of each message.
* `Room`, `RoomEvent`, `Room.step`: the server, the messages under way and the client.
* `RoomEvent.Honest`: what an honest server and a working disk do.
* `Room.Sound.step`, `Room.sound_run`: **over every run nothing is thrown, what is durable is a prefix
  of the server's list, and the client is ready only when it heard the whole list or had nothing.**
-/

namespace Dk64Port.Archipelago

open ByteLayout (Byte)
open PrefixSync (Update Receiver InOrder)

/-! ## The client -/

/-- What is seen of a client: its flags, and its durable list with `synced`. -/
structure RoomView where
  room : Bool
  connected : Bool
  receiver : Receiver Item

namespace RoomView

/-- `ready`. -/
def ready (v : RoomView) : Bool := v.room && v.connected && v.receiver.synced

/-- What is durable. -/
def durable (v : RoomView) : List Item := v.receiver.copy

/-- A lost connection. -/
def disconnect (v : RoomView) : RoomView :=
  { room := false, connected := false, receiver := { v.receiver with synced := false } }

end RoomView

/-- A client: its functions, what it takes for a greeting, an acceptance and the rest of the traffic,
what the game may observe, and the lists that its journal can hold. -/
structure RoomClient (σ ω : Type) where
  handle : σ → Json → Except Thrown (List Json) × σ
  receive : σ → List Byte → Except Thrown (List Json) × σ
  observe : σ → ω → Except Thrown Unit × σ
  disconnect : σ → σ
  view : σ → RoomView
  greets : σ → Json → Prop
  accepts : σ → Json → Prop
  side : σ → Json → Prop
  observable : σ → ω → Prop
  commits : σ → List Item → Prop

/-- The JSON of an item, as an array or as an object. -/
def ItemJson (value : Json) (item : Item) : Prop :=
  value = item.stored ∨ ∃ fields, value = .object fields
    ∧ Json.field "item" fields = some (.number item.item)
    ∧ Json.field "location" fields = some (.number item.location)
    ∧ Json.field "player" fields = some (.number item.player)
    ∧ Json.field "flags" fields = some (.number item.flags)

/-- A `ReceivedItems` message. -/
structure Announces (message : Json) (u : Update Item) : Prop where
  cmd : message.get "cmd" = some (.string "ReceivedItems")
  index : message.get "index" = some (.number u.index)
  items : ∃ values, message.get "items" = some (.array values) ∧ List.Forall₂ ItemJson values u.items

/-- A handler goes through and what is seen of the client is `v`; the journal can hold as much. -/
def RoomClient.Goes {σ ω : Type} (c : RoomClient σ ω) (s : σ) (message : Json) (v : RoomView) : Prop :=
  ∃ commands s', c.handle s message = (.ok commands, s') ∧ c.view s' = v
    ∧ ∀ list, c.commits s list → c.commits s' list

/-- What a client makes of each message. -/
structure RoomClient.Lawful {σ ω : Type} (pf : Platform) (known : Item → Prop) (c : RoomClient σ ω) :
    Prop where
  receive : ∀ s text, c.receive s text = receiveBatch pf c.handle s text
  disconnect : ∀ s, c.view (c.disconnect s) = (c.view s).disconnect
  kept : ∀ s list, c.commits s list → c.commits (c.disconnect s) list
  greeted : ∀ s message, c.greets s message → (c.view s).room = false →
    c.Goes s message { c.view s with room := true }
  accepted : ∀ s message, c.accepts s message → (c.view s).room = true → (c.view s).connected = false →
    c.Goes s message { c.view s with
      connected := true
      receiver := { (c.view s).receiver with synced := (c.view s).durable.isEmpty } }
  received : ∀ s message u r list, Announces message u → (c.view s).connected = true →
    (∀ item ∈ u.items, known item) → u.extent ≤ itemLimit → (c.view s).receiver.receive u = some r →
    r.copy <+: list → c.commits s list → c.Goes s message { c.view s with receiver := r }
  side : ∀ s message, c.side s message → (c.view s).connected = true → c.Goes s message (c.view s)
  observed : ∀ s w list, c.observable s w → (c.view s).durable <+: list → c.commits s list →
    ∃ s', c.observe s w = (.ok (), s') ∧ c.view s' = c.view s ∧ c.commits s' list

/-! ## The room -/

/-- A message under way. -/
inductive ServerMessage where
  | roomInfo
  | connected
  | received (u : Update Item)
  | side

/-- The update of a message. -/
def ServerMessage.updates : ServerMessage → List (Update Item)
  | .received u => [u]
  | _ => []

/-- The list of the server and how much of it was said on the connection, what is under way, and the
client. `kept` was durable when the connection began, `heard` are the updates of the connection, and
`thrown` is what the client ever threw. -/
structure Room (σ : Type) where
  list : List Item
  sent : Nat := 0
  greeted : Bool := false
  accepted : Bool := false
  flight : List ServerMessage := []
  client : σ
  kept : Nat
  heard : List (Update Item) := []
  thrown : List Thrown := []

/-- What happens in a room. -/
inductive RoomEvent (ω : Type) where
  | append (items : List Item)
  | greet
  | accept
  | sayWhole
  | sayPart (k m : Nat)
  | saySide
  | deliver (text : List Byte)
  | disconnect
  | observe (w : ω)

/-- The messages of a text. -/
def batchOf (pf : Platform) (text : List Byte) : List Json :=
  match pf.parse text with
  | some (.array values) => values
  | _ => []

/-- What a call threw. -/
def thrownBy {α : Type} : Except Thrown α → List Thrown
  | .error e => [e]
  | .ok _ => []

namespace Room

variable {σ ω : Type} (pf : Platform) (c : RoomClient σ ω)

/-- One event. -/
def step (x : Room σ) : RoomEvent ω → Room σ
  | .append items => { x with list := x.list ++ items }
  | .greet => { x with greeted := true, flight := x.flight ++ [.roomInfo] }
  | .accept => { x with accepted := true, flight := x.flight ++ [.connected] }
  | .sayWhole =>
    { x with sent := max x.sent x.list.length, flight := x.flight ++ [.received ⟨0, x.list⟩] }
  | .sayPart k m =>
    { x with
      sent := max x.sent m, flight := x.flight ++ [.received ⟨k, (x.list.take m).drop k⟩] }
  | .saySide => { x with flight := x.flight ++ [.side] }
  | .deliver text =>
    let r := c.receive x.client text
    let n := (batchOf pf text).length
    { x with
      client := r.2, thrown := x.thrown ++ thrownBy r.1, flight := x.flight.drop n
      heard := x.heard ++ (x.flight.take n).flatMap (·.updates) }
  | .disconnect =>
    { x with
      sent := 0, greeted := false, accepted := false, flight := [], heard := []
      client := c.disconnect x.client, kept := (c.view x.client).durable.length }
  | .observe w =>
    let r := c.observe x.client w
    { x with client := r.2, thrown := x.thrown ++ thrownBy r.1 }

end Room

/-- A message is the one under way. -/
def RoomClient.Says {σ ω : Type} (c : RoomClient σ ω) (s : σ) (message : Json) : ServerMessage → Prop
  | .roomInfo => c.greets s message
  | .connected => c.accepts s message
  | .received u => Announces message u
  | .side => c.side s message

/-- The messages of a batch are those under way, each of them said to the client as it is then. -/
def RoomClient.SaysAll {σ ω : Type} (c : RoomClient σ ω) : σ → List Json → List ServerMessage → Prop
  | _, [], _ => True
  | s, value :: values, message :: flight =>
    c.Says s value message ∧ c.SaysAll (c.handle s value).2 values flight
  | _, _ :: _, [] => False

/-- What an honest server and a working disk do: `known` are the items of the catalogue. -/
def RoomEvent.Honest {σ ω : Type} (pf : Platform) (known : Item → Prop) (c : RoomClient σ ω)
    (x : Room σ) : RoomEvent ω → Prop
  | .append items => (∀ item ∈ items, known item) ∧ (x.list ++ items).length ≤ itemLimit
      ∧ c.commits x.client (x.list ++ items)
  | .greet => x.greeted = false
  | .accept => x.greeted = true ∧ x.accepted = false
  | .sayWhole => x.accepted = true
  | .sayPart k m => x.accepted = true ∧ 1 ≤ k ∧ k ≤ x.sent ∧ k ≤ m ∧ m ≤ x.list.length
  | .saySide => x.accepted = true
  | .deliver text => text.length ≤ messageLimit
      ∧ ∃ values, pf.parse text = some (.array values) ∧ values.length ≤ 256
        ∧ c.SaysAll x.client values x.flight
  | .disconnect => True
  | .observe w => c.observable x.client w

/-! ## What holds in a room -/

/-- The messages under way take the flags of the client to those of the server. -/
def Expected : (room connected : Bool) → List ServerMessage → (greeted accepted : Bool) → Prop
  | room, connected, [], greeted, accepted => room = greeted ∧ connected = accepted
  | room, connected, .roomInfo :: flight, greeted, accepted =>
    room = false ∧ Expected true connected flight greeted accepted
  | room, connected, .connected :: flight, greeted, accepted =>
    room = true ∧ connected = false ∧ Expected room true flight greeted accepted
  | room, connected, .received _ :: flight, greeted, accepted =>
    connected = true ∧ Expected room connected flight greeted accepted
  | room, connected, .side :: flight, greeted, accepted =>
    connected = true ∧ Expected room connected flight greeted accepted

/-- What is sent follows what is under way. -/
theorem Expected.append {flight sent : List ServerMessage} {greeted accepted greeted' accepted' : Bool}
    (hsent : ∀ room connected, Expected room connected [] greeted accepted →
      Expected room connected sent greeted' accepted') :
    ∀ {room connected : Bool}, Expected room connected flight greeted accepted →
      Expected room connected (flight ++ sent) greeted' accepted' := by
  induction flight with
  | nil => exact fun h => hsent _ _ h
  | cons message flight ih =>
    cases message with
    | roomInfo => exact fun h => ⟨h.1, ih h.2⟩
    | connected => exact fun h => ⟨h.1, h.2.1, ih h.2.2⟩
    | received u => exact fun h => ⟨h.1, ih h.2⟩
    | side => exact fun h => ⟨h.1, ih h.2⟩

namespace Room

variable {σ ω : Type} {pf : Platform} {known : Item → Prop} {c : RoomClient σ ω} {x : Room σ}

/-- What is seen of the client. -/
def seen (c : RoomClient σ ω) (x : Room σ) : RoomView := c.view x.client

/-- The updates under way. -/
def updates (x : Room σ) : List (Update Item) := x.flight.flatMap (·.updates)

/-- Nothing was kept, or the whole list was heard that covers it. -/
def Covered (x : Room σ) : Prop :=
  x.kept = 0 ∨ ∃ u ∈ x.heard, u.index = 0 ∧ x.kept ≤ u.items.length

/-- What holds after every event. -/
structure Sound (known : Item → Prop) (c : RoomClient σ ω) (x : Room σ) : Prop where
  thrown : x.thrown = []
  known : ∀ item ∈ x.list, known item
  limit : x.list.length ≤ itemLimit
  commits : c.commits x.client x.list
  expected : Expected (x.seen c).room (x.seen c).connected x.flight x.greeted x.accepted
  underway : ∃ covered, covered ≤ x.list.length ∧ (x.seen c).receiver.Sound x.list covered
    ∧ InOrder x.list x.sent covered (x.seen c).durable.length x.updates
    ∧ ((x.seen c).connected = false → covered = 0)
  kept : x.kept ≤ (x.seen c).durable.length
  covered : (x.seen c).receiver.synced = true → x.Covered

/-- What is sent is under way behind the rest. -/
theorem updates_send {y : Room σ} (message : ServerMessage) (h : y.flight = x.flight ++ [message]) :
    y.updates = x.updates ++ message.updates := by
  unfold updates
  rw [h, List.flatMap_append, List.flatMap_singleton]

theorem Sound.prefix (h : x.Sound known c) : (x.seen c).durable <+: x.list := by
  obtain ⟨_, -, hreceiver, -⟩ := h.underway
  exact hreceiver.pre

theorem Covered.hear (h : x.Covered) {client : σ} {flight : List ServerMessage}
    (heard : List (Update Item)) :
    Covered { x with client := client, flight := flight, heard := x.heard ++ heard } :=
  h.imp_right fun ⟨u, hu, hz⟩ => ⟨u, List.mem_append_left _ hu, hz⟩

/-- **One message is handled.** -/
theorem Sound.hear (law : c.Lawful pf known) (h : x.Sound known c) {message : ServerMessage}
    {flight : List ServerMessage} (hflight : x.flight = message :: flight) {value : Json}
    (htold : c.Says x.client value message) :
    ∃ commands s', c.handle x.client value = (.ok commands, s')
      ∧ Sound known c { x with client := s', flight := flight, heard := x.heard ++ message.updates }
      ∧ (c.view x.client).durable <+: (c.view s').durable := by
  obtain ⟨covered, hc, hreceiver, horder, hnone⟩ := h.underway
  have hexpected := h.expected
  unfold updates at horder
  rw [hflight] at horder hexpected
  cases message with
  | roomInfo =>
    obtain ⟨hroom, hexpected⟩ := hexpected
    obtain ⟨commands, s', hhandle, hview, hcommits⟩ := law.greeted _ _ htold hroom
    refine ⟨commands, s', hhandle, ⟨h.thrown, h.known, h.limit, hcommits _ h.commits, ?_,
      ⟨covered, hc, ?_, ?_, ?_⟩, ?_, fun hsynced => Covered.hear (h.covered ?_) _⟩, ?_⟩
    any_goals simp only [seen, hview, updates]
    · exact hexpected
    · exact hreceiver
    · exact horder
    · exact hnone
    · exact h.kept
    · rw [seen, hview] at hsynced
      exact hsynced
    · exact List.prefix_rfl
  | connected =>
    obtain ⟨hroom, hconnected, hexpected⟩ := hexpected
    obtain ⟨commands, s', hhandle, hview, hcommits⟩ := law.accepted _ _ htold hroom hconnected
    obtain rfl := hnone hconnected
    have hempty : (c.view x.client).durable.isEmpty = true → x.kept = 0 := fun hnil => by
      have hkept := h.kept
      rw [seen, List.isEmpty_iff.mp hnil] at hkept
      exact Nat.le_zero.mp hkept
    refine ⟨commands, s', hhandle, ⟨h.thrown, h.known, h.limit, hcommits _ h.commits, ?_,
      ⟨0, hc, ⟨?_, fun _ => Nat.zero_le _⟩, ?_, fun _ => rfl⟩, ?_, fun hsynced => ?_⟩, ?_⟩
    any_goals simp only [seen, hview, updates]
    · exact hexpected
    · exact hreceiver.pre
    · exact horder
    · exact h.kept
    · rw [seen, hview] at hsynced
      exact .inl (hempty hsynced)
    · exact List.prefix_rfl
  | received u =>
    obtain ⟨hconnected, hexpected⟩ := hexpected
    obtain ⟨r, hr, hsound, hrest, hgrows, hsynced', hwhole⟩ :=
      Receiver.receive_inOrder hreceiver horder
    have hu := horder.1
    have hknown : ∀ item ∈ u.items, known item := fun item hitem => by
      rw [hu.2] at hitem
      exact h.known item (List.mem_of_mem_drop (List.mem_of_mem_take hitem))
    obtain ⟨commands, s', hhandle, hview, hcommits⟩ := law.received _ _ u r x.list htold hconnected hknown
      (hu.1.trans h.limit) hr hsound.pre h.commits
    refine ⟨commands, s', hhandle, ⟨h.thrown, h.known, h.limit, hcommits _ h.commits, ?_,
      ⟨max covered u.extent, max_le hc hu.1, ?_, ?_, ?_⟩, ?_, fun hsynced => ?_⟩, ?_⟩
    any_goals simp only [seen, hview, updates]
    · exact hexpected
    · exact hsound
    · exact hrest
    · exact fun hfalse => absurd (hconnected.symm.trans hfalse) nofun
    · exact h.kept.trans hgrows.length_le
    · rw [seen, hview] at hsynced
      rcases hsynced' hsynced with hold | hz
      · exact Covered.hear (h.covered hold) _
      · refine .inr ⟨u, List.mem_append_right _ List.mem_cons_self, hz, ?_⟩
        exact h.kept.trans (hwhole hz)
    · exact hgrows
  | side =>
    obtain ⟨hconnected, hexpected⟩ := hexpected
    obtain ⟨commands, s', hhandle, hview, hcommits⟩ := law.side _ _ htold hconnected
    refine ⟨commands, s', hhandle, ⟨h.thrown, h.known, h.limit, hcommits _ h.commits, ?_,
      ⟨covered, hc, ?_, ?_, ?_⟩, ?_, fun hsynced => Covered.hear (h.covered ?_) _⟩, ?_⟩
    any_goals simp only [seen, hview, updates]
    · exact hexpected
    · exact hreceiver
    · exact horder
    · exact hnone
    · exact h.kept
    · rw [seen, hview] at hsynced
      exact hsynced
    · exact List.prefix_rfl

/-- The messages of a batch. -/
theorem Sound.hearAll (law : c.Lawful pf known) {values : List Json} (h : x.Sound known c)
    (htold : c.SaysAll x.client values x.flight) :
    ∃ commands s', batchLoop c.handle x.client values = (.ok commands, s')
      ∧ Sound known c { x with
          client := s', flight := x.flight.drop values.length
          heard := x.heard ++ (x.flight.take values.length).flatMap (·.updates) }
      ∧ (c.view x.client).durable <+: (c.view s').durable := by
  induction values generalizing x with
  | nil =>
    refine ⟨[], x.client, rfl, ?_, List.prefix_rfl⟩
    rw [List.length_nil, List.drop_zero, List.take_zero, List.flatMap_nil, List.append_nil]
    exact h
  | cons value values ih =>
    obtain ⟨list, sent, greeted, accepted, flight, client, kept, heard, thrown⟩ := x
    cases flight with
    | nil => exact absurd htold nofun
    | cons message flight =>
      obtain ⟨hone, hrest⟩ := htold
      obtain ⟨commands, s', hhandle, hsound, hgrows⟩ := h.hear law rfl hone
      dsimp only at hhandle hsound hgrows hrest
      rw [hhandle] at hrest
      obtain ⟨rest, s'', hloop, hsound', hgrows'⟩ := ih hsound hrest
      refine ⟨commands ++ rest, s'', ?_, ?_, hgrows.trans hgrows'⟩
      · rw [batchLoop, hhandle]
        dsimp only at hloop ⊢
        rw [hloop]
      · simpa only [List.length_cons, List.drop_succ_cons, List.take_succ_cons, List.flatMap_cons,
          List.append_assoc] using hsound'

/-- **One event.** -/
theorem Sound.step (law : c.Lawful pf known) (h : x.Sound known c) (e : RoomEvent ω)
    (he : e.Honest pf known c x) :
    Sound known c (x.step pf c e) ∧ (x.seen c).durable <+: ((x.step pf c e).seen c).durable := by
  obtain ⟨covered, hc, hreceiver, horder, hnone⟩ := h.underway
  cases e with
  | append items =>
    obtain ⟨hknown, hlimit, hcommits⟩ := he
    have hpre : x.list <+: x.list ++ items := List.prefix_append _ _
    refine ⟨⟨h.thrown, fun item hitem => ?_, hlimit, hcommits, h.expected, ⟨covered,
      hc.trans hpre.length_le, ⟨hreceiver.pre.trans hpre, hreceiver.synced⟩, horder.mono hpre, hnone⟩,
      h.kept, h.covered⟩, List.prefix_rfl⟩
    exact (List.mem_append.mp hitem).elim (h.known item) (hknown item)
  | greet =>
    refine ⟨⟨h.thrown, h.known, h.limit, h.commits, h.expected.append fun room connected hflags => ?_,
      ⟨covered, hc, hreceiver, ?_, hnone⟩, h.kept, h.covered⟩, List.prefix_rfl⟩
    · exact ⟨hflags.1.trans he, rfl, hflags.2⟩
    · rw [updates_send .roomInfo rfl, ServerMessage.updates, List.append_nil]
      · exact horder
      · nofun
  | accept =>
    refine ⟨⟨h.thrown, h.known, h.limit, h.commits, h.expected.append fun room connected hflags => ?_,
      ⟨covered, hc, hreceiver, ?_, hnone⟩, h.kept, h.covered⟩, List.prefix_rfl⟩
    · exact ⟨hflags.1.trans he.1, hflags.2.trans he.2, hflags.1, rfl⟩
    · rw [updates_send .connected rfl, ServerMessage.updates, List.append_nil]
      · exact horder
      · nofun
  | sayWhole =>
    have hsaid := horder.said (PrefixSync.Update.of_whole x.list) hc h.prefix.length_le
      (.inl ⟨rfl, Nat.zero_add _⟩)
    refine ⟨⟨h.thrown, h.known, h.limit, h.commits, h.expected.append fun room connected hflags => ?_,
      ⟨covered, hc, hreceiver, ?_, hnone⟩, h.kept, h.covered⟩, List.prefix_rfl⟩
    · exact ⟨hflags.2.trans he, hflags⟩
    · have hwhole : Update.extent ⟨0, x.list⟩ = x.list.length := Nat.zero_add _
      rw [hwhole] at hsaid
      rw [updates_send (.received ⟨0, x.list⟩) rfl]
      exact hsaid
  | sayPart k m =>
    obtain ⟨haccepted, hone, hk, hkm, hm⟩ := he
    obtain ⟨hof, hextent⟩ := PrefixSync.Update.of_part hkm hm
    have hsaid := horder.said hof hc h.prefix.length_le (.inr ⟨hone, hk⟩)
    refine ⟨⟨h.thrown, h.known, h.limit, h.commits, h.expected.append fun room connected hflags => ?_,
      ⟨covered, hc, hreceiver, ?_, hnone⟩, h.kept, h.covered⟩, List.prefix_rfl⟩
    · exact ⟨hflags.2.trans haccepted, hflags⟩
    · rw [hextent] at hsaid
      rw [updates_send (.received ⟨k, (x.list.take m).drop k⟩) rfl]
      exact hsaid
  | saySide =>
    refine ⟨⟨h.thrown, h.known, h.limit, h.commits, h.expected.append fun room connected hflags => ?_,
      ⟨covered, hc, hreceiver, ?_, hnone⟩, h.kept, h.covered⟩, List.prefix_rfl⟩
    · exact ⟨hflags.2.trans he, hflags⟩
    · rw [updates_send .side rfl, ServerMessage.updates, List.append_nil]
      · exact horder
      · nofun
  | deliver text =>
    obtain ⟨hfits, values, hparse, hlen, htold⟩ := he
    obtain ⟨commands, s', hloop, hsound, hgrows⟩ := h.hearAll law htold
    have hreceive : c.receive x.client text = (.ok commands, s') := by
      rw [law.receive, receiveBatch, parseBounded, if_neg (Nat.not_lt.mpr hfits), hparse]
      dsimp only [orProtocol, pure, Except.pure]
      rw [if_neg (Nat.not_lt.mpr hlen), hloop]
    have hbatch : batchOf pf text = values := by rw [batchOf, hparse]
    have hstep : x.step pf c (.deliver text) = { x with
        client := s', flight := x.flight.drop values.length
        heard := x.heard ++ (x.flight.take values.length).flatMap (·.updates) } := by
      rw [Room.step, hreceive, hbatch]
      dsimp only [thrownBy]
      rw [List.append_nil]
    rw [hstep]
    exact ⟨hsound, hgrows⟩
  | disconnect =>
    have hview : ∀ y : Room σ, y.client = c.disconnect x.client → y.seen c = (x.seen c).disconnect :=
      fun y hy => by rw [seen, hy, law.disconnect, seen]
    have hseen := hview (x.step pf c .disconnect) rfl
    refine ⟨⟨h.thrown, h.known, h.limit, law.kept _ _ h.commits, ?_, ⟨0, Nat.zero_le _, ?_, ?_,
      fun _ => rfl⟩, ?_, ?_⟩, ?_⟩
    all_goals rw [hseen]
    · exact ⟨rfl, rfl⟩
    · exact ⟨hreceiver.pre, nofun⟩
    · rfl
    · exact le_rfl
    · nofun
    · exact List.prefix_rfl
  | observe w =>
    obtain ⟨s', hobserve, hview, hcommits⟩ := law.observed _ _ x.list he h.prefix h.commits
    have hstep : x.step pf c (.observe w) = { x with client := s' } := by
      rw [Room.step, hobserve]
      dsimp only [thrownBy]
      rw [List.append_nil]
    have hseen : Room.seen c { x with client := s' } = x.seen c := hview
    rw [hstep]
    refine ⟨⟨h.thrown, h.known, h.limit, hcommits, ?_, ⟨covered, hc, ?_, ?_, ?_⟩, ?_, ?_⟩, ?_⟩
    all_goals rw [hseen]
    · exact h.expected
    · exact hreceiver
    · exact horder
    · exact hnone
    · exact h.kept
    · exact h.covered

/-- **Every run of an honest server and a working disk.** -/
theorem sound_run (law : c.Lawful pf known) (h : x.Sound known c) {es : List (RoomEvent ω)}
    (hes : Run.Along (Room.step pf c) (fun x e => e.Honest pf known c x) x es) :
    Sound known c (Run.run (Room.step pf c) x es)
      ∧ (x.seen c).durable <+: ((Run.run (Room.step pf c) x es).seen c).durable := by
  refine Run.invariant (I := fun y => Sound known c y ∧ (x.seen c).durable <+: (y.seen c).durable)
    (fun y e he hy => ?_) ⟨h, List.prefix_rfl⟩ hes
  obtain ⟨hsound, hgrows⟩ := hy.1.step law e he
  exact ⟨hsound, hy.2.trans hgrows⟩

/-- What is promised of a client in every reached room. -/
structure Converged (c : RoomClient σ ω) (x : Room σ) : Prop where
  /-- No error, so none of the protocol, was ever thrown. -/
  thrown : x.thrown = []
  /-- What is durable is a prefix of the server's list: no gap, no duplicate. -/
  durable : (x.seen c).durable <+: x.list
  /-- Ready is who heard the whole list, or had nothing durable. -/
  ready : (x.seen c).ready = true → x.Covered

theorem Sound.converged (h : x.Sound known c) : x.Converged c where
  thrown := h.thrown
  durable := h.prefix
  ready hready := h.covered (Bool.and_eq_true_iff.mp hready).2

end Room

/-- A client before its first connection. -/
structure RoomClient.Fresh {σ ω : Type} (c : RoomClient σ ω) (known : Item → Prop) (s : σ)
    (list : List Item) : Prop where
  room : (c.view s).room = false
  connected : (c.view s).connected = false
  synced : (c.view s).receiver.synced = false
  durable : (c.view s).durable <+: list
  known : ∀ item ∈ list, known item
  limit : list.length ≤ itemLimit
  commits : c.commits s list

/-- A room before the first connection. -/
def RoomClient.start {σ ω : Type} (c : RoomClient σ ω) (s : σ) (list : List Item) : Room σ where
  list := list
  client := s
  kept := (c.view s).durable.length

theorem RoomClient.Fresh.sound {σ ω : Type} {known : Item → Prop} {c : RoomClient σ ω} {s : σ}
    {list : List Item} (h : c.Fresh known s list) : (c.start s list).Sound known c where
  thrown := rfl
  known := h.known
  limit := h.limit
  commits := h.commits
  expected := ⟨h.room, h.connected⟩
  underway := ⟨0, Nat.zero_le _, ⟨h.durable, fun _ => Nat.zero_le _⟩, rfl, fun _ => rfl⟩
  kept := le_rfl
  covered hsynced := absurd (h.synced.symm.trans hsynced) nofun

end Dk64Port.Archipelago
