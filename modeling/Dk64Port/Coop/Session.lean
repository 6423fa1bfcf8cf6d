import Dk64Port.Coop.CombatSync
import Dk64Port.Coop.ItemNet
import Dk64Port.Coop.Protocol
import Dk64Port.Coop.WorldNet

/-!
# One endpoint (`native/session.cpp`)

A session binds a socket, finds its peer by greetings, and then hands every payload of a datagram to
the caches and machines of the other modules. `outbox` keeps every datagram handed to the socket.
Numbers from `random_device` come from a stream `entropy`, of which `drawn` were used.

* `Session.start`, `Session.stop`, `Session.setAuthority`, `Session.tick`: the calls of the source.
* `Turn.hear`: the body of the receive loop for one datagram.
* `tickActs_run`: a tick is a run of the smaller acts the invariants are proved for.
-/

namespace Dk64Port.Coop

/-- `Role`. -/
inductive Role
  | off
  | host
  | join
deriving DecidableEq, Repr

/-- `Status`. -/
inductive Status
  | off
  | listening
  | connecting
  | connected
  | error
  | busy
deriving DecidableEq, Repr

/-- `sockaddr_in`. -/
structure Endpoint where
  ip : Word := 0
  port : BitVec 16 := 0
deriving DecidableEq, Repr

/-- `Config`; `hostIp` is what `inet_pton` makes of `host_ip`. -/
structure Config where
  role : Role := .off
  hostIp : Option Word := none
  port : BitVec 16 := 6464
  room : Word := 123456
  authorityTerm : Word64 := 0
  authorityNode : Word64 := 0

/-- `Session::Impl`. -/
structure Session where
  /-- `socket != invalid_socket`. -/
  isOpen : Bool := false
  config : Config := {}
  status : Status := .off
  peer : Endpoint := {}
  destination : Endpoint := {}
  discoveryTargets : List Endpoint := []
  hasPeer : Bool := false
  receivedSequence : Bool := false
  yielded : Bool := false
  session : Word64 := 0
  nonce : Word64 := 0
  lastReceive : Word64 := 0
  lastState : Word64 := 0
  lastSend : Word64 := 0
  lastHello : Word64 := 0
  lastAuthority : Word64 := 0
  sendSequence : Word := 0
  receiveSequence : Word := 0
  itemPageTurn : Word := 0
  combatPageTurn : Word := 0
  localPlayer : State := {}
  remote : State := {}
  remoteProgress : ProgressWire := {}
  localProgress : ProgressInput := {}
  /-- `remote_items` and `item_page_time`. -/
  remoteItems : ItemCache := {}
  localItems : CoopItemInput := {}
  localWorld : CoopWorldInput := {}
  remoteWorld : WorldWire := {}
  worldSync : WorldSync := {}
  localTransient : CoopTransientInput := {}
  remoteTransient : TransientWire := {}
  transientSync : TransientSync := {}
  remoteCombat : CoopCombatFrame := {}
  combatSync : CombatSync := {}
  /-- Random numbers used so far. -/
  drawn : Nat := 0
  /-- Every datagram handed to the socket. -/
  outbox : List (Endpoint × Packet) := []

/-- `heartbeat_ms`. -/
def heartbeatMs : Word64 := 50

/-- `retry_ms`. -/
def retryMs : Word64 := 500

/-- `timeout_ms`. -/
def timeoutMs : Word64 := 3000

/-- What the game hands to one tick. -/
structure TickInput where
  player : State := {}
  progress : ProgressInput := {}
  combat : CoopCombatFrame := {}
  items : CoopItemInput := {}
  world : CoopWorldInput := {}
  transient : CoopTransientInput := {}

/-- What the system answers to one `start`: whether every socket call succeeds, and the broadcast
addresses. -/
structure Opening where
  opens : Bool := true
  targets : List Endpoint := []

/-- `random_id`: never zero. -/
def randomId (entropy : Nat → Word64) (s : Session) : Word64 :=
  if entropy s.drawn = 0 then 1 else entropy s.drawn

/-- `config.role == Role::host`. -/
def Session.isHost (s : Session) : Bool := decide (s.config.role = .host)

/-- `status == Status::connected`. -/
def Session.connected (s : Session) : Bool := decide (s.status = .connected)

/-- `now - last_state <= stale_ms`. -/
def Session.fresh (s : Session) (now : Word64) : Bool := decide (now - s.lastState ≤ staleMs)

/-! ## Sending -/

/-- The payloads of a state packet, from the packet with its header. -/
def Session.fillState (s : Session) (p : Packet) : Packet :=
  let combat := s.combatSync.outgoing
  let items := itemsWire s.isHost s.localItems s.remoteItems.items s.connected s.session
  { p with
    progress := progressWire s.isHost s.localProgress s.remoteProgress s.connected s.session
    combat :=
      if combat.enabled ≠ 0 ∧ combat.pages ≠ 0 then
        s.combatSync.wire ((s.combatPageTurn / 2) % combat.pages)
      else {}
    items := items.onWirePage ((s.itemPageTurn / 2) % 8)
    world := worldPayload s.worldSync.outgoing items
    transient := s.transientSync.outgoing }

/-- The header of a packet; `reply` stands in for the nonce of the session. -/
def Session.packet (s : Session) (kind : Kind) (player : State) (reply : Word64) : Packet :=
  let nonce := if reply ≠ 0 then reply else s.nonce
  { kind := kind
    sequence := s.sendSequence + 1
    session := if kind.sessionless then 0 else s.session
    nonce := nonce
    room := s.config.room
    player := player
    authorityTerm := s.config.authorityTerm
    authorityNode := if s.config.authorityNode ≠ 0 then s.config.authorityNode else s.nonce }

/-- The page turns a state packet uses up. -/
def Session.turnPages (s : Session) (p : Packet) : Session :=
  let combat := s.combatSync.outgoing
  { s with
    combatPageTurn :=
      if combat.enabled ≠ 0 ∧ combat.pages ≠ 0 then s.combatPageTurn + 1 else s.combatPageTurn
    itemPageTurn := if p.items.ready ≠ 0 then s.itemPageTurn + 1 else s.itemPageTurn }

/-- `send`. -/
def Session.send (s : Session) (kind : Kind) (target : Endpoint) (player : State)
    (reply : Word64) : Session :=
  let p := s.packet kind player reply
  let p := if kind = .state then s.fillState p else p
  let s' := if kind = .state then s.turnPages p else s
  { s' with sendSequence := s.sendSequence + 1, outbox := s.outbox ++ [(target, p)] }

/-- One packet to every target. -/
def Session.sendAll (s : Session) (kind : Kind) (targets : List Endpoint) : Session :=
  targets.foldl (fun s target => s.send kind target {} 0) s

/-! ## Start and stop -/

/-- The snapshots of the peer are dropped. -/
def Session.dropRemote (s : Session) : Session :=
  { s with
    receivedSequence := false
    remote := {}
    remoteItems := {}
    remoteWorld := {}
    worldSync := {}
    remoteTransient := {}
    transientSync := {}
    remoteCombat := {}
    combatSync := {} }

/-- `clear_peer`. -/
def Session.clearPeer (entropy : Nat → Word64) (now : Word64) (s : Session) : Session :=
  let s' : Session :=
    { s.dropRemote with
      hasPeer := false
      session := 0
      remoteProgress := {}
      localTransient := {}
      lastReceive := now
      lastState := now
      status := if s.config.role = .host then .listening else .connecting }
  if s.config.role = .join then { s' with nonce := randomId entropy s, drawn := s.drawn + 1 } else s'

/-- `stop`. -/
def Session.stop (s : Session) : Session :=
  let s : Session :=
    if s.isOpen ∧ s.hasPeer ∧ s.session ≠ 0 then s.send .bye s.peer {} 0 else s
  { s with
    isOpen := false
    hasPeer := false
    remote := {}
    remoteProgress := {}
    localProgress := {}
    remoteItems := {}
    remoteWorld := {}
    worldSync := {}
    localItems := {}
    remoteCombat := {}
    combatSync := {}
    localWorld := {}
    localTransient := {}
    remoteTransient := {}
    transientSync := {}
    status := .off }

/-- A host without a node draws one. -/
def Session.drawNode (entropy : Nat → Word64) (s : Session) : Session :=
  if s.config.role = .host ∧ s.config.authorityNode = 0 then
    { s with config := { s.config with authorityNode := randomId entropy s }, drawn := s.drawn + 1 }
  else s

/-- `return fail(...)`. -/
def Session.fail (s : Session) : Session := { s.stop with status := .error }

/-- The address a join needs. -/
def Config.target (c : Config) : Option Word :=
  if c.port = 0 then none else c.hostIp.filter fun ip => ip ≠ 0 ∧ ip ≠ 0xFFFFFFFF

/-- The part of `start` behind the socket calls. -/
def Session.greet (entropy : Nat → Word64) (targets : List Endpoint) (now : Word64) (s : Session) :
    Session :=
  { s with
    discoveryTargets := targets
    nonce := randomId entropy s
    drawn := s.drawn + 1
    lastReceive := now
    lastState := now
    lastHello := if retryMs ≤ now then now - retryMs else 0
    status := if s.config.role = .host then .listening else .connecting }

/-- `Session::start`. -/
def Session.start (entropy : Nat → Word64) (os : Opening) (config : Config) (now : Word64)
    (s : Session) : Session :=
  let s := s.stop
  let s : Session := { config := config, drawn := s.drawn, outbox := s.outbox }
  if config.role = .off then s
  else if config.room < 100000 ∨ 999999 < config.room then s.fail
  else
    let s := s.drawNode entropy
    if ¬ os.opens then s.fail
    else
      let s : Session := { s with isOpen := true, destination := { port := config.port } }
      if config.role = .join then
        match config.target with
        | none => s.fail
        | some ip =>
          { s with destination := { ip := ip, port := config.port } }.greet entropy os.targets now
      else s.greet entropy os.targets now

/-- `set_authority`. -/
def Session.setAuthority (term node : Word64) (s : Session) : Session :=
  if s.config.role ≠ .host ∨ node = 0 then s
  else { s with config := { s.config with authorityTerm := term, authorityNode := node } }

/-! ## One tick -/

/-- `authority_target`, `authority_term` and `authority_node` of a host that yields. -/
structure Claim where
  source : Endpoint
  term : Word64
  node : Word64

/-- A tick under way. -/
structure Turn where
  state : Session
  /-- `yield_to_new_authority`. -/
  yieldTo : Option Claim := none

/-- The pairing of the enemies, before and after the receive loop. -/
def Session.pairCombat (input : TickInput) (now : Word64) (s : Session) : Session :=
  { s with
    combatSync := s.combatSync.update
      { host := s.isHost, player := s.localPlayer, input := input.combat, peer := s.remote
        remote := s.remoteCombat, fresh := s.connected && s.fresh now } }

/-- The inputs of the game that pass their checks. -/
def Session.takeInput (input : TickInput) (s : Session) : Session :=
  let player := if validState input.player then input.player else {}
  let progress := if validProgressInput input.progress then input.progress else {}
  let items := sanitizeItems input.items
  { s with
    localPlayer := player
    localProgress := if player.map ≠ japesMap then { progress with ready := 0 } else progress
    localItems := items
    localWorld :=
      if validWorldInput input.world ∧ items.enabled ≠ 0 ∧ input.world.file = items.file
        ∧ (input.world.ready = 0 ∨ items.ready ≠ 0) then input.world else {}
    localTransient := if validTransientInput input.transient then input.transient else {} }

/-- The tick up to the receive loop. -/
def Session.begin (entropy : Nat → Word64) (input : TickInput) (now : Word64) (s : Session) :
    Session :=
  let s := s.takeInput input
  let s := if s.hasPeer ∧ timeoutMs < now - s.lastReceive then s.clearPeer entropy now else s
  let s : Session := if s.fresh now then s else { s with remoteProgress := {} }
  s.pairCombat input now

/-- The claim of a packet may replace the one a joiner holds. -/
def Session.admits (s : Session) (p : Packet) : Bool :=
  decide (s.config.authorityNode = 0 ∨ s.config.authorityTerm < p.authorityTerm
    ∨ p.authorityTerm = s.config.authorityTerm ∧ p.authorityNode = s.config.authorityNode)
  || authorityNewer p.authorityTerm p.authorityNode s.config.authorityTerm s.config.authorityNode

/-- The pair of a packet is taken over. -/
def Session.adopt (s : Session) (p : Packet) : Session :=
  { s with
    config := { s.config with authorityTerm := p.authorityTerm, authorityNode := p.authorityNode } }

/-- An `authority` datagram. -/
def Turn.hearAuthority (entropy : Nat → Word64) (now : Word64) (t : Turn) (source : Endpoint)
    (p : Packet) : Turn :=
  let s := t.state
  if source.port ≠ s.config.port then t
  else if s.config.role = .host then
    if authorityNewer p.authorityTerm p.authorityNode s.config.authorityTerm
        s.config.authorityNode then
      { t with yieldTo := some { source := source, term := p.authorityTerm, node := p.authorityNode } }
    else if authorityNewer s.config.authorityTerm s.config.authorityNode p.authorityTerm
        p.authorityNode then
      { t with state := s.send .authority source {} 0 }
    else t
  else if ¬ s.hasPeer ∧ s.admits p then
    { t with state :=
        { s.adopt p with
          destination := source
          status := .connecting
          nonce := randomId entropy s
          drawn := s.drawn + 1
          lastHello := if retryMs ≤ now then now - retryMs else 0 } }
  else t

/-- A `hello` datagram at a host. A new join cannot evict the peer. -/
def Session.hearHello (entropy : Nat → Word64) (now : Word64) (s : Session) (source : Endpoint)
    (p : Packet) : Session :=
  let s : Session :=
    if s.hasPeer then s
    else
      { s.dropRemote with
        peer := source
        hasPeer := true
        session := randomId entropy s
        drawn := s.drawn + 1
        nonce := p.nonce
        lastReceive := now }
  if source = s.peer ∧ p.nonce = s.nonce then s.send .welcome source {} 0
  else s.send .busy source {} p.nonce

/-- A `welcome` datagram that a joiner waits for. -/
def Session.hearWelcome (now : Word64) (s : Session) (source : Endpoint) (p : Packet) : Session :=
  let s : Session :=
    if s.hasPeer then s
    else
      { s.adopt p with
        session := p.session
        peer := source
        destination := source
        hasPeer := true
        status := .connected
        lastReceive := now
        receivedSequence := false }
  { s.send .state source s.localPlayer 0 with lastSend := now }

/-- The datagram is from the peer, within this session and under its authority. -/
def Session.credentials (s : Session) (source : Endpoint) (p : Packet) : Bool :=
  s.hasPeer && decide (source = s.peer ∧ p.session = s.session ∧ p.nonce = s.nonce
    ∧ p.authorityTerm = s.config.authorityTerm ∧ p.authorityNode = s.config.authorityNode)

/-- The datagram is ahead of the last one that was taken. -/
def Session.ahead (s : Session) (p : Packet) : Bool :=
  !s.receivedSequence || newer p.sequence s.receiveSequence

/-- A `state` datagram of the peer. -/
def Session.hearState (now : Word64) (s : Session) (p : Packet) : Session :=
  { s with
    receivedSequence := true
    receiveSequence := p.sequence
    lastReceive := now
    lastState := now
    remote := p.player
    remoteProgress := if p.player.map ≠ japesMap then {} else p.progress
    remoteItems := s.remoteItems.receive p.items now
    remoteCombat := p.combat
    remoteWorld := p.world
    remoteTransient := p.transient
    status := .connected }

/-- A `welcome` that a joiner takes. -/
def Session.welcomes (s : Session) (source : Endpoint) (p : Packet) : Bool :=
  decide (s.config.role = .join ∧ p.kind = .welcome ∧ source.port = s.config.port
    ∧ p.nonce = s.nonce ∧ (s.hasPeer = false ∨ p.session = s.session)) && s.admits p

/-- The receive loop on one packet of the room. -/
def Turn.hearPacket (entropy : Nat → Word64) (now : Word64) (t : Turn) (source : Endpoint)
    (p : Packet) : Turn :=
  let s := t.state
  if p.kind = .authority then t.hearAuthority entropy now source p
  else if s.config.role = .host ∧ p.kind = .hello then
    { t with state := s.hearHello entropy now source p }
  else if s.config.role = .join ∧ ¬ s.hasPeer ∧ p.kind = .busy ∧ source.port = s.config.port
      ∧ p.nonce = s.nonce then
    { t with state := { s with status := .busy } }
  else if s.welcomes source p then { t with state := s.hearWelcome now source p }
  else if ¬ s.credentials source p ∨ (p.kind ≠ .state ∧ p.kind ≠ .bye) ∨ ¬ s.ahead p then t
  else if p.kind = .bye then { t with state := s.clearPeer entropy now }
  else { t with state := s.hearState now p }

/-- The receive loop on one datagram. -/
def Turn.hear (entropy : Nat → Word64) (now : Word64) (t : Turn) (source : Endpoint)
    (bytes : List ByteLayout.Byte) : Turn :=
  match decode bytes with
  | none => t
  | some p => if p.room ≠ t.state.config.room then t else t.hearPacket entropy now source p

/-- `Session::items`. -/
def Session.itemResult (s : Session) (now : Word64) : CoopItemResult :=
  itemsResult s.isHost s.localItems s.remoteItems.items s.connected
    (s.remoteItems.fresh now && s.fresh now) s.session

/-- The world and the room. -/
def Session.updateWorld (now : Word64) (s : Session) : Session :=
  let status := (s.itemResult now).status
  { s with
    worldSync := s.worldSync.update s.isHost s.localWorld s.remoteWorld s.connected (s.fresh now)
      (decide (status = 2 ∨ status = 3)) s.session
    transientSync := s.transientSync.update
      { host := s.isHost, player := s.localPlayer, input := s.localTransient, peer := s.remote
        remote := s.remoteTransient, connected := s.connected, fresh := s.fresh now
        session := s.session } }

/-- A joiner without a peer greets its host, and everyone. -/
def Session.sendHello (now : Word64) (s : Session) : Session :=
  if s.config.role = .join ∧ ¬ s.hasPeer ∧ retryMs ≤ now - s.lastHello then
    let s := { s.send .hello s.destination {} 0 with lastHello := now }
    s.sendAll .hello (s.discoveryTargets.filter fun target => s.destination ≠ target)
  else s

/-- A host without a peer announces itself. -/
def Session.sendAuthority (now : Word64) (s : Session) : Session :=
  if s.config.role = .host ∧ ¬ s.hasPeer ∧ retryMs ≤ now - s.lastAuthority then
    { s.sendAll .authority s.discoveryTargets with lastAuthority := now }
  else s

/-- The state packet of a tick. -/
def Session.sendState (now : Word64) (s : Session) : Session :=
  if s.connected ∧ heartbeatMs ≤ now - s.lastSend then
    { s.send .state s.peer s.localPlayer 0 with lastSend := now }
  else s

/-- The host becomes a follower of the claim. -/
def Session.yieldTo (entropy : Nat → Word64) (os : Opening) (claim : Claim) (now : Word64)
    (s : Session) : Session :=
  let follower : Config :=
    { s.config with
      role := .join, hostIp := some claim.source.ip, authorityTerm := claim.term
      authorityNode := claim.node }
  let s := s.start entropy os follower now
  { s with yielded := s.isOpen }

/-- The tick behind the receive loop. -/
def Turn.finish (entropy : Nat → Word64) (os : Opening) (input : TickInput) (now : Word64)
    (t : Turn) : Session :=
  let s := t.state.pairCombat input now
  match t.yieldTo with
  | some claim => s.yieldTo entropy os claim now
  | none => (((s.updateWorld now).sendHello now).sendAuthority now).sendState now

/-- The datagrams one tick takes at most. -/
abbrev receiveBudget : Nat := 32

/-- `Session::tick` with the datagrams `queue` in the socket. -/
def Session.tick (entropy : Nat → Word64) (os : Opening) (input : TickInput) (now : Word64)
    (queue : List (Endpoint × List ByteLayout.Byte)) (s : Session) : Session :=
  if s.isOpen then
    let t : Turn := { state := s.begin entropy input now }
    ((queue.take receiveBudget).foldl (fun t d => t.hear entropy now d.1 d.2) t).finish entropy os
      input now
  else s

end Dk64Port.Coop
