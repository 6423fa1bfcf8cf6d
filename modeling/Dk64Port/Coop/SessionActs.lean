import Dk64Port.Coop.Session
import Dk64Port.Lib.Run

/-!
# A session in small steps

One tick takes up to 32 datagrams. The invariants of a session are about what happens between two of
them, so a tick is cut into acts: it begins, hears datagrams one by one, and finishes. The other
calls are one act each. An act that the calls of the source cannot make does nothing.

* `tick_run`: **a tick is the run of its acts.**
* `finish_untouched`, `begin_cases`, `hear_cases`: what each act can do.
-/

namespace Dk64Port.Coop

/-- The acts of a session. -/
inductive Act where
  | start (os : Opening) (config : Config) (now : Word64)
  | stop
  | setAuthority (term node : Word64)
  | begin (input : TickInput) (now : Word64)
  | hear (source : Endpoint) (bytes : List ByteLayout.Byte)
  | finish (os : Opening)

/-- A tick under way, with its arguments and the datagrams it may still take. -/
structure Loop where
  input : TickInput
  now : Word64
  budget : Nat
  yieldTo : Option Claim

/-- A session, between two calls or within a tick. -/
structure Machine where
  state : Session := {}
  loop : Option Loop := none

/-- One act. -/
def Machine.step (entropy : Nat → Word64) (m : Machine) (a : Act) : Machine :=
  match m.loop, a with
  | none, .start os config now => { m with state := m.state.start entropy os config now }
  | none, .stop => { m with state := m.state.stop }
  | none, .setAuthority term node => { m with state := m.state.setAuthority term node }
  | none, .begin input now =>
    if m.state.isOpen then
      { state := m.state.begin entropy input now
        loop := some { input := input, now := now, budget := receiveBudget, yieldTo := none } }
    else m
  | some l, .hear source bytes =>
    if l.budget = 0 then m
    else
      let t : Turn := { state := m.state, yieldTo := l.yieldTo }
      let t := t.hear entropy l.now source bytes
      { state := t.state, loop := some { l with budget := l.budget - 1, yieldTo := t.yieldTo } }
  | some l, .finish os =>
    let t : Turn := { state := m.state, yieldTo := l.yieldTo }
    { state := t.finish entropy os l.input l.now }
  | _, _ => m

/-- The acts of one tick. -/
def tickActs (os : Opening) (input : TickInput) (now : Word64)
    (queue : List (Endpoint × List ByteLayout.Byte)) : List Act :=
  .begin input now :: (queue.take receiveBudget).map (fun d => .hear d.1 d.2) ++ [.finish os]

variable {entropy : Nat → Word64} {s : Session} {m : Machine} {t : Turn} {now : Word64}

theorem hear_run (entropy : Nat → Word64) (l : Loop)
    (queue : List (Endpoint × List ByteLayout.Byte)) (t : Turn) (h : queue.length ≤ l.budget) :
    Run.run (Machine.step entropy)
        { state := t.state, loop := some { l with yieldTo := t.yieldTo } }
        (queue.map fun d => .hear d.1 d.2)
      = { state := (queue.foldl (fun t d => t.hear entropy l.now d.1 d.2) t).state
          loop := some
            { l with
              budget := l.budget - queue.length
              yieldTo := (queue.foldl (fun t d => t.hear entropy l.now d.1 d.2) t).yieldTo } } := by
  induction queue generalizing l t with
  | nil => rfl
  | cons d queue ih =>
    rw [List.length_cons] at h
    have hb : ¬ l.budget = 0 := by omega
    rw [List.map_cons, Run.run_cons, List.foldl_cons]
    have hstep : Machine.step entropy
        { state := t.state, loop := some { l with yieldTo := t.yieldTo } } (.hear d.1 d.2)
          = { state := (t.hear entropy l.now d.1 d.2).state
              loop := some { ({ l with budget := l.budget - 1 } : Loop) with
                yieldTo := (t.hear entropy l.now d.1 d.2).yieldTo } } := if_neg hb
    rw [hstep, ih { l with budget := l.budget - 1 } (t.hear entropy l.now d.1 d.2)
      (by dsimp only; omega)]
    have hsub : l.budget - 1 - queue.length = l.budget - (queue.length + 1) := by omega
    dsimp only
    rw [hsub, List.length_cons]

/-- **A tick is the run of its acts.** -/
theorem tick_run (hopen : s.isOpen = true) (os : Opening) (input : TickInput)
    (queue : List (Endpoint × List ByteLayout.Byte)) :
    Run.run (Machine.step entropy) { state := s } (tickActs os input now queue)
      = { state := s.tick entropy os input now queue } := by
  have hlen : (queue.take receiveBudget).length ≤ receiveBudget := List.length_take_le _ _
  have hbegin : Machine.step entropy { state := s } (.begin input now)
      = { state := s.begin entropy input now
          loop := some { input := input, now := now, budget := receiveBudget, yieldTo := none } } :=
    if_pos hopen
  rw [tickActs, List.cons_append, Run.run_cons, hbegin, Run.run_append]
  have hrun := hear_run entropy
    { input := input, now := now, budget := receiveBudget, yieldTo := none }
    (queue.take receiveBudget) { state := s.begin entropy input now } hlen
  dsimp only at hrun
  rw [hrun, Session.tick, if_pos hopen]
  rfl

/-! ## What sending leaves alone -/

/-- The peer, the pair of the authority and the snapshots are the same. -/
structure Untouched (s s' : Session) : Prop where
  isOpen : s'.isOpen = s.isOpen
  config : s'.config = s.config
  peer : s'.peer = s.peer
  destination : s'.destination = s.destination
  hasPeer : s'.hasPeer = s.hasPeer
  session : s'.session = s.session
  nonce : s'.nonce = s.nonce
  receivedSequence : s'.receivedSequence = s.receivedSequence
  receiveSequence : s'.receiveSequence = s.receiveSequence
  remote : s'.remote = s.remote
  remoteItems : s'.remoteItems = s.remoteItems
  remoteWorld : s'.remoteWorld = s.remoteWorld
  remoteCombat : s'.remoteCombat = s.remoteCombat
  remoteTransient : s'.remoteTransient = s.remoteTransient

theorem Untouched.refl (s : Session) : Untouched s s :=
  ⟨rfl, rfl, rfl, rfl, rfl, rfl, rfl, rfl, rfl, rfl, rfl, rfl, rfl, rfl⟩

theorem Untouched.trans {s s' s'' : Session} (h : Untouched s s') (h' : Untouched s' s'') :
    Untouched s s'' where
  isOpen := h'.isOpen.trans h.isOpen
  config := h'.config.trans h.config
  peer := h'.peer.trans h.peer
  destination := h'.destination.trans h.destination
  hasPeer := h'.hasPeer.trans h.hasPeer
  session := h'.session.trans h.session
  nonce := h'.nonce.trans h.nonce
  receivedSequence := h'.receivedSequence.trans h.receivedSequence
  receiveSequence := h'.receiveSequence.trans h.receiveSequence
  remote := h'.remote.trans h.remote
  remoteItems := h'.remoteItems.trans h.remoteItems
  remoteWorld := h'.remoteWorld.trans h.remoteWorld
  remoteCombat := h'.remoteCombat.trans h.remoteCombat
  remoteTransient := h'.remoteTransient.trans h.remoteTransient

/-- The times of the last datagrams sent are not among them. -/
theorem Untouched.withTimes {s s' : Session} (h : Untouched s s') (send hello authority : Word64) :
    Untouched s
      { s' with lastSend := send, lastHello := hello, lastAuthority := authority } := by
  obtain ⟨⟩ := h
  constructor <;> assumption

theorem send_untouched (s : Session) (kind : Kind) (target : Endpoint) (player : State)
    (reply : Word64) : Untouched s (s.send kind target player reply) := by
  unfold Session.send
  dsimp only
  split <;> constructor <;> rfl

theorem sendAll_untouched (kind : Kind) (targets : List Endpoint) (s : Session) :
    Untouched s (s.sendAll kind targets) := by
  induction targets generalizing s with
  | nil => exact Untouched.refl s
  | cons target targets ih => exact (send_untouched s kind target {} 0).trans (ih _)

theorem takeInput_untouched (input : TickInput) (s : Session) : Untouched s (s.takeInput input) := by
  constructor <;> rfl

theorem pairCombat_untouched (input : TickInput) (now : Word64) (s : Session) :
    Untouched s (s.pairCombat input now) := by
  constructor <;> rfl

theorem updateWorld_untouched (now : Word64) (s : Session) : Untouched s (s.updateWorld now) := by
  constructor <;> rfl

theorem sendHello_untouched (now : Word64) (s : Session) : Untouched s (s.sendHello now) := by
  unfold Session.sendHello
  split
  · have hsend : Untouched s { s.send .hello s.destination {} 0 with lastHello := now } :=
      (send_untouched s .hello s.destination {} 0).withTimes _ now _
    exact hsend.trans (sendAll_untouched _ _ _)
  · exact Untouched.refl s

theorem sendAuthority_untouched (now : Word64) (s : Session) :
    Untouched s (s.sendAuthority now) := by
  unfold Session.sendAuthority
  split
  · exact (sendAll_untouched .authority s.discoveryTargets s).withTimes _ _ now
  · exact Untouched.refl s

theorem sendState_untouched (now : Word64) (s : Session) : Untouched s (s.sendState now) := by
  unfold Session.sendState
  split
  · exact (send_untouched s .state s.peer s.localPlayer 0).withTimes now _ _
  · exact Untouched.refl s

/-- A tick without a claim to yield to ends quietly. -/
theorem finish_untouched (os : Opening) (input : TickInput) (h : t.yieldTo = none) :
    Untouched t.state (t.finish entropy os input now) := by
  unfold Turn.finish
  dsimp only
  rw [h]
  have hpair := pairCombat_untouched input now t.state
  have hworld := hpair.trans (updateWorld_untouched now _)
  have hhello := hworld.trans (sendHello_untouched now _)
  have hauthority := hhello.trans (sendAuthority_untouched now _)
  exact hauthority.trans (sendState_untouched now _)

/-! ## What a tick can do before it hears -/

/-- A tick begins quietly, or with a timeout. -/
theorem begin_cases (entropy : Nat → Word64) (input : TickInput) (now : Word64) (s : Session) :
    Untouched s (s.begin entropy input now)
    ∨ s.hasPeer = true ∧ timeoutMs < now - s.lastReceive
      ∧ Untouched ((s.takeInput input).clearPeer entropy now) (s.begin entropy input now) := by
  unfold Session.begin
  dsimp only
  have hfresh : ∀ s : Session, Untouched s
      (Session.pairCombat input now (if s.fresh now then s else { s with remoteProgress := {} })) := by
    intro s
    split <;> constructor <;> rfl
  by_cases h : (s.takeInput input).hasPeer = true ∧ timeoutMs < now - (s.takeInput input).lastReceive
  · rw [if_pos h]
    exact .inr ⟨h.1, h.2, hfresh _⟩
  · rw [if_neg h]
    exact .inl ((takeInput_untouched input s).trans (hfresh _))

/-! ## What one datagram can do -/

/-- **The outcomes of one datagram**, each with the turn it leads to. -/
inductive Hearing (entropy : Nat → Word64) (now : Word64) (t : Turn) (source : Endpoint)
    (bytes : List ByteLayout.Byte) : Turn → Prop
  /-- It is dropped. -/
  | dropped : Hearing entropy now t source bytes t
  /-- A host hears a newer claim. -/
  | claimed (p : Packet) (decoded : decode bytes = some p) (kind : p.kind = .authority)
      (port : source.port = t.state.config.port) (host : t.state.config.role = .host)
      (newer : authorityNewer p.authorityTerm p.authorityNode t.state.config.authorityTerm
        t.state.config.authorityNode = true) :
      Hearing entropy now t source bytes { t with
        yieldTo := some { source := source, term := p.authorityTerm, node := p.authorityNode } }
  /-- A host answers an older claim. -/
  | answered (host : t.state.config.role = .host) :
      Hearing entropy now t source bytes { t with state := t.state.send .authority source {} 0 }
  /-- A joiner without a peer turns to another host. -/
  | redirected (p : Packet) (decoded : decode bytes = some p) (kind : p.kind = .authority)
      (follower : t.state.config.role ≠ .host) (alone : t.state.hasPeer = false)
      (admitted : t.state.admits p = true) :
      Hearing entropy now t source bytes { t with
        state := { t.state.adopt p with
          destination := source
          status := .connecting
          nonce := randomId entropy t.state
          drawn := t.state.drawn + 1
          lastHello := if retryMs ≤ now then now - retryMs else 0 } }
  /-- A host hears a greeting. -/
  | greeted (p : Packet) (host : t.state.config.role = .host) :
      Hearing entropy now t source bytes { t with state := t.state.hearHello entropy now source p }
  /-- A joiner without a peer is told to wait. -/
  | refused (alone : t.state.hasPeer = false) :
      Hearing entropy now t source bytes { t with state := { t.state with status := .busy } }
  /-- A joiner is welcomed. -/
  | welcomed (p : Packet) (decoded : decode bytes = some p)
      (welcome : t.state.welcomes source p = true) :
      Hearing entropy now t source bytes { t with state := t.state.hearWelcome now source p }
  /-- The peer leaves. -/
  | left (p : Packet) (decoded : decode bytes = some p) (kind : p.kind = .bye)
      (credentials : t.state.credentials source p = true) (ahead : t.state.ahead p = true) :
      Hearing entropy now t source bytes { t with state := t.state.clearPeer entropy now }
  /-- The state of the peer is taken. -/
  | taken (p : Packet) (decoded : decode bytes = some p) (kind : p.kind = .state)
      (credentials : t.state.credentials source p = true) (ahead : t.state.ahead p = true) :
      Hearing entropy now t source bytes { t with state := t.state.hearState now p }

theorem hearAuthority_cases {p : Packet} {source : Endpoint} {bytes : List ByteLayout.Byte}
    (hp : decode bytes = some p) (hkind : p.kind = .authority) :
    Hearing entropy now t source bytes (t.hearAuthority entropy now source p) := by
  unfold Turn.hearAuthority
  dsimp only
  by_cases hport : source.port ≠ t.state.config.port
  · rw [if_pos hport]
    exact .dropped
  rw [if_neg hport]
  by_cases hhost : t.state.config.role = .host
  · rw [if_pos hhost]
    by_cases hnew : authorityNewer p.authorityTerm p.authorityNode t.state.config.authorityTerm
        t.state.config.authorityNode = true
    · rw [if_pos hnew]
      exact .claimed p hp hkind (not_not.mp hport) hhost hnew
    rw [if_neg hnew]
    split
    · exact .answered hhost
    · exact .dropped
  · rw [if_neg hhost]
    by_cases halone : ¬ t.state.hasPeer = true ∧ t.state.admits p = true
    · rw [if_pos halone]
      exact .redirected p hp hkind hhost (Bool.eq_false_iff.mpr halone.1) halone.2
    · rw [if_neg halone]
      exact .dropped

theorem hear_cases (entropy : Nat → Word64) (now : Word64) (t : Turn) (source : Endpoint)
    (bytes : List ByteLayout.Byte) :
    Hearing entropy now t source bytes (t.hear entropy now source bytes) := by
  unfold Turn.hear
  cases hp : decode bytes with
  | none => exact .dropped
  | some p =>
    dsimp only
    by_cases hroom : p.room ≠ t.state.config.room
    · rw [if_pos hroom]
      exact .dropped
    rw [if_neg hroom]
    unfold Turn.hearPacket
    dsimp only
    by_cases hauthority : p.kind = .authority
    · rw [if_pos hauthority]
      exact hearAuthority_cases hp hauthority
    rw [if_neg hauthority]
    by_cases hhello : t.state.config.role = .host ∧ p.kind = .hello
    · rw [if_pos hhello]
      exact .greeted p hhello.1
    rw [if_neg hhello]
    by_cases hbusy : t.state.config.role = .join ∧ ¬ t.state.hasPeer = true ∧ p.kind = .busy
        ∧ source.port = t.state.config.port ∧ p.nonce = t.state.nonce
    · rw [if_pos hbusy]
      exact .refused (Bool.eq_false_iff.mpr hbusy.2.1)
    rw [if_neg hbusy]
    by_cases hwelcome : t.state.welcomes source p = true
    · rw [if_pos hwelcome]
      exact .welcomed p hp hwelcome
    rw [if_neg hwelcome]
    by_cases hother : ¬ t.state.credentials source p = true ∨ (p.kind ≠ .state ∧ p.kind ≠ .bye)
        ∨ ¬ t.state.ahead p = true
    · rw [if_pos hother]
      exact .dropped
    rw [if_neg hother]
    rw [not_or, not_or, not_not, not_not, not_and_or, not_not, not_not] at hother
    obtain ⟨hcred, hkind, hahead⟩ := hother
    by_cases hbye : p.kind = .bye
    · rw [if_pos hbye]
      exact .left p hp hbye hcred hahead
    · rw [if_neg hbye]
      exact .taken p hp (hkind.resolve_right hbye) hcred hahead

end Dk64Port.Coop
