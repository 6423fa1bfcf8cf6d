import Dk64Port.Coop.RoundTrip
import Dk64Port.Coop.SessionActs

/-!
# Who may change a session

A session with a peer belongs to that peer: nobody else can end it, and what it holds of the peer
comes from the peer's own datagrams in this session, each ahead of the one before. The getters
(`Session::remote`, `items`, `world`, `combat`, `transient`) derive what they return from that, the
local state and the time.

* `step_owned`: what one act can do to a session with a peer.
* `session_ownership`: **the peer and the snapshots over all runs.**
* `sequence_gap_replayed`: sequences are compared with the last one only.
-/

namespace Dk64Port.Coop

variable {entropy : Nat → Word64} {s s' : Session} {m : Machine} {a b : Act} {t : Turn}
  {now : Word64} {source : Endpoint} {bytes : List ByteLayout.Byte} {p q : Packet}

/-- Peer, session and nonce. -/
def Session.owner (s : Session) : Endpoint × Word64 × Word64 := (s.peer, s.session, s.nonce)

/-- What is held of the peer: the fields that the getters of a session read. -/
def Session.snapshots (s : Session) :
    State × ItemCache × WorldWire × CoopCombatFrame × TransientWire :=
  (s.remote, s.remoteItems, s.remoteWorld, s.remoteCombat, s.remoteTransient)

/-- The acts that may take the peer away. -/
inductive Released (m : Machine) : Act → Prop
  /-- Nothing was heard for 3000 ms. -/
  | timeout (input : TickInput) (now : Word64) (idle : m.loop = none)
      (silent : timeoutMs < now - m.state.lastReceive) : Released m (.begin input now)
  /-- The peer says that it leaves. -/
  | bye (source : Endpoint) (bytes : List ByteLayout.Byte) (p : Packet)
      (decoded : decode bytes = some p) (kind : p.kind = .bye)
      (credentials : m.state.credentials source p = true) (ahead : m.state.ahead p = true) :
      Released m (.hear source bytes)
  /-- A host yields to a newer claim. -/
  | yield (os : Opening) (l : Loop) (claim : Claim) (looping : m.loop = some l)
      (pending : l.yieldTo = some claim) (host : m.state.config.role = .host)
      (newer : authorityNewer claim.term claim.node m.state.config.authorityTerm
        m.state.config.authorityNode = true) : Released m (.finish os)
  | stop : Released m .stop
  | start (os : Opening) (config : Config) (now : Word64) : Released m (.start os config now)

/-- The act takes a state packet of the peer. -/
structure Takes (entropy : Nat → Word64) (m : Machine) (a : Act) (p : Packet) : Prop where
  heard : ∃ source bytes, a = .hear source bytes ∧ decode bytes = some p
    ∧ m.state.credentials source p = true
  kind : p.kind = .state
  ahead : m.state.ahead p = true
  result : ∃ now, (m.step entropy a).state = m.state.hearState now p

/-- The peer stays, and everything published of it. -/
structure Kept (s s' : Session) : Prop where
  hasPeer : s'.hasPeer = s.hasPeer
  owner : s'.owner = s.owner
  snapshots : s'.snapshots = s.snapshots
  sequence : s'.receivedSequence = s.receivedSequence ∧ s'.receiveSequence = s.receiveSequence

theorem Untouched.kept (h : Untouched s s') : Kept s s' where
  hasPeer := h.hasPeer
  owner := by rw [Session.owner, h.peer, h.session, h.nonce, Session.owner]
  snapshots := by
    rw [Session.snapshots, h.remote, h.remoteItems, h.remoteWorld, h.remoteCombat,
      h.remoteTransient, Session.snapshots]
  sequence := ⟨h.receivedSequence, h.receiveSequence⟩

theorem Kept.refl (s : Session) : Kept s s := (Untouched.refl s).kept

/-! ## Pending claims -/

/-- A claim a tick will yield to is newer than the pair of the host. -/
def Pending (m : Machine) : Prop :=
  ∀ l claim, m.loop = some l → l.yieldTo = some claim →
    m.state.config.role = .host ∧ authorityNewer claim.term claim.node
      m.state.config.authorityTerm m.state.config.authorityNode = true

theorem hearHello_config (entropy : Nat → Word64) (now : Word64) (s : Session) (source : Endpoint)
    (p : Packet) : (s.hearHello entropy now source p).config = s.config := by
  unfold Session.hearHello
  dsimp only
  split <;> split <;> exact (send_untouched _ _ _ _ _).config

theorem clearPeer_config (entropy : Nat → Word64) (now : Word64) (s : Session) :
    (s.clearPeer entropy now).config = s.config := by
  unfold Session.clearPeer
  dsimp only
  split <;> rfl

/-- A host keeps its pair while it hears. -/
theorem Hearing.config_of_host {t' : Turn} (h : Hearing entropy now t source bytes t')
    (hhost : t.state.config.role = .host) : t'.state.config = t.state.config := by
  cases h with
  | dropped => rfl
  | claimed => rfl
  | answered => exact (send_untouched _ _ _ _ _).config
  | redirected p _ _ follower => exact absurd hhost follower
  | greeted p => exact hearHello_config _ _ _ _ _
  | refused => rfl
  | welcomed p _ welcome =>
    simp only [Session.welcomes, Bool.and_eq_true, decide_eq_true_eq] at welcome
    rw [hhost] at welcome
    exact absurd welcome.1.1 (by decide)
  | left => exact clearPeer_config _ _ _
  | taken => rfl

/-- A claim is pending only at a host, and is newer than its pair. -/
theorem Hearing.pending {t' : Turn} (h : Hearing entropy now t source bytes t')
    (ht : ∀ claim, t.yieldTo = some claim → t.state.config.role = .host
      ∧ authorityNewer claim.term claim.node t.state.config.authorityTerm
        t.state.config.authorityNode = true) (claim : Claim) (hc : t'.yieldTo = some claim) :
    t'.state.config.role = .host ∧ authorityNewer claim.term claim.node
      t'.state.config.authorityTerm t'.state.config.authorityNode = true := by
  have hold : t.yieldTo = some claim → t'.state.config.role = .host
      ∧ authorityNewer claim.term claim.node t'.state.config.authorityTerm
        t'.state.config.authorityNode = true := by
    intro h0
    obtain ⟨hhost, hnew⟩ := ht claim h0
    rw [h.config_of_host hhost]
    exact ⟨hhost, hnew⟩
  cases h with
  | claimed p decoded kind port host newer =>
    obtain rfl := Option.some.inj hc
    exact ⟨host, newer⟩
  | dropped => exact hold hc
  | answered => exact hold hc
  | redirected => exact hold hc
  | greeted => exact hold hc
  | refused => exact hold hc
  | welcomed => exact hold hc
  | left => exact hold hc
  | taken => exact hold hc

theorem pending_step (entropy : Nat → Word64) (h : Pending m) (a : Act) : Pending (m.step entropy a) := by
  obtain ⟨s, loop⟩ := m
  cases loop with
  | none =>
    cases a with
    | begin input now =>
      unfold Machine.step
      dsimp only
      split
      · intro l claim hl hc
        obtain rfl := Option.some.inj hl
        cases hc
      · exact h
    | start | stop | setAuthority | hear | finish => exact fun l claim hl => nomatch hl
  | some l =>
    cases a with
    | hear source bytes =>
      unfold Machine.step
      dsimp only
      split
      · exact h
      · intro l' claim hl hc
        obtain rfl := Option.some.inj hl
        have ht := hear_cases entropy l.now { state := s, yieldTo := l.yieldTo } source bytes
        exact ht.pending (fun claim hc => h l claim rfl hc) claim hc
    | finish os => exact fun l claim hl => nomatch hl
    | start | stop | setAuthority | begin => exact h

/-! ## One act -/

/-- **What one act can do to a session with a peer.** -/
theorem step_owned (entropy : Nat → Word64) (hpending : Pending m) (hpeer : m.state.hasPeer = true) (a : Act) :
    Released m a ∨ Kept m.state (m.step entropy a).state ∨ ∃ p, Takes entropy m a p := by
  obtain ⟨s, loop⟩ := m
  cases loop with
  | none =>
    cases a with
    | start os config now => exact .inl (.start os config now)
    | stop => exact .inl .stop
    | setAuthority term node =>
      refine .inr (.inl ?_)
      change Kept s (s.setAuthority term node)
      unfold Session.setAuthority
      split <;> exact ⟨rfl, rfl, rfl, rfl, rfl⟩
    | begin input now =>
      have hb := begin_cases entropy input now s
      unfold Machine.step
      dsimp only
      split
      · rcases hb with hb | ⟨-, hsilent, -⟩
        · exact .inr (.inl hb.kept)
        · exact .inl (.timeout input now rfl hsilent)
      · exact .inr (.inl (.refl s))
    | hear | finish => exact .inr (.inl (.refl s))
  | some l =>
    cases a with
    | hear source bytes =>
      by_cases hbudget : l.budget = 0
      · refine .inr (.inl ?_)
        unfold Machine.step
        dsimp only
        rw [if_pos hbudget]
        exact .refl s
      have hstep : (Machine.step entropy { state := s, loop := some l } (.hear source bytes)).state
          = (Turn.hear entropy l.now { state := s, yieldTo := l.yieldTo } source bytes).state := by
        unfold Machine.step
        dsimp only
        rw [if_neg hbudget]
      have hcases := hear_cases entropy l.now { state := s, yieldTo := l.yieldTo } source bytes
      generalize Turn.hear entropy l.now { state := s, yieldTo := l.yieldTo } source bytes = t'
        at hstep hcases
      cases hcases with
      | dropped => exact .inr (.inl (hstep ▸ .refl s))
      | claimed => exact .inr (.inl (hstep ▸ .refl s))
      | answered => exact .inr (.inl (hstep ▸ (send_untouched s _ _ _ _).kept))
      | redirected p _ _ _ alone => exact absurd hpeer (Bool.eq_false_iff.mp alone)
      | refused alone => exact absurd hpeer (Bool.eq_false_iff.mp alone)
      | greeted p =>
        refine .inr (.inl ?_)
        rw [hstep]
        change Kept s (s.hearHello entropy l.now source p)
        unfold Session.hearHello
        dsimp only
        rw [if_pos (show s.hasPeer = true from hpeer)]
        split <;> exact (send_untouched s _ _ _ _).kept
      | welcomed p =>
        refine .inr (.inl ?_)
        rw [hstep]
        change Kept s (s.hearWelcome l.now source p)
        unfold Session.hearWelcome
        dsimp only
        rw [if_pos (show s.hasPeer = true from hpeer)]
        exact ((send_untouched s .state source s.localPlayer 0).withTimes l.now _ _).kept
      | left p decoded kind credentials ahead =>
        exact .inl (.bye source bytes p decoded kind credentials ahead)
      | taken p decoded kind credentials ahead =>
        exact .inr (.inr ⟨p, ⟨source, bytes, rfl, decoded, credentials⟩, kind, ahead, l.now, hstep⟩)
    | finish os =>
      cases hyield : l.yieldTo with
      | none =>
        have ht : ({ state := s, yieldTo := l.yieldTo } : Turn).yieldTo = none := hyield
        exact .inr (.inl (finish_untouched os l.input ht).kept)
      | some claim =>
        obtain ⟨hhost, hnew⟩ := hpending l claim rfl hyield
        exact .inl (.yield os l claim rfl hyield hhost hnew)
    | start | stop | setAuthority | begin => exact .inr (.inl (.refl s))

/-! ## Runs -/

/-- Before the first call. -/
def Machine.fresh : Machine := {}

theorem pending_run (entropy : Nat → Word64) (acts : List Act) :
    Pending (Run.run (Machine.step entropy) Machine.fresh acts) :=
  Run.run_invariant_of_steps (I := Pending) (fun _ a h => pending_step entropy h a)
    (fun _ _ hl => by cases hl) acts

/-- The act neither takes the peer away nor takes a state packet. -/
def Uneventful (entropy : Nat → Word64) (m : Machine) (a : Act) : Prop :=
  ¬ Released m a ∧ ∀ p, ¬ Takes entropy m a p

/-- A quiet stretch keeps the peer and its last sequence. -/
theorem quiet_run (hpending : Pending m) (hpeer : m.state.hasPeer = true) (acts : List Act)
    (h : Run.Along (Machine.step entropy) (Uneventful entropy) m acts) :
    Kept m.state (Run.run (Machine.step entropy) m acts).state := by
  induction acts generalizing m with
  | nil => exact .refl _
  | cons a acts ih =>
    obtain ⟨⟨hreleased, htakes⟩, hrest⟩ := h
    rw [Run.run_cons]
    rcases step_owned entropy hpending hpeer a with hr | hk | ⟨p, hp⟩
    · exact absurd hr hreleased
    · have hrun := ih (pending_step entropy hpending a) (hk.hasPeer.trans hpeer) hrest
      exact ⟨hrun.hasPeer.trans hk.hasPeer, hrun.owner.trans hk.owner,
        hrun.snapshots.trans hk.snapshots, hrun.sequence.1.trans hk.sequence.1,
        hrun.sequence.2.trans hk.sequence.2⟩
    · exact absurd hp (htakes p)

/-- **The peer and the snapshots over all runs.** In every reachable state with a peer, an act either
may take the peer away (a timeout, the peer's own bye, a yield, a stop or a start), or keeps peer,
session and nonce; then it keeps every snapshot too, or takes a state packet with the credentials of
the peer that is ahead of the last one taken from it. -/
theorem session_ownership (entropy : Nat → Word64) (acts : List Act) (a : Act) :
    let m := Run.run (Machine.step entropy) Machine.fresh acts
    let m' := m.step entropy a
    (m.state.hasPeer = true →
      Released m a
      ∨ (m'.state.hasPeer = true ∧ m'.state.owner = m.state.owner
        ∧ (m'.state.snapshots = m.state.snapshots ∨ ∃ p, Takes entropy m a p)))
    ∧ ∀ p, Takes entropy m a p → ∀ mid b q,
        Run.Along (Machine.step entropy) (Uneventful entropy) m' mid →
        Takes entropy (Run.run (Machine.step entropy) m' mid) b q →
        newer q.sequence p.sequence = true := by
  intro m m'
  have hpending : Pending m := pending_run entropy acts
  constructor
  · intro hpeer
    rcases step_owned entropy hpending hpeer a with hr | hk | ⟨p, hp⟩
    · exact .inl hr
    · exact .inr ⟨hk.hasPeer.trans hpeer, hk.owner, .inl hk.snapshots⟩
    · obtain ⟨now, hresult⟩ := hp.result
      refine .inr ⟨?_, ?_, .inr ⟨p, hp⟩⟩
      · change (m.step entropy a).state.hasPeer = true
        rw [hresult]
        exact hpeer
      · change (m.step entropy a).state.owner = _
        rw [hresult]
        rfl
  · intro p hp mid b q hquiet hq
    obtain ⟨now, hresult⟩ := hp.result
    obtain ⟨source, bytes, -, -, hcredentials⟩ := hp.heard
    have hpeer : m.state.hasPeer = true := by
      unfold Session.credentials at hcredentials
      exact (Bool.and_eq_true _ _ ▸ hcredentials).1
    have hpeer' : m'.state.hasPeer = true := by
      change (m.step entropy a).state.hasPeer = true
      rw [hresult]
      exact hpeer
    have hkept := quiet_run (pending_step entropy hpending a) hpeer' mid hquiet
    have hahead := hq.ahead
    have hseq : m'.state.receivedSequence = true ∧ m'.state.receiveSequence = p.sequence := by
      change (m.step entropy a).state.receivedSequence = true
        ∧ (m.step entropy a).state.receiveSequence = p.sequence
      rw [hresult]
      exact ⟨rfl, rfl⟩
    rw [Session.ahead, hkept.sequence.1, hkept.sequence.2, hseq.1, hseq.2] at hahead
    exact hahead

/-! ## A guest that jumps ahead -/

/-- A datagram that arrives is heard as its packet. -/
theorem hear_encode (hs : Sendable p) (hroom : p.room = t.state.config.room) :
    t.hear entropy now source (encode p) = t.hearPacket entropy now source p.arrived := by
  unfold Turn.hear
  rw [decode_of_layout (length_encode p) (layout_image_encode p) hs]
  dsimp only
  rw [if_neg (not_not.mpr (show p.arrived.room = t.state.config.room from hroom))]

/-- A state packet with the credentials of the peer, ahead of the last one, is taken. -/
theorem hearPacket_state (hkind : p.kind = .state) (hcredentials : t.state.credentials source p = true)
    (hahead : t.state.ahead p = true) :
    (t.hearPacket entropy now source p).state = t.state.hearState now p := by
  have hwelcome : ¬ t.state.welcomes source p = true := by
    simp only [Session.welcomes, Bool.and_eq_true, decide_eq_true_eq, hkind]
    rintro ⟨⟨-, h, -⟩, -⟩
    cases h
  have hother : ¬ (¬ t.state.credentials source p = true ∨ (p.kind ≠ .state ∧ p.kind ≠ .bye)
      ∨ ¬ t.state.ahead p = true) := by
    rintro (h | h | h)
    · exact h hcredentials
    · exact h.1 hkind
    · exact h hahead
  unfold Turn.hearPacket
  dsimp only
  rw [if_neg hwelcome, if_neg hother, hkind, if_neg (by decide), if_neg (fun h => by cases h.2),
    if_neg (fun h => by cases h.2.2.1), if_neg (by decide)]

theorem hear_step (entropy : Nat → Word64) (t : Turn) (source : Endpoint) (l : Loop)
    (hs : Sendable p) (hroom : p.room = t.state.config.room) (hb : l.budget ≠ 0) :
    Machine.step entropy { state := t.state, loop := some { l with yieldTo := t.yieldTo } }
        (.hear source (encode p))
      = { state := (t.hearPacket entropy l.now source p.arrived).state
          loop := some { l with
            budget := l.budget - 1
            yieldTo := (t.hearPacket entropy l.now source p.arrived).yieldTo } } := by
  unfold Machine.step
  dsimp only
  rw [if_neg hb, hear_encode hs hroom]

/-- The guest of the room. -/
def guestEndpoint : Endpoint := { ip := 0xC0A80002, port := 50000 }

def guestHello : Packet where
  nonce := 5
  room := 123456
  authorityNode := 3

/-- Three state packets of the guest: the sequence jumps twice by almost half its range. -/
def guestState (i : Fin 3) : Packet where
  kind := .state
  sequence := ![0, 0x7FFFFFFF, 0xFFFFFFFE] i
  session := 5
  nonce := 5
  room := 123456
  player := { map := ![1, 2, 3] i, flags := stateActive }
  authorityNode := 9

theorem sendable_guestHello : Sendable guestHello := by
  constructor
  case room => exact ⟨by decide, by decide⟩
  case items => exact ⟨validItems_empty, fun _ => rfl⟩
  case shared => exact fun h => absurd rfl h
  all_goals decide

theorem sendable_guestState (i : Fin 3) : Sendable (guestState i) := by
  fin_cases i
  all_goals
    constructor
    case room => exact ⟨by decide, by decide⟩
    case items => exact ⟨validItems_empty, fun _ => rfl⟩
    case shared => exact fun h => absurd rfl h
    all_goals decide

/-- Every random number is 5. -/
def guestEntropy (_ : Nat) : Word64 := 5

/-- The host within a tick, after the greeting and `n` of the packets. -/
def jumpTurn : Nat → Turn
  | 0 =>
    let s := Session.start guestEntropy {} { role := .host, authorityNode := 9 } 0 {}
    Turn.hearPacket guestEntropy 0 { state := s.begin guestEntropy {} 0 } guestEndpoint
      guestHello.arrived
  | n + 1 =>
    (jumpTurn n).hearPacket guestEntropy 0 guestEndpoint (guestState (Fin.ofNat 3 n)).arrived

def jumpMachine (n : Nat) : Machine where
  state := (jumpTurn n).state
  loop := some { input := {}, now := 0, budget := 31 - n, yieldTo := (jumpTurn n).yieldTo }

/-- The acts up to the greeting. -/
def hostActs : List Act :=
  [.start {} { role := .host, authorityNode := 9 } 0, .begin {} 0,
    .hear guestEndpoint (encode guestHello)]

def jumpAct (i : Fin 3) : Act := .hear guestEndpoint (encode (guestState i))

theorem run_hostActs :
    Run.run (Machine.step guestEntropy) Machine.fresh hostActs = jumpMachine 0 :=
  hear_step guestEntropy
    { state := (Session.start guestEntropy {} { role := .host, authorityNode := 9 } 0 {}).begin
        guestEntropy {} 0 }
    guestEndpoint { input := {}, now := 0, budget := 32, yieldTo := none } sendable_guestHello
    (by decide) (by decide)

theorem step_jumpMachine (i : Fin 3) :
    (jumpMachine i.val).step guestEntropy (jumpAct i) = jumpMachine (i.val + 1) := by
  have hroom : ∀ i : Fin 3, (guestState i).room = (jumpTurn i.val).state.config.room := by
    decide
  have hb : 31 - i.val ≠ 0 := by omega
  have hi : Fin.ofNat 3 i.val = i := Fin.ext (Nat.mod_eq_of_lt i.isLt)
  have hstep := hear_step guestEntropy (jumpTurn i.val) guestEndpoint
    { input := {}, now := 0, budget := 31 - i.val, yieldTo := none } (sendable_guestState i)
    (hroom i) hb
  have hsub : 31 - i.val - 1 = 31 - (i.val + 1) := by omega
  rw [jumpMachine, jumpAct, hstep, jumpMachine, jumpTurn, hi]
  dsimp only
  rw [hsub]

theorem credentials_guestState (i : Fin 3) :
    (jumpTurn i.val).state.credentials guestEndpoint (guestState i).arrived = true := by
  revert i
  decide

theorem ahead_guestState (i : Fin 3) :
    (jumpTurn i.val).state.ahead (guestState i).arrived = true := by
  revert i
  decide

theorem takes_guestState (i : Fin 3) :
    Takes guestEntropy (jumpMachine i.val) (jumpAct i) (guestState i).arrived where
  heard := ⟨guestEndpoint, encode (guestState i), rfl, decode_of_layout (length_encode _)
    (layout_image_encode _) (sendable_guestState i), credentials_guestState i⟩
  kind := rfl
  ahead := ahead_guestState i
  result := by
    have hi : Fin.ofNat 3 i.val = i := Fin.ext (Nat.mod_eq_of_lt i.isLt)
    refine ⟨0, ?_⟩
    rw [step_jumpMachine]
    change ((jumpTurn i.val).hearPacket guestEntropy 0 guestEndpoint
      (guestState (Fin.ofNat 3 i.val)).arrived).state = _
    rw [hi]
    exact hearPacket_state rfl (credentials_guestState i) (ahead_guestState i)

/-- The first packet leaves the guest its place, and the second is ahead of it. -/
theorem session_ownership_guest :
    let m := Run.run (Machine.step guestEntropy) Machine.fresh hostActs
    let m' := m.step guestEntropy (jumpAct 0)
    (Released m (jumpAct 0)
      ∨ (m'.state.hasPeer = true ∧ m'.state.owner = m.state.owner
        ∧ (m'.state.snapshots = m.state.snapshots ∨ ∃ p, Takes guestEntropy m (jumpAct 0) p)))
    ∧ newer (guestState 1).arrived.sequence (guestState 0).arrived.sequence = true := by
  have h := session_ownership guestEntropy hostActs (jumpAct 0)
  dsimp only at h ⊢
  have hstep : (jumpMachine 0).step guestEntropy (jumpAct 0) = jumpMachine 1 := step_jumpMachine 0
  rw [run_hostActs, hstep] at h ⊢
  exact ⟨h.1 (by decide),
    h.2 _ (takes_guestState 0) [] (jumpAct 1) _ trivial (takes_guestState 1)⟩

/-- The third packet is taken although it is not ahead of the first; and a timeout drops the
snapshots without any packet. -/
theorem sequence_gap_replayed :
    let m := Run.run (Machine.step guestEntropy) Machine.fresh hostActs
    let m₁ := m.step guestEntropy (jumpAct 0)
    let m₂ := m₁.step guestEntropy (jumpAct 1)
    let m₃ := m₂.step guestEntropy (jumpAct 2)
    let m₄ := (m₃.step guestEntropy (.finish {})).step guestEntropy (.begin {} 3001)
    Takes guestEntropy m (jumpAct 0) (guestState 0).arrived
    ∧ Takes guestEntropy m₁ (jumpAct 1) (guestState 1).arrived
    ∧ Takes guestEntropy m₂ (jumpAct 2) (guestState 2).arrived
    ∧ newer (guestState 2).arrived.sequence (guestState 0).arrived.sequence = false
    ∧ m₃.state.snapshots ≠ m₂.state.snapshots
    ∧ m₄.state.snapshots ≠ m₃.state.snapshots := by
  have h1 : (jumpMachine 0).step guestEntropy (jumpAct 0) = jumpMachine 1 := step_jumpMachine 0
  have h2 : (jumpMachine 1).step guestEntropy (jumpAct 1) = jumpMachine 2 := step_jumpMachine 1
  have h3 : (jumpMachine 2).step guestEntropy (jumpAct 2) = jumpMachine 3 := step_jumpMachine 2
  dsimp only
  rw [run_hostActs, h1, h2, h3]
  refine ⟨takes_guestState 0, takes_guestState 1, takes_guestState 2, by decide, ?_, ?_⟩
  · intro h
    have hmap : (jumpMachine 3).state.remote.map = (jumpMachine 2).state.remote.map :=
      congrArg (fun x => x.1.map) h
    exact absurd hmap (by decide)
  · intro h
    have hmap : (((jumpMachine 3).step guestEntropy (.finish {})).step guestEntropy
        (.begin {} 3001)).state.remote.map = (jumpMachine 3).state.remote.map :=
      congrArg (fun x => x.1.map) h
    exact absurd hmap (by decide)

end Dk64Port.Coop
