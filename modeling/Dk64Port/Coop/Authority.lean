import Dk64Port.Coop.Canonical
import Dk64Port.Coop.Ownership
import Mathlib.Algebra.Group.Nat.Defs

/-!
# Claims to authority

Hosts announce a pair of a term and a node, and a host that hears a newer pair becomes a follower
of it. The pair is taken over on three paths with guards of their own, and the yield waits for the
end of the tick.

* `Speaks`: what sending does; `Moves`: what any act does to the pair, the claims and the host a
  session follows.
* `Sound`: the claims of a session never exceed its pair, and a follower's stay below it.
* `sound_step`: **one act keeps `Sound`**, whatever it hears.
-/

namespace Dk64Port.Coop

variable {entropy : Nat → Word64} {s s' : Session} {m : Machine} {a : Act} {t : Turn}
  {now : Word64} {source : Endpoint} {bytes : List ByteLayout.Byte} {p q : Packet}

/-! ## Pairs -/

/-- A term and a node. -/
abbrev AuthorityPair := Word64 × Word64

/-- The place of a pair in the lexicographic order. -/
def pairKey (c : AuthorityPair) : Nat := c.1.toNat * 2 ^ 64 + c.2.toNat

theorem authorityNewer_iff {term node knownTerm knownNode : Word64} :
    authorityNewer term node knownTerm knownNode = true
      ↔ pairKey (knownTerm, knownNode) < pairKey (term, node) := by
  have h1 := term.isLt
  have h2 := node.isLt
  have h3 := knownTerm.isLt
  have h4 := knownNode.isLt
  rw [authorityNewer, decide_eq_true_eq, BitVec.lt_def, BitVec.lt_def, ← BitVec.toNat_inj]
  simp only [pairKey]
  omega

/-- The pair of a session. -/
def Session.pair (s : Session) : AuthorityPair := (s.config.authorityTerm, s.config.authorityNode)

/-- The pair in a packet. -/
def Packet.pair (p : Packet) : AuthorityPair := (p.authorityTerm, p.authorityNode)

/-- The kinds that make others follow. -/
def Kind.claims (kind : Kind) : Bool := kind = .authority || kind = .welcome

/-- The pairs a session has claimed so far. -/
def Session.claims (s : Session) : List AuthorityPair :=
  (s.outbox.filter fun d => d.2.kind.claims).map fun d => d.2.pair

theorem pairKey_le_of_admits (hnode : s.config.authorityNode ≠ 0) (h : s.admits p = true) :
    pairKey s.pair ≤ pairKey p.pair := by
  have h1 := s.config.authorityNode.isLt
  have h2 := p.authorityNode.isLt
  unfold Session.admits at h
  rw [Bool.or_eq_true, decide_eq_true_eq, authorityNewer_iff] at h
  rcases h with (h | h | ⟨h, h'⟩) | h
  · exact absurd h hnode
  · rw [BitVec.lt_def] at h
    simp only [pairKey, Session.pair, Packet.pair]
    omega
  · rw [Packet.pair, h, h']
    exact Nat.le_refl _
  · exact Nat.le_of_lt h

/-! ## What is claimed -/

/-- The pair stays, and nothing is claimed but the pair of a host. -/
structure Speaks (s s' : Session) : Prop where
  config : s'.config = s.config
  isOpen : s'.isOpen = s.isOpen
  destination : s'.destination = s.destination
  keeps : ∀ c ∈ s.claims, c ∈ s'.claims
  only : s.config.authorityNode ≠ 0 → ∀ c ∈ s'.claims,
    c ∈ s.claims ∨ s.config.role = .host ∧ c = s.pair

theorem Speaks.trans {s s' s'' : Session} (h : Speaks s s') (h' : Speaks s' s'') :
    Speaks s s'' where
  config := h'.config.trans h.config
  isOpen := h'.isOpen.trans h.isOpen
  destination := h'.destination.trans h.destination
  keeps c hc := h'.keeps c (h.keeps c hc)
  only hnode c hc := by
    have hpair : s'.pair = s.pair := by rw [Session.pair, h.config, Session.pair]
    rcases h'.only (h.config ▸ hnode) c hc with hc | ⟨hrole, hc⟩
    · exact h.only hnode c hc
    · exact .inr ⟨h.config ▸ hrole, hpair ▸ hc⟩

theorem claims_congr (h : s'.outbox = s.outbox) : s'.claims = s.claims := by
  unfold Session.claims
  rw [h]

/-- Nothing is sent. -/
theorem speaks_of_silent (hconfig : s'.config = s.config) (hopen : s'.isOpen = s.isOpen)
    (hdestination : s'.destination = s.destination) (houtbox : s'.outbox = s.outbox) :
    Speaks s s' where
  config := hconfig
  isOpen := hopen
  destination := hdestination
  keeps _ hc := (claims_congr houtbox).symm ▸ hc
  only _ _ hc := .inl (claims_congr houtbox ▸ hc)

theorem Speaks.refl (s : Session) : Speaks s s := speaks_of_silent rfl rfl rfl rfl

/-- The packet that `send` sends. -/
theorem outbox_send (s : Session) (kind : Kind) (target : Endpoint) (player : State)
    (reply : Word64) : ∃ p : Packet,
      (s.send kind target player reply).outbox = s.outbox ++ [(target, p)] ∧ p.kind = kind
      ∧ (s.config.authorityNode ≠ 0 → p.pair = s.pair) := by
  have hpair : s.config.authorityNode ≠ 0 → (s.packet kind player reply).pair = s.pair := by
    intro hnode
    simp only [Packet.pair, Session.packet, Session.pair]
    rw [if_pos hnode]
  unfold Session.send
  dsimp only
  split
  · exact ⟨_, rfl, rfl, hpair⟩
  · exact ⟨_, rfl, rfl, hpair⟩

theorem claims_send (s : Session) (kind : Kind) (target : Endpoint) (player : State)
    (reply : Word64) : ∃ c : AuthorityPair,
      (s.send kind target player reply).claims = s.claims ++ (if kind.claims then [c] else [])
      ∧ (s.config.authorityNode ≠ 0 → c = s.pair) := by
  obtain ⟨p, hout, hkind, hpair⟩ := outbox_send s kind target player reply
  refine ⟨p.pair, ?_, hpair⟩
  rw [Session.claims, hout, List.filter_append, List.map_append, Session.claims]
  congr 1
  subst hkind
  cases hc : p.kind.claims <;> simp [hc]

/-- Only a host may send a claim. -/
theorem speaks_send (kind : Kind) (target : Endpoint) (player : State) (reply : Word64)
    (hkind : kind.claims = true → s.config.role = .host) :
    Speaks s (s.send kind target player reply) := by
  obtain ⟨c, hclaims, hpair⟩ := claims_send s kind target player reply
  have hu := send_untouched s kind target player reply
  refine ⟨hu.config, hu.isOpen, hu.destination, fun d hd => ?_, fun hnode d hd => ?_⟩
  · rw [hclaims]
    exact List.mem_append_left _ hd
  · rw [hclaims, List.mem_append] at hd
    rcases hd with hd | hd
    · exact .inl hd
    · by_cases hk : kind.claims = true
      · rw [if_pos hk, List.mem_singleton] at hd
        exact .inr ⟨hkind hk, hd.trans (hpair hnode)⟩
      · rw [if_neg hk] at hd
        cases hd

theorem speaks_sendAll (kind : Kind) (targets : List Endpoint)
    (hkind : kind.claims = true → s.config.role = .host) : Speaks s (s.sendAll kind targets) := by
  induction targets generalizing s with
  | nil => exact .refl s
  | cons target targets ih =>
    have hsend := speaks_send kind target {} 0 hkind
    exact hsend.trans (ih fun hk => hsend.config ▸ hkind hk)

theorem speaks_clearPeer (entropy : Nat → Word64) (now : Word64) (s : Session) :
    Speaks s (s.clearPeer entropy now) := by
  unfold Session.clearPeer
  dsimp only
  split <;> exact speaks_of_silent rfl rfl rfl rfl

theorem speaks_begin (entropy : Nat → Word64) (input : TickInput) (now : Word64) (s : Session) :
    Speaks s (s.begin entropy input now) := by
  have hinput : Speaks s (s.takeInput input) := speaks_of_silent rfl rfl rfl rfl
  have htail : ∀ s : Session, Speaks s
      (Session.pairCombat input now (if s.fresh now then s else { s with remoteProgress := {} })) := by
    intro s
    split <;> exact speaks_of_silent rfl rfl rfl rfl
  unfold Session.begin
  dsimp only
  split
  · exact (hinput.trans (speaks_clearPeer _ _ _)).trans (htail _)
  · exact hinput.trans (htail _)

theorem speaks_hearHello (entropy : Nat → Word64) (now : Word64) (source : Endpoint) (p : Packet)
    (hhost : s.config.role = .host) : Speaks s (s.hearHello entropy now source p) := by
  unfold Session.hearHello
  dsimp only
  have hreply : ∀ s' : Session, Speaks s s' → Speaks s
      (if source = s'.peer ∧ p.nonce = s'.nonce then s'.send .welcome source {} 0
        else s'.send .busy source {} p.nonce) := by
    intro s' h
    have hhost' : s'.config.role = .host := h.config ▸ hhost
    split
    · exact h.trans (speaks_send _ _ _ _ fun _ => hhost')
    · exact h.trans (speaks_send _ _ _ _ fun _ => hhost')
  split
  · exact hreply s (.refl s)
  · exact hreply _ (speaks_of_silent rfl rfl rfl rfl)

/-- The times of the last datagrams sent are not claims. -/
theorem Speaks.withTimes (h : Speaks s s') (send hello authority : Word64) :
    Speaks s { s' with lastSend := send, lastHello := hello, lastAuthority := authority } :=
  h.trans (speaks_of_silent rfl rfl rfl rfl)

theorem speaks_sendHello (now : Word64) (s : Session) : Speaks s (s.sendHello now) := by
  unfold Session.sendHello
  split
  · have hfirst : Speaks s (s.send .hello s.destination {} 0) :=
      speaks_send .hello s.destination {} 0 (fun hk => by cases hk)
    have htimes : Speaks s { s.send .hello s.destination {} 0 with lastHello := now } :=
      hfirst.withTimes _ now _
    exact htimes.trans (speaks_sendAll .hello _ (fun hk => by cases hk))
  · exact .refl s

theorem speaks_sendAuthority (now : Word64) (s : Session) : Speaks s (s.sendAuthority now) := by
  unfold Session.sendAuthority
  by_cases h : s.config.role = .host ∧ ¬ s.hasPeer ∧ retryMs ≤ now - s.lastAuthority
  · rw [if_pos h]
    exact (speaks_sendAll .authority s.discoveryTargets fun _ => h.1).withTimes _ _ now
  · rw [if_neg h]
    exact .refl s

theorem speaks_sendState (now : Word64) (s : Session) : Speaks s (s.sendState now) := by
  unfold Session.sendState
  split
  · have hstate : Speaks s (s.send .state s.peer s.localPlayer 0) :=
      speaks_send .state s.peer s.localPlayer 0 (fun hk => by cases hk)
    exact hstate.withTimes now _ _
  · exact .refl s

theorem speaks_finish (entropy : Nat → Word64) (os : Opening) (input : TickInput) (now : Word64)
    (h : t.yieldTo = none) :
    Speaks t.state (t.finish entropy os input now) := by
  unfold Turn.finish
  dsimp only
  rw [h]
  have hpair : Speaks t.state (t.state.pairCombat input now) := speaks_of_silent rfl rfl rfl rfl
  have hupdate : Speaks (t.state.pairCombat input now)
      ((t.state.pairCombat input now).updateWorld now) := speaks_of_silent rfl rfl rfl rfl
  have hworld := hpair.trans hupdate
  have hhello := hworld.trans (speaks_sendHello now _)
  have hauthority := hhello.trans (speaks_sendAuthority now _)
  exact hauthority.trans (speaks_sendState now _)

/-! ## One act -/

/-- What an act may do to the pair, the claims and the host a session follows; `C` says which claims
were sent from which endpoint. -/
structure Moves (C : Endpoint → AuthorityPair → Prop) (s s' : Session) : Prop where
  grows : pairKey s.pair ≤ pairKey s'.pair
  node : s'.config.authorityNode ≠ 0
  keeps : ∀ c ∈ s.claims, c ∈ s'.claims
  only : ∀ c ∈ s'.claims,
    c ∈ s.claims ∨ s.config.role = .host ∧ s'.config.role = .host ∧ c = s.pair
  role : s'.config.role = s.config.role
    ∨ s.config.role = .host ∧ s'.config.role = .join ∧ pairKey s.pair < pairKey s'.pair
  follows : s'.config.role = .join → s'.isOpen = true →
    s.config.role = .join ∧ s.isOpen = true ∧ s'.destination = s.destination ∧ s'.pair = s.pair
    ∨ C s'.destination s'.pair

variable {C : Endpoint → AuthorityPair → Prop}

theorem Speaks.pair (h : Speaks s s') : s'.pair = s.pair := by
  unfold Session.pair
  rw [h.config]

theorem Speaks.moves (h : Speaks s s') (hnode : s.config.authorityNode ≠ 0) : Moves C s s' where
  grows := (congrArg pairKey h.pair).ge
  node := h.config ▸ hnode
  keeps := h.keeps
  only c hc := (h.only hnode c hc).imp_right fun hhost => ⟨hhost.1, h.config ▸ hhost.1, hhost.2⟩
  role := .inl (congrArg Config.role h.config)
  follows hrole hopen := .inl ⟨h.config ▸ hrole, h.isOpen ▸ hopen, h.destination, h.pair⟩

/-- A move after a silent change. -/
theorem Speaks.moves_trans {s₁ : Session} (h : Speaks s s₁) (hclaims : s₁.claims = s.claims)
    (hm : Moves C s₁ s') : Moves C s s' where
  grows := h.pair ▸ hm.grows
  node := hm.node
  keeps c hc := hm.keeps c (h.keeps c hc)
  only c hc := by
    rw [← hclaims, ← h.config, ← h.pair]
    exact hm.only c hc
  role := by
    rw [← h.config, ← h.pair]
    exact hm.role
  follows hrole hopen := by
    rw [← h.config, ← h.isOpen, ← h.destination, ← h.pair]
    exact hm.follows hrole hopen

/-- A follower takes a pair that it admits. -/
theorem moves_adopt (hnode : s.config.authorityNode ≠ 0) (hpnode : p.authorityNode ≠ 0)
    (hadmits : s.admits p = true) (hpair : s'.pair = p.pair)
    (hrole : s'.config.role = s.config.role) (hissued : C s'.destination p.pair)
    (hspeaks : ∀ c, c ∈ s'.claims ↔ c ∈ s.claims) : Moves C s s' where
  grows := hpair ▸ pairKey_le_of_admits hnode hadmits
  node := by
    have hsnd : s'.pair.2 = p.pair.2 := congrArg Prod.snd hpair
    exact fun h => hpnode (hsnd.symm.trans h)
  keeps c hc := (hspeaks c).mpr hc
  only c hc := .inl ((hspeaks c).mp hc)
  role := .inl hrole
  follows _ _ := .inr (hpair ▸ hissued)

/-- A welcome sends a state packet only. -/
theorem moves_hearWelcome (hnode : s.config.authorityNode ≠ 0) (hpnode : p.authorityNode ≠ 0)
    (hwelcome : s.welcomes source p = true) (hissued : C source p.pair) :
    Moves C s (s.hearWelcome now source p) := by
  unfold Session.welcomes at hwelcome
  rw [Bool.and_eq_true, decide_eq_true_eq] at hwelcome
  obtain ⟨⟨hjoin, -⟩, hadmits⟩ := hwelcome
  have hfollower : s.config.role ≠ .host := fun h => by
    rw [h] at hjoin
    cases hjoin
  -- the reply, once the pair is settled
  have hreply : ∀ s₁ : Session, Speaks s₁
      { s₁.send .state source s₁.localPlayer 0 with lastSend := now } := fun s₁ =>
    (speaks_send .state source s₁.localPlayer 0 (fun hk => by cases hk)).withTimes now _ _
  unfold Session.hearWelcome
  dsimp only
  by_cases hpeer : s.hasPeer = true
  · rw [if_pos hpeer]
    exact (hreply s).moves hnode
  · rw [if_neg hpeer]
    generalize hs₁ : ({ s.adopt p with
        session := p.session, peer := source, destination := source, hasPeer := true
        status := .connected, lastReceive := now, receivedSequence := false } : Session) = s₁
    have hrole : s₁.config.role = s.config.role := hs₁ ▸ rfl
    have hpair : s₁.pair = p.pair := hs₁ ▸ rfl
    have hdest : s₁.destination = source := hs₁ ▸ rfl
    have hclaims : s₁.claims = s.claims := claims_congr (hs₁ ▸ rfl)
    have hspeaks := hreply s₁
    have hsnd : s₁.config.authorityNode = p.authorityNode := congrArg Prod.snd hpair
    refine moves_adopt hnode hpnode hadmits (hspeaks.pair.trans hpair)
      ((congrArg Config.role hspeaks.config).trans hrole) (hspeaks.destination.trans hdest ▸ hissued)
      fun c => ⟨fun hc => ?_, fun hc => hspeaks.keeps c (hclaims ▸ hc)⟩
    rcases hspeaks.only (hsnd ▸ hpnode) c hc with hc | ⟨hhost, -⟩
    · exact hclaims ▸ hc
    · exact absurd (hrole ▸ hhost) hfollower

/-- One datagram. Only a claim that was sent may be heard as one. -/
theorem Hearing.moves {t' : Turn} (h : Hearing entropy now t source bytes t')
    (hnode : t.state.config.authorityNode ≠ 0)
    (hissued : ∀ p, decode bytes = some p → p.kind.claims = true →
      C source p.pair ∧ p.authorityNode ≠ 0) : Moves C t.state t'.state := by
  cases h with
  | dropped => exact (Speaks.refl _).moves hnode
  | claimed => exact (Speaks.refl _).moves hnode
  | answered host => exact (speaks_send .authority source {} 0 fun _ => host).moves hnode
  | redirected p decoded kind follower _ admitted =>
    obtain ⟨hclaim, hpnode⟩ := hissued p decoded (by rw [kind]; rfl)
    exact moves_adopt hnode hpnode admitted rfl rfl hclaim fun _ => Iff.rfl
  | greeted p host => exact (speaks_hearHello entropy now source p host).moves hnode
  | refused =>
    have hbusy : Speaks t.state { t.state with status := .busy } :=
      speaks_of_silent rfl rfl rfl rfl
    exact hbusy.moves hnode
  | welcomed p decoded welcome =>
    have hkind : p.kind = .welcome := by
      unfold Session.welcomes at welcome
      rw [Bool.and_eq_true, decide_eq_true_eq] at welcome
      exact welcome.1.2.1
    obtain ⟨hclaim, hpnode⟩ := hissued p decoded (by rw [hkind]; rfl)
    exact moves_hearWelcome hnode hpnode welcome hclaim
  | left => exact (speaks_clearPeer entropy now _).moves hnode
  | taken p =>
    have hstate : Speaks t.state (t.state.hearState now p) := speaks_of_silent rfl rfl rfl rfl
    exact hstate.moves hnode

/-- The claim that is pending after a datagram. -/
theorem Hearing.claim {t' : Turn} (h : Hearing entropy now t source bytes t')
    (hissued : ∀ p, decode bytes = some p → p.kind.claims = true →
      C source p.pair ∧ p.authorityNode ≠ 0)
    (hhost : t.yieldTo ≠ none → t.state.config.role = .host)
    (ht : ∀ claim, t.yieldTo = some claim → claim.node ≠ 0
      ∧ claim.source.port = t.state.config.port ∧ C claim.source (claim.term, claim.node))
    {claim : Claim} (hc : t'.yieldTo = some claim) :
    claim.node ≠ 0 ∧ claim.source.port = t'.state.config.port
      ∧ C claim.source (claim.term, claim.node) := by
  have hold : t.yieldTo = some claim → claim.node ≠ 0
      ∧ claim.source.port = t'.state.config.port ∧ C claim.source (claim.term, claim.node) := by
    intro h0
    rw [h.config_of_host (hhost (by rw [h0]; exact Option.some_ne_none _))]
    exact ht claim h0
  cases h with
  | claimed p decoded kind port host newer =>
    obtain rfl := Option.some.inj hc
    obtain ⟨hclaim, hpnode⟩ := hissued p decoded (by rw [kind]; rfl)
    exact ⟨hpnode, port, hclaim⟩
  | dropped => exact hold hc
  | answered => exact hold hc
  | redirected => exact hold hc
  | greeted => exact hold hc
  | refused => exact hold hc
  | welcomed => exact hold hc
  | left => exact hold hc
  | taken => exact hold hc

theorem claims_stop (s : Session) : s.stop.claims = s.claims := by
  unfold Session.stop
  dsimp only
  split
  · obtain ⟨p, hout, hkind, -⟩ := outbox_send s .bye s.peer {} 0
    have hclaims : (s.send .bye s.peer {} 0).claims = s.claims := by
      unfold Session.claims
      rw [hout, List.filter_append, List.filter_cons_of_neg, List.filter_nil, List.append_nil]
      rw [hkind]
      decide
    exact (claims_congr rfl).trans hclaims
  · exact claims_congr rfl

/-- A session without a peer stops in silence. -/
theorem fail_of_alone (h : s.hasPeer = false) :
    s.fail.config = s.config ∧ s.fail.isOpen = false ∧ s.fail.claims = s.claims := by
  unfold Session.fail Session.stop
  dsimp only
  rw [if_neg (fun h' => by rw [h] at h'; exact absurd h'.2.1 (by decide))]
  exact ⟨rfl, rfl, claims_congr rfl⟩

theorem drawNode_of_node (h : s.config.authorityNode ≠ 0) : s.drawNode entropy = s := by
  unfold Session.drawNode
  rw [if_neg]
  rintro ⟨-, hzero⟩
  exact h hzero

/-- A session with a node starts with its configuration and claims nothing new; as a follower it
goes to the host of the configuration, or stays closed. -/
theorem start_spec (entropy : Nat → Word64) (os : Opening) (now : Word64) (s : Session)
    {config : Config} (hnode : config.authorityNode ≠ 0) :
    (s.start entropy os config now).config = config
    ∧ (s.start entropy os config now).claims = s.claims
    ∧ (config.role = .join → (s.start entropy os config now).isOpen = true →
        ∃ ip, config.hostIp = some ip
          ∧ (s.start entropy os config now).destination = { ip := ip, port := config.port }) := by
  unfold Session.start
  dsimp only
  have hfail : ∀ s₁ : Session, s₁.hasPeer = false → s₁.config = config → s₁.claims = s.claims →
      s₁.fail.config = config ∧ s₁.fail.claims = s.claims
      ∧ (config.role = .join → s₁.fail.isOpen = true → ∃ ip, config.hostIp = some ip
        ∧ s₁.fail.destination = { ip := ip, port := config.port }) := by
    intro s₁ halone hconfig hclaims
    obtain ⟨h1, h2, h3⟩ := fail_of_alone halone
    exact ⟨h1.trans hconfig, h3.trans hclaims, fun _ hopen => by rw [h2] at hopen; cases hopen⟩
  have hfresh : ∀ s₁ : Session, s₁.outbox = s.stop.outbox → s₁.claims = s.claims := fun s₁ h =>
    (claims_congr h).trans (claims_stop s)
  by_cases hoff : config.role = .off
  · rw [if_pos hoff]
    exact ⟨rfl, hfresh _ rfl, fun hrole => by rw [hoff] at hrole; cases hrole⟩
  rw [if_neg hoff]
  by_cases hroom : config.room < 100000 ∨ 999999 < config.room
  · rw [if_pos hroom]
    exact hfail _ rfl rfl (hfresh _ rfl)
  rw [if_neg hroom, drawNode_of_node hnode]
  by_cases hopens : ¬ os.opens
  · rw [if_pos hopens]
    exact hfail _ rfl rfl (hfresh _ rfl)
  rw [if_neg hopens]
  by_cases hrole : config.role = .join
  · rw [if_pos hrole]
    cases htarget : config.target with
    | none => exact hfail _ rfl rfl (hfresh _ rfl)
    | some ip =>
      refine ⟨rfl, hfresh _ rfl, fun _ _ => ⟨ip, ?_, rfl⟩⟩
      unfold Config.target at htarget
      split at htarget
      · cases htarget
      · exact (Option.filter_eq_some_iff.mp htarget).1
  · rw [if_neg hrole]
    exact ⟨rfl, hfresh _ rfl, fun h => absurd h hrole⟩

/-- **A host yields** to a pair above its own that was sent from where it goes. -/
theorem moves_yieldTo (os : Opening) {claim : Claim} (hhost : s.config.role = .host)
    (hnew : authorityNewer claim.term claim.node s.config.authorityTerm s.config.authorityNode = true)
    (hpnode : claim.node ≠ 0) (hport : claim.source.port = s.config.port)
    (hissued : C claim.source (claim.term, claim.node)) :
    Moves C s (s.yieldTo entropy os claim now) := by
  unfold Session.yieldTo
  dsimp only
  generalize hfollower : ({ s.config with
      role := .join, hostIp := some claim.source.ip, authorityTerm := claim.term
      authorityNode := claim.node } : Config) = follower
  have hrole : follower.role = .join := hfollower ▸ rfl
  have hterm : follower.authorityTerm = claim.term := hfollower ▸ rfl
  have hnode : follower.authorityNode = claim.node := hfollower ▸ rfl
  have hip : follower.hostIp = some claim.source.ip := hfollower ▸ rfl
  have hport' : follower.port = claim.source.port := hfollower ▸ hport.symm
  obtain ⟨hconfig, hclaims, hdest⟩ := start_spec entropy os now s
    (show follower.authorityNode ≠ 0 by rw [hnode]; exact hpnode)
  generalize s.start entropy os follower now = s₁ at hconfig hclaims hdest
  have hpair : s₁.pair = (claim.term, claim.node) := by
    unfold Session.pair
    rw [hconfig, hterm, hnode]
  have hlt : pairKey s.pair < pairKey s₁.pair := hpair ▸ authorityNewer_iff.mp hnew
  have hclaims' : ({ s₁ with yielded := s₁.isOpen } : Session).claims = s.claims :=
    (claims_congr rfl).trans hclaims
  constructor
  case grows => exact Nat.le_of_lt hlt
  case node => exact fun h => hpnode ((congrArg Prod.snd hpair).symm.trans h)
  case keeps => exact fun c hc => hclaims' ▸ hc
  case only => exact fun c hc => .inl (hclaims' ▸ hc)
  case role => exact .inr ⟨hhost, hconfig ▸ hrole, hlt⟩
  case follows =>
    intro _ hopen
    obtain ⟨ip, hip', hto⟩ := hdest hrole hopen
    have hsource : s₁.destination = claim.source := by
      rw [hto, ← Option.some.inj (hip.symm.trans hip'), hport']
    refine .inr ?_
    change C s₁.destination s₁.pair
    rw [hsource, hpair]
    exact hissued

/-! ## The invariant of a session -/

/-- No claim exceeds the pair, a follower's claims stay below it, and every claim a session follows
or is about to follow was sent from where it goes. -/
structure Sound (C : Endpoint → AuthorityPair → Prop) (started : Prop) (m : Machine) : Prop where
  node : m.state.config.authorityNode ≠ 0
  nonzero : ∀ c ∈ m.state.claims, c.2 ≠ 0
  bounded : ∀ c ∈ m.state.claims, pairKey c ≤ pairKey m.state.pair
  below : m.state.config.role ≠ .host → ∀ c ∈ m.state.claims, pairKey c < pairKey m.state.pair
  pending : ∀ l claim, m.loop = some l → l.yieldTo = some claim →
    claim.node ≠ 0 ∧ claim.source.port = m.state.config.port
    ∧ C claim.source (claim.term, claim.node)
  newer : Pending m
  follows : started → m.state.config.role = .join → m.state.isOpen = true →
    C m.state.destination m.state.pair

variable {started : Prop}

theorem Sound.mono {C' : Endpoint → AuthorityPair → Prop} (h : Sound C started m)
    (hC : ∀ e c, C e c → C' e c) : Sound C' started m where
  node := h.node
  nonzero := h.nonzero
  bounded := h.bounded
  below := h.below
  pending l claim hl hc :=
    ⟨(h.pending l claim hl hc).1, (h.pending l claim hl hc).2.1, hC _ _ (h.pending l claim hl hc).2.2⟩
  newer := h.newer
  follows h1 h2 h3 := hC _ _ (h.follows h1 h2 h3)

/-- What a move of the state leaves to show. -/
theorem Sound.of_moves {m' : Machine} (h : Sound C started m) (hm : Moves C m.state m'.state)
    (hnewer : Pending m')
    (hpending : ∀ l claim, m'.loop = some l → l.yieldTo = some claim →
      claim.node ≠ 0 ∧ claim.source.port = m'.state.config.port
      ∧ C claim.source (claim.term, claim.node)) : Sound C started m' where
  node := hm.node
  nonzero c hc := by
    rcases hm.only c hc with hc | ⟨-, -, rfl⟩
    · exact h.nonzero c hc
    · exact h.node
  bounded c hc := by
    rcases hm.only c hc with hc | ⟨-, -, rfl⟩
    · exact (h.bounded c hc).trans hm.grows
    · exact hm.grows
  below hrole c hc := by
    rcases hm.only c hc with hc | ⟨-, hhost, -⟩
    · rcases hm.role with hsame | ⟨-, -, hlt⟩
      · exact (h.below (hsame ▸ hrole) c hc).trans_le hm.grows
      · exact (h.bounded c hc).trans_lt hlt
    · exact absurd hhost hrole
  pending := hpending
  newer := hnewer
  follows hstarted hrole hopen := by
    rcases hm.follows hrole hopen with ⟨hjoin, hopen', hdest, hpair⟩ | hissued
    · rw [hdest, hpair]
      exact h.follows hstarted hjoin hopen'
    · exact hissued

/-- The acts of a session that runs: its own ticks, a promotion to a higher pair, and claims that
were sent from where they seem to come from. -/
def Admitted (C : Endpoint → AuthorityPair → Prop) (m : Machine) : Act → Prop
  | .begin _ _ => True
  | .finish _ => True
  | .setAuthority term node =>
    authorityNewer term node m.state.config.authorityTerm m.state.config.authorityNode = true
  | .hear source bytes => ∀ p, decode bytes = some p → p.kind.claims = true →
      C source p.pair ∧ p.authorityNode ≠ 0
  | .start _ _ _ => False
  | .stop => False

theorem moves_setAuthority {term node : Word64} (hnode : s.config.authorityNode ≠ 0)
    (hnew : authorityNewer term node s.config.authorityTerm s.config.authorityNode = true) :
    Moves C s (s.setAuthority term node) := by
  unfold Session.setAuthority
  by_cases h : s.config.role ≠ .host ∨ node = 0
  · rw [if_pos h]
    exact (Speaks.refl s).moves hnode
  · rw [if_neg h]
    rw [not_or, not_not] at h
    obtain ⟨hhost, hzero⟩ := h
    have hclaims : Session.claims { s with
        config := { s.config with authorityTerm := term, authorityNode := node } } = s.claims :=
      claims_congr rfl
    constructor
    case grows => exact Nat.le_of_lt (authorityNewer_iff.mp hnew)
    case node => exact hzero
    case keeps => exact fun c hc => hclaims ▸ hc
    case only => exact fun c hc => .inl (hclaims ▸ hc)
    case role => exact .inl rfl
    case follows =>
      intro hrole
      change s.config.role = .join at hrole
      rw [hhost] at hrole
      cases hrole

/-- **One act keeps the invariant.** -/
theorem sound_step (h : Sound C started m) (hadmitted : Admitted C m a) :
    Sound C started (m.step entropy a) ∧ Moves C m.state (m.step entropy a).state := by
  have hnewer := pending_step entropy h.newer a
  have hidle : Sound C started m ∧ Moves C m.state m.state :=
    ⟨h, (Speaks.refl _).moves h.node⟩
  obtain ⟨s, loop⟩ := m
  cases loop with
  | none =>
    cases a with
    | begin input now =>
      unfold Machine.step at hnewer ⊢
      dsimp only at hnewer ⊢
      by_cases hopen : s.isOpen = true
      · rw [if_pos hopen] at hnewer ⊢
        have hmoves : Moves C s (s.begin entropy input now) :=
          (speaks_begin entropy input now s).moves h.node
        refine ⟨h.of_moves hmoves hnewer fun l claim hl hc => ?_, hmoves⟩
        obtain rfl := Option.some.inj hl
        cases hc
      · rw [if_neg hopen]
        exact hidle
    | setAuthority term node =>
      have hmoves : Moves C s (s.setAuthority term node) := moves_setAuthority h.node hadmitted
      exact ⟨h.of_moves hmoves hnewer (fun _ _ hl => nomatch hl), hmoves⟩
    | start | stop => exact absurd hadmitted id
    | hear | finish => exact hidle
  | some l =>
    cases a with
    | hear source bytes =>
      unfold Machine.step at hnewer ⊢
      dsimp only at hnewer ⊢
      by_cases hbudget : l.budget = 0
      · rw [if_pos hbudget]
        exact hidle
      rw [if_neg hbudget] at hnewer ⊢
      have hcases := hear_cases entropy l.now { state := s, yieldTo := l.yieldTo } source bytes
      have hmoves := hcases.moves (C := C) h.node hadmitted
      refine ⟨h.of_moves hmoves hnewer fun l' claim hl hc => ?_, hmoves⟩
      obtain rfl := Option.some.inj hl
      refine hcases.claim hadmitted (fun hsome => ?_) (fun claim => h.pending l claim rfl) hc
      obtain ⟨claim', hc'⟩ := Option.ne_none_iff_exists'.mp hsome
      exact (h.newer l claim' rfl hc').1
    | finish os =>
      have hstep : Machine.step entropy { state := s, loop := some l } (.finish os)
          = { state := Turn.finish entropy os l.input l.now { state := s, yieldTo := l.yieldTo } } :=
        rfl
      rw [hstep] at hnewer ⊢
      have hmoves : Moves C s
          (Turn.finish entropy os l.input l.now { state := s, yieldTo := l.yieldTo }) := by
        cases hyield : l.yieldTo with
        | none =>
          have hquiet := speaks_finish (t := { state := s, yieldTo := none }) entropy os l.input
            l.now rfl
          exact hquiet.moves h.node
        | some claim =>
          obtain ⟨hhost, hnew⟩ := h.newer l claim rfl hyield
          obtain ⟨hpnode, hport, hissued⟩ := h.pending l claim rfl hyield
          have hpair : Speaks s (s.pairCombat l.input l.now) := speaks_of_silent rfl rfl rfl rfl
          have hyields : Moves C (s.pairCombat l.input l.now)
              ((s.pairCombat l.input l.now).yieldTo entropy os claim l.now) :=
            moves_yieldTo os hhost hnew hpnode hport hissued
          exact hpair.moves_trans (claims_congr rfl) hyields
      exact ⟨h.of_moves hmoves hnewer (fun _ _ hl => nomatch hl), hmoves⟩
    | start | stop => exact absurd hadmitted id
    | setAuthority | begin => exact hidle

end Dk64Port.Coop
