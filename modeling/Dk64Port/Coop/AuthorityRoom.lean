import Dk64Port.Coop.Authority
import Mathlib.Logic.Function.Basic

/-!
# Which host the others follow

Sessions are told apart by the endpoint their host socket is bound to, and every datagram is one
that some session handed to its socket: it may be lost, repeated, reordered or heard by anyone.

* `Room.step`: ticks, promotions and deliveries in any order.
* `roomSound_step`: every session stays sound, with the claims of the others.
* `authority_never_regresses`: **no pair regresses, no follower outranks its host, and no two
  sessions that started as hosts follow each other.**
-/

namespace Dk64Port.Coop

variable {a : Act} {p q : Packet}

/-! ## The network -/

/-- The sessions of a room, each under the endpoint its host socket is bound to. -/
abbrev Room := Endpoint → Machine

/-- The pairs claimed from an endpoint so far. -/
def Room.issued (room : Room) (e : Endpoint) (c : AuthorityPair) : Prop :=
  c ∈ (room e).state.claims

/-- What can happen in a room. -/
inductive RoomEvent where
  | begin (at_ : Endpoint) (input : TickInput) (now : Word64)
  | finish (at_ : Endpoint) (os : Opening)
  | promote (at_ : Endpoint) (term node : Word64)
  /-- A datagram that `source` once sent is heard, from its host socket or from another port. -/
  | deliver (source : Endpoint) (index : Nat) (port : BitVec 16) (at_ : Endpoint)

/-- The act of an event, at the endpoint it happens at. A promotion that does not raise the pair does
not happen, and a claim comes from the host socket. -/
def Room.act (room : Room) : RoomEvent → Option (Endpoint × Act)
  | .begin e input now => some (e, .begin input now)
  | .finish e os => some (e, .finish os)
  | .promote e term node =>
    let config := (room e).state.config
    if authorityNewer term node config.authorityTerm config.authorityNode then
      some (e, .setAuthority term node)
    else none
  | .deliver source index port e =>
    match (room source).state.outbox[index]? with
    | none => none
    | some (_, p) =>
      if p.kind.claims then some (e, .hear source (encode p))
      else some (e, .hear { source with port := port } (encode p))

/-- One event. -/
def Room.step (entropy : Endpoint → Nat → Word64) (room : Room) (event : RoomEvent) : Room :=
  match room.act event with
  | none => room
  | some (e, a) => Function.update room e ((room e).step (entropy e) a)

/-- Every session after its start. -/
def Room.begin (entropy : Endpoint → Nat → Word64) (os : Endpoint → Opening)
    (config : Endpoint → Config) (now : Endpoint → Word64) : Room := fun e =>
  { state := Session.start (entropy e) (os e) (config e) (now e) {} }

theorem ofCode_injective {kind kind' : Kind} (h : kind.code = kind'.code) : kind = kind' :=
  Option.some.inj ((ofCode_code kind).symm.trans (h ▸ ofCode_code kind'))

/-- A datagram is heard with the kind and the pair it was sent with. -/
theorem pair_of_decode_encode (h : decode (encode p) = some q) : q.kind = p.kind ∧ q.pair = p.pair := by
  have hq := (accepted_of_decode h).core
  have hp := (layout_image_encode p).toCore
  refine ⟨ofCode_injective (hq.kind.symm.trans hp.kind), ?_⟩
  unfold Packet.pair
  rw [← hq.term, ← hq.node, ← hp.term, ← hp.node]

variable {entropies : Endpoint → Nat → Word64} {room : Room} {event : RoomEvent}
  {hosts : Endpoint → Prop} {e x y : Endpoint}

/-- Every session of the room is sound. -/
def RoomSound (hosts : Endpoint → Prop) (room : Room) : Prop :=
  ∀ e, Sound room.issued (hosts e) (room e)

theorem mem_issued {target : Endpoint} {index : Nat}
    (h : (room e).state.outbox[index]? = some (target, p)) (hkind : p.kind.claims = true) :
    room.issued e p.pair :=
  List.mem_map.mpr ⟨(target, p), List.mem_filter.mpr ⟨List.mem_of_getElem? h, hkind⟩, rfl⟩

/-- What happens in a room is admitted where it happens. -/
theorem admitted_act (h : RoomSound hosts room) (hact : room.act event = some (e, a)) :
    Admitted room.issued (room e) a := by
  cases event with
  | begin e' input now =>
    obtain ⟨rfl, rfl⟩ := Prod.mk.inj (Option.some.inj hact)
    trivial
  | finish e' os =>
    obtain ⟨rfl, rfl⟩ := Prod.mk.inj (Option.some.inj hact)
    trivial
  | promote e' term node =>
    unfold Room.act at hact
    dsimp only at hact
    split at hact
    · rename_i hnew
      obtain ⟨rfl, rfl⟩ := Prod.mk.inj (Option.some.inj hact)
      exact hnew
    · cases hact
  | deliver source index port e' =>
    unfold Room.act at hact
    dsimp only at hact
    cases hsent : (room source).state.outbox[index]? with
    | none =>
      rw [hsent] at hact
      cases hact
    | some d =>
      obtain ⟨target, p⟩ := d
      rw [hsent] at hact
      dsimp only at hact
      by_cases hkind : p.kind.claims = true
      · rw [if_pos hkind] at hact
        obtain ⟨rfl, rfl⟩ := Prod.mk.inj (Option.some.inj hact)
        intro q hq _
        obtain ⟨-, hpair⟩ := pair_of_decode_encode hq
        rw [hpair]
        have hissued := mem_issued hsent hkind
        have hsnd : q.authorityNode = p.authorityNode := congrArg Prod.snd hpair
        exact ⟨hissued, hsnd ▸ (h source).nonzero _ hissued⟩
      · rw [if_neg hkind] at hact
        obtain ⟨rfl, rfl⟩ := Prod.mk.inj (Option.some.inj hact)
        intro q hq hq'
        rw [(pair_of_decode_encode hq).1] at hq'
        exact absurd hq' hkind

/-- One event moves one session, or none. -/
theorem moves_room (entropies : Endpoint → Nat → Word64) (h : RoomSound hosts room)
    (event : RoomEvent) (e : Endpoint) :
    Moves room.issued (room e).state (room.step entropies event e).state := by
  have hidle : Moves room.issued (room e).state (room e).state := (Speaks.refl _).moves (h e).node
  unfold Room.step
  cases hact : room.act event with
  | none => exact hidle
  | some d =>
    obtain ⟨e', a⟩ := d
    dsimp only
    by_cases he : e = e'
    · subst he
      rw [Function.update_self]
      exact (sound_step (h e) (admitted_act h hact)).2
    · rw [Function.update_of_ne he]
      exact hidle

theorem issued_mono (entropies : Endpoint → Nat → Word64) (h : RoomSound hosts room)
    (event : RoomEvent) (e : Endpoint) (c : AuthorityPair) (hc : room.issued e c) : (room.step entropies event).issued e c :=
  (moves_room entropies h event e).keeps c hc

/-- **One event keeps every session sound.** -/
theorem roomSound_step (h : RoomSound hosts room) (event : RoomEvent) :
    RoomSound hosts (room.step entropies event) := by
  intro e
  have hgrow := issued_mono entropies h event
  refine Sound.mono (C := room.issued) ?_ hgrow
  unfold Room.step
  cases hact : room.act event with
  | none => exact h e
  | some d =>
    obtain ⟨e', a⟩ := d
    dsimp only
    by_cases he : e = e'
    · subst he
      rw [Function.update_self]
      exact (sound_step (h e) (admitted_act h hact)).1
    · rw [Function.update_of_ne he]
      exact h e

/-- The sessions that start as hosts. -/
def StartsAsHost (config : Endpoint → Config) (e : Endpoint) : Prop := (config e).role = .host

theorem roomSound_begin (os : Endpoint → Opening) {config : Endpoint → Config}
    (now : Endpoint → Word64) (hnode : ∀ e, (config e).authorityNode ≠ 0) :
    RoomSound (StartsAsHost config) (Room.begin entropies os config now) := by
  intro e
  obtain ⟨hconfig, hclaims, -⟩ :=
    start_spec (entropies e) (os e) (now e) {} (hnode e)
  have hnone : ∀ c, c ∉ ((Room.begin entropies os config now) e).state.claims := by
    intro c hc
    have hc' : c ∈ (Session.claims {}) := hclaims ▸ hc
    cases hc'
  constructor
  case node => exact fun h => hnode e (hconfig ▸ h)
  case nonzero => exact fun c hc => absurd hc (hnone c)
  case bounded => exact fun c hc => absurd hc (hnone c)
  case below => exact fun _ c hc => absurd hc (hnone c)
  case pending => exact fun _ _ hl => nomatch hl
  case newer => exact fun _ _ hl => nomatch hl
  case follows =>
    intro hhost hjoin
    have hjoin' : (config e).role = .join := hconfig ▸ hjoin
    rw [hhost] at hjoin'
    cases hjoin'

/-- The session at `x` is a follower of the one at `y`. -/
def Room.Follows (room : Room) (x y : Endpoint) : Prop :=
  (room x).state.config.role = .join ∧ (room x).state.isOpen = true
    ∧ (room x).state.destination = y

/-- The pair of the session at `x`. -/
def Room.key (room : Room) (x : Endpoint) : Nat := pairKey (room x).state.pair

theorem key_le_of_follows (h : RoomSound hosts room) (hx : hosts x) (hf : room.Follows x y) :
    room.key x ≤ room.key y := by
  obtain ⟨hjoin, hopen, rfl⟩ := hf
  exact (h _).bounded _ ((h x).follows hx hjoin hopen)

theorem key_lt_of_follows (h : RoomSound hosts room) (hx : hosts x) (hf : room.Follows x y) :
    (room y).state.config.role = .host ∨ room.key x < room.key y := by
  obtain ⟨hjoin, hopen, rfl⟩ := hf
  by_cases hhost : (room (room x).state.destination).state.config.role = .host
  · exact .inl hhost
  · exact .inr ((h _).below hhost _ ((h x).follows hx hjoin hopen))

/-- **Authority never regresses, and two hosts never yield to each other.** In every run of a room
whose sessions have nodes, no event lowers a pair; a session that started as a host becomes the
follower of another only if the pair of that one is larger than its own was, and follows it only as
long as it is at least as large; and no two of them follow each other. -/
theorem authority_never_regresses (entropies : Endpoint → Nat → Word64) (os : Endpoint → Opening)
    (config : Endpoint → Config) (now : Endpoint → Word64)
    (hnode : ∀ e, (config e).authorityNode ≠ 0) (events : List RoomEvent) (event : RoomEvent) :
    let room := Run.run (Room.step entropies) (Room.begin entropies os config now) events
    let room' := room.step entropies event
    (∀ x, room.key x ≤ room'.key x)
    ∧ (∀ x y, StartsAsHost config x → room'.Follows x y →
        room'.key x ≤ room'.key y
        ∧ ((room x).state.config.role = .host → room.key x < room.key y))
    ∧ ∀ x y, StartsAsHost config x → StartsAsHost config y →
        ¬ (room'.Follows x y ∧ room'.Follows y x) := by
  intro room room'
  have hroom : RoomSound (StartsAsHost config) room :=
    Run.run_invariant_of_steps (I := RoomSound (StartsAsHost config))
      (fun _ event h => roomSound_step h event) (roomSound_begin os now hnode) events
  have hroom' : RoomSound (StartsAsHost config) room' := roomSound_step hroom event
  refine ⟨fun x => (moves_room entropies hroom event x).grows, fun x y hx hf => ⟨?_, fun hhost => ?_⟩, ?_⟩
  · exact key_le_of_follows hroom' hx hf
  · obtain ⟨hjoin, hopen, rfl⟩ := hf
    have hmoves := moves_room entropies hroom event x
    rcases hmoves.role with hsame | ⟨-, -, hlt⟩
    · rw [hhost] at hsame
      exact absurd (hsame.symm.trans hjoin) (by decide)
    · rcases hmoves.follows hjoin hopen with ⟨hjoin', -⟩ | hissued
      · rw [hhost] at hjoin'
        cases hjoin'
      · exact hlt.trans_le ((hroom _).bounded _ hissued)
  · rintro x y hx hy ⟨hxy, hyx⟩
    have hlt : room'.key x < room'.key y :=
      (key_lt_of_follows hroom' hx hxy).resolve_left fun h => by
        have hjoin := hyx.1
        rw [h] at hjoin
        cases hjoin
    exact absurd (key_le_of_follows hroom' hy hyx) (Nat.not_le.mpr hlt)

/-! ## A host that hears a newer claim -/

/-- Every session hosts, with its address as its node. -/
def everyHost (e : Endpoint) : Config where
  role := .host
  port := e.port
  authorityNode := e.ip.setWidth 64 + 1

/-- The host with the smaller node. -/
def elderHost : Endpoint := { ip := 1, port := 6464 }

/-- The host with the larger node, which announces itself. -/
def claimantHost : Endpoint := { ip := 2, port := 6464 }

/-- The announcements reach the host with the smaller node. -/
def toElder : Opening where
  targets := [elderHost]

/-- The sessions after their start. -/
def hostRoom : Room := Room.begin (fun _ => guestEntropy) (fun _ => toElder) everyHost fun _ => 0

/-- The session of a host within its first tick. -/
def firstTurn (e : Endpoint) : Session := (hostRoom e).state.begin guestEntropy {} 500

/-- The session that has announced itself. -/
def announced : Session :=
  Turn.finish guestEntropy toElder {} 500 { state := firstTurn claimantHost }

/-- Its claim. -/
def claimPacket : Packet := (firstTurn claimantHost).packet .authority {} 0

/-- What the other host keeps of the claim. -/
def heardClaim : Claim where
  source := claimantHost
  term := 0
  node := 3

/-- The tick of the host with the smaller node, before and after the claim is heard. -/
def elderMachine (budget : Nat) (claim : Option Claim) : Machine where
  state := firstTurn elderHost
  loop := some { input := {}, now := 500, budget := budget, yieldTo := claim }

/-- The larger node has announced itself, and the other host is within its tick. -/
def claimedRoom : Room :=
  Function.update (Function.update hostRoom claimantHost { state := announced }) elderHost
    (elderMachine 32 none)

theorem sendable_claimPacket : Sendable claimPacket := by
  constructor
  case room => exact ⟨by decide, by decide⟩
  case items => exact ⟨validItems_empty, fun _ => rfl⟩
  case shared => exact fun h => absurd rfl h
  all_goals decide

theorem run_announced :
    Run.run (Room.step fun _ => guestEntropy) hostRoom
      [.begin claimantHost {} 500, .finish claimantHost toElder, .begin elderHost {} 500]
    = claimedRoom := by
  funext e
  by_cases helder : e = elderHost
  · subst helder
    rfl
  by_cases hclaimant : e = claimantHost
  · subst hclaimant
    rfl
  change Function.update (Function.update (Function.update hostRoom _ _) _ _) _ _ e = _
  rw [claimedRoom, Function.update_of_ne helder, Function.update_of_ne hclaimant,
    Function.update_of_ne hclaimant, Function.update_of_ne helder, Function.update_of_ne hclaimant]

theorem step_heardClaim :
    claimedRoom.step (fun _ => guestEntropy) (.deliver claimantHost 0 6464 elderHost)
      = Function.update claimedRoom elderHost (elderMachine 31 (some heardClaim)) := by
  have hact : claimedRoom.act (.deliver claimantHost 0 6464 elderHost)
      = some (elderHost, .hear claimantHost (encode claimPacket)) := rfl
  have hhear : (elderMachine 32 none).step guestEntropy (.hear claimantHost (encode claimPacket))
      = elderMachine 31 (some heardClaim) :=
    hear_step guestEntropy { state := firstTurn elderHost } claimantHost
      { input := {}, now := 500, budget := 32, yieldTo := none } sendable_claimPacket
      (by decide) (by decide)
  have helder : claimedRoom elderHost = elderMachine 32 none := Function.update_self ..
  unfold Room.step
  rw [hact]
  dsimp only
  rw [helder, hhear]

theorem follows_finish {room : Room} (h : room elderHost = elderMachine 31 (some heardClaim)) :
    (room.step (fun _ => guestEntropy) (.finish elderHost toElder)).Follows elderHost
      claimantHost := by
  have hfinish : (room.step (fun _ => guestEntropy) (.finish elderHost toElder)) elderHost
      = (elderMachine 31 (some heardClaim)).step guestEntropy (.finish toElder) := by
    rw [← h]
    exact Function.update_self elderHost ((room elderHost).step guestEntropy (.finish toElder)) room
  unfold Room.Follows
  rw [hfinish]
  exact ⟨rfl, rfl, rfl⟩

/-- The claim is heard before the tick of the other host ends. -/
def claimEvents : List RoomEvent :=
  [.begin claimantHost {} 500, .finish claimantHost toElder, .begin elderHost {} 500,
    .deliver claimantHost 0 6464 elderHost]

theorem run_claimEvents :
    Run.run (Room.step fun _ => guestEntropy) hostRoom claimEvents elderHost
      = elderMachine 31 (some heardClaim) := by
  have hsplit : claimEvents = [.begin claimantHost {} 500, .finish claimantHost toElder,
      .begin elderHost {} 500] ++ [.deliver claimantHost 0 6464 elderHost] := rfl
  rw [hsplit, Run.run_snoc, run_announced, step_heardClaim, Function.update_self]

theorem authorityNode_everyHost (e : Endpoint) : (everyHost e).authorityNode ≠ 0 := by
  intro h
  have hlt := e.ip.isLt
  have h0 := congrArg BitVec.toNat h
  simp only [everyHost, BitVec.toNat_add, BitVec.toNat_setWidth] at h0
  change (e.ip.toNat % 2 ^ 64 + 1) % 2 ^ 64 = 0 at h0
  omega

/-- A host hears of a larger node within its tick, and follows it from the end of the tick. -/
theorem authority_never_regresses_yield :
    let room := Run.run (Room.step fun _ => guestEntropy) hostRoom claimEvents
    let room' := room.step (fun _ => guestEntropy) (.finish elderHost toElder)
    room'.Follows elderHost claimantHost
    ∧ room.key elderHost < room.key claimantHost
    ∧ room.key elderHost ≤ room'.key elderHost
    ∧ room'.key elderHost ≤ room'.key claimantHost
    ∧ ¬ room'.Follows claimantHost elderHost := by
  have hfollows := follows_finish run_claimEvents
  have hhost : (Run.run (Room.step fun _ => guestEntropy) hostRoom claimEvents
      elderHost).state.config.role = .host := by
    rw [run_claimEvents]
    rfl
  have h := authority_never_regresses (fun _ => guestEntropy) (fun _ => toElder) everyHost
    (fun _ => 0) authorityNode_everyHost claimEvents (.finish elderHost toElder)
  rw [← hostRoom] at h
  have hyield := h.2.1 elderHost claimantHost rfl hfollows
  exact ⟨hfollows, hyield.2 hhost, h.1 elderHost, hyield.1, fun hback =>
    h.2.2 elderHost claimantHost rfl rfl ⟨hfollows, hback⟩⟩

end Dk64Port.Coop
