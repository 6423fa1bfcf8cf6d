import Dk64Port.Coop.Transition
import Dk64Port.Coop.World
import Dk64Port.Lib.LossyChannel
import Dk64Port.Lib.Run
import Mathlib.Data.Nat.ModEq

/-!
# Following a transition (`coop_transition_capture`, `coop_transition_should_follow`)

One side captures the edge of a loading screen on a reviewed route and shows its ticket for some
frames. The other side sees some of these frames, in order, and follows the ticket while it stands on
the source map.

* `capture`, `shouldFollow`, `consumed`: the two state machines of the source.
* `TransitionNet`: both over one connection; every frame carries the count of the tickets issued so
  far, which the source does not send.
* `advance_iterate_inj`: ticket numbers repeat after `2 ^ 32 - 1` tickets and not earlier.
* `transition_followed_once`: **a ticket is reviewed, shown for 300 frames at most, and never followed
  again** once it was consumed or seen away from its source.
-/

namespace Dk64Port.Coop

open LossyChannel

/-! ## The capturing side -/

/-- `COOP_TRANSITION_HOLD_FRAMES`. -/
def transitionHoldFrames : Word := 300

/-- `coop_transition_ordinary_route_allowed`. -/
def ordinaryRouteAllowed (r : TransitionRoute) : Bool := transitionRoutes.contains r

/-- `coop_transition_bblast_completion`. -/
def bblastCompletion (r : TransitionRoute) : Bool := bblastCompletionRoutes.contains r

/-- `coop_transition_pack`. -/
def packRoute (source destination exit : Word) : Word :=
  (source &&& 0xFF) ||| ((destination &&& 0xFF) <<< 8) ||| ((exit &&& 0xFF) <<< 16)

/-- `coop_transition_route_is_bblast`. -/
def routeIsBblast (route : Word) : Bool :=
  decide (route &&& 0xFF000000 = 0) && bblastCompletion (unpackRoute route)

/-- `CoopTransitionCapture`. -/
structure TransitionCapture where
  wasLoading : Bool := false
  ticketCounter : Word := 0
  ticket : Word := 0
  route : Word := 0
  holdFrames : Word := 0

/-- The arguments of `coop_transition_capture`; `nextMap` and `nextExit` are signed. -/
structure CaptureCall where
  connected : Bool
  host : Bool
  sharedEvents : Bool
  ordinaryEligible : Bool
  sharedEligible : Bool
  loading : Bool
  sourceMap : Word
  nextMap : Word
  nextExit : Word

/-- The route of the loading screen, where its map is known. -/
def CaptureCall.destination (c : CaptureCall) : Option TransitionRoute :=
  if 0 ≤ c.nextMap.toInt ∧ c.nextMap.toInt < coopMapCount then
    some ⟨c.sourceMap.toNat, c.nextMap.toInt.toNat, c.nextExit.toInt⟩
  else none

/-- `ordinary`. -/
def CaptureCall.ordinary (c : CaptureCall) : Bool := c.destination.any ordinaryRouteAllowed

/-- `bblast`. -/
def CaptureCall.bblast (c : CaptureCall) : Bool := c.destination.any bblastCompletion

/-- A loading screen begins on a route this side may show. -/
def CaptureCall.issues (c : CaptureCall) (s : TransitionCapture) : Bool :=
  c.connected && c.loading && !s.wasLoading && decide (c.sourceMap.toNat < coopMapCount)
    && (c.host && c.ordinary && c.ordinaryEligible || c.sharedEvents && c.bblast && c.sharedEligible)

/-- A new ticket; zero is skipped. -/
def TransitionCapture.issue (s : TransitionCapture) (c : CaptureCall) : TransitionCapture :=
  { s with
    ticketCounter := advance s.ticketCounter
    ticket := advance s.ticketCounter
    route := packRoute c.sourceMap c.nextMap c.nextExit
    holdFrames := transitionHoldFrames }

/-- The ticket is shown for one more frame. -/
def TransitionCapture.publish (s : TransitionCapture) : TransitionCapture × Word × Word :=
  if s.holdFrames ≠ 0 ∧ transitionValid s.ticket s.route then
    ({ s with holdFrames := s.holdFrames - 1 }, s.ticket, s.route)
  else (s, 0, 0)

/-- `coop_transition_capture`: the state after the call, the ticket and the route. -/
def capture (s : TransitionCapture) (c : CaptureCall) : TransitionCapture × Word × Word :=
  if ¬ c.connected then
    ({ s with wasLoading := c.loading, holdFrames := 0, ticket := 0, route := 0 }, 0, 0)
  else
    let s := if c.issues s then s.issue c else s
    { s with wasLoading := c.loading }.publish

/-! ## The following side -/

/-- `CoopTransitionFollow`. -/
structure TransitionFollow where
  connected : Bool := false
  seenTicket : Word := 0
  pending : Bool := false
  sourceMap : Word := 0

/-- The arguments of `coop_transition_should_follow` that the game gives. -/
structure FollowCall where
  ordinaryFollow : Bool
  sharedEvents : Bool
  playing : Bool
  loading : Bool
  localMap : Word
  remoteFlags : Word

/-- The first call of a connection forgets the tickets of the last one. -/
def TransitionFollow.connect (f : TransitionFollow) : TransitionFollow :=
  if f.connected then f else { f with connected := true, seenTicket := 0, pending := false }

/-- A new ticket waits where its source is; a waiting one is dropped away from its source. -/
def TransitionFollow.see (f : TransitionFollow) (ticket source localMap : Word) : TransitionFollow :=
  if ticket ≠ f.seenTicket then
    { f with seenTicket := ticket, sourceMap := source, pending := decide (localMap = source) }
  else if f.pending ∧ localMap ≠ f.sourceMap then { f with pending := false }
  else f

/-- `authorized`. -/
def FollowCall.authorized (c : FollowCall) (route : Word) : Bool :=
  c.ordinaryFollow && ordinaryRouteAllowed (unpackRoute route)
    || c.sharedEvents && routeIsBblast route

/-- `coop_transition_should_follow`. -/
def shouldFollow (f : TransitionFollow) (connected : Bool) (c : FollowCall) (ticket route : Word) :
    TransitionFollow × Bool :=
  if ¬ connected then ({ f with connected := false, seenTicket := 0, pending := false }, false)
  else
    let f := f.connect
    if ticket = 0 ∧ route = 0 then (f, false)
    else if ¬ transitionValid ticket route then (f, false)
    else
      let source := route &&& 0xFF
      let f := f.see ticket source c.localMap
      (f, f.pending && c.authorized route && c.playing && !c.loading
        && decide (c.localMap = source ∧ c.remoteFlags &&& 1 ≠ 0 ∧ c.remoteFlags &&& 2 = 0))

/-- `coop_transition_consumed`. -/
def consumed (f : TransitionFollow) : TransitionFollow := { f with pending := false }

/-! ## Both sides over one connection -/

/-- What one frame of the capturing side shows, with the count of the tickets issued so far. -/
@[ext] structure TransitionFrame where
  issue : Nat := 0
  ticket : Word := 0
  route : Word := 0

/-- Both state machines; `remote` is the last frame the follower received. -/
structure TransitionNet where
  capture : TransitionCapture
  issued : Nat
  channel : Channel TransitionFrame
  remote : TransitionFrame
  follow : TransitionFollow

inductive TransitionEvent where
  /-- A frame of the capturing side, which sends what it publishes. -/
  | capture (c : CaptureCall)
  /-- The follower receives frame `i`. -/
  | take (i : Nat)
  /-- A frame of the follower. -/
  | follow (c : FollowCall)
  /-- The game took the transition. -/
  | consumed

/-- A connection begins: the capturing side holds no ticket, whatever it counted before. -/
def TransitionNet.start (counter : Word) (loading : Bool) (f : TransitionFollow) : TransitionNet where
  capture := { wasLoading := loading, ticketCounter := counter }
  issued := 0
  channel := Channel.empty
  remote := {}
  follow := { f with connected := false }

/-- What the follower's next frame does. -/
def TransitionNet.following (s : TransitionNet) (c : FollowCall) : TransitionFollow × Bool :=
  shouldFollow s.follow true c s.remote.ticket s.remote.route

def TransitionNet.step (s : TransitionNet) : TransitionEvent → TransitionNet
  | .capture c =>
    let issued := if c.issues s.capture then s.issued + 1 else s.issued
    let next := Coop.capture s.capture c
    { s with
      capture := next.1
      issued := issued
      channel := s.channel.send { issue := issued, ticket := next.2.1, route := next.2.2 } }
  | .take i =>
    match s.channel.take i with
    | some (frame, channel) => { s with channel := channel, remote := frame }
    | none => s
  | .follow c => { s with follow := (s.following c).1 }
  | .consumed => { s with follow := Coop.consumed s.follow }

variable {s : TransitionNet} {f : TransitionFrame} {c : CaptureCall} {counter : Word}

/-! ## Ticket numbers -/

theorem toNat_advance_mod (value : Word) :
    (advance value).toNat = value.toNat % (2 ^ 32 - 1) + 1 := by
  have hlt := value.isLt
  by_cases h : value.toNat + 1 < 2 ^ 32
  · rw [toNat_advance h, Nat.mod_eq_of_lt (by omega)]
  · have hv : value.toNat = 2 ^ 32 - 1 := by omega
    have hz : value + 1 = 0 := by
      apply BitVec.eq_of_toNat_eq
      rw [BitVec.toNat_add, hv]
      rfl
    rw [advance, if_pos hz, hv]
    rfl

/-- The ticket after `n + 1` tickets. -/
theorem toNat_advance_iterate (value : Word) (n : Nat) :
    (advance^[n + 1] value).toNat = (value.toNat + n) % (2 ^ 32 - 1) + 1 := by
  induction n with
  | zero => exact toNat_advance_mod value
  | succ n ih =>
    rw [Function.iterate_succ_apply', toNat_advance_mod, ih, ← Nat.add_assoc, Nat.mod_add_mod]

/-- **Ticket numbers repeat** after `2 ^ 32 - 1` tickets and not earlier. -/
theorem advance_iterate_inj (value : Word) {m n : Nat} (hm : 0 < m) (hn : 0 < n) :
    advance^[m] value = advance^[n] value ↔ m ≡ n [MOD 2 ^ 32 - 1] := by
  obtain ⟨m, rfl⟩ : ∃ k, m = k + 1 := ⟨m - 1, by omega⟩
  obtain ⟨n, rfl⟩ : ∃ k, n = k + 1 := ⟨n - 1, by omega⟩
  rw [← BitVec.toNat_inj, toNat_advance_iterate, toNat_advance_iterate, Nat.add_right_cancel_iff]
  constructor
  · exact fun h => (Nat.ModEq.add_left_cancel' value.toNat h).add_right 1
  · exact fun h => (Nat.ModEq.add_right_cancel' 1 h).add_left value.toNat

/-! ## What is published -/

/-- The capturing side before it publishes. -/
def TransitionCapture.heldBy (s : TransitionCapture) (c : CaptureCall) : TransitionCapture :=
  if ¬ c.connected then { s with wasLoading := c.loading, holdFrames := 0, ticket := 0, route := 0 }
  else { (if c.issues s then s.issue c else s) with wasLoading := c.loading }

theorem capture_eq (s : TransitionCapture) (c : CaptureCall) :
    capture s c = (s.heldBy c).publish := by
  unfold capture TransitionCapture.heldBy
  split
  · rw [TransitionCapture.publish, if_neg fun h => h.1 rfl]
  · rfl

theorem publish_kept (s : TransitionCapture) :
    s.publish.1.wasLoading = s.wasLoading ∧ s.publish.1.ticketCounter = s.ticketCounter := by
  unfold TransitionCapture.publish
  split <;> exact ⟨rfl, rfl⟩

theorem publish_of_held {s : TransitionCapture}
    (h : s.holdFrames ≠ 0 ∧ transitionValid s.ticket s.route = true) :
    s.publish = ({ s with holdFrames := s.holdFrames - 1 }, s.ticket, s.route) := if_pos h

/-- A frame that shows a ticket: reviewed, and with the number of its issue. -/
structure Reviewed (counter : Word) (f : TransitionFrame) : Prop where
  ticket : f.ticket ≠ 0
  valid : transitionValid f.ticket f.route = true
  issue : 0 < f.issue
  number : f.ticket = advance^[f.issue] counter

/-- The frames that show the ticket of an issue. -/
def shown (n : Nat) (frames : List TransitionFrame) : Nat :=
  frames.countP fun f => decide (f.issue = n ∧ f.ticket ≠ 0)

/-- **What the capturing side and the channel keep.** -/
structure Ticketed (counter : Word) (s : TransitionNet) : Prop where
  counted : s.capture.ticketCounter = advance^[s.issued] counter
  held : s.capture.holdFrames ≠ 0 → 0 < s.issued ∧ s.capture.ticket = s.capture.ticketCounter
  frame : ∀ f ∈ s.channel.sent, f.ticket = 0 ∧ f.route = 0 ∨ Reviewed counter f
  issued : ∀ f ∈ s.channel.sent, f.issue ≤ s.issued
  current : ∀ f ∈ s.channel.sent, f.ticket ≠ 0 → f.issue = s.issued →
    s.capture.holdFrames ≠ 0 → f.route = s.capture.route
  same : ∀ f ∈ s.channel.sent, ∀ g ∈ s.channel.sent, f.ticket ≠ 0 → g.ticket ≠ 0 →
    f.issue = g.issue → f = g
  count : ∀ n, shown n s.channel.sent ≤ 300
  room : shown s.issued s.channel.sent + s.capture.holdFrames.toNat ≤ 300

theorem shown_eq_zero {n : Nat} {frames : List TransitionFrame} (h : ∀ f ∈ frames, f.issue < n) :
    shown n frames = 0 := by
  refine List.countP_eq_zero.mpr fun f hf hd => ?_
  exact absurd (of_decide_eq_true hd).1 (h f hf).ne

theorem shown_snoc (n : Nat) (frames : List TransitionFrame) (f : TransitionFrame) :
    shown n (frames ++ [f]) = shown n frames + if f.issue = n ∧ f.ticket ≠ 0 then 1 else 0 := by
  unfold shown
  rw [List.countP_append, List.countP_singleton]
  simp only [decide_eq_true_eq]

/-- The part of a frame before the publication. -/
def TransitionNet.begin (s : TransitionNet) (c : CaptureCall) : TransitionNet :=
  { s with
    capture := s.capture.heldBy c
    issued := if c.issues s.capture then s.issued + 1 else s.issued }

/-- The publication. -/
def TransitionNet.show (s : TransitionNet) : TransitionNet :=
  let next := s.capture.publish
  { s with
    capture := next.1
    channel := s.channel.send { issue := s.issued, ticket := next.2.1, route := next.2.2 } }

theorem step_capture (s : TransitionNet) (c : CaptureCall) :
    s.step (.capture c) = (s.begin c).show := by
  unfold TransitionNet.step TransitionNet.show TransitionNet.begin
  dsimp only
  rw [capture_eq]

theorem step_take (s : TransitionNet) (i : Nat) : s.step (.take i) = s
    ∨ ∃ frame channel, s.channel.take i = some (frame, channel)
      ∧ s.step (.take i) = { s with channel := channel, remote := frame } := by
  cases ht : s.channel.take i with
  | none =>
    left
    simp only [TransitionNet.step, ht]
  | some p =>
    right
    refine ⟨p.1, p.2, rfl, ?_⟩
    simp only [TransitionNet.step, ht]

theorem Ticketed.begin (h : Ticketed counter s) (c : CaptureCall) : Ticketed counter (s.begin c) := by
  unfold TransitionNet.begin TransitionCapture.heldBy
  by_cases hi : c.issues s.capture = true
  · have hc : c.connected = true := by
      simp only [CaptureCall.issues, Bool.and_eq_true] at hi
      exact hi.1.1.1.1
    simp only [hi, if_true, if_neg (not_not.mpr hc)]
    have hlt : ∀ f ∈ s.channel.sent, f.issue < s.issued + 1 :=
      fun f hf => Nat.lt_succ_of_le (h.issued f hf)
    refine ⟨?_, fun _ => ⟨Nat.succ_pos _, rfl⟩, h.frame, fun f hf => (hlt f hf).le,
      fun f hf _ hn _ => absurd hn (hlt f hf).ne, h.same, h.count, ?_⟩
    · rw [Function.iterate_succ_apply', ← h.counted]
      rfl
    · rw [shown_eq_zero hlt]
      exact show 0 + transitionHoldFrames.toNat ≤ 300 by decide
  · simp only [hi, if_false, Bool.false_eq_true]
    split
    · exact ⟨h.counted, fun h0 => absurd rfl h0, h.frame, h.issued,
        fun _ _ _ _ h0 => absurd rfl h0, h.same, h.count, h.count s.issued⟩
    · exact ⟨h.counted, h.held, h.frame, h.issued, h.current, h.same, h.count, h.room⟩

/-- A frame that shows no ticket. -/
theorem Ticketed.blank (h : Ticketed counter s) {s' : TransitionNet} (hi : s'.issued = s.issued)
    (hc : s'.capture = s.capture)
    (hs : s'.channel.sent = s.channel.sent ++ [{ issue := s.issued }]) : Ticketed counter s' := by
  have hmem : ∀ f ∈ s'.channel.sent, f ∈ s.channel.sent ∨ f = { issue := s.issued } := by
    intro f hf
    rw [hs] at hf
    exact (List.mem_append.mp hf).imp_right List.mem_singleton.mp
  have hshown : ∀ n, shown n s'.channel.sent = shown n s.channel.sent := by
    intro n
    rw [hs, shown_snoc, if_neg fun h => h.2 rfl, Nat.add_zero]
  refine ⟨?_, ?_, fun f hf => ?_, fun f hf => ?_, fun f hf hne => ?_, fun f hf g hg hfn hgn => ?_,
    fun n => ?_, ?_⟩
  · rw [hc, hi]
    exact h.counted
  · rw [hc, hi]
    exact h.held
  · rcases hmem f hf with hf | rfl
    · exact h.frame f hf
    · exact .inl ⟨rfl, rfl⟩
  · rw [hi]
    rcases hmem f hf with hf | rfl
    · exact h.issued f hf
    · exact le_rfl
  · rw [hi, hc]
    rcases hmem f hf with hf | rfl
    · exact h.current f hf hne
    · exact absurd rfl hne
  · rcases hmem f hf with hf | rfl
    · rcases hmem g hg with hg | rfl
      · exact h.same f hf g hg hfn hgn
      · exact absurd rfl hgn
    · exact absurd rfl hfn
  · rw [hshown]
    exact h.count n
  · rw [hshown, hi, hc]
    exact h.room

/-- A frame that shows the ticket being held. -/
theorem Ticketed.ticket (h : Ticketed counter s) {s' : TransitionNet} {t : TransitionCapture}
    (hh : s.capture.holdFrames ≠ 0) (hv : transitionValid s.capture.ticket s.capture.route = true)
    (ht : t = { s.capture with holdFrames := s.capture.holdFrames - 1 })
    (hi : s'.issued = s.issued) (hc : s'.capture = t)
    (hs : s'.channel.sent = s.channel.sent ++
      [{ issue := s.issued, ticket := s.capture.ticket, route := s.capture.route }]) :
    Ticketed counter s' := by
  subst ht
  obtain ⟨hpos, hticket⟩ := h.held hh
  have hnumber : s.capture.ticket = advance^[s.issued] counter := hticket.trans h.counted
  have hne : s.capture.ticket ≠ 0 := by
    obtain ⟨n, hn⟩ : ∃ n, s.issued = n + 1 := ⟨s.issued - 1, by omega⟩
    rw [hnumber, hn, Function.iterate_succ_apply']
    exact advance_ne_zero _
  have hmem : ∀ f ∈ s'.channel.sent, f ∈ s.channel.sent
      ∨ f = { issue := s.issued, ticket := s.capture.ticket, route := s.capture.route } := by
    intro f hf
    rw [hs] at hf
    exact (List.mem_append.mp hf).imp_right List.mem_singleton.mp
  -- a frame of the issue being held is the one that is sent again
  have heq : ∀ f ∈ s.channel.sent, f.ticket ≠ 0 → f.issue = s.issued →
      f = { issue := s.issued, ticket := s.capture.ticket, route := s.capture.route } := by
    intro f hf hfn hfi
    have hr := (h.frame f hf).resolve_left fun h0 => hfn h0.1
    refine TransitionFrame.ext hfi ?_ (h.current f hf hfn hfi hh)
    rw [hr.number, hfi, ← hnumber]
  have hless : (s.capture.holdFrames - 1).toNat + 1 = s.capture.holdFrames.toNat := by
    have hpos : 0 < s.capture.holdFrames.toNat :=
      Nat.pos_of_ne_zero fun h0 => hh (BitVec.eq_of_toNat_eq h0)
    rw [BitVec.toNat_sub_of_le (BitVec.le_def.mpr (show (1 : Word).toNat ≤ _ from hpos))]
    exact Nat.sub_add_cancel hpos
  have hroom := h.room
  refine ⟨?_, fun _ => ?_, fun f hf => ?_, fun f hf => ?_, fun f hf hfn => ?_,
    fun f hf g hg hfn hgn hfg => ?_, fun n => ?_, ?_⟩
  · rw [hc, hi]
    exact h.counted
  · rw [hc, hi]
    exact ⟨hpos, hticket⟩
  · rcases hmem f hf with hf | rfl
    · exact h.frame f hf
    · exact .inr ⟨hne, hv, hpos, hnumber⟩
  · rw [hi]
    rcases hmem f hf with hf | rfl
    · exact h.issued f hf
    · exact le_rfl
  · rw [hi, hc]
    rcases hmem f hf with hf | rfl
    · exact fun hfi _ => h.current f hf hfn hfi hh
    · exact fun _ _ => rfl
  · rcases hmem f hf with hf | rfl
    · rcases hmem g hg with hg | rfl
      · exact h.same f hf g hg hfn hgn hfg
      · exact heq f hf hfn hfg
    · rcases hmem g hg with hg | rfl
      · exact (heq g hg hgn hfg.symm).symm
      · rfl
  · rw [hs, shown_snoc]
    split
    · rename_i hn
      rw [← show s.issued = n from hn.1]
      omega
    · exact h.count n
  · rw [hs, hi, hc, shown_snoc, if_pos ⟨rfl, hne⟩]
    dsimp only
    omega

theorem Ticketed.show (h : Ticketed counter s) : Ticketed counter s.show := by
  by_cases hp : s.capture.holdFrames ≠ 0 ∧ transitionValid s.capture.ticket s.capture.route = true
  · refine h.ticket hp.1 hp.2 rfl rfl ?_ ?_ <;>
      simp only [TransitionNet.show, TransitionCapture.publish, if_pos hp, sent_send]
  · refine h.blank rfl ?_ ?_ <;>
      simp only [TransitionNet.show, TransitionCapture.publish, if_neg hp, sent_send]

/-- **What the capturing side and the channel keep**, over every event. -/
theorem Ticketed.step (h : Ticketed counter s) (e : TransitionEvent) : Ticketed counter (s.step e) := by
  cases e with
  | capture c =>
    rw [step_capture]
    exact (h.begin c).show
  | take i =>
    rcases step_take s i with he | ⟨frame, channel, ht, he⟩
    · rw [he]
      exact h
    · rw [he]
      obtain ⟨h1, h2, h3, h4, h5, h6, h7, h8⟩ := h
      rw [← sent_take ht] at h3 h4 h5 h6 h7 h8
      exact ⟨h1, h2, h3, h4, h5, h6, h7, h8⟩
  | follow c => exact ⟨h.counted, h.held, h.frame, h.issued, h.current, h.same, h.count, h.room⟩
  | consumed => exact ⟨h.counted, h.held, h.frame, h.issued, h.current, h.same, h.count, h.room⟩

theorem ticketed_start (counter : Word) (loading : Bool) (f : TransitionFollow) :
    Ticketed counter (.start counter loading f) := by
  have hnone : ∀ g, g ∉ (TransitionNet.start counter loading f).channel.sent :=
    fun _ => List.not_mem_nil
  exact ⟨rfl, fun h => absurd rfl h, fun g hg => absurd hg (hnone g), fun g hg => absurd hg (hnone g),
    fun g hg => absurd hg (hnone g), fun g hg => absurd hg (hnone g), fun _ => Nat.zero_le _,
    Nat.zero_le _⟩

/-! ## What the follower receives -/

/-- The follower receives the frames in order. -/
structure InOrder (s : TransitionNet) : Prop where
  issued : ∀ f ∈ s.channel.sent, f.issue ≤ s.issued
  sorted : s.channel.sent.Pairwise fun f g => f.issue ≤ g.issue
  remote : s.remote = {} ∨ s.remote ∈ s.channel.sent
  ahead : ∀ i f, s.channel.next ≤ i → s.channel.sent[i]? = some f → s.remote.issue ≤ f.issue

theorem sent_capture (s : TransitionNet) (c : CaptureCall) :
    ∃ f, f.issue = (s.step (.capture c)).issued ∧ s.issued ≤ f.issue
      ∧ (s.step (.capture c)).channel = s.channel.send f := by
  refine ⟨_, rfl, ?_, rfl⟩
  dsimp only
  split
  · exact Nat.le_succ _
  · exact le_rfl

theorem InOrder.step (h : InOrder s) (e : TransitionEvent) : InOrder (s.step e) := by
  cases e with
  | capture c =>
    obtain ⟨f, hf, hle, hc⟩ := sent_capture s c
    have hremote : s.remote.issue ≤ f.issue := by
      rcases h.remote with hr | hr
      · rw [hr]
        exact Nat.zero_le _
      · exact (h.issued _ hr).trans hle
    refine ⟨fun g hg => ?_, ?_, ?_, fun i g hi hg => ?_⟩
    · rw [hc, sent_send, List.mem_append, List.mem_singleton] at hg
      rcases hg with hg | rfl
      · exact (h.issued g hg).trans (hle.trans hf.le)
      · exact hf.le
    · rw [hc, sent_send, List.pairwise_append]
      refine ⟨h.sorted, List.pairwise_singleton _ _, fun g hg k hk => ?_⟩
      rw [List.mem_singleton.mp hk]
      exact (h.issued g hg).trans hle
    · rw [hc, sent_send]
      exact h.remote.imp_right fun hr => List.mem_append_left _ hr
    · rw [hc, sent_send] at hg
      rw [hc] at hi
      by_cases hlt : i < s.channel.sent.length
      · rw [List.getElem?_append_left hlt] at hg
        exact h.ahead i g hi hg
      · rw [List.getElem?_append_right (Nat.not_lt.mp hlt)] at hg
        rw [List.mem_singleton.mp (List.mem_of_getElem? hg)]
        exact hremote
  | take i =>
    rcases step_take s i with he | ⟨frame, channel, ht, he⟩
    · rw [he]
      exact h
    · obtain ⟨hnext, hget, rfl⟩ := take_eq_some.mp ht
      rw [he]
      refine ⟨h.issued, h.sorted, .inr (List.mem_of_getElem? hget), fun j g hj hg => ?_⟩
      obtain ⟨hi, rfl⟩ := List.getElem?_eq_some_iff.mp hget
      obtain ⟨hj', rfl⟩ := List.getElem?_eq_some_iff.mp hg
      exact List.pairwise_iff_getElem.mp h.sorted i j hi hj' hj
  | follow c => exact ⟨h.issued, h.sorted, h.remote, h.ahead⟩
  | consumed => exact ⟨h.issued, h.sorted, h.remote, h.ahead⟩

/-- The issue the follower sees never goes back, and the log only grows. -/
theorem remote_step (h : InOrder s) (e : TransitionEvent) :
    s.remote.issue ≤ (s.step e).remote.issue
    ∧ ∀ f ∈ s.channel.sent, f ∈ (s.step e).channel.sent := by
  cases e with
  | capture c =>
    obtain ⟨f, -, -, hc⟩ := sent_capture s c
    refine ⟨le_rfl, fun g hg => ?_⟩
    rw [hc, sent_send]
    exact List.mem_append_left _ hg
  | take i =>
    rcases step_take s i with he | ⟨frame, channel, ht, he⟩
    · rw [he]
      exact ⟨le_rfl, fun _ hf => hf⟩
    · obtain ⟨hnext, hget, rfl⟩ := take_eq_some.mp ht
      rw [he]
      exact ⟨h.ahead i frame hnext hget, fun _ hf => hf⟩
  | follow c => exact ⟨le_rfl, fun _ hf => hf⟩
  | consumed => exact ⟨le_rfl, fun _ hf => hf⟩

/-! ## One frame of the follower -/

variable {follow : TransitionFollow} {call : FollowCall} {ticket route : Word}

/-- The ticket was seen on this connection. -/
def Seen (ticket : Word) (follow : TransitionFollow) : Prop :=
  follow.connected = true ∧ follow.seenTicket = ticket

/-- The ticket can no longer be followed: nothing is waiting, or something from another map. -/
def Dropped (ticket route : Word) (follow : TransitionFollow) : Prop :=
  Seen ticket follow ∧ (follow.pending = false ∨ follow.sourceMap ≠ route &&& 0xFF)

theorem connect_of_connected (h : follow.connected = true) : follow.connect = follow := by
  rw [TransitionFollow.connect, if_pos h]

theorem connected_connect (follow : TransitionFollow) : follow.connect.connected = true := by
  unfold TransitionFollow.connect
  split
  · assumption
  · rfl

theorem shouldFollow_blank (follow : TransitionFollow) (call : FollowCall) :
    shouldFollow follow true call 0 0 = (follow.connect, false) := by
  rw [shouldFollow, if_neg (not_not.mpr rfl)]
  exact if_pos ⟨rfl, rfl⟩

/-- A frame that shows a ticket is seen. -/
theorem shouldFollow_ticket (ht : ticket ≠ 0) (hv : transitionValid ticket route = true) :
    shouldFollow follow true call ticket route =
      (follow.connect.see ticket (route &&& 0xFF) call.localMap,
        (follow.connect.see ticket (route &&& 0xFF) call.localMap).pending && call.authorized route
          && call.playing && !call.loading
          && decide (call.localMap = route &&& 0xFF ∧ call.remoteFlags &&& 1 ≠ 0
            ∧ call.remoteFlags &&& 2 = 0)) := by
  rw [shouldFollow, if_neg (not_not.mpr rfl)]
  dsimp only
  rw [if_neg fun h => ht h.1, if_neg (not_not.mpr hv)]

theorem see_spec (follow : TransitionFollow) (ticket source localMap : Word) :
    (follow.see ticket source localMap).connected = follow.connected
    ∧ (follow.see ticket source localMap).seenTicket = ticket := by
  unfold TransitionFollow.see
  by_cases h : ticket ≠ follow.seenTicket
  · rw [if_pos h]
    exact ⟨rfl, rfl⟩
  · rw [if_neg h]
    split
    · exact ⟨rfl, (not_not.mp h).symm⟩
    · exact ⟨rfl, (not_not.mp h).symm⟩

/-- Away from its source a ticket is dropped, whether it is new or was waiting. -/
theorem see_away {source localMap : Word} (h : localMap ≠ source) :
    (follow.see ticket source localMap).pending = false
    ∨ (follow.see ticket source localMap).sourceMap ≠ source := by
  unfold TransitionFollow.see
  by_cases ht : ticket ≠ follow.seenTicket
  · rw [if_pos ht]
    exact .inl (decide_eq_false h)
  · rw [if_neg ht]
    by_cases hp : follow.pending = true ∧ localMap ≠ follow.sourceMap
    · rw [if_pos hp]
      exact .inl rfl
    · rw [if_neg hp]
      cases hpending : follow.pending with
      | false => exact .inl rfl
      | true =>
        right
        have hmap : localMap = follow.sourceMap := not_not.mp fun hn => hp ⟨hpending, hn⟩
        rw [← hmap]
        exact h

/-- A dropped ticket stays dropped, and where it could be followed nothing is waiting. -/
theorem see_dropped {source localMap : Word} (ht : follow.seenTicket = ticket)
    (h : follow.pending = false ∨ follow.sourceMap ≠ source) :
    ((follow.see ticket source localMap).pending = false
      ∨ (follow.see ticket source localMap).sourceMap ≠ source)
    ∧ (localMap = source → (follow.see ticket source localMap).pending = false) := by
  unfold TransitionFollow.see
  rw [if_neg (not_not.mpr ht.symm)]
  by_cases hp : follow.pending = true ∧ localMap ≠ follow.sourceMap
  · rw [if_pos hp]
    exact ⟨.inl rfl, fun _ => rfl⟩
  · rw [if_neg hp]
    refine ⟨h, fun hmap => ?_⟩
    rcases h with h | h
    · exact h
    · exact Bool.eq_false_iff.mpr fun hpending => hp ⟨hpending, fun he => h (he.symm.trans hmap)⟩

theorem routeAllowed_of_valid (ht : ticket ≠ 0) (hv : transitionValid ticket route = true) :
    transitionRouteAllowed (unpackRoute route) = true := by
  unfold transitionValid at hv
  split at hv
  · exact absurd (of_decide_eq_true hv).1 ht
  · simp only [Bool.and_eq_true] at hv
    exact hv.2

/-! ## Once followed, or away -/

/-- The follower is past the issue of the frame, or at it with `P`. -/
def Past (P : TransitionFollow → Prop) (f : TransitionFrame) (s : TransitionNet) : Prop :=
  f.issue < s.remote.issue ∨ f.issue = s.remote.issue ∧ P s.follow

/-- The follower saw the ticket of the frame. -/
def SeenFrame (f : TransitionFrame) : TransitionNet → Prop := Past (Seen f.ticket) f

/-- The ticket of the frame can no longer be followed. -/
def Spent (f : TransitionFrame) : TransitionNet → Prop := Past (Dropped f.ticket f.route) f

/-- What holds of both ends at any time. -/
structure Following (counter : Word) (f : TransitionFrame) (s : TransitionNet) : Prop where
  ticketed : Ticketed counter s
  order : InOrder s
  sent : f ∈ s.channel.sent

theorem Following.step (h : Following counter f s) (e : TransitionEvent) :
    Following counter f (s.step e) :=
  ⟨h.ticketed.step e, h.order.step e, (remote_step h.order e).2 f h.sent⟩

/-- The frame the follower holds shows no ticket, or is reviewed and the one of its issue. -/
theorem Following.remote (h : Following counter f s) (hf : f.ticket ≠ 0)
    (hi : f.issue = s.remote.issue) :
    s.remote.ticket = 0 ∧ s.remote.route = 0 ∨ s.remote = f ∧ Reviewed counter f := by
  rcases h.order.remote with hr | hr
  · rw [hr]
    exact .inl ⟨rfl, rfl⟩
  · rcases h.ticketed.frame _ hr with hz | hw
    · exact .inl hz
    · have heq := h.ticketed.same _ hr f h.sent hw.ticket hf hi.symm
      exact .inr ⟨heq, heq ▸ hw⟩

/-- What a frame of the follower says when it shows the ticket. -/
theorem following_ticket (hr : s.remote = f) (hw : Reviewed counter f) (call : FollowCall) :
    (s.following call).1 = s.follow.connect.see f.ticket (f.route &&& 0xFF) call.localMap
    ∧ ((s.following call).2 = true → call.localMap = f.route &&& 0xFF
      ∧ (s.following call).1.pending = true) := by
  unfold TransitionNet.following
  rw [hr, shouldFollow_ticket hw.ticket hw.valid]
  refine ⟨rfl, fun h => ?_⟩
  simp only [Bool.and_eq_true, decide_eq_true_eq] at h
  exact ⟨h.2.1, h.1.1.1.1⟩

theorem following_blank (hr : s.remote.ticket = 0 ∧ s.remote.route = 0) (call : FollowCall) :
    s.following call = (s.follow.connect, false) := by
  unfold TransitionNet.following
  rw [hr.1, hr.2]
  exact shouldFollow_blank _ _

/-- What every frame of the follower and every `consumed` keeps, every event keeps. -/
theorem past_step {P : TransitionFollow → Prop} (hconnected : ∀ follow, P follow → follow.connected)
    (hsee : ∀ follow localMap, P follow → P (follow.see f.ticket (f.route &&& 0xFF) localMap))
    (hconsumed : ∀ follow, P follow → P (consumed follow)) (h : Following counter f s)
    (hf : f.ticket ≠ 0) (hs : Past P f s) (e : TransitionEvent) : Past P f (s.step e) := by
  have hmono := (remote_step h.order e).1
  rcases hs with hlt | ⟨heq, hp⟩
  · exact .inl (hlt.trans_le hmono)
  rcases (heq.le.trans hmono).lt_or_eq with hlt | hi
  · exact .inl hlt
  refine .inr ⟨hi, ?_⟩
  cases e with
  | capture c => exact hp
  | take i =>
    rcases step_take s i with he | ⟨frame, channel, -, he⟩ <;> rw [he] <;> exact hp
  | consumed => exact hconsumed _ hp
  | follow call =>
    change P (s.following call).1
    rcases h.remote hf heq with hz | ⟨hr, hw⟩
    · rw [following_blank hz, connect_of_connected (hconnected _ hp)]
      exact hp
    · rw [(following_ticket hr hw call).1, connect_of_connected (hconnected _ hp)]
      exact hsee _ _ hp

theorem seenFrame_step (h : Following counter f s) (hf : f.ticket ≠ 0) (hs : SeenFrame f s)
    (e : TransitionEvent) : SeenFrame f (s.step e) :=
  past_step (fun _ h => h.1)
    (fun follow localMap h =>
      ⟨(see_spec follow _ _ localMap).1.trans h.1, (see_spec follow _ _ localMap).2⟩)
    (fun _ h => h) h hf hs e

/-- **A spent ticket stays spent.** -/
theorem spent_step (h : Following counter f s) (hf : f.ticket ≠ 0) (hs : Spent f s)
    (e : TransitionEvent) : Spent f (s.step e) :=
  past_step (fun _ h => h.1.1)
    (fun follow localMap h =>
      ⟨⟨(see_spec follow _ _ localMap).1.trans h.1.1, (see_spec follow _ _ localMap).2⟩,
        (see_dropped h.1.2 h.2).1⟩)
    (fun _ h => ⟨h.1, .inl rfl⟩) h hf hs e

/-- **A spent ticket is not followed.** -/
theorem following_spent (hr : s.remote = f) (hw : Reviewed counter f)
    (hs : Spent f s) (call : FollowCall) : (s.following call).2 = false := by
  have hdropped : Dropped f.ticket f.route s.follow := by
    rcases hs with hlt | hs
    · rw [hr] at hlt
      exact absurd hlt (lt_irrefl _)
    · exact hs.2
  refine Bool.eq_false_iff.mpr fun ht => ?_
  obtain ⟨hsee, hpending⟩ := following_ticket hr hw call
  obtain ⟨hmap, hp⟩ := hpending ht
  rw [hsee, connect_of_connected hdropped.1.1,
    (see_dropped hdropped.1.2 hdropped.2).2 hmap] at hp
  cases hp

/-- A frame of the follower that shows the ticket: seen, and away from its source spent. -/
theorem seenFrame_follow (hr : s.remote = f) (hw : Reviewed counter f) (call : FollowCall) :
    SeenFrame f (s.step (.follow call))
    ∧ (call.localMap ≠ f.route &&& 0xFF → Spent f (s.step (.follow call))) := by
  have hfollow : (s.step (.follow call)).follow
      = s.follow.connect.see f.ticket (f.route &&& 0xFF) call.localMap :=
    (following_ticket hr hw call).1
  have hremote : f.issue = (s.step (.follow call)).remote.issue := by
    change f.issue = s.remote.issue
    rw [hr]
  obtain ⟨hc, ht⟩ := see_spec s.follow.connect f.ticket (f.route &&& 0xFF) call.localMap
  have hseen : Seen f.ticket (s.step (.follow call)).follow := by
    rw [hfollow]
    exact ⟨hc.trans (connected_connect _), ht⟩
  refine ⟨.inr ⟨hremote, hseen⟩, fun haway => .inr ⟨hremote, hseen, ?_⟩⟩
  rw [hfollow]
  exact see_away haway

theorem spent_consumed (hs : SeenFrame f s) : Spent f (s.step .consumed) := by
  rcases hs with hlt | ⟨heq, hseen⟩
  · exact .inl hlt
  · exact .inr ⟨heq, hseen, .inl rfl⟩

/-! ## Runs -/

theorem following_start (counter : Word) (loading : Bool) (follow : TransitionFollow)
    (es : List TransitionEvent) :
    let s := Run.run TransitionNet.step (.start counter loading follow) es
    Ticketed counter s ∧ InOrder s :=
  Run.run_invariant_of_steps (I := fun s => Ticketed counter s ∧ InOrder s)
    (fun _ e h => ⟨h.1.step e, h.2.step e⟩)
    ⟨ticketed_start counter loading follow, fun _ h => absurd h List.not_mem_nil,
      List.Pairwise.nil, .inl rfl, fun _ _ _ h => by cases h⟩ es

/-- A spent ticket is spent at the end of the run. -/
theorem spent_run (h : Following counter f s) (hf : f.ticket ≠ 0) (hs : Spent f s)
    (es : List TransitionEvent) : Spent f (Run.run TransitionNet.step s es) :=
  (Run.run_invariant_of_steps (I := fun s => Following counter f s ∧ Spent f s)
    (fun _ e h => ⟨h.1.step e, spent_step h.1 hf h.2 e⟩) ⟨h, hs⟩ es).2

theorem seenFrame_run (h : Following counter f s) (hf : f.ticket ≠ 0) (hs : SeenFrame f s)
    (es : List TransitionEvent) : Following counter f (Run.run TransitionNet.step s es)
      ∧ SeenFrame f (Run.run TransitionNet.step s es) :=
  Run.run_invariant_of_steps (I := fun s => Following counter f s ∧ SeenFrame f s)
    (fun _ e h => ⟨h.1.step e, seenFrame_step h.1 hf h.2 e⟩) ⟨h, hs⟩ es

theorem sent_run (h : InOrder s) (es : List TransitionEvent) (hf : f ∈ s.channel.sent) :
    f ∈ (Run.run TransitionNet.step s es).channel.sent :=
  (Run.run_invariant_of_steps (I := fun s => InOrder s ∧ f ∈ s.channel.sent)
    (fun _ e h => ⟨h.1.step e, (remote_step h.1 e).2 f h.2⟩) ⟨h, hf⟩ es).2

/-- **A ticket is followed at most once.** Over one connection, from any counter, for any interleaving
of the two sides and any dropped frames: every frame shows nothing or a reviewed route under a nonzero
ticket; a ticket is shown for at most 300 frames, always with the same route, and two tickets have one
number only when a multiple of `2 ^ 32 - 1` tickets lies between them. When a frame of the follower
follows a ticket, the follower stands on its source map, stood there in every earlier frame that showed
the ticket, and nothing was consumed since it first saw the ticket. -/
theorem transition_followed_once (counter : Word) (loading : Bool) (follow : TransitionFollow)
    (es : List TransitionEvent) :
    let s := Run.run TransitionNet.step (.start counter loading follow) es
    (∀ f ∈ s.channel.sent, f.ticket = 0 ∧ f.route = 0 ∨ f.ticket ≠ 0
      ∧ transitionValid f.ticket f.route = true
      ∧ transitionRouteAllowed (unpackRoute f.route) = true)
    ∧ (∀ n, shown n s.channel.sent ≤ 300)
    ∧ (∀ f ∈ s.channel.sent, ∀ g ∈ s.channel.sent, f.ticket ≠ 0 → g.ticket ≠ 0 →
      (f.issue = g.issue → f = g) ∧ (f.ticket = g.ticket ↔ f.issue ≡ g.issue [MOD 2 ^ 32 - 1]))
    ∧ ∀ call, (s.following call).2 = true →
      s.remote.ticket ≠ 0 ∧ call.localMap = s.remote.route &&& 0xFF
      ∧ ∀ pre call' post, es = pre ++ .follow call' :: post →
        let s' := Run.run TransitionNet.step (.start counter loading follow) pre
        s'.remote.issue = s.remote.issue → s'.remote.ticket ≠ 0 →
        call'.localMap = s.remote.route &&& 0xFF ∧ TransitionEvent.consumed ∉ post := by
  intro s
  obtain ⟨hticketed, horder⟩ := following_start counter loading follow es
  refine ⟨fun f hf => ?_, hticketed.count, fun f hf g hg hfn hgn => ⟨hticketed.same f hf g hg hfn hgn,
    ?_⟩, fun call hcall => ?_⟩
  · rcases hticketed.frame f hf with hz | hw
    · exact .inl hz
    · exact .inr ⟨hw.ticket, hw.valid, routeAllowed_of_valid hw.ticket hw.valid⟩
  · have hf' := (hticketed.frame f hf).resolve_left fun h => hfn h.1
    have hg' := (hticketed.frame g hg).resolve_left fun h => hgn h.1
    rw [hf'.number, hg'.number]
    exact advance_iterate_inj counter hf'.issue hg'.issue
  · have hshows : ¬ (s.remote.ticket = 0 ∧ s.remote.route = 0) := by
      intro hz
      rw [following_blank hz] at hcall
      cases hcall
    have hmem : s.remote ∈ s.channel.sent := by
      rcases horder.remote with hr | hr
      · exact absurd (by rw [hr]; exact ⟨rfl, rfl⟩) hshows
      · exact hr
    have hw : Reviewed counter s.remote := (hticketed.frame _ hmem).resolve_left hshows
    refine ⟨hw.ticket, ((following_ticket rfl hw call).2 hcall).1, ?_⟩
    intro pre call' post hes s' hi hne
    obtain ⟨hticketed', horder'⟩ := following_start counter loading follow pre
    have hsplit : s = Run.run TransitionNet.step (s'.step (.follow call')) post := by
      change Run.run _ _ es = _
      rw [hes, Run.run_append, Run.run_cons]
    -- the earlier frame is the one that is shown now
    have hmem' : s'.remote ∈ s'.channel.sent := by
      rcases horder'.remote with hr | hr
      · exact absurd (by rw [hr]) hne
      · exact hr
    have hsame : s'.remote = s.remote := by
      have hin : s'.remote ∈ s.channel.sent := by
        rw [hsplit]
        exact sent_run (horder'.step _) post hmem'
      exact hticketed.same _ hin _ hmem hne hw.ticket hi
    have hfollowing : Following counter s.remote s' := ⟨hticketed', horder', hsame ▸ hmem'⟩
    obtain ⟨hseen, haway⟩ := seenFrame_follow hsame hw call'
    have hspent : ¬ Spent s.remote s := fun h => by
      rw [following_spent rfl hw h call] at hcall
      cases hcall
    constructor
    · by_contra hmap
      refine hspent ?_
      have hrun := spent_run (hfollowing.step (.follow call')) hw.ticket (haway hmap) post
      rw [← hsplit] at hrun
      exact hrun
    · intro hconsumed
      obtain ⟨mid, rest, rfl⟩ := List.append_of_mem hconsumed
      refine hspent ?_
      obtain ⟨hmid, hseenMid⟩ := seenFrame_run (hfollowing.step (.follow call')) hw.ticket hseen mid
      have hrun := spent_run (hmid.step .consumed) hw.ticket (spent_consumed hseenMid) rest
      rw [← Run.run_cons, ← Run.run_append, ← hsplit] at hrun
      exact hrun

/-- A frame of a host at the portal from map 7 to map 4. -/
def portalCall (loading : Bool) : CaptureCall where
  connected := true
  host := true
  sharedEvents := false
  ordinaryEligible := true
  sharedEligible := false
  loading := loading
  sourceMap := 7
  nextMap := 4
  nextExit := 0

/-- A follower on map 7 that plays while the host is active. -/
def portalFollow : FollowCall where
  ordinaryFollow := true
  sharedEvents := false
  playing := true
  loading := false
  localMap := 7
  remoteFlags := 1

/-- A host enters the portal, and the guest follows its first frame. -/
theorem transition_followed_once_portal :
    let es : List TransitionEvent := [.capture (portalCall true), .take 0, .follow portalFollow]
    let s := Run.run TransitionNet.step (.start 0 false {}) es
    (s.following portalFollow).2 = true ∧ s.remote.ticket ≠ 0 := by
  intro es s
  have hfollows : (s.following portalFollow).2 = true := by decide
  exact ⟨hfollows, ((transition_followed_once 0 false {} es).2.2.2 portalFollow hfollows).1⟩

theorem transitionValid_portal {ticket : Word} (h : ticket ≠ 0) :
    transitionValid ticket (packRoute 7 4 0) = true := by
  have hroute : ¬ (packRoute 7 4 0 = 0 ∨ packRoute 7 4 0 &&& 0xFF000000 ≠ 0) := by decide
  unfold transitionValid
  rw [if_neg (not_or.mpr ⟨h, hroute⟩)]
  decide

/-- The host enters the portal: a new ticket. -/
theorem capture_portal {t : TransitionCapture} (h : t.wasLoading = false) :
    (capture t (portalCall true)).2 = (advance t.ticketCounter, packRoute 7 4 0)
    ∧ (capture t (portalCall true)).1.ticketCounter = advance t.ticketCounter := by
  have hissues : (portalCall true).issues t = true := by
    unfold CaptureCall.issues
    rw [h]
    decide
  have hpublish : transitionHoldFrames ≠ 0
      ∧ transitionValid (advance t.ticketCounter) (packRoute 7 4 0) = true :=
    ⟨by decide, transitionValid_portal (advance_ne_zero _)⟩
  rw [capture_eq, TransitionCapture.heldBy,
    if_neg (show ¬ ¬ (portalCall true).connected = true from not_not.mpr rfl), if_pos hissues]
  exact ⟨congrArg Prod.snd (publish_of_held hpublish), (publish_kept _).2⟩

/-- The host comes out of the loading screen. -/
theorem capture_arrive (t : TransitionCapture) :
    (capture t (portalCall false)).1.wasLoading = false
    ∧ (capture t (portalCall false)).1.ticketCounter = t.ticketCounter := by
  have hissues : (portalCall false).issues t = false := rfl
  rw [capture_eq, TransitionCapture.heldBy,
    if_neg (show ¬ ¬ (portalCall false).connected = true from not_not.mpr rfl), hissues]
  exact publish_kept _

theorem capture_portals (n : Nat) {t : TransitionCapture} (h : t.wasLoading = false) :
    let t' := Run.run (fun t c => (capture t c).1) t
      (List.replicate n [portalCall true, portalCall false]).flatten
    t'.wasLoading = false ∧ t'.ticketCounter = advance^[n] t.ticketCounter := by
  induction n generalizing t with
  | zero => exact ⟨h, rfl⟩
  | succ n ih =>
    rw [List.replicate_succ, List.flatten_cons, Run.run_append]
    obtain ⟨hloading, hcounter⟩ := capture_arrive (capture t (portalCall true)).1
    obtain ⟨h1, h2⟩ := ih hloading
    refine ⟨h1, ?_⟩
    rw [Function.iterate_succ_apply]
    exact h2.trans (by rw [hcounter, (capture_portal h).2])

theorem number_returns {n : Nat} (hn : n + 1 ≡ 1 [MOD 2 ^ 32 - 1]) :
    advance (advance^[n] 0) = 1 := by
  have hiterate := (advance_iterate_inj 0 (Nat.add_pos_right n Nat.one_pos) Nat.one_pos).mpr hn
  rw [Function.iterate_succ_apply'] at hiterate
  exact hiterate.trans (by decide)

theorem capture_portals_again {n : Nat} (hn : n + 1 ≡ 1 [MOD 2 ^ 32 - 1]) :
    (capture (Run.run (fun t c => (capture t c).1) {}
      (List.replicate n [portalCall true, portalCall false]).flatten) (portalCall true)).2
        = (1, packRoute 7 4 0) := by
  obtain ⟨hloading, hcounter⟩ := capture_portals n (t := {}) rfl
  rw [(capture_portal hloading).1, hcounter, number_returns hn]

/-- After `2 ^ 32 - 1` tickets the next one has the number of the first. -/
theorem ticket_number_returns :
    let tickets := (List.replicate (2 ^ 32 - 1) [portalCall true, portalCall false]).flatten
    (capture {} (portalCall true)).2 = (1, packRoute 7 4 0)
    ∧ (capture (Run.run (fun t c => (capture t c).1) {} tickets) (portalCall true)).2
      = (1, packRoute 7 4 0) := by
  refine ⟨?_, capture_portals_again Nat.add_modEq_left⟩
  rw [(capture_portal (t := {}) rfl).1]
  exact congrArg (·, _) (by decide)

end Dk64Port.Coop
