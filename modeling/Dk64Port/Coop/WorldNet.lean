import Dk64Port.Coop.WorldToggle
import Dk64Port.Lib.LossyChannel
import Dk64Port.Lib.Run
import Dk64Port.Lib.VersionedRegister
import Mathlib.Algebra.Group.Nat.Defs

/-!
# World toggles of one session

A host and a guest `WorldSync` in one session. A state packet carries a snapshot of the sender's
wire (`send`), the network delivers, loses and delays packets, and only packets newer than the last
one taken are taken (`take`). Updates come at any time, with the freshness and permission the
session computes from the item channel left open.

* `world_toggles_agree`: **equal revisions mean equal values**, the guest holds published revisions
  only, and the host's revisions never go backwards.
* `endStep` / `updateEffect`: what an event can do to an endpoint.
-/

namespace Dk64Port.Coop

open LossyChannel VersionedRegister

/-- What one endpoint keeps about the world channel within one session. -/
structure WorldEnd where
  /-- `world_sync`. -/
  sync : WorldSync := {}
  /-- `remote_world`. -/
  remote : WorldWire := {}
  /-- `status == Status::connected`. -/
  connected : Bool := false

/-- `world_sync.update(...)` of `Session::tick`. -/
def WorldEnd.update (e : WorldEnd) (host : Bool) (l : CoopWorldInput) (fresh permitted : Bool)
    (session : Word64) : WorldEnd :=
  { e with sync := e.sync.update host l e.remote e.connected fresh permitted session }

/-- A state packet is taken. -/
def WorldEnd.take (e : WorldEnd) (received : WorldWire) : WorldEnd :=
  { e with remote := received, connected := true }

/-- Both endpoints, and the snapshots each has sent. -/
structure WorldNet where
  ends : Bool → WorldEnd
  sent : Bool → Channel WorldWire

inductive WorldEvent where
  /-- The guest takes the welcome. -/
  | welcome
  /-- `world_sync.update(...)` of one side. -/
  | update (host : Bool) (l : CoopWorldInput) (fresh permitted : Bool)
  /-- One side sends a state packet with the item payload `items`. -/
  | send (host : Bool) (items : ItemWire)
  /-- One side takes the `i`-th packet of the other. -/
  | take (host : Bool) (i : Nat)

/-- The world part of a state packet, which never contradicts its item part. -/
def worldPayload (w : WorldWire) (items : ItemWire) : WorldWire :=
  if items.feature = 0 ∨ w.file ≠ items.file then {}
  else if items.ready = 0 then { w with ready := 0 }
  else w

/-- The session starts: `world_sync.reset()` on both sides. -/
def WorldNet.start : WorldNet where
  ends _ := {}
  sent _ := Channel.empty

/-- One endpoint changes. -/
def WorldNet.setEnd (s : WorldNet) (host : Bool) (e : WorldEnd) : WorldNet :=
  { s with ends := Function.update s.ends host e }

def WorldNet.step (session : Word64) (s : WorldNet) : WorldEvent → WorldNet
  | .welcome => s.setEnd false { s.ends false with connected := true }
  | .update host l fresh permitted =>
    s.setEnd host ((s.ends host).update host l fresh permitted session)
  | .send host items =>
    { s with
      sent := Function.update s.sent host
        ((s.sent host).send (worldPayload (s.ends host).sync.outgoing items)) }
  | .take host i =>
    match (s.sent !host).take i with
    | none => s
    | some (received, c) =>
      -- `decode` refuses a packet whose world part is not valid
      if validWorld received then
        { ends := Function.update s.ends host ((s.ends host).take received)
          sent := Function.update s.sent (!host) c }
      else s

/-- Inputs are enabled, valid and about a file that does not change. -/
def FixedWorld (files : Bool → Word) : WorldEvent → Prop
  | .update host l _ _ => FixedWorldInput (files host) l
  | _ => True

instance (files : Bool → Word) : (ev : WorldEvent) → Decidable (FixedWorld files ev)
  | .update host l _ _ => inferInstanceAs (Decidable (FixedWorldInput (files host) l))
  | .welcome => isTrue trivial
  | .send _ _ => isTrue trivial
  | .take _ _ => isTrue trivial

variable {session : Word64} {files : Bool → Word} {s : WorldNet} {ev : WorldEvent}
  {i : Fin coopWorldToggles} {host : Bool} {w : WorldWire}

/-! ## What one event does -/

/-- Snapshots stay in the log. -/
theorem sent_subset_world_step (h : w ∈ (s.sent host).sent) :
    w ∈ ((s.step session ev).sent host).sent := by
  cases ev with
  | welcome => exact h
  | update side l fresh permitted => exact h
  | send side items =>
    simp only [WorldNet.step]
    by_cases hs : host = side
    · subst hs
      rw [Function.update_self, sent_send]
      exact List.mem_append_left _ h
    · rw [Function.update_of_ne hs]
      exact h
  | take side i =>
    simp only [WorldNet.step]
    split
    · exact h
    · rename_i received c ht
      split
      · dsimp only
        by_cases hs : host = !side
        · subst hs
          rw [Function.update_self, sent_take ht]
          exact h
        · rw [Function.update_of_ne hs]
          exact h
      · exact h

/-- A snapshot that was not in the log is what its side sends now. -/
theorem mem_sent_world_step (h : w ∈ ((s.step session ev).sent host).sent) :
    w ∈ (s.sent host).sent
    ∨ ∃ items, ev = .send host items ∧ w = worldPayload (s.ends host).sync.outgoing items := by
  cases ev with
  | welcome => exact .inl h
  | update side l fresh permitted => exact .inl h
  | send side items =>
    simp only [WorldNet.step] at h
    by_cases hs : host = side
    · subst hs
      rw [Function.update_self, sent_send, List.mem_append, List.mem_singleton] at h
      rcases h with h | h
      · exact .inl h
      · exact .inr ⟨items, rfl, h⟩
    · rw [Function.update_of_ne hs] at h
      exact .inl h
  | take side i =>
    simp only [WorldNet.step] at h
    split at h
    · exact .inl h
    · rename_i received c ht
      split at h
      · dsimp only at h
        by_cases hs : host = !side
        · subst hs
          rw [Function.update_self, sent_take ht] at h
          exact .inl h
        · rw [Function.update_of_ne hs] at h
          exact .inl h
      · exact .inl h

/-- What an event can do to one endpoint. -/
inductive EndStep (session : Word64) (s : WorldNet) (host : Bool) (ev : WorldEvent)
    (e' : WorldEnd) : Prop
  | same (sync : e'.sync = (s.ends host).sync) (remote : e'.remote = (s.ends host).remote)
      (connected : (s.ends host).connected = true → e'.connected = true)
  | update (l : CoopWorldInput) (fresh permitted : Bool)
      (event : ev = .update host l fresh permitted)
      (eq : e' = (s.ends host).update host l fresh permitted session)
  | take (received : WorldWire) (valid : validWorld received = true)
      (sent : received ∈ (s.sent !host).sent)
      (eq : e' = (s.ends host).take received)

theorem endStep (session : Word64) (s : WorldNet) (host : Bool) (ev : WorldEvent) :
    EndStep session s host ev ((s.step session ev).ends host) := by
  cases ev with
  | welcome =>
    by_cases hs : host = false
    · subst hs
      simp only [WorldNet.step, WorldNet.setEnd, Function.update_self]
      exact .same rfl rfl fun _ => rfl
    · simp only [WorldNet.step, WorldNet.setEnd, Function.update_of_ne hs]
      exact .same rfl rfl id
  | update side l fresh permitted =>
    by_cases hs : host = side
    · subst hs
      simp only [WorldNet.step, WorldNet.setEnd, Function.update_self]
      exact .update l fresh permitted rfl rfl
    · simp only [WorldNet.step, WorldNet.setEnd, Function.update_of_ne hs]
      exact .same rfl rfl id
  | send side items => exact .same rfl rfl id
  | take side i =>
    simp only [WorldNet.step]
    split
    · exact .same rfl rfl id
    · rename_i received c ht
      split
      · rename_i hv
        dsimp only
        by_cases hs : host = side
        · subst hs
          rw [Function.update_self]
          exact .take received hv (mem_of_take ht) rfl
        · rw [Function.update_of_ne hs]
          exact .same rfl rfl id
      · exact .same rfl rfl id

/-! ## Fixed files -/

/-- What both endpoints and the channels keep when the files are fixed. -/
structure FixedWorldNet (session : Word64) (files : Bool → Word) (s : WorldNet) : Prop where
  sync : ∀ host, InWorldSession session (files host) (files true) (files !host) (s.ends host).sync
  connected : ∀ host, (s.ends host).sync.binding ≠ 0 → (s.ends host).connected = true
  valid : ∀ host, validWorld (s.ends host).remote = true
  remote : ∀ host, (s.ends host).remote.file = 0 ∨ (s.ends host).remote.file = files !host
  sent : ∀ host, ∀ w ∈ (s.sent host).sent, w.file = 0 ∨ w.file = files host

theorem validWorld_empty : validWorld {} = true := by decide

theorem fixedWorldNet_start : FixedWorldNet session files WorldNet.start where
  sync host := ⟨.inl rfl, fun _ => blank_reset 0 0 0 0, .inl ⟨rfl, blank_reset 0 0 0 0⟩⟩
  connected _ h := absurd rfl h
  valid _ := validWorld_empty
  remote _ := .inl rfl
  sent _ _ h := by simp [WorldNet.start] at h

/-- An update of one side, with the scope of the session. -/
theorem updateEffect (h : FixedWorldNet session files s) {l : CoopWorldInput}
    (hl : FixedWorldInput (files host) l) (fresh permitted : Bool) :
    InWorldSession session (files host) (files true) (files !host)
      ((s.ends host).update host l fresh permitted session).sync
    ∧ UpdateEffect host ((s.ends host).sync.hears host l (s.ends host).remote
        (s.ends host).connected fresh permitted session) fresh permitted l (s.ends host).remote
      (s.ends host).sync ((s.ends host).update host l fresh permitted session).sync := by
  have hscope : (if host then files host else files !host) = files true := by
    cases host <;> rfl
  have hin := h.sync host
  rw [← hscope] at hin ⊢
  exact update_inSession fresh permitted hl (h.remote host) (h.connected host) hin

theorem fixedWorldNet_step (h : FixedWorldNet session files s) (hev : FixedWorld files ev) :
    FixedWorldNet session files (s.step session ev) := by
  refine ⟨fun host => ?_, fun host => ?_, fun host => ?_, fun host => ?_, fun host w hw => ?_⟩
  · rcases endStep session s host ev with ⟨hs, -, -⟩ | ⟨l, fresh, permitted, rfl, he⟩ | ⟨w, -, -, he⟩
    · rw [hs]
      exact h.sync host
    · rw [he]
      exact (updateEffect h hev fresh permitted).1
    · rw [he]
      exact h.sync host
  · rcases endStep session s host ev with ⟨hs, -, hc⟩ | ⟨l, fresh, permitted, rfl, he⟩ | ⟨w, -, -, he⟩
    · rw [hs]
      exact fun hb => hc (h.connected host hb)
    · rw [he]
      exact connected_of_update
    · rw [he]
      exact fun _ => rfl
  · rcases endStep session s host ev with ⟨-, hr, -⟩ | ⟨l, fresh, permitted, rfl, he⟩ | ⟨w, hv, -, he⟩
    · rw [hr]
      exact h.valid host
    · rw [he]
      exact h.valid host
    · rw [he]
      exact hv
  · rcases endStep session s host ev with ⟨-, hr, -⟩ | ⟨l, fresh, permitted, rfl, he⟩ | ⟨w, -, hw, he⟩
    · rw [hr]
      exact h.remote host
    · rw [he]
      exact h.remote host
    · rw [he]
      exact h.sent _ w hw
  · rcases mem_sent_world_step hw with hw | ⟨items, -, rfl⟩
    · exact h.sent host w hw
    · unfold worldPayload
      split_ifs
      · exact .inl rfl
      · exact (h.sync host).announced
      · exact (h.sync host).announced

/-- A snapshot shows what its sender keeps about the toggle, or nothing. -/
theorem toggle_worldPayload (w : WorldWire) (items : ItemWire) (i : Fin coopWorldToggles) :
    (worldPayload w items).toggle i = w.toggle i ∨ (worldPayload w items).toggle i = {} := by
  unfold worldPayload
  split_ifs
  · exact .inr (by simp [WorldWire.toggle, toggleBit])
  · exact .inl rfl
  · exact .inl rfl

/-! ## Copies of what one side writes -/

section Copies

variable {α : Type*} {pair : WireToggle → α}

/-- What `pair` showed in the snapshots of one side so far, and in a wire that says nothing. -/
def copies (pair : WireToggle → α) (host : Bool) (i : Fin coopWorldToggles) (s : WorldNet) : Set α :=
  {c | c = pair {} ∨ ∃ w ∈ (s.sent host).sent, c = pair (w.toggle i)}

theorem copies_subset_step {c : α} (h : c ∈ copies pair host i s) :
    c ∈ copies pair host i (s.step session ev) := by
  rcases h with rfl | ⟨w, hw, rfl⟩
  · exact .inl rfl
  · exact .inr ⟨w, sent_subset_world_step hw, rfl⟩

/-- A new copy shows what its side keeps at that moment. -/
theorem mem_copies_step {c : α} (h : c ∈ copies pair host i (s.step session ev)) :
    c ∈ copies pair host i s
    ∨ (∃ items, ev = .send host items)
      ∧ c = pair ((s.ends host).sync.toggle i).toWireToggle := by
  rcases h with rfl | ⟨w, hw, rfl⟩
  · exact .inl (.inl rfl)
  · rcases mem_sent_world_step hw with hw | ⟨items, he, rfl⟩
    · exact .inl (.inr ⟨w, hw, rfl⟩)
    · rcases toggle_worldPayload (s.ends host).sync.outgoing items i with ht | ht
      · exact .inr ⟨⟨items, he⟩, congrArg pair ht⟩
      · exact .inl (.inl (congrArg pair ht))

/-- What the peer's cache shows is a copy. -/
theorem cached_step (h : pair ((s.ends host).remote.toggle i) ∈ copies pair (!host) i s) :
    pair (((s.step session ev).ends host).remote.toggle i)
      ∈ copies pair (!host) i (s.step session ev) := by
  apply copies_subset_step
  rcases endStep session s host ev with ⟨-, hr, -⟩ | ⟨l, fresh, permitted, rfl, he⟩ | ⟨w, -, hw, he⟩
  · rw [hr]
    exact h
  · rw [he]
    exact h
  · rw [he]
    exact .inr ⟨w, hw, rfl⟩

end Copies

/-! ## Revisions and values -/

/-- The revision of a toggle and its value. -/
def revisionPair (t : WireToggle) : Nat × Bool := (t.revision.toNat, t.desired)

theorem written_of_advance {t t' : WireToggle} (hb : t.revision.toNat + 1 < 2 ^ 32)
    (hr : t'.revision = advance t.revision) : Written 1 (revisionPair t) (revisionPair t') := by
  refine written_succ ?_
  change t'.revision.toNat = t.revision.toNat + 1
  rw [hr, toNat_advance hb]

theorem written_intent {t : Toggle} (change : Word) (value : Bool)
    (hb : t.revision.toNat + 1 < 2 ^ 32) :
    Written 1 (revisionPair t.toWireToggle)
      (revisionPair (t.intent true change value).toWireToggle) := by
  unfold Toggle.intent
  by_cases h : change = t.lastChange
  · rw [if_pos h]
    exact written_self 1 _
  · rw [if_neg h, if_pos rfl]
    exact written_of_advance hb rfl

theorem written_incoming {t : Toggle} (r : WireToggle) (hb : t.revision.toNat + 1 < 2 ^ 32) :
    Written 1 (revisionPair t.toWireToggle)
      (revisionPair (t.incoming true r).toWireToggle) := by
  unfold Toggle.incoming
  rw [if_pos rfl]
  split_ifs
  · exact written_of_advance hb rfl
  · exact written_self 1 _
  · exact written_self 1 _

/-- **What an exchange of the host does to the revision and the value of a toggle.** -/
theorem written_exchange {t : Toggle} {initialized : Bool} (hears : Bool) (l : CoopWorldInput)
    (r : WorldWire) (i : Fin coopWorldToggles) (hblank : initialized = false → t = {})
    (hb : t.revision.toNat < 2 ^ 31) :
    Written 3 (revisionPair t.toWireToggle)
      (revisionPair (t.exchange true initialized hears l r i).toWireToggle) := by
  let W : Nat → Toggle → Prop := fun k t' =>
    Written k (revisionPair t.toWireToggle) (revisionPair t'.toWireToggle)
  have hbound : ∀ {k t'}, W k t' → k ≤ 2 → t'.revision.toNat + 1 < 2 ^ 32 := by
    intro k t' h hk
    have hr : t'.revision.toNat ≤ t.revision.toNat + k := h.bound
    omega
  refine exchange_of_stages (P := W 1) (Q := W 2) (R := W 3) ?_ (fun t' h => ⟨?_, ?_⟩)
    (fun t' h => ⟨?_, fun _ => ?_⟩)
  · cases initialized with
    | true => exact written_self 1 _
    | false =>
      change Written 1 (revisionPair t.toWireToggle) _
      rw [hblank rfl]
      exact written_succ rfl
  · exact h.mono (by decide)
  · exact h.trans (written_intent _ _ (hbound h (by decide)))
  · exact h.mono (by decide)
  · exact h.trans (written_incoming _ (hbound h (by decide)))

/-- What an exchange of the guest does to them: it keeps them or takes the host's. -/
theorem revisionPair_exchange (t : Toggle) (initialized hears : Bool) (l : CoopWorldInput)
    (r : WorldWire) (i : Fin coopWorldToggles) :
    revisionPair (t.exchange false initialized hears l r i).toWireToggle
      = revisionPair t.toWireToggle
    ∨ revisionPair (t.exchange false initialized hears l r i).toWireToggle
      = revisionPair (r.toggle i) := by
  have hintent : ∀ t : Toggle, revisionPair (t.intent false (l.change i)
      (toggleBit l.values i)).toWireToggle = revisionPair t.toWireToggle := by
    intro t
    unfold Toggle.intent
    rw [if_neg Bool.false_ne_true]
    split <;> rfl
  have hincoming : ∀ t : Toggle, revisionPair (t.incoming false (r.toggle i)).toWireToggle
      = revisionPair t.toWireToggle
      ∨ revisionPair (t.incoming false (r.toggle i)).toWireToggle
        = revisionPair (r.toggle i) := by
    intro t
    unfold Toggle.incoming
    rw [if_neg Bool.false_ne_true]
    split
    · exact .inr rfl
    · exact .inl rfl
  let P : Toggle → Prop := fun t' => revisionPair t'.toWireToggle = revisionPair t.toWireToggle
    ∨ revisionPair t'.toWireToggle = revisionPair (r.toggle i)
  refine exchange_of_stages (P := P) (Q := P) (R := P) ?_ (fun t' h => ⟨h, ?_⟩)
    (fun t' h => ⟨h, fun _ => ?_⟩)
  · cases initialized with
    | true => exact .inl rfl
    | false => exact .inr rfl
  · change _ ∨ _
    rw [hintent]
    exact h
  · rcases hincoming t' with hi | hi
    · change _ ∨ _
      rw [hi]
      exact h
    · exact .inr hi

/-- **The run invariant**: the host's pair is a versioned register, and all the guest has of it are
copies from the host's snapshots. -/
structure Agreement (i : Fin coopWorldToggles) (s : WorldNet) : Prop where
  register : Consistent (revisionPair ((s.ends true).sync.toggle i).toWireToggle)
    (copies revisionPair true i s)
  guest : revisionPair ((s.ends false).sync.toggle i).toWireToggle ∈ copies revisionPair true i s
  cached : revisionPair ((s.ends false).remote.toggle i) ∈ copies revisionPair true i s

theorem agreement_start (i : Fin coopWorldToggles) : Agreement i WorldNet.start := by
  have ht : ∀ host, ((WorldNet.start.ends host).sync.toggle i).toWireToggle = {} := fun _ =>
    congrArg Toggle.toWireToggle ((blank_reset 0 0 0 0).toggles i)
  have hw : (WorldNet.start.ends false).remote.toggle i = {} := ht false
  refine ⟨?_, ?_, ?_⟩
  · rw [ht true]
    refine (consistent_singleton _).mono fun c hc => ?_
    rcases hc with rfl | ⟨w, hw, -⟩
    · exact Set.mem_singleton _
    · simp [WorldNet.start] at hw
  · rw [ht false]
    exact .inl rfl
  · rw [hw]
    exact .inl rfl

/-- The host's revision of toggle `i`. -/
def WorldNet.revision (s : WorldNet) (host : Bool) (i : Fin coopWorldToggles) : Word :=
  (s.ends host).sync.outgoing.revision i

/-- The value one side wants toggle `i` to have. -/
def WorldNet.desired (s : WorldNet) (host : Bool) (i : Fin coopWorldToggles) : Bool :=
  toggleBit (s.ends host).sync.outgoing.desired i

/-- A step of the host's side. -/
theorem written_step (session : Word64) (h : FixedWorldNet session files s) (hev : FixedWorld files ev)
    (hb : (s.revision true i).toNat < 2 ^ 31) :
    Written 3 (revisionPair ((s.ends true).sync.toggle i).toWireToggle)
      (revisionPair (((s.step session ev).ends true).sync.toggle i).toWireToggle) := by
  rcases endStep session s true ev with ⟨hs, -, -⟩ | ⟨l, fresh, permitted, rfl, he⟩ | ⟨w, -, -, he⟩
  · rw [hs]
    exact written_self 3 _
  · rw [he]
    rcases (updateEffect h hev fresh permitted).2 with ⟨-, -, ht⟩ | ⟨-, -, ht⟩
    · rw [ht i]
      exact written_self 3 _
    · rw [ht i]
      exact written_exchange _ _ _ _ (fun hi => ((h.sync true).blank hi).toggles i) hb
  · rw [he]
    exact written_self 3 _

/-- **The step lemma.** -/
theorem agreement_step (h : FixedWorldNet session files s) (hev : FixedWorld files ev)
    (hb : (s.revision true i).toNat < 2 ^ 31) (ha : Agreement i s) :
    Agreement i (s.step session ev) := by
  have hw := written_step session h hev hb
  refine ⟨?_, ?_, cached_step ha.cached⟩
  · refine (ha.register.write hw).publish.mono fun c hc => ?_
    rcases mem_copies_step hc with hc | ⟨⟨items, rfl⟩, rfl⟩
    · exact .inr hc
    · exact .inl rfl
  · apply copies_subset_step
    rcases endStep session s false ev with ⟨hs, -, -⟩ | ⟨l, fresh, permitted, rfl, he⟩ | ⟨w, -, -, he⟩
    · rw [hs]
      exact ha.guest
    · rw [he]
      rcases (updateEffect h hev fresh permitted).2 with ⟨-, -, ht⟩ | ⟨-, -, ht⟩
      · rw [ht i]
        exact ha.guest
      · rw [ht i]
        rcases revisionPair_exchange ((s.ends false).sync.toggle i) (s.ends false).sync.initialized
          _ l (s.ends false).remote i with hp | hp <;> rw [hp]
        · exact ha.guest
        · exact ha.cached
    · rw [he]
      exact ha.guest

/-- Inputs are enabled, valid and about fixed files, and the host has given out fewer than `2 ^ 31`
revisions of every toggle. -/
structure WorldPremise (files : Bool → Word) (s : WorldNet) (ev : WorldEvent) : Prop where
  fixed : FixedWorld files ev
  few : ∀ i, (s.revision true i).toNat < 2 ^ 31

instance (files : Bool → Word) (s : WorldNet) (ev : WorldEvent) :
    Decidable (WorldPremise files s ev) :=
  decidable_of_iff (FixedWorld files ev ∧ ∀ i, (s.revision true i).toNat < 2 ^ 31)
    ⟨fun h => ⟨h.1, h.2⟩, fun h => ⟨h.fixed, h.few⟩⟩

section Run

variable {es es' : List WorldEvent}

theorem fixedWorldNet_run (hok : Run.Along (WorldNet.step session) (fun _ e => FixedWorld files e)
    WorldNet.start es) :
    FixedWorldNet session files (Run.run (WorldNet.step session) WorldNet.start es) :=
  Run.invariant (fun _ _ he h => fixedWorldNet_step h he) fixedWorldNet_start hok

/-- **The run lemma.** -/
theorem agreement_run (hok : Run.Along (WorldNet.step session) (WorldPremise files)
    WorldNet.start es) (i : Fin coopWorldToggles) :
    Agreement i (Run.run (WorldNet.step session) WorldNet.start es) := by
  have hI := Run.invariant
    (I := fun s => FixedWorldNet session files s ∧ Agreement i s)
    (fun s e he h => ⟨fixedWorldNet_step h.1 he.fixed, agreement_step h.1 he.fixed (he.few i) h.2⟩)
    ⟨fixedWorldNet_start, agreement_start i⟩ hok
  exact hI.2

/-- **World-toggle agreement.** With fixed files and fewer than `2 ^ 31` revisions: equal revisions
mean equal values, the guest holds no revision the host did not publish, and the host's revision
never goes backwards. -/
theorem world_toggles_agree (hok : Run.Along (WorldNet.step session) (WorldPremise files)
    WorldNet.start (es ++ es')) (i : Fin coopWorldToggles) :
    let s := Run.run (WorldNet.step session) WorldNet.start es
    let s' := Run.run (WorldNet.step session) WorldNet.start (es ++ es')
    (s.revision false i = s.revision true i → s.desired false i = s.desired true i)
    ∧ (s.revision false i ≠ 0 → ∃ w ∈ (s.sent true).sent,
        w.revision i = s.revision false i ∧ toggleBit w.desired i = s.desired false i)
    ∧ (s.revision true i).toNat ≤ (s'.revision true i).toNat := by
  intro s s'
  obtain ⟨h1, h2⟩ := Run.along_append.mp hok
  have ha : Agreement i s := agreement_run h1 i
  refine ⟨fun he => ?_, fun hne => ?_, ?_⟩
  · exact ha.register.agree_current _ ha.guest (congrArg BitVec.toNat he)
  · rcases ha.guest with h0 | ⟨w, hw, hc⟩
    · have hz : (s.revision false i).toNat = (0 : Word).toNat := congrArg Prod.fst h0
      exact absurd (BitVec.eq_of_toNat_eq hz) hne
    · exact ⟨w, hw, BitVec.eq_of_toNat_eq (congrArg Prod.fst hc).symm,
        (congrArg Prod.snd hc).symm⟩
  · have hf : FixedWorldNet session files s :=
      fixedWorldNet_run (Run.along_mono (fun _ _ h => h.fixed) h1)
    have hmono : ∀ {s : WorldNet} {es : List WorldEvent}, FixedWorldNet session files s →
        Run.Along (WorldNet.step session) (WorldPremise files) s es →
        (s.revision true i).toNat ≤ ((Run.run (WorldNet.step session) s es).revision true i).toNat := by
      intro s es hs hok
      refine Run.run_mono (C := fun s e => FixedWorldNet session files s ∧ WorldPremise files s e)
        (R := fun s s' => (s.revision true i).toNat ≤ (s'.revision true i).toNat)
        (fun _ => le_rfl) (fun _ _ _ => le_trans) (fun s e h => ?_) ?_
      · exact (written_step session h.1 h.2.fixed (h.2.few i)).le
      · exact Run.along_of_invariant (I := FixedWorldNet session files)
          (fun _ _ he h => fixedWorldNet_step h he.fixed) (fun _ _ he h => ⟨h, he⟩) hs hok
    change _ ≤ ((Run.run (WorldNet.step session) WorldNet.start (es ++ es')).revision true i).toNat
    rw [Run.run_append]
    exact hmono hf h2

end Run

/-! ### A session that starts -/

/-- The host plays file 1, the guest file 2. -/
def toggleFiles (host : Bool) : Word := if host then 1 else 2

/-- Both games are bound to session 7; toggle 0 was changed `change` times. -/
def toggleInput (host : Bool) (change values : Word) : CoopWorldInput where
  enabled := 1
  file := toggleFiles host
  ready := 1
  values := values
  change := fun i => if i = 0 then change else 0
  sessionLo := 7
  scope := 1

def toggleTick (host : Bool) (change values : Word) : WorldEvent :=
  .update host (toggleInput host change values) true true

def toggleSend (host : Bool) : WorldEvent :=
  .send host { feature := 1, file := toggleFiles host, ready := 1, scope := 1 }

/-- Both sides hear from each other and start at revision 1. -/
def toggleGreeting : List WorldEvent :=
  [.welcome, toggleTick false 0 0, toggleSend false, .take true 0, toggleTick true 0 0,
    toggleSend true, .take false 0, toggleTick false 0 0]

/-- After the greeting the host changes the toggle: the guest still holds the first revision. -/
theorem world_toggles_agree_greeting :
    let s := Run.run (WorldNet.step 7) WorldNet.start toggleGreeting
    let s' := Run.run (WorldNet.step 7) WorldNet.start (toggleGreeting ++ [toggleTick true 1 1])
    (s.revision false 0 = s.revision true 0 → s.desired false 0 = s.desired true 0)
    ∧ (s.revision false 0 ≠ 0 → ∃ w ∈ (s.sent true).sent,
        w.revision 0 = s.revision false 0 ∧ toggleBit w.desired 0 = s.desired false 0)
    ∧ (s.revision true 0).toNat ≤ (s'.revision true 0).toNat := by
  have hok : Run.Along (WorldNet.step 7) (WorldPremise toggleFiles) WorldNet.start
      (toggleGreeting ++ [toggleTick true 1 1]) := by
    decide
  exact world_toggles_agree hok 0

end Dk64Port.Coop
