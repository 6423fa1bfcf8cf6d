import Dk64Port.Coop.ItemChannel

/-!
# No request is lost within a session

The guest's game on top of the item channels. Between two results the game captures its save, notes
and observes pickups; `frame` hands its input to the session and `result` takes the answer back, so
the events allow every order of captures, packets and answers a run can have.

* `InSession`: the run invariant. The guest's game is either not bound yet and has no request, or is
  bound to this session and the host's file, and then every answer stays with them.
* `request_kept_until_acknowledged`: **a request stays set until an answer computed from the host's
  published words acknowledges it.**
-/

namespace Dk64Port.Coop

open LossyChannel

/-- The guest's game and the channels of the session. -/
structure ItemSession where
  game : CoopItems
  net : ItemNet

inductive SessionEvent where
  /-- An input of the host, or a packet sent or taken. -/
  | channel (ev : ItemEvent)
  /-- `coop_items_capture` of the guest's game. -/
  | capture (enabled : Word) (adventure : Bool) (file : Word) (view : ItemsView)
  /-- `coop_items_note`, of a reward derived while applying. -/
  | note (id : Nat)
  /-- `coop_items_observe`. -/
  | observe (join : Bool) (id : Option Nat) (value type : Word) (alreadyOwned adventure : Bool)
      (file : Word)
  | applied (id : Nat)
  /-- The guest's input goes to the session. -/
  | frame
  /-- The session's answer goes to the guest's game. -/
  | result (now : Word64)

/-- The answer the guest's game gets. -/
def ItemSession.guestResult (s : ItemSession) (session now : Word64) : CoopItemResult :=
  (s.net.ends false).result false session now

def ItemSession.step (session : Word64) (s : ItemSession) : SessionEvent → ItemSession
  | .channel ev => { s with net := s.net.step session ev }
  | .capture enabled adventure file view =>
    { s with game := coopItemsCapture s.game enabled adventure file view }
  | .note id => { s with game := coopItemsNote s.game id }
  | .observe join id value type alreadyOwned adventure file =>
    { s with game := coopItemsObserve s.game join id value type alreadyOwned adventure file }
  | .applied id => { s with game := coopItemsApplied s.game id }
  | .frame => { s with net := s.net.step session (.tick false s.game.input) }
  | .result now => { s with game := coopItemsReceive s.game (s.guestResult session now) }

/-- The input is valid, has the feature on and is about file `f`. -/
structure FixedInput (f : Word) (l : CoopItemInput) : Prop where
  valid : validItemsInput l = true
  enabled : l.enabled ≠ 0
  file : l.file = f

/-- Both features stay enabled, inputs are valid, neither file changes, and the guest's inputs are
those of its game. -/
def FixedFiles (hostFile guestFile : Word) (s : ItemSession) : SessionEvent → Prop
  | .channel (.tick host l) => host = true ∧ FixedInput hostFile l
  | .capture enabled adventure file view =>
    (coopItemsCapture s.game enabled adventure file view).input.enabled ≠ 0
  | .frame => FixedInput guestFile s.game.input
  | _ => True

/-- The game is not bound to a session: the state after an answer without one. -/
structure Unbound (g : CoopItems) : Prop where
  sessionHi : g.input.sessionHi = 0
  sessionLo : g.input.sessionLo = 0
  scope : g.input.scope = 0
  request : ∀ id, itemBit g.input.request id = false

/-- The session starts: the host's first input, the guest's game, fresh channels. -/
def ItemSession.start (hostInput : CoopItemInput) (game : CoopItems) (turns : Bool → Word) :
    ItemSession where
  game := game
  net := ItemNet.start (fun host => if host then hostInput else game.input) turns

variable {session now : Word64} {hostFile guestFile : Word} {s : ItemSession} {g g' : CoopItems}
  {w : ItemWire} {l : CoopItemInput} {id : Nat}

/-! ## The channel part of the invariant -/

/-- A payload of the host: nothing yet, or valid and about the host's file. -/
structure HostPayload (hostFile : Word) (w : ItemWire) : Prop where
  items : FeatureItems w
  file : w.file = hostFile
  scope : w.scope = hostFile

theorem hostPayload_of_input {e : ItemEnd} (h : FixedInput hostFile e.input) :
    HostPayload hostFile (e.payload true session) := by
  have hf : FeatureItems (e.wire true session) := featureItems_itemsWire h.valid h.enabled
  have hp : e.page.toNat < coopItemPages := by
    rw [ItemEnd.page, BitVec.toNat_umod]
    exact Nat.mod_lt _ (by decide)
  have hw : (e.wire true session).file = hostFile ∧ (e.wire true session).scope = hostFile := by
    unfold ItemEnd.wire itemsWire
    rw [if_neg (by have := h.valid; have := h.enabled; tauto)]
    have hs : itemsWireScope true e.input e.cache.items e.connected session = hostFile := by
      simp [itemsWireScope, h.file]
    dsimp only
    split
    · exact ⟨h.file, hs⟩
    · exact ⟨h.file, hs⟩
  exact ⟨hf.payload hp, by rw [ItemEnd.payload, payload_file, hw.1],
    by rw [ItemEnd.payload, payload_scope, hw.2]⟩

/-- What the channels keep: fixed inputs, payloads of the host about its file, and a guest cache
that is empty or a valid mixture of them. -/
structure FixedNet (hostFile guestFile : Word) (n : ItemNet) : Prop where
  host : FixedInput hostFile (n.ends true).input
  guest : FixedInput guestFile (n.ends false).input
  connected : (n.ends false).connected = true
  sent : ∀ w ∈ (n.sent true).sent, HostPayload hostFile w
  page : (n.ends false).cache.items.page = 0
  cache : (n.ends false).cache.items = {} ∨ HostPayload hostFile (n.ends false).cache.items

/-- The inputs an event may bring. -/
def FixedEvent (hostFile guestFile : Word) : ItemEvent → Prop
  | .tick host l => FixedInput (if host then hostFile else guestFile) l
  | _ => True

theorem fixedNet_start {inputs : Bool → CoopItemInput} {turns : Bool → Word}
    (hh : FixedInput hostFile (inputs true)) (hg : FixedInput guestFile (inputs false)) :
    FixedNet hostFile guestFile (ItemNet.start inputs turns) where
  host := by simpa only [ItemNet.start, sanitizeItems_of_valid hh.valid] using hh
  guest := by simpa only [ItemNet.start, sanitizeItems_of_valid hg.valid] using hg
  connected := rfl
  sent w hw := by simp [ItemNet.start] at hw
  page := rfl
  cache := .inl rfl

/-- The guest's cache after a packet of the host. -/
theorem HostPayload.receive {c : ItemCache} (hp : c.items.page = 0)
    (hc : c.items = {} ∨ HostPayload hostFile c.items) (hw : HostPayload hostFile w) :
    HostPayload hostFile (c.receive w now).items := by
  have hv : validItems c.items = true := by
    rcases hc with hc | hc
    · rw [hc]
      exact validItems_empty
    · exact hc.items.valid
  refine ⟨featureItems_of_valid (validItems_receive hv hp hw.items.valid) ?_, ?_, ?_⟩
  · rw [receive_feature, hw.items.feature]
    decide
  · rw [receive_file, hw.file]
  · rw [receive_scope, hw.scope]

/-- **The step lemma of the channels.** -/
theorem fixedNet_step {n : ItemNet} (h : FixedNet hostFile guestFile n) {ev : ItemEvent}
    (hev : FixedEvent hostFile guestFile ev) :
    FixedNet hostFile guestFile (n.step session ev) := by
  have hsent : ∀ w ∈ ((n.step session ev).sent true).sent, HostPayload hostFile w := by
    intro w hw
    rcases mem_sent_step hw with hw | rfl
    · exact h.sent w hw
    · exact hostPayload_of_input h.host
  cases ev with
  | tick side l =>
    cases side with
    | true =>
      refine ⟨?_, h.guest, h.connected, hsent, h.page, h.cache⟩
      simp only [ItemNet.step, Function.update_self, sanitizeItems_of_valid hev.valid]
      exact hev
    | false =>
      refine ⟨h.host, ?_, h.connected, hsent, h.page, h.cache⟩
      simp only [ItemNet.step, Function.update_self, sanitizeItems_of_valid hev.valid]
      exact hev
  | send side =>
    cases side with
    | true =>
      refine ⟨?_, h.guest, h.connected, hsent, h.page, h.cache⟩
      simpa only [ItemNet.step, Function.update_self, sent_input] using h.host
    | false =>
      refine ⟨h.host, ?_, ?_, hsent, ?_, ?_⟩ <;>
        simp only [ItemNet.step, Function.update_self, sent_input, sent_connected, sent_cache]
      · exact h.guest
      · exact h.connected
      · exact h.page
      · exact h.cache
  | take side i now =>
    have hinput : ∀ host, ((n.step session (.take side i now)).ends host).input
        = (n.ends host).input := by
      intro host
      rcases ends_take session n side host i now with hc | ⟨-, r, -, hc⟩ <;>
        rw [hc]
      exact take_input _ _ _
    rcases ends_take session n side false i now with hc | ⟨-, r, hr, hc⟩
    · refine ⟨hinput true ▸ h.host, hinput false ▸ h.guest, ?_, hsent, ?_, ?_⟩ <;> rw [hc]
      · exact h.connected
      · exact h.page
      · exact h.cache
    · have hv : HostPayload hostFile r := h.sent r hr
      refine ⟨hinput true ▸ h.host, hinput false ▸ h.guest, ?_, hsent, ?_, ?_⟩ <;>
        rw [hc, ItemEnd.take, if_pos hv.items.valid]
      · exact receive_page h.page
      · exact .inr (hv.receive h.page h.cache)

/-- Once the guest has heard from the host, its cache stays a payload of the host. -/
theorem hostPayload_cache_step {n : ItemNet} (h : FixedNet hostFile guestFile n)
    (hc : HostPayload hostFile (n.ends false).cache.items) (ev : ItemEvent) :
    HostPayload hostFile ((n.step session ev).ends false).cache.items := by
  cases ev with
  | tick side l => cases side <;> exact hc
  | send side =>
    cases side with
    | true => exact hc
    | false => simpa only [ItemNet.step, Function.update_self, sent_cache] using hc
  | take side i now =>
    rcases ends_take session n side false i now with he | ⟨-, r, hr, he⟩ <;> rw [he]
    · exact hc
    · have hv : HostPayload hostFile r := h.sent r hr
      rw [ItemEnd.take, if_pos hv.items.valid]
      exact hv.receive h.page h.cache

/-! ## The session invariant -/

/-- The guest's game is bound to this session and the host's file, and has heard from the host. -/
structure BoundGame (session : Word64) (hostFile guestFile : Word) (s : ItemSession) : Prop where
  sessionHi : s.game.input.sessionHi = sessionHi session
  sessionLo : s.game.input.sessionLo = sessionLo session
  scope : s.game.input.scope = hostFile
  hostKnown : hostFile ≠ 0
  guestKnown : guestFile ≠ 0
  live : session ≠ 0
  cache : HostPayload hostFile (s.net.ends false).cache.items

/-- **The run invariant.** -/
structure InSession (session : Word64) (hostFile guestFile : Word) (s : ItemSession) : Prop where
  net : FixedNet hostFile guestFile s.net
  game : Unbound s.game ∨ BoundGame session hostFile guestFile s

/-- The inputs an event hands to the host. -/
def SessionEvent.hostInputs : SessionEvent → List CoopItemInput
  | .channel ev => ev.inputs true
  | _ => []

/-- What an event does to the channels, if anything. -/
def SessionEvent.netEvent (s : ItemSession) : SessionEvent → Option ItemEvent
  | .channel ev => some ev
  | .frame => some (.tick false s.game.input)
  | _ => none

theorem net_step (e : SessionEvent) : (s.step session e).net
    = match e.netEvent s with
      | some ev => s.net.step session ev
      | none => s.net := by
  cases e <;> rfl

theorem fixedEvent_of_fixedFiles {e : SessionEvent} {ev : ItemEvent}
    (h : FixedFiles hostFile guestFile s e) (hev : e.netEvent s = some ev) :
    FixedEvent hostFile guestFile ev := by
  cases e with
  | channel =>
    cases hev
    cases ev with
    | tick host l =>
      obtain ⟨rfl, h⟩ := h
      exact h
    | send host => trivial
    | take host i now => trivial
  | frame => cases hev; exact h
  | capture => cases hev
  | note => cases hev
  | observe => cases hev
  | applied => cases hev
  | result => cases hev

theorem fixedNet_session_step {e : SessionEvent} (h : FixedNet hostFile guestFile s.net)
    (he : FixedFiles hostFile guestFile s e) :
    FixedNet hostFile guestFile (s.step session e).net := by
  rw [net_step]
  cases hev : e.netEvent s with
  | none => exact h
  | some ev => exact fixedNet_step h (fixedEvent_of_fixedFiles he hev)

theorem cache_session_step (e : SessionEvent) (h : FixedNet hostFile guestFile s.net)
    (hc : HostPayload hostFile (s.net.ends false).cache.items) :
    HostPayload hostFile ((s.step session e).net.ends false).cache.items := by
  rw [net_step]
  cases e.netEvent s with
  | none => exact hc
  | some ev => exact hostPayload_cache_step h hc ev

/-- A step either keeps the requests of the game or is an answer. -/
theorem game_step (session : Word64) {e : SessionEvent} (he : FixedFiles hostFile guestFile s e) :
    Keeps s.game (s.step session e).game ∨ ∃ now, e = .result now := by
  cases e with
  | result now => exact .inr ⟨now, rfl⟩
  | capture enabled adventure file view => exact .inl (keeps_capture he)
  | note id => exact .inl keeps_note
  | observe join id value type alreadyOwned adventure file => exact .inl keeps_observe
  | applied id => exact .inl keeps_applied
  | channel ev => exact .inl (.refl _)
  | frame => exact .inl (.refl _)

/-- **An answer to a bound game is about its own session and scope**, whatever is stale, not ready
or in conflict. -/
theorem sameScope_of_bound (now : Word64) (h : FixedNet hostFile guestFile s.net)
    (hb : BoundGame session hostFile guestFile s) :
    SameScope s.game (s.guestResult session now) := by
  have hf : (s.net.ends false).cache.items.file ≠ 0 := by
    rw [hb.cache.file]
    exact hb.hostKnown
  have hg : (s.net.ends false).input.file ≠ 0 := by
    rw [h.guest.file]
    exact hb.guestKnown
  obtain ⟨h1, h2, h3⟩ := itemsResult_session false
    ((s.net.ends false).cache.fresh now && decide (now - (s.net.ends false).lastState ≤ staleMs))
    h.guest.valid h.guest.enabled h.connected hb.live hb.cache.items hf hg
  exact ⟨h1.trans hb.sessionHi.symm, h2.trans hb.sessionLo.symm,
    h3.trans (hb.cache.file.trans hb.scope.symm)⟩

theorem inSession_start {hostInput : CoopItemInput} {turns : Bool → Word}
    (hh : FixedInput hostFile hostInput) (hg : FixedInput guestFile g.input) (hu : Unbound g) :
    InSession session hostFile guestFile (ItemSession.start hostInput g turns) :=
  ⟨fixedNet_start hh hg, .inl hu⟩

theorem Unbound.of_keeps (h : Unbound g) (hk : Keeps g g') : Unbound g' where
  sessionHi := hk.sessionHi.trans h.sessionHi
  sessionLo := hk.sessionLo.trans h.sessionLo
  scope := hk.scope.trans h.scope
  request id := by
    by_contra hid
    rcases hk.raised id (by simpa using hid) with hr | hs
    · rw [h.request id] at hr
      cases hr
    · exact hs h.scope

/-- **The step lemma.** -/
theorem inSession_step (h : InSession session hostFile guestFile s) {e : SessionEvent}
    (he : FixedFiles hostFile guestFile s e) :
    InSession session hostFile guestFile (s.step session e) := by
  refine ⟨fixedNet_session_step h.net he, ?_⟩
  rcases game_step session he with hk | ⟨now, rfl⟩
  · rcases h.game with hu | hb
    · exact .inl (hu.of_keeps hk)
    · exact .inr ⟨hk.sessionHi.trans hb.sessionHi, hk.sessionLo.trans hb.sessionLo,
        hk.scope.trans hb.scope, hb.hostKnown, hb.guestKnown, hb.live,
        cache_session_step e h.net hb.cache⟩
  · rcases h.game with hu | hb
    · -- the first answer that names the session binds the game to it
      rcases itemsResult_scope_cases false (s.net.ends false).connected
        ((s.net.ends false).cache.fresh now
          && decide (now - (s.net.ends false).lastState ≤ staleMs))
        (s.net.ends false).input (s.net.ends false).cache.items session
        with ⟨h1, h2, h3⟩ | ⟨⟨hl, hv, hf, hrf, hlf⟩, h1, h2, h3⟩
      · have hs : SameScope s.game (s.guestResult session now) :=
          ⟨h1.trans hu.sessionHi.symm, h2.trans hu.sessionLo.symm, h3.trans hu.scope.symm⟩
        refine .inl ⟨h1, h2, h3, fun id => ?_⟩
        change itemBit (coopItemsReceive s.game _).input.request id = false
        rw [receive_same hs, hu.request id, Bool.false_and]
      · have hc : HostPayload hostFile (s.net.ends false).cache.items := by
          rcases h.net.cache with h0 | h0
          · rw [h0] at hf
            exact absurd rfl hf
          · exact h0
        refine .inr ⟨h1, h2, h3.trans hc.file, ?_, ?_, hl, hc⟩
        · rw [← hc.file]
          exact hrf
        · rw [← h.net.guest.file]
          exact hlf
    · obtain ⟨h1, h2, h3⟩ := sameScope_of_bound now h.net hb
      exact .inr ⟨h1.trans hb.sessionHi, h2.trans hb.sessionLo, h3.trans hb.scope,
        hb.hostKnown, hb.guestKnown, hb.live, hb.cache⟩

/-- The inputs the host was given. -/
def hostInputsOf (hostInput : CoopItemInput) (es : List SessionEvent) : List CoopItemInput :=
  hostInput :: es.flatMap SessionEvent.hostInputs

/-- What the channels carry comes from the host's inputs of the session. -/
def HostSourced (inputs : List CoopItemInput) (session : Word64) (n : ItemNet) : Prop :=
  ∃ H : Bool → List CoopItemInput, H true = inputs ∧ Sourced H session n

theorem hostSourced_step {inputs : List CoopItemInput} (h : HostSourced inputs session s.net)
    (e : SessionEvent) : HostSourced (inputs ++ e.hostInputs) session (s.step session e).net := by
  obtain ⟨H, rfl, h⟩ := h
  rw [net_step]
  cases hev : e.netEvent s with
  | none =>
    have he : e.hostInputs = [] := by
      cases e <;> first | rfl | cases hev
    rw [he, List.append_nil]
    exact ⟨H, rfl, h⟩
  | some ev =>
    have he : ev.inputs true = e.hostInputs := by
      cases e <;> cases hev <;> rfl
    rw [← he]
    exact ⟨fun host => H host ++ ev.inputs host, rfl, sourced_step h ev⟩

/-- The invariant of a run, with the host's inputs so far. -/
structure HeldBy (hostInput : CoopItemInput) (session : Word64) (hostFile guestFile : Word)
    (es : List SessionEvent) (s : ItemSession) : Prop where
  inSession : InSession session hostFile guestFile s
  sourced : HostSourced (hostInputsOf hostInput es) session s.net

section Run

variable {hostInput : CoopItemInput} {turns : Bool → Word} {es : List SessionEvent}

/-- **The run lemma.** -/
theorem heldBy_run (hh : FixedInput hostFile hostInput) (hg : FixedInput guestFile g.input)
    (hu : Unbound g)
    (hok : Run.Along (ItemSession.step session) (FixedFiles hostFile guestFile)
      (ItemSession.start hostInput g turns) es) :
    HeldBy hostInput session hostFile guestFile es
      (Run.run (ItemSession.step session) (ItemSession.start hostInput g turns) es) := by
  have h0 : HeldBy hostInput session hostFile guestFile []
      (ItemSession.start hostInput g turns) :=
    ⟨inSession_start hh hg hu, _, rfl, sourced_start⟩
  refine Run.history_invariant h0 (fun es s e h he => ⟨inSession_step h.inSession he, ?_⟩) hok
  have hs := hostSourced_step h.sourced e
  simpa only [hostInputsOf, List.flatMap_append, List.flatMap_singleton, List.cons_append] using hs

/-- A step that clears a request is an answer that acknowledges it. -/
theorem acknowledged_of_cleared (h : InSession session hostFile guestFile s) {e : SessionEvent}
    (he : FixedFiles hostFile guestFile s e) (hset : itemBit s.game.input.request id = true)
    (hclear : ¬ itemBit (s.step session e).game.input.request id = true) :
    ∃ now, e = .result now ∧ itemBit (s.guestResult session now).acknowledged id = true := by
  rcases game_step session he with hk | ⟨now, rfl⟩
  · exact absurd (hk.kept id hset) hclear
  · refine ⟨now, rfl, ?_⟩
    rcases h.game with hu | hb
    · rw [hu.request id] at hset
      cases hset
    · have hr : itemBit (coopItemsReceive s.game (s.guestResult session now)).input.request id
          = true → False := hclear
      rw [receive_same (sameScope_of_bound now h.net hb), hset, Bool.true_and] at hr
      simpa using hr

/-- The answer of this moment acknowledges the pending request `id`, on the strength of published
words of the host that hold the item, which the host owned in one of its inputs so far. -/
structure Acknowledged (hostInput : CoopItemInput) (session : Word64) (es : List SessionEvent)
    (id : Nat) (now : Word64) (s : ItemSession) : Prop where
  pending : itemBit s.game.input.request id = true
  acknowledged : itemBit (s.guestResult session now).acknowledged id = true
  published : ∃ w ∈ (s.net.sent true).sent, itemBit w.owned id = true
  owned : ∃ l ∈ hostInputsOf hostInput es, itemBit l.owned id = true

theorem acknowledged_of_result (h : HeldBy hostInput session hostFile guestFile es s)
    (hset : itemBit s.game.input.request id = true)
    (hack : itemBit (s.guestResult session now).acknowledged id = true) :
    Acknowledged hostInput session es id now s := by
  obtain ⟨H, hH, hs⟩ := h.sourced
  have howned : itemBit (s.net.ends false).cache.items.owned id = true :=
    owned_of_guestResult (.inr hack)
  obtain ⟨l, hl, -, hlid⟩ := (hs.ends false).cache.owned id howned
  exact ⟨hset, hack, (hs.ends false).received id howned, l, hH ▸ hl, hlid⟩

/-- **Item sync loses no update inside one session.** With both features enabled, both files fixed,
valid inputs and a guest game that starts unbound: a request that was set is still set, or an answer
acknowledged it, computed from published words of the host that hold the item, which the host owned
in one of its inputs. -/
theorem request_kept_until_acknowledged {es' : List SessionEvent}
    (hh : FixedInput hostFile hostInput) (hg : FixedInput guestFile g.input) (hu : Unbound g)
    (hok : Run.Along (ItemSession.step session) (FixedFiles hostFile guestFile)
      (ItemSession.start hostInput g turns) (es ++ es'))
    (hset : itemBit (Run.run (ItemSession.step session) (ItemSession.start hostInput g turns)
      es).game.input.request id = true) :
    itemBit (Run.run (ItemSession.step session) (ItemSession.start hostInput g turns)
      (es ++ es')).game.input.request id = true
    ∨ ∃ pre now post, es' = pre ++ .result now :: post ∧
      Acknowledged hostInput session (es ++ pre) id now
        (Run.run (ItemSession.step session) (ItemSession.start hostInput g turns) (es ++ pre)) := by
  by_cases hend : itemBit (Run.run (ItemSession.step session) (ItemSession.start hostInput g turns)
      (es ++ es')).game.input.request id = true
  · exact .inl hend
  rw [Run.run_append] at hend
  obtain ⟨pre, e, post, rfl, hpre, hcut⟩ :=
    Run.exists_breaking (ItemSession.step session)
      (fun s => itemBit s.game.input.request id = true) _ es' hset hend
  rw [← Run.run_append] at hpre hcut
  rw [← List.append_assoc, Run.along_append] at hok
  have hI := heldBy_run hh hg hu hok.1
  obtain ⟨now, rfl, hack⟩ := acknowledged_of_cleared hI.inSession hok.2.1 hpre hcut
  exact .inr ⟨pre, now, post, rfl, acknowledged_of_result hI hpre hack⟩

/-! ### Binding a game -/

/-- The events of a round of the host. -/
def hostRound (now : Word64) : List SessionEvent :=
  (deliverRound true 0 now 16).map .channel

theorem run_channel (evs : List ItemEvent) (s : ItemSession) :
    Run.run (ItemSession.step session) s (evs.map .channel)
      = { s with net := Run.run (ItemNet.step session) s.net evs } := by
  induction evs generalizing s with
  | nil => rfl
  | cons ev evs ih => rw [List.map_cons, Run.run_cons, Run.run_cons, ih]; rfl

/-- The guest's endpoint has just heard a whole inventory `w`. -/
structure Heard (now : Word64) (w : ItemWire) (e : ItemEnd) : Prop where
  fresh : e.cache.fresh now = true
  connected : e.connected = true
  lastState : e.lastState = now
  items : e.cache.items = w

theorem guestResult_of_heard (h : Heard now w (s.net.ends false)) :
    s.guestResult session now
      = itemsResult false (s.net.ends false).input w true true session := by
  have hstale : decide (now - now ≤ staleMs) = true := by
    rw [BitVec.sub_self]
    decide
  rw [ItemSession.guestResult, ItemEnd.result, h.fresh, h.connected, h.lastState, h.items, hstale,
    Bool.and_self]

/-- A round of the host brings no inputs. -/
theorem along_hostRound (now : Word64) (s : ItemSession) :
    Run.Along (ItemSession.step session) (FixedFiles hostFile guestFile) s (hostRound now) := by
  have hev : ∀ e ∈ hostRound now, ∀ s, FixedFiles hostFile guestFile s e := by
    intro e he s
    simp only [hostRound, deliverRound, List.mem_map, List.mem_flatMap, List.mem_cons,
      List.not_mem_nil, or_false] at he
    obtain ⟨ev, ⟨j, -, rfl | rfl⟩, rfl⟩ := he <;> trivial
  exact Run.along_mono (fun _ _ h => h _) (Run.along_of_forall hev)

theorem validItemsInput_rebind {request : ItemWords} {hi lo scope : Word}
    (h : validItemsInput l = true) (hs : scope ≤ 3) :
    validItemsInput { l with request := request, sessionHi := hi, sessionLo := lo, scope := scope }
      = true := by
  simp only [validItemsInput, Bool.and_eq_true, Bool.or_eq_true, decide_eq_true_eq] at h ⊢
  exact ⟨⟨h.1.1, h.1.2.1, h.1.2.2.1, hs⟩, h.2⟩

/-- The events of a round of the host, an answer, a frame and another answer. -/
def bindRound (now : Word64) : List SessionEvent :=
  hostRound now ++ [.result now, .frame, .result now]

/-- **A game binds in one round**: with both inventories ready and nothing the guest owns beyond the
host, a round of the host, an answer, a frame and another answer bind the guest's game, and its
pickups become requests from then on. -/
theorem game_binds (turns : Bool → Word) (hh : FixedInput hostFile hostInput)
    (hhr : hostInput.ready ≠ 0) (hg : FixedInput guestFile g.input) (hgr : g.input.ready ≠ 0)
    (hlive : session ≠ 0) (hnow : now ≠ 0)
    (hsub : ∀ i, g.input.owned i &&& ~~~ hostInput.owned i = 0) :
    Run.Along (ItemSession.step session) (FixedFiles hostFile guestFile)
      (ItemSession.start hostInput g turns) (bindRound now)
    ∧ ∃ s, Run.run (ItemSession.step session) (ItemSession.start hostInput g turns) (bindRound now)
        = s ∧ s.game.bound = true ∧ s.game.join = g.join ∧ s.game.input.ready = g.input.ready
      ∧ s.game.input.scope = hostFile := by
  obtain ⟨hhe, hhf, hhfull⟩ := full_of_validItemsInput hh.valid hhr
  obtain ⟨hge, hgf, hgfull⟩ := full_of_validItemsInput hg.valid hgr
  have hwire : (((ItemSession.start hostInput g turns).net).ends true).wire true session
      = hostItems hostInput := by
    simp only [ItemEnd.wire, ItemSession.start, ItemNet.start, if_true,
      sanitizeItems_of_valid hh.valid]
    exact itemsWire_of_host hh.valid hhr
  have hitems : FeatureItems
      ((((ItemSession.start hostInput g turns).net).ends true).wire true session) := by
    simp only [ItemEnd.wire, ItemSession.start, ItemNet.start, if_true,
      sanitizeItems_of_valid hh.valid]
    exact featureItems_itemsWire hh.valid hhe
  have h₁ := complete_round true (s := (ItemSession.start hostInput g turns).net) hnow hitems
    (by rw [hwire]; exact hhr) (by exact le_rfl) rfl
  rw [hwire] at hitems
  rw [bindRound, Run.run_append, Run.along_append]
  refine (and_assoc.mpr ⟨along_hostRound now _, ?_⟩ : (_ ∧ _) ∧ _)
  rw [hostRound, run_channel]
  have hlog : ((ItemSession.start hostInput g turns).net.sent true).sent.length = 0 := rfl
  rw [hlog] at h₁
  generalize Run.run (ItemNet.step session) (ItemSession.start hostInput g turns).net
    (deliverRound true 0 now 16) = n at h₁ ⊢
  obtain ⟨w, hw⟩ : ∃ w, w = hostItems hostInput := ⟨_, rfl⟩
  rw [← hw] at hwire hitems
  have hfile : w.file = hostFile := by rw [hw]; exact hh.file
  have hready : w.ready ≠ 0 := by rw [hw]; exact hhr
  have hheard : Heard now w (n.ends false) :=
    ⟨h₁.fresh, h₁.connected, h₁.lastState, h₁.items.trans hwire⟩
  have hinput : (n.ends false).input = g.input := by
    rw [show n.ends false = n.ends (!true) from rfl, h₁.input]
    exact sanitizeItems_of_valid hg.valid
  -- the first answer names the session
  obtain ⟨a1, a2, a3⟩ := itemsResult_session false true hg.valid hg.enabled rfl hlive hitems
    (hitems.fileOfReady hready) hgf
  have hr₁ : ItemSession.guestResult ⟨g, n⟩ session now
      = itemsResult false g.input w true true session := by
    rw [guestResult_of_heard hheard, hinput]
  generalize hr : itemsResult false g.input w true true session = r₁ at a1 a2 a3 hr₁
  have hvalid : validItemsInput (coopItemsReceive g r₁).input = true := by
    refine validItemsInput_rebind hg.valid ?_
    rw [a3, show resultScope false g.input w = w.file from rfl]
    exact hitems.file
  -- the frame hands the bound input over, and the second answer finds it bound
  have hheard₂ : Heard now w ((n.step session (.tick false (coopItemsReceive g r₁).input)).ends
      false) := by
    simp only [ItemNet.step, Function.update_self]
    exact ⟨hheard.fresh, hheard.connected, hheard.lastState, hheard.items⟩
  have hinput₂ : ((n.step session (.tick false (coopItemsReceive g r₁).input)).ends false).input
      = (coopItemsReceive g r₁).input := by
    simp only [ItemNet.step, Function.update_self]
    exact sanitizeItems_of_valid hvalid
  have hbound : bound (coopItemsReceive g r₁).input w session = true := by
    simp only [bound, decide_eq_true_eq]
    exact ⟨hlive, a1, a2, by rw [hw]; rfl, a3, by
      rw [show (coopItemsReceive g r₁).input.scope = r₁.scope from rfl, a3]
      exact hitems.fileOfReady hready⟩
  have hconflict : ∀ i, itemConflict false (coopItemsReceive g r₁).input w
      (false && decide ((coopItemsReceive g r₁).input.enabled = 2)) i = false := by
    intro i
    have ho : (coopItemsReceive g r₁).input.owned i &&& ~~~ w.owned i = 0 := by
      rw [hw]
      exact hsub i
    have hq : w.request i = 0 := by rw [hw]; rfl
    simp [itemConflict, ho, hq]
  have hr₂ : ItemSession.guestResult ⟨coopItemsReceive g r₁,
        n.step session (.tick false (coopItemsReceive g r₁).input)⟩ session now
      = itemsResult false (coopItemsReceive g r₁).input w true true session := by
    rw [guestResult_of_heard hheard₂, hinput₂]
  have hanswer := itemsResult_of_complete false hvalid hgr hlive hitems hready
    (by rw [hw]; rfl) (by rw [hw]; exact hhfull) (fun _ => hbound) hconflict
  have hstatus : (itemsResult false (coopItemsReceive g r₁).input w true true session).status = 2
      ∨ (itemsResult false (coopItemsReceive g r₁).input w true true session).status = 3 := by
    rw [hanswer]
    dsimp only
    split
    · exact .inl rfl
    · exact .inr rfl
  have hscope : (itemsResult false (coopItemsReceive g r₁).input w true true session).scope
      = hostFile := by
    rw [hanswer]
    exact hfile
  generalize itemsResult false (coopItemsReceive g r₁).input w true true session = r₂
    at hr₂ hstatus hscope
  refine ⟨⟨trivial, ?_, trivial, trivial⟩, ⟨coopItemsReceive (coopItemsReceive g r₁) r₂,
      n.step session (.tick false (coopItemsReceive g r₁).input)⟩, ?_,
    receive_bound hstatus, rfl, rfl, hscope⟩
  · change FixedInput guestFile
      (coopItemsReceive g (ItemSession.guestResult ⟨g, n⟩ session now)).input
    rw [hr₁]
    exact ⟨hvalid, hg.enabled, hg.file⟩
  · rw [← hr₂, ← hr₁]
    rfl

/-- The guest's game of `blueprintSession`, before it owns or requests anything. -/
def freshGame : CoopItems where
  input := { enabled := 1, file := 2, ready := 1 }
  join := true

/-- A pickup noted by a game that has just been bound is still requested after the next answer, or
that answer acknowledged it. -/
theorem request_kept_blueprint :
    itemBit (Run.run (ItemSession.step 7)
      (ItemSession.start (blueprintSession true) freshGame fun _ => 0)
      ((bindRound 5 ++ [.note coopSnideFirst]) ++ [.result 5])).game.input.request coopSnideFirst
        = true
    ∨ ∃ pre now post, [.result 5] = pre ++ .result now :: post ∧
      Acknowledged (blueprintSession true) 7 ((bindRound 5 ++ [.note coopSnideFirst]) ++ pre)
        coopSnideFirst now (Run.run (ItemSession.step 7)
          (ItemSession.start (blueprintSession true) freshGame fun _ => 0)
          ((bindRound 5 ++ [.note coopSnideFirst]) ++ pre)) := by
  have hh : FixedInput 1 (blueprintSession true) :=
    ⟨validItemsInput_blueprintSession true, by decide, rfl⟩
  have hg : FixedInput 2 freshGame.input :=
    ⟨by simp [validItemsInput, freshGame, fullDependencies_zero], by decide, rfl⟩
  have hu : Unbound freshGame := ⟨rfl, rfl, rfl, fun _ => itemBit_zero⟩
  obtain ⟨hok, s, hs, hbound, hjoin, hready, hscope⟩ :=
    game_binds (fun _ => 0) hh (by decide) hg (by decide) (show (7 : Word64) ≠ 0 by decide)
      (show (5 : Word64) ≠ 0 by decide) (fun i => by simp [freshGame])
  refine request_kept_until_acknowledged hh hg hu ?_ ?_
  · rw [Run.along_append, Run.along_append]
    exact ⟨⟨hok, trivial, trivial⟩, trivial, trivial⟩
  · rw [Run.run_snoc, hs]
    change itemBit (coopItemsNote s.game coopSnideFirst).input.request coopSnideFirst = true
    rw [coopItemsNote, if_pos ⟨hjoin, by rw [hready]; decide, by rw [hscope]; decide, hbound⟩]
    exact itemBit_setItemBit_self (by decide)

end Run

end Dk64Port.Coop
