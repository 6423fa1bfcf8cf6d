import Dk64Port.Coop.ItemNet

/-!
# Where items come from

* `Published`: what a payload may hold, in terms of the inputs its sender was given.
* `sourced_run`: at any time every payload sent and every page cache is `Published` by the sender.
* `item_provenance`: **the host writes only what a bound guest owned and requested, the guest
  writes only what the host owned.**
-/

namespace Dk64Port.Coop

/-- The input an event hands to one side. -/
def ItemEvent.inputs (host : Bool) : ItemEvent → List CoopItemInput
  | .tick side l => if side = host then [l] else []
  | _ => []

/-- The inputs one side was given, in order. -/
def inputsOf (inputs : Bool → CoopItemInput) (host : Bool) (es : List ItemEvent) :
    List CoopItemInput :=
  inputs host :: es.flatMap (ItemEvent.inputs host)

/-! ## What a payload may hold -/

/-- The input is bound to the session and to the host's file `scope`. -/
structure BoundTo (session : Word64) (scope : Word) (l : CoopItemInput) : Prop where
  live : session ≠ 0
  hi : l.sessionHi = sessionHi session
  lo : l.sessionLo = sessionLo session
  inScope : l.scope = scope
  known : scope ≠ 0

/-- Every owned bit of `w` was owned in an input of `H`, and every request bit was owned and
requested in an input of `H` bound to the session and the scope of `w`. -/
structure Published (H : List CoopItemInput) (session : Word64) (w : ItemWire) : Prop where
  owned : ∀ id, itemBit w.owned id = true →
    ∃ l ∈ H, validItemsInput l = true ∧ itemBit l.owned id = true
  request : ∀ id, itemBit w.request id = true →
    ∃ l ∈ H, validItemsInput l = true ∧ BoundTo session w.scope l
      ∧ itemBit l.owned id = true ∧ itemBit l.request id = true

variable {H H' : List CoopItemInput} {session : Word64} {w received : ItemWire} {now : Word64}
  {page : Word} {c : ItemCache} {host connected : Bool}

theorem Published.empty : Published H session {} :=
  ⟨fun _ h => by simp at h, fun _ h => by simp at h⟩

theorem Published.mono (hH : ∀ l ∈ H, l ∈ H') (h : Published H session w) :
    Published H' session w where
  owned id hid := by
    obtain ⟨l, hl, h⟩ := h.owned id hid
    exact ⟨l, hH l hl, h⟩
  request id hid := by
    obtain ⟨l, hl, h⟩ := h.request id hid
    exact ⟨l, hH l hl, h⟩

/-- A sanitized input is valid, and its bits are those of the input it came from. -/
theorem sanitizeItems_cases (l : CoopItemInput) :
    sanitizeItems l = {} ∨ sanitizeItems l = l ∧ validItemsInput l = true := by
  unfold sanitizeItems
  split
  · rename_i h
    exact .inr ⟨rfl, h⟩
  · exact .inl rfl

theorem boundTo_of_bound {l : CoopItemInput} {r : ItemWire} (h : bound l r session = true) :
    BoundTo session l.scope l := by
  simp only [bound, decide_eq_true_eq] at h
  exact ⟨h.1, h.2.1, h.2.2.1, rfl, h.2.2.2.2.2⟩

/-- What `items_wire` makes of a sanitized input is published. -/
theorem published_itemsWire {l : CoopItemInput} {r : ItemWire} (hl : l ∈ H) :
    Published H session (itemsWire host (sanitizeItems l) r connected session) := by
  rcases sanitizeItems_cases l with h | ⟨h, hv⟩
  · have he : itemsWire host {} r connected session = {} := if_pos (.inr rfl)
    rw [h, he]
    exact .empty
  · rw [h]
    refine ⟨fun id hid => ⟨l, hl, hv, owned_of_itemsWire hid⟩, fun id hid => ?_⟩
    obtain ⟨-, hb, hs, hreq, hown⟩ := request_of_itemsWire hid
    rw [hs]
    exact ⟨l, hl, hv, boundTo_of_bound hb, hown, hreq⟩

theorem Published.payload (h : Published H session w) : Published H session (w.payload page) where
  owned id hid := h.owned id (payload_owned_from hid)
  request id hid := by
    rw [payload_scope]
    exact h.request id (payload_request_from hid)

/-- **A cache of published payloads is published**: a page of another scope empties it first. -/
theorem Published.receive (hc : Published H session c.items) (hr : Published H session received) :
    Published H session (c.receive received now).items where
  owned id hid := (receive_owned_from hid).elim (hr.owned id) fun h => hc.owned id h.1
  request id hid := by
    rw [receive_scope]
    rcases receive_request_from hid with h | ⟨h, hs⟩
    · exact hr.request id h
    · rw [hs]
      exact hc.request id h

/-! ## The run invariant -/

/-- An endpoint runs one of its inputs, and its cache is published by the peer and filled from what
the peer sent. -/
structure EndSourced (own peer : List CoopItemInput) (sent : List ItemWire) (session : Word64)
    (e : ItemEnd) : Prop where
  input : ∃ l ∈ own, e.input = sanitizeItems l
  cache : Published peer session e.cache.items
  received : ∀ id, itemBit e.cache.items.owned id = true → ∃ w ∈ sent, itemBit w.owned id = true

/-- Both endpoints are sourced, and every payload sent is published by its sender. -/
structure Sourced (H : Bool → List CoopItemInput) (session : Word64) (s : ItemNet) : Prop where
  ends : ∀ host, EndSourced (H host) (H !host) (s.sent !host).sent session (s.ends host)
  sent : ∀ host, ∀ w ∈ (s.sent host).sent, Published (H host) session w

variable {own own' peer peer' : List CoopItemInput} {sent sent' : List ItemWire} {e : ItemEnd}
  {l : CoopItemInput}

theorem EndSourced.mono (ho : ∀ l ∈ own, l ∈ own') (hp : ∀ l ∈ peer, l ∈ peer')
    (hs : ∀ w ∈ sent, w ∈ sent') (h : EndSourced own peer sent session e) :
    EndSourced own' peer' sent' session e where
  input := h.input.imp fun l hl => ⟨ho l hl.1, hl.2⟩
  cache := h.cache.mono hp
  received id hid := (h.received id hid).imp fun w hw => ⟨hs w hw.1, hw.2⟩

theorem EndSourced.tick (h : EndSourced own peer sent session e) (hl : l ∈ own) :
    EndSourced own peer sent session { e with input := sanitizeItems l } :=
  ⟨⟨l, hl, rfl⟩, h.cache, h.received⟩

theorem EndSourced.send (h : EndSourced own peer sent session e) :
    EndSourced own peer sent session (e.sent host session) where
  input := by simpa using h.input
  cache := by simpa using h.cache
  received := by simpa using h.received

theorem EndSourced.take (h : EndSourced own peer sent session e)
    (hw : Published peer session received) (hs : received ∈ sent) :
    EndSourced own peer sent session (e.take received now) := by
  unfold ItemEnd.take
  split
  · refine ⟨h.input, h.cache.receive hw, fun id hid => ?_⟩
    rcases receive_owned_from hid with hid | hid
    · exact ⟨received, hs, hid⟩
    · exact h.received id hid.1
  · exact h

variable {inputs : Bool → CoopItemInput} {turns : Bool → Word} {es : List ItemEvent}
  {ev : ItemEvent} {s : ItemNet}

theorem inputsOf_snoc : inputsOf inputs host (es ++ [ev])
    = inputsOf inputs host es ++ ev.inputs host := by
  simp [inputsOf]

theorem sourced_start :
    Sourced (fun host => inputsOf inputs host []) session (ItemNet.start inputs turns) where
  ends host := ⟨⟨inputs host, List.mem_cons_self, rfl⟩, .empty,
    fun id h => by simp [ItemNet.start] at h⟩
  sent host w hw := by simp [ItemNet.start] at hw

/-- **The step lemma.** -/
theorem sourced_step {H : Bool → List CoopItemInput} (h : Sourced H session s) (ev : ItemEvent) :
    Sourced (fun host => H host ++ ev.inputs host) session (s.step session ev) := by
  have hH : ∀ host, ∀ l ∈ H host, l ∈ H host ++ ev.inputs host :=
    fun host l hl => List.mem_append_left _ hl
  have hends : ∀ host, EndSourced (H host ++ ev.inputs host) (H (!host) ++ ev.inputs !host)
      ((s.step session ev).sent !host).sent session (s.ends host) := fun host =>
    (h.ends host).mono (hH host) (hH _) sent_subset_step
  have hsent : ∀ host, ∀ w ∈ (s.sent host).sent,
      Published (H host ++ ev.inputs host) session w := fun host w hw =>
    (h.sent host w hw).mono (hH host)
  refine ⟨fun host => ?_, fun host w hw => ?_⟩
  · cases ev with
    | tick side l =>
      rcases eq_or_ne host side with rfl | hne
      · have hl : l ∈ H host ++ (ItemEvent.tick host l).inputs host := by
          simp [ItemEvent.inputs]
        simpa only [ItemNet.step, Function.update_self] using (hends host).tick hl
      · simpa only [ItemNet.step, Function.update_of_ne hne] using hends host
    | send side =>
      rcases eq_or_ne host side with rfl | hne
      · simpa only [ItemNet.step, Function.update_self] using (hends host).send
      · simpa only [ItemNet.step, Function.update_of_ne hne] using hends host
    | take side i now =>
      rcases ends_take session s side host i now with
        hc | ⟨-, received, hmem, hc⟩ <;> rw [hc]
      · exact hends host
      · exact (hends host).take (hsent _ received hmem) (sent_subset_step received hmem)
  · rcases mem_sent_step hw with hw | rfl
    · exact hsent host w hw
    · obtain ⟨l, hl, hinput⟩ := (hends host).input
      rw [ItemEnd.payload, ItemEnd.wire, hinput]
      exact (published_itemsWire hl).payload

/-- **The run lemma**: whatever is delivered, lost or delayed, both sides stay sourced. -/
theorem sourced_run :
    Sourced (fun host => inputsOf inputs host es) session
      (Run.run (ItemNet.step session) (ItemNet.start inputs turns) es) :=
  Run.history_invariant (C := fun _ _ => True)
    (I := fun es s => Sourced (fun host => inputsOf inputs host es) session s) sourced_start
    (fun _ _ ev h _ => by simpa only [inputsOf_snoc] using sourced_step h ev)
    (Run.along_of_forall fun _ _ => trivial)

/-! ## Provenance -/

/-- **Item provenance.** In every run of one session, whatever the inputs: a bit the host is told to
write while it does not merge was owned and requested in a valid guest input bound to this session
and to the host's file; a bit the guest is told to write was owned in a valid host input. -/
theorem item_provenance (session : Word64) (inputs : Bool → CoopItemInput) (turns : Bool → Word)
    (es : List ItemEvent) (now : Word64) (id : Nat) :
    let s := Run.run (ItemNet.step session) (ItemNet.start inputs turns) es
    ((s.ends true).input.enabled ≠ 2 →
      itemBit ((s.ends true).result true session now).apply id = true →
      ∃ l ∈ inputsOf inputs false es, validItemsInput l = true
        ∧ BoundTo session (s.ends true).input.file l
        ∧ itemBit l.owned id = true ∧ itemBit l.request id = true)
    ∧ (itemBit ((s.ends false).result false session now).apply id = true →
      ∃ l ∈ inputsOf inputs true es, validItemsInput l = true ∧ itemBit l.owned id = true) := by
  intro s
  have hs : Sourced (fun host => inputsOf inputs host es) session s := sourced_run
  refine ⟨fun hm hid => ?_, fun hid => ?_⟩
  · obtain ⟨hscope, hreq, -⟩ := requested_of_hostResult hm hid
    rw [← hscope]
    exact (hs.ends true).cache.request id hreq
  · exact (hs.ends false).cache.owned id (owned_of_guestResult (.inl hid))

/-- The inputs of a session in which a guest on file 2, bound to session 7 and the host's file 1,
requests a blueprint and its reward. -/
def blueprintSession : Bool → CoopItemInput
  | true => { enabled := 1, file := 1, ready := 1 }
  | false => { blueprintInput with file := 2, sessionLo := 7, scope := 1 }

theorem validItemsInput_blueprintSession :
    ∀ host, validItemsInput (blueprintSession host) = true
  | true => by simp [validItemsInput, blueprintSession, fullDependencies_zero]
  | false => by simp [validItemsInput, blueprintSession, blueprintInput, blueprintSave_full]

/-- The host of that session is told to write the reward, and a bound guest input requested it. -/
theorem item_provenance_blueprint :
    let es := deliverRound true 0 5 16 ++ deliverRound false 0 5 16
    ∃ l ∈ inputsOf blueprintSession false es, validItemsInput l = true ∧ BoundTo 7 1 l
      ∧ itemBit l.owned coopSnideFirst = true ∧ itemBit l.request coopSnideFirst = true := by
  have hc : ∀ i, (blueprintSession false).owned i &&& ~~~ (blueprintSession true).owned i
      &&& ~~~ ((blueprintSession false).request i &&& (blueprintSession false).owned i) = 0 := by
    decide +kernel
  obtain ⟨hinput, happly⟩ := requests_cross 7 blueprintSession (fun _ => 0) 5
    (by decide) (by decide) (validItemsInput_blueprintSession true) (by decide) (by decide)
    (validItemsInput_blueprintSession false) (by decide) (by decide) hc
  have hp := (item_provenance 7 blueprintSession (fun _ => 0)
    (deliverRound true 0 5 16 ++ deliverRound false 0 5 16) 5 coopSnideFirst).1
    (by rw [hinput]; decide) (by rw [happly]; decide)
  rw [hinput] at hp
  exact hp

end Dk64Port.Coop
