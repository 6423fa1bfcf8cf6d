import Dk64Port.Coop.ItemPaging
import Dk64Port.Lib.LossyChannel
import Mathlib.Logic.Function.Basic

/-!
# The two item channels of one session

Both endpoints of a session with arbitrary local inputs: a tick hands its input to the session
(`tick`), a state packet carries one page (`send`), and the network delivers, loses and delays
packets; only packets newer than the last one taken are taken (`take`). The side is the `host` flag
of the source.

* `ends_take` / `mem_sent_step` / `sent_subset_step`: what one event does.
* `complete_round`: **sixteen packets in a row carry a whole inventory across**, whatever page the
  sender is at and whatever the receiver's cache held.
-/

namespace Dk64Port.Coop

open LossyChannel

/-- `stale_ms`. -/
def staleMs : Word64 := 750

/-- What one endpoint keeps about the item channel within one session. -/
structure ItemEnd where
  /-- `local_items`. -/
  input : CoopItemInput := {}
  /-- `remote_items`, `item_page_time`. -/
  cache : ItemCache := {}
  /-- `status == Status::connected`. -/
  connected : Bool := false
  lastState : Word64 := 0
  /-- `item_page_turn`. -/
  pageTurn : Word := 0

/-- `valid_items_input(items) ? items : CoopItemInput{}`. -/
def sanitizeItems (l : CoopItemInput) : CoopItemInput := if validItemsInput l then l else {}

/-- `items_wire(...)` of `Session::send`. -/
def ItemEnd.wire (e : ItemEnd) (host : Bool) (session : Word64) : ItemWire :=
  itemsWire host e.input e.cache.items e.connected session

/-- `(item_page_turn++ / 2) % COOP_ITEM_PAGES`, before the increment. -/
def ItemEnd.page (e : ItemEnd) : Word := (e.pageTurn / 2) % 8

/-- The payload of the next state packet. -/
def ItemEnd.payload (e : ItemEnd) (host : Bool) (session : Word64) : ItemWire :=
  (e.wire host session).payload e.page

/-- The turn advances with every packet that carries a page. -/
def ItemEnd.sent (e : ItemEnd) (host : Bool) (session : Word64) : ItemEnd :=
  if (e.wire host session).ready = 0 then e else { e with pageTurn := e.pageTurn + 1 }

/-- A state packet is taken; `decode` refuses payloads that are not valid. -/
def ItemEnd.take (e : ItemEnd) (received : ItemWire) (now : Word64) : ItemEnd :=
  if validItems received then
    { e with cache := e.cache.receive received now, connected := true, lastState := now }
  else e

/-- `Session::items`. -/
def ItemEnd.result (e : ItemEnd) (host : Bool) (session now : Word64) : CoopItemResult :=
  itemsResult host e.input e.cache.items e.connected
    (e.cache.fresh now && decide (now - e.lastState ≤ staleMs)) session

@[simp] theorem sent_input (e : ItemEnd) (host : Bool) (session : Word64) :
    (e.sent host session).input = e.input := by
  unfold ItemEnd.sent
  split <;> rfl

@[simp] theorem sent_cache (e : ItemEnd) (host : Bool) (session : Word64) :
    (e.sent host session).cache = e.cache := by
  unfold ItemEnd.sent
  split <;> rfl

@[simp] theorem sent_connected (e : ItemEnd) (host : Bool) (session : Word64) :
    (e.sent host session).connected = e.connected := by
  unfold ItemEnd.sent
  split <;> rfl

@[simp] theorem take_input (e : ItemEnd) (received : ItemWire) (now : Word64) :
    (e.take received now).input = e.input := by
  unfold ItemEnd.take
  split <;> rfl

/-- Both endpoints, and the packets each has sent. -/
structure ItemNet where
  ends : Bool → ItemEnd
  sent : Bool → Channel ItemWire

inductive ItemEvent where
  /-- The game of one side hands over its input. -/
  | tick (host : Bool) (input : CoopItemInput)
  /-- One side sends a state packet. -/
  | send (host : Bool)
  /-- One side takes the `i`-th packet of the other. -/
  | take (host : Bool) (i : Nat) (now : Word64)

/-- A fresh session: the caches are empty (`clear_peer` and the hello reset), the guest is connected
by the welcome, the host by the first state packet. -/
def ItemNet.start (inputs : Bool → CoopItemInput) (turns : Bool → Word) : ItemNet where
  ends host := { input := sanitizeItems (inputs host), connected := !host, pageTurn := turns host }
  sent _ := Channel.empty

def ItemNet.step (session : Word64) (s : ItemNet) : ItemEvent → ItemNet
  | .tick host l =>
    { s with ends := Function.update s.ends host { s.ends host with input := sanitizeItems l } }
  | .send host =>
    { ends := Function.update s.ends host ((s.ends host).sent host session)
      sent := Function.update s.sent host
        ((s.sent host).send ((s.ends host).payload host session)) }
  | .take host i now =>
    match (s.sent !host).take i with
    | none => s
    | some (received, c) =>
      { ends := Function.update s.ends host ((s.ends host).take received now)
        sent := Function.update s.sent (!host) c }

/-! ## What one event does -/

variable {session : Word64} {s : ItemNet} {ev : ItemEvent} {host : Bool} {w : ItemWire}

/-- Packets stay in the log. -/
theorem sent_subset_step :
    ∀ w ∈ (s.sent host).sent, w ∈ ((s.step session ev).sent host).sent := by
  intro w hw
  cases ev with
  | tick side l => exact hw
  | send side =>
    simp only [ItemNet.step]
    rcases eq_or_ne host side with rfl | hne
    · rw [Function.update_self, sent_send]
      exact List.mem_append_left _ hw
    · rw [Function.update_of_ne hne]
      exact hw
  | take side i now =>
    simp only [ItemNet.step]
    split
    · exact hw
    · rename_i received c ht
      dsimp only
      rcases eq_or_ne host (!side) with rfl | hne
      · rw [Function.update_self, sent_take ht]
        exact hw
      · rw [Function.update_of_ne hne]
        exact hw

/-- A step that adds a packet is a `send` of the payload of that moment. -/
theorem mem_sent_step (hw : w ∈ ((s.step session ev).sent host).sent) :
    w ∈ (s.sent host).sent ∨ w = (s.ends host).payload host session := by
  cases ev with
  | tick side l => exact .inl hw
  | send side =>
    simp only [ItemNet.step] at hw
    rcases eq_or_ne host side with rfl | hne
    · rw [Function.update_self, sent_send, List.mem_append, List.mem_singleton] at hw
      exact hw
    · rw [Function.update_of_ne hne] at hw
      exact .inl hw
  | take side i now =>
    simp only [ItemNet.step] at hw
    split at hw
    · exact .inl hw
    · rename_i received c ht
      dsimp only at hw
      rcases eq_or_ne host (!side) with rfl | hne
      · rw [Function.update_self, sent_take ht] at hw
        exact .inl hw
      · rw [Function.update_of_ne hne] at hw
        exact .inl hw

/-- A delivery changes nothing, or hands the taker a packet its peer sent. -/
theorem ends_take (session : Word64) (s : ItemNet) (side host : Bool) (i : Nat) (now : Word64) :
    (s.step session (.take side i now)).ends host = s.ends host
    ∨ side = host ∧ ∃ received, received ∈ (s.sent !host).sent
      ∧ (s.step session (.take side i now)).ends host = (s.ends host).take received now := by
  simp only [ItemNet.step]
  split
  · exact .inl rfl
  · rename_i received c ht
    dsimp only
    rcases eq_or_ne host side with rfl | hne
    · exact .inr ⟨rfl, received, mem_of_take ht, by rw [Function.update_self]⟩
    · exact .inl (by rw [Function.update_of_ne hne])

/-! ## A whole inventory in sixteen packets -/

/-- `k` state packets of one side in a row, each delivered at once; `first` were sent before. -/
def deliverRound (host : Bool) (first : Nat) (now : Word64) (k : Nat) : List ItemEvent :=
  (List.range k).flatMap fun j => [.send host, .take (!host) (first + j) now]

/-- The page of a packet sent at `turn`. -/
def pageAt (turn : Word) : Fin coopItemPages :=
  ⟨((turn / 2) % 8).toNat, by rw [BitVec.toNat_umod]; exact Nat.mod_lt _ (by decide)⟩

/-- The pages of `k` packets in a row. -/
def pagesFrom (turn : Word) (now : Word64) (k : Nat) : List (Fin coopItemPages × Word64) :=
  (List.range k).map fun j => (pageAt (turn + BitVec.ofNat 32 j), now)

theorem pagesFrom_succ (turn : Word) (now : Word64) (k : Nat) : pagesFrom turn now (k + 1)
    = pagesFrom turn now k ++ [(pageAt (turn + BitVec.ofNat 32 k), now)] := by
  simp [pagesFrom, List.range_succ]

theorem deliverRound_succ (first : Nat) (now : Word64) (k : Nat) :
    deliverRound host first now (k + 1)
      = deliverRound host first now k ++ [.send host] ++ [.take (!host) (first + k) now] := by
  simp [deliverRound, List.range_succ]

/-- The state after `k` packets of the round. -/
structure InRound (session : Word64) (host : Bool) (first : Nat) (now : Word64) (s₀ : ItemNet)
    (k : Nat) (s : ItemNet) : Prop where
  sender : s.ends host
    = { s₀.ends host with pageTurn := (s₀.ends host).pageTurn + BitVec.ofNat 32 k }
  length : (s.sent host).sent.length = first + k
  next : (s.sent host).next ≤ first + k
  input : (s.ends !host).input = (s₀.ends !host).input
  cache : (s.ends !host).cache = mergePages ((s₀.ends host).wire host session)
    (s₀.ends !host).cache (pagesFrom (s₀.ends host).pageTurn now k)
  live : 0 < k → (s.ends !host).connected = true ∧ (s.ends !host).lastState = now
  other : s.sent (!host) = s₀.sent !host

/-- **The step lemma of the round.** -/
theorem inRound_step {first k : Nat} {now : Word64} {s₀ : ItemNet}
    (hf : FeatureItems ((s₀.ends host).wire host session))
    (hr : ((s₀.ends host).wire host session).ready ≠ 0)
    (h : InRound session host first now s₀ k s) :
    InRound session host first now s₀ (k + 1)
      ((s.step session (.send host)).step session (.take (!host) (first + k) now)) := by
  have hwire : (s.ends host).wire host session = (s₀.ends host).wire host session := by
    rw [h.sender]
    rfl
  have hpage : (s.ends host).page
      = BitVec.ofNat 32 (pageAt ((s₀.ends host).pageTurn + BitVec.ofNat 32 k)).val := by
    rw [h.sender, ItemEnd.page, pageAt, BitVec.ofNat_toNat, BitVec.setWidth_eq]
  have hne : (!host) ≠ host := by simp
  generalize hw : (s₀.ends host).wire host session = w at *
  have hpay : (s.ends host).payload host session
      = w.payload (BitVec.ofNat 32 (pageAt ((s₀.ends host).pageTurn + BitVec.ofNat 32 k)).val) := by
    rw [ItemEnd.payload, hwire, hpage]
  -- the packet is sent
  set s₁ := s.step session (.send host) with hs₁
  have hhost : s₁.ends host = { s.ends host with pageTurn := (s.ends host).pageTurn + 1 } := by
    simp only [hs₁, ItemNet.step, Function.update_self, ItemEnd.sent, hwire, if_neg hr]
  have hother : s₁.ends (!host) = s.ends !host := by
    simp only [hs₁, ItemNet.step, Function.update_of_ne hne]
  have hlog : s₁.sent host = (s.sent host).send ((s.ends host).payload host session) := by
    simp only [hs₁, ItemNet.step, Function.update_self]
  -- and taken
  have ht : (s₁.sent host).take (first + k) = some ((s.ends host).payload host session,
      { s₁.sent host with next := first + k + 1 }) := by
    refine take_eq_some.mpr ⟨?_, ?_, rfl⟩
    · rw [hlog, next_send]
      exact h.next
    · rw [hlog, sent_send, ← h.length]
      exact List.getElem?_concat_length
  have hs₂ : s₁.step session (.take (!host) (first + k) now)
      = { ends := Function.update s₁.ends (!host)
            ((s.ends !host).take ((s.ends host).payload host session) now)
          sent := Function.update s₁.sent host { s₁.sent host with next := first + k + 1 } } := by
    rw [← hother]
    simp only [ItemNet.step, Bool.not_not, ht]
  have hvalid : validItems ((s.ends host).payload host session) = true := by
    rw [hpay]
    refine (hf.payload ?_).valid
    rw [BitVec.toNat_ofNat]
    exact lt_of_le_of_lt (Nat.mod_le _ _) (pageAt _).isLt
  rw [hs₂]
  refine ⟨?_, ?_, ?_, ?_, ?_, fun _ => ?_, ?_⟩ <;> dsimp only
  · rw [Function.update_of_ne hne.symm, hhost, h.sender]
    simp only [ItemEnd.mk.injEq, true_and]
    rw [BitVec.add_assoc]
    congr 1
    exact (BitVec.ofNat_add k 1).symm
  · rw [Function.update_self, hlog, sent_send, List.length_append, h.length]
    rfl
  · rw [Function.update_self]
    change first + k + 1 ≤ first + (k + 1)
    omega
  · rw [Function.update_self, take_input, h.input]
  · rw [Function.update_self, ItemEnd.take, if_pos hvalid, pagesFrom_succ, mergePages_snoc, hpay,
      h.cache, hw]
  · rw [Function.update_self, ItemEnd.take, if_pos hvalid]
    exact ⟨rfl, rfl⟩
  · rw [Function.update_of_ne hne, ← h.other]
    simp only [hs₁, ItemNet.step, Function.update_of_ne hne]

/-- The run lemma of the round. -/
theorem inRound_run (now : Word64) (hf : FeatureItems ((s.ends host).wire host session))
    (hr : ((s.ends host).wire host session).ready ≠ 0)
    (hn : (s.sent host).next ≤ (s.sent host).sent.length) (k : Nat) :
    InRound session host (s.sent host).sent.length now s k
      (Run.run (ItemNet.step session) s
        (deliverRound host (s.sent host).sent.length now k)) := by
  induction k with
  | zero =>
    exact ⟨by simp [deliverRound], rfl, hn, rfl, rfl, fun h => absurd h (by omega), rfl⟩
  | succ k ih =>
    rw [deliverRound_succ, Run.run_snoc, Run.run_snoc]
    exact inRound_step hf hr ih

/-- Sixteen turns in a row go through every page. -/
theorem page_in_sixteen (turn : Word) (now : Word64) (p : Fin coopItemPages) :
    ∃ now', (p, now') ∈ pagesFrom turn now 16 := by
  refine ⟨now, List.mem_map.mpr ⟨(2 * p.val + 16 - turn.toNat % 16) % 16, ?_, ?_⟩⟩
  · rw [List.mem_range]
    omega
  · have hp := p.isLt
    have ht := turn.isLt
    simp only [coopItemPages] at hp
    refine Prod.ext (Fin.ext ?_) rfl
    have h2 : (2 : Word).toNat = 2 := rfl
    have h8 : (8 : Word).toNat = 8 := rfl
    simp only [pageAt, BitVec.toNat_umod, BitVec.toNat_udiv, BitVec.toNat_add, BitVec.toNat_ofNat,
      h2, h8]
    omega

/-- What a whole round leaves behind: the receiver's cache is the sender's payload, and fresh. -/
structure RoundDone (session : Word64) (host : Bool) (now : Word64) (s s' : ItemNet) : Prop where
  items : (s'.ends !host).cache.items = (s.ends host).wire host session
  fresh : (s'.ends !host).cache.fresh now = true
  input : (s'.ends !host).input = (s.ends !host).input
  connected : (s'.ends !host).connected = true
  lastState : (s'.ends !host).lastState = now
  sender : ∃ turn, s'.ends host = { s.ends host with pageTurn := turn }
  other : s'.sent (!host) = s.sent !host

/-- **A whole inventory crosses in sixteen packets**, whatever page the sender is at and whatever
the receiver's cache held. -/
theorem complete_round (host : Bool) {now : Word64} (hnow : now ≠ 0)
    (hf : FeatureItems ((s.ends host).wire host session))
    (hr : ((s.ends host).wire host session).ready ≠ 0)
    (hn : (s.sent host).next ≤ (s.sent host).sent.length)
    (hp : (s.ends !host).cache.items.page = 0) :
    RoundDone session host now s (Run.run (ItemNet.step session) s
      (deliverRound host (s.sent host).sent.length now 16)) := by
  have hk := inRound_run now hf hr hn 16
  generalize Run.run _ s _ = s' at hk ⊢
  have hall := page_in_sixteen (s.ends host).pageTurn now
  have hm := merged_mergePages (c := (s.ends !host).cache) hr
    (pagesFrom (s.ends host).pageTurn now 16)
  have hw := mergePages_complete (c := (s.ends !host).cache) hr hall
  have hpage := mergePages_page (w := (s.ends host).wire host session) hp
    (pagesFrom (s.ends host).pageTurn now 16)
  have hne : pagesFrom (s.ends host).pageTurn now 16 ≠ [] := by simp [pagesFrom, List.range_succ]
  rw [← hk.cache] at hm hw hpage
  obtain ⟨h1, h2, h3, h4⟩ := hm.header hne
  refine ⟨ItemWire.ext h1 h2 h3 h4 hw.1 hw.2 ?_, ?_, hk.input, (hk.live (by omega)).1,
    (hk.live (by omega)).2, ⟨_, hk.sender⟩, hk.other⟩
  · rw [hpage, ItemEnd.wire, itemsWire_page]
  unfold ItemCache.fresh
  rw [decide_eq_true_eq]
  intro p
  obtain ⟨now', hp⟩ := hall p
  obtain ⟨q, hq, -, ht⟩ := hm.times _ hp
  have hqn : q.2 = now := by
    obtain ⟨j, -, rfl⟩ := List.mem_map.mp hq
    rfl
  rw [ht, hqn, BitVec.sub_self]
  exact ⟨hnow, by decide⟩

theorem sanitizeItems_of_valid {l : CoopItemInput} (h : validItemsInput l = true) :
    sanitizeItems l = l := if_pos h

/-- **Requests reach the host in two rounds**: with a ready host that does not merge, a ready guest
bound to the session, and no item owned by the guest alone that it does not request, the host is
told to write exactly the requested items it lacks. -/
theorem requests_cross (session : Word64) (inputs : Bool → CoopItemInput) (turns : Bool → Word)
    (now : Word64) (hnow : now ≠ 0) (hlive : session ≠ 0)
    (hh : validItemsInput (inputs true) = true) (hhr : (inputs true).ready ≠ 0)
    (hm : (inputs true).enabled ≠ 2)
    (hg : validItemsInput (inputs false) = true) (hgr : (inputs false).ready ≠ 0)
    (hb : (inputs false).sessionHi = sessionHi session
      ∧ (inputs false).sessionLo = sessionLo session ∧ (inputs false).scope = (inputs true).file)
    (hc : ∀ i, (inputs false).owned i &&& ~~~ (inputs true).owned i
      &&& ~~~ ((inputs false).request i &&& (inputs false).owned i) = 0) :
    let s := Run.run (ItemNet.step session) (ItemNet.start inputs turns)
      (deliverRound true 0 now 16 ++ deliverRound false 0 now 16)
    (s.ends true).input = inputs true
    ∧ ((s.ends true).result true session now).apply = fun i =>
        (inputs false).request i &&& (inputs false).owned i &&& (inputs false).owned i
          &&& ~~~ (inputs true).owned i := by
  obtain ⟨hhe, hhf, -⟩ := full_of_validItemsInput hh hhr
  obtain ⟨hge, hgf, hgfull⟩ := full_of_validItemsInput hg hgr
  have hhost : ((ItemNet.start inputs turns).ends true).wire true session
      = hostItems (inputs true) := by
    simp only [ItemEnd.wire, ItemNet.start, sanitizeItems_of_valid hh]
    exact itemsWire_of_host hh hhr
  have hhitems : FeatureItems (((ItemNet.start inputs turns).ends true).wire true session) := by
    simp only [ItemEnd.wire, ItemNet.start, sanitizeItems_of_valid hh]
    exact featureItems_itemsWire hh hhe
  -- the guest hears from the host and sends its requests
  have h₁ := complete_round true (s := ItemNet.start inputs turns) hnow hhitems
    (by rw [hhost]; exact hhr) (by exact le_rfl) rfl
  rw [Run.run_append]
  change RoundDone session true now _
    (Run.run _ _ (deliverRound true 0 now 16)) at h₁
  generalize Run.run (ItemNet.step session) (ItemNet.start inputs turns)
    (deliverRound true 0 now 16) = s₁ at h₁ ⊢
  have hinput : (s₁.ends false).input = inputs false := by
    rw [show false = !true from rfl, h₁.input]
    exact sanitizeItems_of_valid hg
  have hitems := h₁.items
  have hbound : bound (inputs false) (s₁.ends false).cache.items session = true := by
    rw [show (s₁.ends false).cache.items = _ from hitems, hhost]
    simp only [bound, decide_eq_true_eq]
    exact ⟨hlive, hb.1, hb.2.1, rfl, hb.2.2, by rw [hb.2.2]; exact hhf⟩
  have hguest : (s₁.ends false).wire false session
      = { feature := 1, file := (inputs false).file, ready := (inputs false).ready,
          scope := (inputs false).scope, owned := (inputs false).owned,
          request := fun i => (inputs false).request i &&& (inputs false).owned i } := by
    rw [ItemEnd.wire, hinput, show (s₁.ends false).connected = true from h₁.connected]
    refine itemsWire_of_bound hg hgr ?_ ?_ hbound
    · rw [show (s₁.ends false).cache.items = _ from hitems]
      exact hhitems.valid
    · rw [show (s₁.ends false).cache.items = _ from hitems, hhitems.feature]
      decide
  have hgitems : FeatureItems ((s₁.ends false).wire false session) := by
    rw [ItemEnd.wire, hinput]
    exact featureItems_itemsWire hg hge
  -- the host hears from the guest and answers its own game
  have hfirst : (s₁.sent false).sent.length = 0 ∧ (s₁.sent false).next = 0 := by
    rw [show s₁.sent false = _ from h₁.other]
    exact ⟨rfl, rfl⟩
  obtain ⟨turn, hsender⟩ := h₁.sender
  have h₂ := complete_round false (s := s₁) hnow hgitems (by rw [hguest]; exact hgr)
    (by rw [hfirst.1, hfirst.2]) (by rw [show s₁.ends (!false) = _ from hsender]; rfl)
  rw [hfirst.1] at h₂
  generalize Run.run (ItemNet.step session) s₁ (deliverRound false 0 now 16) = s₂ at h₂ ⊢
  have hhinput : (s₂.ends true).input = inputs true := by
    rw [show true = !false from rfl, h₂.input, show s₁.ends (!false) = _ from hsender]
    exact sanitizeItems_of_valid hh
  have hcache : (s₂.ends true).cache.items = (s₁.ends false).wire false session := h₂.items
  refine ⟨hhinput, ?_⟩
  have hfresh : ((s₂.ends true).cache.fresh now
      && decide (now - (s₂.ends true).lastState ≤ staleMs)) = true := by
    rw [show (s₂.ends true).cache.fresh now = true from h₂.fresh,
      show (s₂.ends true).lastState = now from h₂.lastState, BitVec.sub_self]
    decide
  rw [ItemEnd.result, hhinput, hfresh, show (s₂.ends true).connected = true from h₂.connected,
    hcache, itemsResult_of_complete true hh hhr hlive hgitems (by rw [hguest]; exact hgr)
      (by rw [hguest]; exact hb.2.2) (by rw [hguest]; exact hgfull) (by simp) (fun i => ?_)]
  · have hne : ¬ (inputs true).enabled = 2#32 := hm
    simp [hguest, hne]
  · simp [itemConflict, hguest, hc i]

end Dk64Port.Coop
