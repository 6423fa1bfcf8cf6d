import Dk64Port.Coop.Items
import Dk64Port.Lib.Run

/-!
# The page cache of the receiver (`Session::tick`, `Session::send`)

Each state packet carries one of eight pages; the receiver merges pages of one file and scope into
`remote_items` and remembers when it last saw each.

* `validItems_receive`: the cache passes `valid_items` whatever valid payloads are merged into it.
* `receive_words_from`: every bit of the cache came in a payload.
* `pages_deliverable`: **every page of every inventory is accepted, every mixture of pages is
  accepted, and one packet of each page reassembles the inventory.**
-/

namespace Dk64Port.Coop

/-- `item_stale_ms`. -/
def itemStaleMs : Word64 := 2500

/-- `remote_items` and `item_page_time`. -/
structure ItemCache where
  items : ItemWire := {}
  pageTime : Fin coopItemPages → Word64 := fun _ => 0

/-- The cache before the words of `received` go in: emptied by a payload that is not ready or is
about another file or scope. -/
def ItemCache.base (c : ItemCache) (received : ItemWire) : ItemCache :=
  if received.ready = 0 ∨ received.file ≠ c.items.file ∨ received.scope ≠ c.items.scope then {}
  else c

/-- `i` is in `[page * COOP_ITEM_PAGE_WORDS, (page + 1) * COOP_ITEM_PAGE_WORDS)`. -/
def storeItemPage (page : Word) (received cached : ItemWords) : ItemWords := fun i =>
  if i.val / coopItemPageWords = page.toNat then received i else cached i

/-- The item part of a state packet in `Session::tick`. -/
def ItemCache.receive (c : ItemCache) (received : ItemWire) (now : Word64) : ItemCache :=
  let c := c.base received
  let items : ItemWire :=
    { c.items with feature := received.feature, file := received.file, scope := received.scope,
                   ready := received.ready }
  if received.ready = 0 then { c with items := items }
  else
    { items := { items with
        owned := storeItemPage received.page received.owned items.owned
        request := storeItemPage received.page received.request items.request }
      pageTime := fun p => if p.val = received.page.toNat then now else c.pageTime p }

/-- Every page was seen within `item_stale_ms` (`Session::items`). -/
def ItemCache.fresh (c : ItemCache) (now : Word64) : Bool :=
  decide (∀ p, c.pageTime p ≠ 0 ∧ now - c.pageTime p ≤ itemStaleMs)

/-- `if (packet.items.ready) packet.items.page = page`. -/
def ItemWire.onWirePage (w : ItemWire) (page : Word) : ItemWire :=
  if w.ready = 0 then w else { w with page := page }

/-- The item payload of a state packet, as the receiver decodes it. -/
def ItemWire.payload (w : ItemWire) (page : Word) : ItemWire :=
  itemsFromWords (itemWords (w.onWirePage page))

variable {c : ItemCache} {w received : ItemWire} {now : Word64} {id : Nat} {page : Word}

/-! ## The header of the cache -/

@[simp] theorem receive_feature : (c.receive received now).items.feature = received.feature := by
  unfold ItemCache.receive
  dsimp only
  split <;> rfl

@[simp] theorem receive_file : (c.receive received now).items.file = received.file := by
  unfold ItemCache.receive
  dsimp only
  split <;> rfl

@[simp] theorem receive_ready : (c.receive received now).items.ready = received.ready := by
  unfold ItemCache.receive
  dsimp only
  split <;> rfl

@[simp] theorem receive_scope : (c.receive received now).items.scope = received.scope := by
  unfold ItemCache.receive
  dsimp only
  split <;> rfl

/-- The cache keeps page zero in its header. -/
theorem receive_page (h : c.items.page = 0) : (c.receive received now).items.page = 0 := by
  have hb : (c.base received).items.page = 0 := by
    unfold ItemCache.base
    split
    · rfl
    · exact h
  unfold ItemCache.receive
  dsimp only
  split <;> exact hb

/-! ## The words of the cache -/

theorem base_of_ready_eq_zero (h : received.ready = 0) : c.base received = {} := if_pos (.inl h)

theorem receive_owned (h : received.ready ≠ 0) : (c.receive received now).items.owned
    = storeItemPage received.page received.owned (c.base received).items.owned := by
  unfold ItemCache.receive
  dsimp only
  rw [if_neg h]

theorem receive_request (h : received.ready ≠ 0) : (c.receive received now).items.request
    = storeItemPage received.page received.request (c.base received).items.request := by
  unfold ItemCache.receive
  dsimp only
  rw [if_neg h]

theorem receive_pageTime (h : received.ready ≠ 0) : (c.receive received now).pageTime
    = fun p => if p.val = received.page.toNat then now else (c.base received).pageTime p := by
  unfold ItemCache.receive
  dsimp only
  rw [if_neg h]

theorem receive_of_not_ready (h : received.ready = 0) :
    (c.receive received now).items.owned = (fun _ => 0)
    ∧ (c.receive received now).items.request = fun _ => 0 := by
  unfold ItemCache.receive
  dsimp only
  rw [if_pos h, base_of_ready_eq_zero h]
  exact ⟨rfl, rfl⟩

theorem storeItemPage_eq_pageMix {a b : ItemWords} : storeItemPage page a b
    = pageMix fun p => if p = page.toNat then a else b := by
  funext i
  simp only [storeItemPage, pageMix]
  split <;> rfl

theorem itemBit_storeItemPage {a b : ItemWords} : itemBit (storeItemPage page a b) id
    = if itemPage id = page.toNat then itemBit a id else itemBit b id := by
  rw [storeItemPage_eq_pageMix, itemBit_pageMix]
  split <;> rfl

/-- **The cache passes `valid_items`** whatever valid payloads are merged into it. -/
theorem validItems_receive (hc : validItems c.items = true) (hp : c.items.page = 0)
    (hr : validItems received = true) : validItems (c.receive received now).items = true := by
  rcases validItems_iff.mp hr with rfl | h
  · have : (c.receive {} now).items = {} := rfl
    rw [this]
    exact validItems_empty
  have hpage : (c.receive received now).items.page.toNat < coopItemPages := by
    rw [receive_page hp]
    decide
  have hbase : GoodWords (c.base received).items.owned (c.base received).items.request := by
    unfold ItemCache.base
    split
    · exact .zero
    · rcases validItems_iff.mp hc with h0 | h0
      · rw [h0]
        exact .zero
      · exact h0.words
  refine FeatureItems.valid ⟨hpage, ?_, ?_, ?_, ?_, ?_, ?_, ?_⟩
  · rw [receive_feature, h.feature]
  · rw [receive_file]
    exact h.file
  · rw [receive_ready]
    exact h.ready
  · rw [receive_scope]
    exact h.scope
  · rw [receive_ready, receive_file]
    exact h.fileOfReady
  · by_cases h0 : received.ready = 0
    · rw [(receive_of_not_ready h0).1, (receive_of_not_ready h0).2]
      exact .zero
    · rw [receive_owned h0, receive_request h0, storeItemPage_eq_pageMix, storeItemPage_eq_pageMix]
      refine .pageMix fun p => ?_
      split
      · exact h.words
      · exact hbase
  · rw [receive_ready]
    exact fun h0 => receive_of_not_ready h0

theorem base_cases (c : ItemCache) (received : ItemWire) : c.base received = {}
    ∨ c.base received = c ∧ received.file = c.items.file ∧ received.scope = c.items.scope := by
  unfold ItemCache.base
  split
  · exact .inl rfl
  · rename_i h
    exact .inr ⟨rfl, by tauto, by tauto⟩

theorem from_storeItemPage {a b : ItemWords} (h : itemBit (storeItemPage page a b) id = true) :
    itemBit a id = true ∨ itemBit b id = true := by
  rw [itemBit_storeItemPage] at h
  split at h
  · exact .inl h
  · exact .inr h

/-- Every owned bit of the cache came with the payload, or was there under the same scope. -/
theorem receive_owned_from (h : itemBit (c.receive received now).items.owned id = true) :
    itemBit received.owned id = true
    ∨ itemBit c.items.owned id = true ∧ received.scope = c.items.scope := by
  by_cases h0 : received.ready = 0
  · rw [(receive_of_not_ready h0).1] at h
    simp at h
  rw [receive_owned h0] at h
  refine (from_storeItemPage h).imp_right fun h => ?_
  rcases base_cases c received with hb | ⟨hb, -, hs⟩ <;> rw [hb] at h
  · exact absurd h (by simp)
  · exact ⟨h, hs⟩

/-- The same for requests. -/
theorem receive_request_from (h : itemBit (c.receive received now).items.request id = true) :
    itemBit received.request id = true
    ∨ itemBit c.items.request id = true ∧ received.scope = c.items.scope := by
  by_cases h0 : received.ready = 0
  · rw [(receive_of_not_ready h0).2] at h
    simp at h
  rw [receive_request h0] at h
  refine (from_storeItemPage h).imp_right fun h => ?_
  rcases base_cases c received with hb | ⟨hb, -, hs⟩ <;> rw [hb] at h
  · exact absurd h (by simp)
  · exact ⟨h, hs⟩

/-! ## Payloads -/

theorem FeatureItems.onWirePage (h : FeatureItems w) (hp : page.toNat < coopItemPages) :
    FeatureItems (w.onWirePage page) := by
  unfold ItemWire.onWirePage
  split
  · exact h
  · exact ⟨hp, h.feature, h.file, h.ready, h.scope, h.fileOfReady, h.words, h.empty⟩

theorem FeatureItems.payload (h : FeatureItems w) (hp : page.toNat < coopItemPages) :
    FeatureItems (w.payload page) := by
  rw [ItemWire.payload, itemsFromWords_itemWords]
  exact (h.onWirePage hp).projected

theorem payload_of_ready (hr : w.ready ≠ 0) : w.payload page
    = { w with page := page, owned := onPage page w.owned, request := onPage page w.request } := by
  rw [ItemWire.payload, itemsFromWords_itemWords, ItemWire.onWirePage, if_neg hr]
  rfl

theorem onPage_from {words : ItemWords} (h : itemBit (onPage page words) id = true) :
    itemBit words id = true := by
  have hlt := lt_of_itemBit h
  rw [itemBit_of_lt hlt] at h ⊢
  unfold onPage at h
  split at h
  · exact h
  · simp at h

@[simp] theorem payload_feature : (w.payload page).feature = w.feature := by
  rw [ItemWire.payload, itemsFromWords_itemWords, ItemWire.onWirePage]
  split <;> rfl

@[simp] theorem payload_file : (w.payload page).file = w.file := by
  rw [ItemWire.payload, itemsFromWords_itemWords, ItemWire.onWirePage]
  split <;> rfl

@[simp] theorem payload_scope : (w.payload page).scope = w.scope := by
  rw [ItemWire.payload, itemsFromWords_itemWords, ItemWire.onWirePage]
  split <;> rfl

theorem payload_owned_from (h : itemBit (w.payload page).owned id = true) :
    itemBit w.owned id = true := by
  rw [ItemWire.payload, itemsFromWords_itemWords, ItemWire.onWirePage] at h
  split at h <;> exact onPage_from h

theorem payload_request_from (h : itemBit (w.payload page).request id = true) :
    itemBit w.request id = true := by
  rw [ItemWire.payload, itemsFromWords_itemWords, ItemWire.onWirePage] at h
  split at h <;> exact onPage_from h

theorem payload_empty : ItemWire.payload {} page = {} := by
  have hz : ∀ p, onPage p (fun _ => 0) = fun _ => 0 := fun p => funext fun i => ite_self _
  rw [ItemWire.payload, itemsFromWords_itemWords]
  exact ItemWire.ext rfl rfl rfl rfl (hz _) (hz _) rfl

/-! ## Delivery of whole inventories -/

section Delivery

variable {host connected : Bool} {l : CoopItemInput} {r : ItemWire} {session : Word64}

/-- Every page projection of what `items_wire` produces passes `valid_items`. -/
theorem validItems_payload (hp : page.toNat < coopItemPages) :
    validItems ((itemsWire host l r connected session).payload page) = true := by
  rcases itemsWire_cases host connected l r session with h | h
  · rw [h, payload_empty]
    exact validItems_empty
  · exact (h.1.payload hp).valid

/-- A ready cache made of pages of different inventories passes `valid_items`. -/
theorem validItems_mixture {v q : Nat → ItemWords} {file scope : Word}
    (hv : ∀ p, coopItemsFullDependencies (v p) = true)
    (hq : ∀ p i, q p i &&& ~~~ v p i = 0) (hf : file ≠ 0 ∧ file ≤ 3) (hs : scope ≤ 3) :
    validItems { feature := 1, file := file, ready := 1, scope := scope, owned := pageMix v,
                 request := pageMix q } = true :=
  FeatureItems.valid ⟨show (0 : Word).toNat < coopItemPages by decide, rfl, hf.2,
    show (1 : Word) ≤ 1 by decide, hs, fun _ => hf.1,
    .pageMix fun p => ⟨dependencies_of_full (hv p), hq p⟩,
    fun h => absurd h (show (1 : Word) ≠ 0 by decide)⟩

/-- Merge packets of the pages `ps`, each with its time of arrival. -/
def mergePages (w : ItemWire) (c : ItemCache) (ps : List (Fin coopItemPages × Word64)) :
    ItemCache :=
  Run.run (fun c p => c.receive (w.payload (BitVec.ofNat 32 p.1)) p.2) c ps

theorem mergePages_snoc (ps : List (Fin coopItemPages × Word64)) (p : Fin coopItemPages × Word64) :
    mergePages w c (ps ++ [p])
      = (mergePages w c ps).receive (w.payload (BitVec.ofNat 32 p.1)) p.2 :=
  Run.run_snoc c ps p

theorem mergePages_page (h : c.items.page = 0) (ps : List (Fin coopItemPages × Word64)) :
    (mergePages w c ps).items.page = 0 :=
  Run.invariant (C := fun _ _ => True) (I := fun (c : ItemCache) => c.items.page = 0)
    (fun _ _ _ h => receive_page h) h (Run.along_of_forall fun _ _ => trivial)

/-- The page of every bit is one of the eight. -/
theorem itemPage_lt (h : id / 32 < coopItemWords) : itemPage id < coopItemPages := by
  simp only [itemPage, coopItemWords, coopItemPageWords, coopItemPages] at h ⊢
  omega

/-- What merging has achieved: the header is the sender's once a packet was merged, and the pages
that were merged are the sender's. -/
structure Merged (w : ItemWire) (ps : List (Fin coopItemPages × Word64)) (c : ItemCache) : Prop where
  header : ps ≠ [] → c.items.feature = w.feature ∧ c.items.file = w.file
    ∧ c.items.ready = w.ready ∧ c.items.scope = w.scope
  pages : ∀ p ∈ ps, ∀ id, itemPage id = p.1.val →
    itemBit c.items.owned id = itemBit w.owned id
    ∧ itemBit c.items.request id = itemBit w.request id
  times : ∀ p ∈ ps, ∃ q ∈ ps, q.1 = p.1 ∧ c.pageTime p.1 = q.2

theorem itemBit_onPage_self {words : ItemWords} (hp : page.toNat < coopItemPages)
    (h : itemPage id = page.toNat) : itemBit (onPage page words) id = itemBit words id := by
  rw [onPage_eq_pageMix hp, itemBit_pageMix, if_pos h]

theorem merged_step (hr : w.ready ≠ 0) {ps : List (Fin coopItemPages × Word64)}
    (h : Merged w ps c) (p : Fin coopItemPages × Word64) :
    Merged w (ps ++ [p]) (c.receive (w.payload (BitVec.ofNat 32 p.1)) p.2) := by
  have hpage : (BitVec.ofNat 32 p.1.val).toNat = p.1.val := by
    have := p.1.isLt
    rw [BitVec.toNat_ofNat]
    simp only [coopItemPages] at this
    omega
  have hp : (BitVec.ofNat 32 p.1.val).toNat < coopItemPages := by
    rw [hpage]
    exact p.1.isLt
  generalize BitVec.ofNat 32 p.1.val = page at hpage hp ⊢
  have hready : (w.payload page).ready ≠ 0 := by
    rw [payload_of_ready hr]
    exact hr
  -- a page merged before has left the sender's header, so nothing is reset
  have hbase : ∀ q ∈ ps, c.base (w.payload page) = c := by
    intro q hq
    obtain ⟨-, hf, -, hs⟩ := h.header (List.ne_nil_of_mem hq)
    unfold ItemCache.base
    rw [if_neg]
    simp only [payload_file, payload_scope, hf, hs, hready, ne_eq, not_true_eq_false, or_self,
      not_false_eq_true]
  refine ⟨fun _ => ⟨by simp, by simp, ?_, by simp⟩, fun q hq id hid => ?_, fun q hq => ?_⟩
  · rw [receive_ready, payload_of_ready hr]
  · rw [receive_owned hready, receive_request hready, itemBit_storeItemPage,
      itemBit_storeItemPage]
    by_cases hpq : itemPage id = page.toNat
    · rw [payload_of_ready hr, if_pos hpq, if_pos hpq]
      exact ⟨itemBit_onPage_self hp hpq, itemBit_onPage_self hp hpq⟩
    · have hpage' : (w.payload page).page = page := by rw [payload_of_ready hr]
      rw [hpage', if_neg hpq, if_neg hpq]
      rcases List.mem_append.mp hq with hq | hq
      · rw [hbase q hq]
        exact h.pages q hq id hid
      · rw [List.mem_singleton.mp hq] at hid
        exact absurd (hid.trans hpage.symm) hpq
  · have htime : (c.receive (w.payload page) p.2).pageTime q.1
        = if q.1.val = page.toNat then p.2 else (c.base (w.payload page)).pageTime q.1 := by
      have hpage' : (w.payload page).page = page := by rw [payload_of_ready hr]
      rw [receive_pageTime hready, hpage']
    rw [htime]
    by_cases hqp : q.1.val = page.toNat
    · rw [if_pos hqp]
      exact ⟨p, List.mem_append_right _ List.mem_cons_self, Fin.ext (hpage ▸ hqp.symm), rfl⟩
    · rw [if_neg hqp]
      rcases List.mem_append.mp hq with hq | hq
      · rw [hbase q hq]
        obtain ⟨q', hq', h1, h2⟩ := h.times q hq
        exact ⟨q', List.mem_append_left _ hq', h1, h2⟩
      · rw [List.mem_singleton.mp hq] at hqp
        exact absurd hpage.symm hqp

theorem merged_mergePages (hr : w.ready ≠ 0) (ps : List (Fin coopItemPages × Word64)) :
    Merged w ps (mergePages w c ps) := by
  have h0 : Merged w [] c := ⟨fun h => absurd rfl h, fun _ hp => absurd hp List.not_mem_nil,
    fun _ hp => absurd hp List.not_mem_nil⟩
  exact Run.history_invariant (C := fun _ _ => True) h0 (fun _ _ e h _ => merged_step hr h e)
    (Run.along_of_forall fun _ _ => trivial)

/-- **One packet of each page, in any order and repetition, reassembles the inventory.** -/
theorem mergePages_complete (hr : w.ready ≠ 0) {ps : List (Fin coopItemPages × Word64)}
    (hall : ∀ p, ∃ now, (p, now) ∈ ps) :
    (mergePages w c ps).items.owned = w.owned ∧ (mergePages w c ps).items.request = w.request := by
  have hm := merged_mergePages (c := c) hr ps
  have hbit : ∀ id, itemBit (mergePages w c ps).items.owned id = itemBit w.owned id
      ∧ itemBit (mergePages w c ps).items.request id = itemBit w.request id := by
    intro id
    by_cases h : id / 32 < coopItemWords
    · obtain ⟨now, hps⟩ := hall ⟨itemPage id, itemPage_lt h⟩
      exact hm.pages _ hps id rfl
    · have hge : coopItemWords * 32 ≤ id := by
        simp only [coopItemWords] at h ⊢
        omega
      simp only [itemBit_of_ge hge, and_self]
  exact ⟨itemWords_ext fun id => (hbit id).1, itemWords_ext fun id => (hbit id).2⟩

/-- A ready guest or host input puts its whole inventory into the payload. -/
theorem itemsWire_of_ready (host connected : Bool) (r : ItemWire) (session : Word64)
    (hv : validItemsInput l = true) (hr : l.ready ≠ 0) :
    (itemsWire host l r connected session).ready ≠ 0
    ∧ (itemsWire host l r connected session).owned = l.owned := by
  rcases itemsWire_cases host connected l r session with h | ⟨-, -, hready, howned⟩
  · have hf : FeatureItems (itemsWire host l r connected session) :=
      featureItems_itemsWire hv (full_of_validItemsInput hv hr).1
    rw [h] at hf
    exact absurd hf.feature (by decide)
  · rw [hready]
    exact ⟨hr, howned hr⟩

/-- **Paged inventories are always deliverable.** Every page projection of every input passes
`valid_items`; so does every mixture of pages of inventories that keep their prerequisites, with any
requests among the owned items; and whatever the cache held before, one packet of each page of a
fixed ready input leaves the sender's words in it. -/
theorem paged_inventories_deliverable :
    (∀ (host connected : Bool) (l : CoopItemInput) (r : ItemWire) (session : Word64) (page : Word),
      page.toNat < coopItemPages →
        validItems ((itemsWire host l r connected session).payload page) = true)
    ∧ (∀ (v q : Nat → ItemWords) (file scope : Word),
      (∀ p, coopItemsFullDependencies (v p) = true) → (∀ p i, q p i &&& ~~~ v p i = 0) →
      file ≠ 0 ∧ file ≤ 3 → scope ≤ 3 →
        validItems { feature := 1, file := file, ready := 1, scope := scope, owned := pageMix v,
                     request := pageMix q } = true)
    ∧ ∀ (host connected : Bool) (l : CoopItemInput) (r : ItemWire) (session : Word64)
      (c : ItemCache) (ps : List (Fin coopItemPages × Word64)),
      validItemsInput l = true → l.ready ≠ 0 → (∀ p, ∃ now, (p, now) ∈ ps) →
        (mergePages (itemsWire host l r connected session) c ps).items.owned = l.owned
        ∧ (mergePages (itemsWire host l r connected session) c ps).items.request
          = (itemsWire host l r connected session).request := by
  refine ⟨fun _ _ _ _ _ _ hp => validItems_payload hp,
    fun _ _ _ _ hv hq hf hs => validItems_mixture hv hq hf hs, ?_⟩
  intro host connected l r session c ps hv hr hall
  obtain ⟨hready, howned⟩ := itemsWire_of_ready host connected r session hv hr
  rw [← howned]
  exact mergePages_complete hready hall

end Delivery

/-- A save that owns one blueprint and its reward. -/
def blueprintSave : ItemWords := setItemBit (setItemBit (fun _ => 0) 0) coopSnideFirst

/-- The input of a game running that save. -/
def blueprintInput : CoopItemInput :=
  { enabled := 1, file := 1, ready := 1, owned := blueprintSave, request := blueprintSave }

theorem blueprintSave_full : coopItemsFullDependencies blueprintSave = true := by decide +kernel

theorem fullDependencies_zero : coopItemsFullDependencies (fun _ => 0#32) = true := by
  decide +kernel

theorem validItemsInput_blueprint : validItemsInput blueprintInput = true := by
  simp [validItemsInput, blueprintInput, blueprintSave_full]

/-- A blueprint and its reward travel on page zero, and every page in any order delivers them. -/
theorem paged_inventories_deliverable_blueprint :
    validItems ((itemsWire false blueprintInput {} true 7).payload 0) = true
    ∧ validItems { feature := 1, file := 1, ready := 1, scope := 1,
                   owned := pageMix fun _ => blueprintSave,
                   request := pageMix fun _ => fun _ => 0 } = true
    ∧ (mergePages (itemsWire false blueprintInput {} true 7) {}
        ((List.finRange coopItemPages).reverse.map fun p => (p, 5))).items.owned
      = blueprintInput.owned :=
  ⟨paged_inventories_deliverable.1 false true blueprintInput {} 7 0 (by decide),
    paged_inventories_deliverable.2.1 _ _ 1 1 (fun _ => blueprintSave_full) (fun _ _ => by simp)
      (by decide) (by decide),
    (paged_inventories_deliverable.2.2 false true blueprintInput {} 7 {} _
      validItemsInput_blueprint (by decide) fun p => ⟨5, by simp⟩).1⟩

end Dk64Port.Coop
