import Dk64Port.Coop.ItemsGame

/-!
# Item payloads (`native/items.cpp`)

The wire form of an inventory, its one-page packing, and the two functions that turn inputs and the
peer's payload into what is sent (`items_wire`) and what the game is told (`items_result`).

* `itemsFromWords_itemWords`: a payload arrives with one page of its words, the rest zero.
* `validItems_page`: every page of a valid payload is a valid payload.
* `validItems_itemsWire`: what `items_wire` produces is valid whatever the inputs are.
-/

namespace Dk64Port.Coop

/-- `ItemWire`. -/
@[ext] structure ItemWire where
  feature : Word := 0
  file : Word := 0
  ready : Word := 0
  scope : Word := 0
  owned : ItemWords := fun _ => 0
  request : ItemWords := fun _ => 0
  page : Word := 0

/-- `item_words`. -/
def itemWords (w : ItemWire) : Fin coopItemWireWords → Word := fun i =>
  match i.val with
  | 0 => w.feature
  | 1 => w.file
  | 2 => w.ready
  | 3 => w.scope
  | 4 => w.page
  | k + 5 =>
    if coopItemPages ≤ w.page.toNat then 0
    else if k < coopItemPageWords then wordAt w.owned (w.page.toNat * coopItemPageWords + k)
    else wordAt w.request (w.page.toNat * coopItemPageWords + (k - coopItemPageWords))

/-- `items_from_words`. -/
def itemsFromWords (w : Fin coopItemWireWords → Word) : ItemWire :=
  let page := (wordAt w 4).toNat
  { feature := wordAt w 0
    file := wordAt w 1
    ready := wordAt w 2
    scope := wordAt w 3
    owned := fun i =>
      if page < coopItemPages ∧ i.val / coopItemPageWords = page then
        wordAt w (i.val % coopItemPageWords + 5)
      else 0
    request := fun i =>
      if page < coopItemPages ∧ i.val / coopItemPageWords = page then
        wordAt w (i.val % coopItemPageWords + coopItemPageWords + 5)
      else 0
    page := wordAt w 4 }

/-- `valid_items`. -/
def validItems (w : ItemWire) : Bool :=
  decide (w.page.toNat < coopItemPages) &&
  if w.feature = 0 then
    decide ((∀ i, itemWords w i = 0) ∧ ∀ i, w.owned i = 0 ∧ w.request i = 0)
  else
    decide (w.feature = 1 ∧ w.file ≤ 3 ∧ w.ready ≤ 1 ∧ w.scope ≤ 3 ∧ ¬ (w.ready ≠ 0 ∧ w.file = 0))
      && coopItemsDependencies w.owned
      && decide (∀ i, ¬ (w.ready = 0 ∧ (w.owned i ≠ 0 ∨ w.request i ≠ 0))
        ∧ w.request i &&& ~~~ w.owned i = 0)

/-- `valid_items_input`. -/
def validItemsInput (l : CoopItemInput) : Bool :=
  decide (l.enabled ≤ 2 ∧ l.ready ≤ 1 ∧ l.file ≤ 3 ∧ l.scope ≤ 3)
    && (decide (l.ready = 0)
      || decide (l.enabled ≠ 0 ∧ l.file ≠ 0) && coopItemsFullDependencies l.owned)

/-- The high half of a session id. -/
def sessionHi (session : Word64) : Word := (session >>> 32).setWidth 32

/-- The low half of a session id. -/
def sessionLo (session : Word64) : Word := session.setWidth 32

/-- `bound`. -/
def bound (l : CoopItemInput) (r : ItemWire) (session : Word64) : Bool :=
  decide (session ≠ 0 ∧ l.sessionHi = sessionHi session ∧ l.sessionLo = sessionLo session
    ∧ r.scope = r.file ∧ l.scope = r.file ∧ l.scope ≠ 0)

/-- The scope `items_wire` announces: the host's own file, on a guest the host's file once the
game is bound to it. -/
def itemsWireScope (host : Bool) (l : CoopItemInput) (r : ItemWire) (connected : Bool)
    (session : Word64) : Word :=
  if ¬ host ∧ connected ∧ validItems r ∧ r.feature ≠ 0 ∧ bound l r session then r.file
  else if host then l.file else 0

/-- `items_wire`. -/
def itemsWire (host : Bool) (l : CoopItemInput) (r : ItemWire) (connected : Bool)
    (session : Word64) : ItemWire :=
  if ¬ validItemsInput l ∨ l.enabled = 0 then {}
  else
    let scope := itemsWireScope host l r connected session
    let w : ItemWire := { feature := 1, file := l.file, ready := l.ready, scope := scope }
    if l.ready = 0 then w
    else
      { w with
        owned := l.owned
        request := if ¬ host ∧ scope ≠ 0 then fun i => l.request i &&& l.owned i else fun _ => 0 }

/-- The conflict test of `items_result` for one word. -/
def itemConflict (host : Bool) (l : CoopItemInput) (r : ItemWire) (mergeGuest : Bool)
    (i : Fin coopItemWords) : Bool :=
  let extra := if host then r.owned i &&& ~~~ l.owned i &&& ~~~ r.request i
    else l.owned i &&& ~~~ r.owned i &&& ~~~ l.request i
  decide (extra ≠ 0) && !mergeGuest || !host && decide (r.request i ≠ 0)

/-- The host's file, as either side knows it. -/
def resultScope (host : Bool) (l : CoopItemInput) (r : ItemWire) : Word :=
  if host then l.file else r.file

/-- `items_result`. -/
def itemsResult (host : Bool) (l : CoopItemInput) (r : ItemWire) (connected fresh : Bool)
    (session : Word64) : CoopItemResult :=
  if ¬ validItemsInput l ∨ l.enabled = 0 then {}
  else if ¬ connected ∨ session = 0 ∨ ¬ validItems r ∨ r.feature = 0 ∨ r.file = 0 ∨ l.file = 0 then
    { status := 1 }
  else
    let out : CoopItemResult :=
      { status := 1, sessionHi := sessionHi session, sessionLo := sessionLo session
        scope := resultScope host l r }
    if ¬ fresh ∨ l.ready = 0 ∨ r.ready = 0 ∨ r.scope ≠ resultScope host l r then out
    else if ¬ coopItemsFullDependencies r.owned then out
    else if ¬ host ∧ ¬ bound l r session then out
    else
      let mergeGuest := host && decide (l.enabled = 2)
      if ∃ i, itemConflict host l r mergeGuest i then { out with status := 4 }
      else
        { out with
          status := if ∃ i, l.owned i ≠ r.owned i then 2 else 3
          apply := fun i =>
            (if host then if mergeGuest then r.owned i else r.request i &&& r.owned i
              else r.owned i) &&& ~~~ l.owned i
          acknowledged := fun i => if host then r.owned i &&& l.owned i else r.owned i }

variable {w : ItemWire} {words request : ItemWords}

/-! ## One page on the wire -/

/-- The words of one page, the rest zero. -/
def onPage (page : Word) (words : ItemWords) : ItemWords := fun i =>
  if page.toNat < coopItemPages ∧ i.val / coopItemPageWords = page.toNat then words i else 0

/-- What arrives of a payload. -/
def ItemWire.projected (w : ItemWire) : ItemWire :=
  { w with owned := onPage w.page w.owned, request := onPage w.page w.request }

theorem wordAt_itemWords_owned {k : Nat} (hp : w.page.toNat < coopItemPages)
    (hk : k < coopItemPageWords) :
    wordAt (itemWords w) (k + 5) = wordAt w.owned (w.page.toNat * coopItemPageWords + k) := by
  rw [wordAt_of_lt (by simp only [coopItemWireWords, coopItemPageWords] at hk ⊢; omega)]
  simp only [itemWords]
  rw [if_neg (by omega), if_pos hk]

theorem wordAt_itemWords_request {k : Nat} (hp : w.page.toNat < coopItemPages)
    (hk : k < coopItemPageWords) : wordAt (itemWords w) (k + coopItemPageWords + 5)
      = wordAt w.request (w.page.toNat * coopItemPageWords + k) := by
  rw [wordAt_of_lt (by simp only [coopItemWireWords, coopItemPageWords] at hk ⊢; omega)]
  simp only [itemWords]
  rw [if_neg (by omega), if_neg (by omega), Nat.add_sub_cancel]

/-- A payload arrives with one page of its words, the rest zero. -/
theorem itemsFromWords_itemWords : itemsFromWords (itemWords w) = w.projected := by
  have hmod : ∀ i : Fin coopItemWords, i.val % coopItemPageWords < coopItemPageWords :=
    fun i => Nat.mod_lt _ (by decide)
  have hdiv : ∀ i : Fin coopItemWords, i.val / coopItemPageWords = w.page.toNat →
      w.page.toNat * coopItemPageWords + i.val % coopItemPageWords = i.val := by
    intro i h
    rw [← h, Nat.mul_comm]
    exact Nat.div_add_mod _ _
  have h4 : wordAt (itemWords w) 4 = w.page := rfl
  refine ItemWire.ext rfl rfl rfl rfl (funext fun i => ?_) (funext fun i => ?_) rfl
  · simp only [itemsFromWords, ItemWire.projected, onPage, h4]
    split
    · rename_i h
      rw [wordAt_itemWords_owned h.1 (hmod i), hdiv i h.2, wordAt_of_lt i.isLt]
    · rfl
  · simp only [itemsFromWords, ItemWire.projected, onPage, h4]
    split
    · rename_i h
      rw [wordAt_itemWords_request h.1 (hmod i), hdiv i h.2, wordAt_of_lt i.isLt]
    · rfl

/-- Words with a page in range are the words of what they show. -/
theorem itemWords_itemsFromWords {w : Fin coopItemWireWords → Word}
    (hp : (wordAt w 4).toNat < coopItemPages) : itemWords (itemsFromWords w) = w := by
  have hpage : (itemsFromWords w).page = wordAt w 4 := rfl
  have hp8 : (wordAt w 4).toNat < 8 := hp
  have hin : ∀ k, k < 24 → (wordAt w 4).toNat * 24 + k < 192 := fun k hk => by omega
  funext n
  have hn : n.val < 53 := n.isLt
  obtain ⟨n, hlt⟩ := n
  rcases n with _ | _ | _ | _ | _ | k
  · rfl
  · rfl
  · rfl
  · rfl
  · rfl
  · dsimp only at hn
    simp only [itemWords, hpage]
    rw [if_neg (Nat.not_le.mpr hp)]
    by_cases hk : k < coopItemPageWords
    · have hk24 : k < 24 := hk
      have hdiv : ((wordAt w 4).toNat * 24 + k) / 24 = (wordAt w 4).toNat := by omega
      have hmod : ((wordAt w 4).toNat * 24 + k) % 24 = k := by omega
      rw [if_pos hk, wordAt_of_lt (hin k hk24)]
      refine (if_pos ⟨hp, hdiv⟩).trans ?_
      change wordAt w (((wordAt w 4).toNat * 24 + k) % 24 + 5) = _
      rw [hmod, wordAt_of_lt hlt]
    · have hk24 : ¬ k < 24 := hk
      have hk' : k - 24 < 24 := by omega
      have hdiv : ((wordAt w 4).toNat * 24 + (k - 24)) / 24 = (wordAt w 4).toNat := by omega
      have hmod : ((wordAt w 4).toNat * 24 + (k - 24)) % 24 + 24 + 5 = k + 5 := by omega
      rw [if_neg hk, wordAt_of_lt (hin (k - 24) hk')]
      refine (if_pos ⟨hp, hdiv⟩).trans ?_
      change wordAt w (((wordAt w 4).toNat * 24 + (k - 24)) % 24 + 24 + 5) = _
      rw [hmod, wordAt_of_lt hlt]

/-! ## Valid payloads -/

/-- Words a payload may carry: prerequisites are kept and only owned items are requested. -/
structure GoodWords (owned request : ItemWords) : Prop where
  dependencies : coopItemsDependencies owned = true
  subset : ∀ i, request i &&& ~~~ owned i = 0

theorem GoodWords.zero : GoodWords (fun _ => 0) fun _ => 0 :=
  ⟨dependencies_zero, fun _ => by simp⟩

/-- **Pages of good words may be mixed.** -/
theorem GoodWords.pageMix {v q : Nat → ItemWords} (h : ∀ p, GoodWords (v p) (q p)) :
    GoodWords (pageMix v) (pageMix q) :=
  ⟨dependencies_pageMix fun p => (h p).dependencies, fun i => (h _).subset i⟩

theorem onPage_eq_pageMix {page : Word} (hp : page.toNat < coopItemPages) :
    onPage page words = Coop.pageMix fun p => if p = page.toNat then words else fun _ => 0 := by
  funext i
  simp only [onPage, Coop.pageMix, hp, true_and]
  split <;> rfl

theorem GoodWords.onPage {page : Word} (hp : page.toNat < coopItemPages)
    (h : GoodWords words request) : GoodWords (onPage page words) (onPage page request) := by
  rw [onPage_eq_pageMix hp, onPage_eq_pageMix hp]
  refine .pageMix fun p => ?_
  split
  · exact h
  · exact .zero

/-- A payload with the feature on that `valid_items` accepts. -/
structure FeatureItems (w : ItemWire) : Prop where
  page : w.page.toNat < coopItemPages
  feature : w.feature = 1
  file : w.file ≤ 3
  ready : w.ready ≤ 1
  scope : w.scope ≤ 3
  fileOfReady : w.ready ≠ 0 → w.file ≠ 0
  words : GoodWords w.owned w.request
  empty : w.ready = 0 → w.owned = (fun _ => 0) ∧ w.request = fun _ => 0

/-- `valid_items` accepts the empty payload and the payloads with the feature on. -/
theorem validItems_iff : validItems w = true ↔ w = {} ∨ FeatureItems w := by
  by_cases hf : w.feature = 0
  · simp only [validItems, if_pos hf, Bool.and_eq_true, decide_eq_true_eq]
    constructor
    · rintro ⟨-, hw, ho⟩
      refine .inl (ItemWire.ext hf (hw 1) (hw 2) (hw 3) ?_ ?_ (hw 4))
      · exact funext fun i => (ho i).1
      · exact funext fun i => (ho i).2
    · rintro (rfl | h)
      · exact ⟨by decide, by decide, fun _ => ⟨rfl, rfl⟩⟩
      · rw [h.feature] at hf
        cases hf
  · simp only [validItems, if_neg hf, Bool.and_eq_true, decide_eq_true_eq]
    constructor
    · rintro ⟨hp, ⟨⟨hf1, hfile, hready, hscope, hrf⟩, hd⟩, hw⟩
      refine .inr ⟨hp, hf1, hfile, hready, hscope, fun h1 h2 => hrf ⟨h1, h2⟩,
        ⟨hd, fun i => (hw i).2⟩, fun h0 => ⟨funext fun i => ?_, funext fun i => ?_⟩⟩
      · by_contra hne
        exact (hw i).1 ⟨h0, .inl hne⟩
      · by_contra hne
        exact (hw i).1 ⟨h0, .inr hne⟩
    · rintro (rfl | h)
      · exact absurd rfl hf
      · refine ⟨h.page, ⟨⟨h.feature, h.file, h.ready, h.scope,
          fun hr => h.fileOfReady hr.1 hr.2⟩, h.words.dependencies⟩, fun i => ⟨?_, h.words.subset i⟩⟩
        rintro ⟨h0, h1⟩
        rw [(h.empty h0).1, (h.empty h0).2] at h1
        simp at h1

theorem FeatureItems.valid (h : FeatureItems w) : validItems w = true := validItems_iff.mpr (.inr h)

theorem validItems_empty : validItems {} = true := validItems_iff.mpr (.inl rfl)

theorem projected_empty : ItemWire.projected {} = {} :=
  ItemWire.ext rfl rfl rfl rfl (funext fun _ => ite_self 0) (funext fun _ => ite_self 0) rfl

theorem featureItems_of_valid (h : validItems w = true) (hf : w.feature ≠ 0) : FeatureItems w := by
  rcases validItems_iff.mp h with rfl | h
  · exact absurd rfl hf
  · exact h

/-- What arrives of a valid payload is valid. -/
theorem FeatureItems.projected (h : FeatureItems w) : FeatureItems w.projected where
  page := h.page
  feature := h.feature
  file := h.file
  ready := h.ready
  scope := h.scope
  fileOfReady := h.fileOfReady
  words := h.words.onPage h.page
  empty h0 := by
    have hz : onPage w.page (fun _ => 0) = fun _ => 0 := funext fun i => ite_self _
    rw [ItemWire.projected, (h.empty h0).1, (h.empty h0).2]
    exact ⟨hz, hz⟩

/-! ## What `items_wire` sends -/

variable {host connected fresh : Bool} {l : CoopItemInput} {r : ItemWire} {session : Word64}
  {id : Nat}

/-- Only owned items are sent as owned. -/
theorem owned_of_itemsWire (h : itemBit (itemsWire host l r connected session).owned id = true) :
    itemBit l.owned id = true := by
  unfold itemsWire at h
  split at h
  · simp at h
  · dsimp only at h
    split at h
    · simp at h
    · exact h

/-- A guest announces a scope only while its input is bound to the session. -/
theorem bound_of_itemsWireScope (h : itemsWireScope false l r connected session ≠ 0) :
    bound l r session = true ∧ itemsWireScope false l r connected session = l.scope := by
  unfold itemsWireScope at h ⊢
  split at h
  · rename_i hb
    rw [if_pos hb]
    have hl := hb.2.2.2.2
    simp only [bound, decide_eq_true_eq] at hl
    exact ⟨hb.2.2.2.2, hl.2.2.2.2.1.symm⟩
  · simp at h

theorem itemsWireScope_le (hf : l.file ≤ 3) : itemsWireScope host l r connected session ≤ 3 := by
  unfold itemsWireScope
  split_ifs with h1 h2
  · exact (featureItems_of_valid h1.2.2.1 h1.2.2.2.1).file
  · exact hf
  · decide

/-- Only a guest whose input is bound to the session sends requests, and of owned items only. -/
theorem request_of_itemsWire
    (h : itemBit (itemsWire host l r connected session).request id = true) :
    host = false ∧ bound l r session = true
    ∧ (itemsWire host l r connected session).scope = l.scope
    ∧ itemBit l.request id = true ∧ itemBit l.owned id = true := by
  unfold itemsWire at h ⊢
  split at h
  · simp at h
  rename_i hv
  rw [if_neg hv]
  dsimp only at h ⊢
  split at h
  · simp at h
  rename_i hr
  rw [if_neg hr]
  split at h
  · rename_i hs
    obtain ⟨hhost, hs⟩ := hs
    cases host
    · obtain ⟨hb, hl⟩ := bound_of_itemsWireScope hs
      rw [itemBit_and, Bool.and_eq_true] at h
      exact ⟨rfl, hb, hl, h⟩
    · exact absurd rfl hhost
  · simp at h

/-- `valid_items_input` of an input that is ready. -/
theorem full_of_validItemsInput (h : validItemsInput l = true) (hr : l.ready ≠ 0) :
    l.enabled ≠ 0 ∧ l.file ≠ 0 ∧ coopItemsFullDependencies l.owned = true := by
  simp only [validItemsInput, Bool.and_eq_true, Bool.or_eq_true, decide_eq_true_eq, hr,
    false_or] at h
  exact ⟨h.2.1.1, h.2.1.2, h.2.2⟩

/-- Requests cut down to the owned items. -/
theorem GoodWords.masked (h : coopItemsDependencies words = true) :
    GoodWords words fun i => request i &&& words i :=
  ⟨h, fun i => by simp [BitVec.and_assoc]⟩

/-- What `items_wire` produces: nothing while the feature is off or the input is not valid, else a
valid payload with the input's file, readiness and inventory. -/
theorem itemsWire_cases (host connected : Bool) (l : CoopItemInput) (r : ItemWire)
    (session : Word64) : itemsWire host l r connected session = {}
    ∨ FeatureItems (itemsWire host l r connected session)
      ∧ (itemsWire host l r connected session).file = l.file
      ∧ (itemsWire host l r connected session).ready = l.ready
      ∧ (l.ready ≠ 0 → (itemsWire host l r connected session).owned = l.owned) := by
  unfold itemsWire
  split
  · exact .inl rfl
  rename_i hv
  have hv : validItemsInput l = true ∧ l.enabled ≠ 0 := by tauto
  have hb : l.ready ≤ 1 ∧ l.file ≤ 3 := by
    have := hv.1
    simp only [validItemsInput, Bool.and_eq_true, decide_eq_true_eq] at this
    exact ⟨this.1.2.1, this.1.2.2.1⟩
  have hs : itemsWireScope host l r connected session ≤ 3 := itemsWireScope_le hb.2
  generalize itemsWireScope host l r connected session = scope at hs ⊢
  have hp : (0 : Word).toNat < coopItemPages := by decide
  refine .inr ?_
  dsimp only
  split
  · rename_i h0
    exact ⟨⟨hp, rfl, hb.2, hb.1, hs, fun h => absurd h0 h, .zero,
      fun _ => ⟨rfl, rfl⟩⟩, rfl, rfl, fun h => absurd h0 h⟩
  · rename_i h0
    obtain ⟨-, hfile, hfull⟩ := full_of_validItemsInput hv.1 h0
    refine ⟨⟨hp, rfl, hb.2, hb.1, hs, fun _ => hfile, ?_, fun h => absurd h h0⟩,
      rfl, rfl, fun _ => rfl⟩
    split
    · exact .masked (dependencies_of_full hfull)
    · exact ⟨dependencies_of_full hfull, fun _ => by simp⟩

@[simp] theorem itemsWire_page : (itemsWire host l r connected session).page = 0 := by
  unfold itemsWire
  split
  · rfl
  · dsimp only
    split <;> rfl

/-- With a valid, enabled input the first case does not arise. -/
theorem featureItems_itemsWire (hv : validItemsInput l = true) (he : l.enabled ≠ 0) :
    FeatureItems (itemsWire host l r connected session) := by
  rcases itemsWire_cases host connected l r session with h | h
  · exfalso
    have hf : (itemsWire host l r connected session).feature = 1 := by
      unfold itemsWire
      rw [if_neg (by tauto)]
      dsimp only
      split <;> rfl
    rw [h] at hf
    cases hf
  · exact h.1

/-! ## What `items_result` tells the game -/

/-- **Writes and acknowledgements come from a fresh, ready, matching snapshot only.** -/
theorem itemsResult_of_bits
    (h : itemBit (itemsResult host l r connected fresh session).apply id = true
      ∨ itemBit (itemsResult host l r connected fresh session).acknowledged id = true) :
    r.ready ≠ 0 ∧ (host = true → r.scope = l.file)
    ∧ (itemsResult host l r connected fresh session).apply = (fun i =>
        (if host then if host && decide (l.enabled = 2) then r.owned i else r.request i &&& r.owned i
          else r.owned i) &&& ~~~ l.owned i)
    ∧ (itemsResult host l r connected fresh session).acknowledged = fun i =>
        if host then r.owned i &&& l.owned i else r.owned i := by
  unfold itemsResult at h ⊢
  dsimp only at h ⊢
  split at h
  · simp at h
  split at h
  · simp at h
  split at h
  · simp at h
  split at h
  · simp at h
  split at h
  · simp at h
  split at h
  · simp at h
  rename_i h1 h2 h3 h4 h5 h6
  rw [if_neg h1, if_neg h2, if_neg h3, if_neg h4, if_neg h5, if_neg h6]
  have h3 : r.ready ≠ 0 ∧ r.scope = resultScope host l r := by tauto
  refine ⟨h3.1, ?_, rfl, rfl⟩
  rintro rfl
  exact h3.2

/-- A guest only writes and acknowledges what the host owns. -/
theorem owned_of_guestResult
    (h : itemBit (itemsResult false l r connected fresh session).apply id = true
      ∨ itemBit (itemsResult false l r connected fresh session).acknowledged id = true) :
    itemBit r.owned id = true := by
  obtain ⟨-, -, ha, hk⟩ := itemsResult_of_bits h
  rw [ha, hk] at h
  rcases h with h | h
  · simp only [Bool.false_eq_true, if_false, itemBit_and_not, Bool.and_eq_true] at h
    exact h.1
  · exact h

/-- A host that does not merge writes only what the guest owns and requests in the host's scope. -/
theorem requested_of_hostResult (hm : l.enabled ≠ 2)
    (h : itemBit (itemsResult true l r connected fresh session).apply id = true) :
    r.scope = l.file ∧ itemBit r.request id = true ∧ itemBit r.owned id = true := by
  obtain ⟨-, hs, ha, -⟩ := itemsResult_of_bits (.inl h)
  rw [ha] at h
  simp only [hm, decide_false, Bool.and_false, Bool.false_eq_true, if_false, if_true] at h
  rw [itemBit_and_not, itemBit_and] at h
  simp only [Bool.and_eq_true] at h
  exact ⟨hs rfl, h.1.1, h.1.2⟩

/-- Once both files are known the result stays with the session, whatever else is not ready. -/
theorem itemsResult_session (host fresh : Bool) (hv : validItemsInput l = true) (he : l.enabled ≠ 0)
    (hc : connected = true) (hs : session ≠ 0) (hr : FeatureItems r) (hf : r.file ≠ 0)
    (hl : l.file ≠ 0) :
    (itemsResult host l r connected fresh session).sessionHi = sessionHi session
    ∧ (itemsResult host l r connected fresh session).sessionLo = sessionLo session
    ∧ (itemsResult host l r connected fresh session).scope = resultScope host l r := by
  have h1 : ¬ (¬ validItemsInput l = true ∨ l.enabled = 0) := by tauto
  have h2 : ¬ (¬ connected = true ∨ session = 0 ∨ ¬ validItems r = true ∨ r.feature = 0
      ∨ r.file = 0 ∨ l.file = 0) := by
    have h0 : r.feature ≠ 0 := by
      rw [hr.feature]
      decide
    have := hr.valid
    tauto
  unfold itemsResult
  rw [if_neg h1, if_neg h2]
  dsimp only
  split_ifs <;> exact ⟨rfl, rfl, rfl⟩

/-- A ready guest bound to the session sends its requests. -/
theorem itemsWire_of_bound (hv : validItemsInput l = true) (hr : l.ready ≠ 0)
    (hrv : validItems r = true) (hrf : r.feature ≠ 0) (hb : bound l r session = true) :
    itemsWire false l r true session
      = { feature := 1, file := l.file, ready := l.ready, scope := l.scope, owned := l.owned,
          request := fun i => l.request i &&& l.owned i } := by
  have hs : itemsWireScope false l r true session = r.file :=
    if_pos ⟨by simp, rfl, hrv, hrf, hb⟩
  have hl := hb
  simp only [bound, decide_eq_true_eq] at hl
  have he := (full_of_validItemsInput hv hr).1
  unfold itemsWire
  rw [if_neg (by tauto), hs, ← hl.2.2.2.2.1]
  dsimp only
  rw [if_neg hr, if_pos ⟨by simp, hl.2.2.2.2.2⟩]

/-- The payload of a ready host. -/
def hostItems (l : CoopItemInput) : ItemWire where
  feature := 1
  file := l.file
  ready := l.ready
  scope := l.file
  owned := l.owned

/-- A ready host sends its inventory and no request. -/
theorem itemsWire_of_host (hv : validItemsInput l = true) (hr : l.ready ≠ 0) :
    itemsWire true l r connected session = hostItems l := by
  have he := (full_of_validItemsInput hv hr).1
  have hs : itemsWireScope true l r connected session = l.file := by simp [itemsWireScope]
  unfold itemsWire
  rw [if_neg (by tauto), hs]
  dsimp only
  rw [if_neg hr, if_neg (by simp)]
  rfl

/-- With both inventories ready, complete, fresh and free of conflicts, the game is told what to
write. -/
theorem itemsResult_of_complete (host : Bool) (hv : validItemsInput l = true) (hl : l.ready ≠ 0)
    (hs : session ≠ 0) (hr : FeatureItems r) (hrr : r.ready ≠ 0)
    (hscope : r.scope = resultScope host l r) (hfull : coopItemsFullDependencies r.owned = true)
    (hb : host = false → bound l r session = true)
    (hc : ∀ i, itemConflict host l r (host && decide (l.enabled = 2)) i = false) :
    itemsResult host l r true true session
      = { status := if ∃ i, l.owned i ≠ r.owned i then 2 else 3
          apply := fun i =>
            (if host then if host && decide (l.enabled = 2) then r.owned i
                else r.request i &&& r.owned i
              else r.owned i) &&& ~~~ l.owned i
          acknowledged := fun i => if host then r.owned i &&& l.owned i else r.owned i
          sessionHi := sessionHi session
          sessionLo := sessionLo session
          scope := resultScope host l r } := by
  obtain ⟨he, hlf, -⟩ := full_of_validItemsInput hv hl
  have hrf : r.feature ≠ 0 := by
    rw [hr.feature]
    decide
  have hrv := hr.valid
  have hfile := hr.fileOfReady hrr
  have hb' : ¬ (¬ host = true ∧ ¬ bound l r session = true) := by
    cases host
    · simp [hb]
    · simp
  unfold itemsResult
  rw [if_neg (by tauto), if_neg (by tauto)]
  dsimp only
  have hc' : ¬ ∃ i, itemConflict host l r (host && decide (l.enabled = 2)) i = true := by
    rintro ⟨i, hi⟩
    rw [hc i] at hi
    cases hi
  rw [if_neg (by tauto), if_neg (by tauto), if_neg hb', if_neg hc']

/-- A result either names no session, or names this one and came from a peer whose feature and file
are known. -/
theorem itemsResult_scope_cases (host connected fresh : Bool) (l : CoopItemInput) (r : ItemWire)
    (session : Word64) :
    (itemsResult host l r connected fresh session).sessionHi = 0
      ∧ (itemsResult host l r connected fresh session).sessionLo = 0
      ∧ (itemsResult host l r connected fresh session).scope = 0
    ∨ (session ≠ 0 ∧ validItems r = true ∧ r.feature ≠ 0 ∧ r.file ≠ 0 ∧ l.file ≠ 0)
      ∧ (itemsResult host l r connected fresh session).sessionHi = sessionHi session
      ∧ (itemsResult host l r connected fresh session).sessionLo = sessionLo session
      ∧ (itemsResult host l r connected fresh session).scope = resultScope host l r := by
  unfold itemsResult
  split
  · exact .inl ⟨rfl, rfl, rfl⟩
  split
  · exact .inl ⟨rfl, rfl, rfl⟩
  rename_i h
  refine .inr ⟨by tauto, ?_⟩
  dsimp only
  split_ifs <;> exact ⟨rfl, rfl, rfl⟩

end Dk64Port.Coop
