import Dk64Port.Coop.ItemsDependencies

/-!
# The requests of a capture (`mod/items_game.h`, `mod/items_policy.h`)

A capture requests what it sees and `previous` does not hold, and then `previous` is what it saw.

* `noteRising_eq`: the rising bits become requests.
* `capture_step`: **what a capture does to the snapshot and the requests.**
-/

namespace Dk64Port.Coop

variable {g g' : CoopItems} {id : Nat} {view : ItemsView} {obs : ItemWords}

/-! ## What a capture notes -/

/-- What `coop_items_note` asks for. -/
def noting (g : CoopItems) : Bool := g.join && g.input.ready != 0 && g.input.scope != 0 && g.bound

theorem note_eq (g : CoopItems) (id : Nat) : coopItemsNote g id
    = { g with input.request :=
        if noting g then setItemBit g.input.request id else g.input.request } := by
  have hiff : (g.join ∧ g.input.ready ≠ 0 ∧ g.input.scope ≠ 0 ∧ g.bound) ↔ noting g = true := by
    simp [noting, and_assoc]
  unfold coopItemsNote
  by_cases h : noting g = true
  · rw [if_pos (hiff.mpr h), if_pos h]
  · rw [if_neg fun hn => h (hiff.mp hn), if_neg h]

/-- **The requests of a capture**: the ids it sees and the last one did not see. -/
theorem noteRising_eq (g : CoopItems) (obs : ItemWords) : ∃ request : ItemWords,
    noteRising g obs = { g with input.request := request }
    ∧ ∀ id, itemBit request id = (itemBit g.input.request id
      || (noting g && coopItemHas obs id && !coopItemHas g.previous id)) := by
  have hrun : ∀ n ≤ coopItems, ∃ request : ItemWords,
      Run.run (noteIfRising obs) g (List.range n) = { g with input.request := request }
      ∧ ∀ id, itemBit request id = (itemBit g.input.request id
        || (noting g && decide (id < n) && coopItemHas obs id && !coopItemHas g.previous id)) := by
    intro n
    induction n with
    | zero => exact fun _ => ⟨g.input.request, rfl, fun id => by simp⟩
    | succ n ih =>
      intro hn
      obtain ⟨request, hrun, hbits⟩ := ih (by omega)
      have hword : n / 32 < coopItemWords := by
        have := ids
        simp only [coopItemWords]
        omega
      rw [List.range_succ, Run.run_snoc, hrun, noteIfRising]
      dsimp only
      by_cases hrise : (coopItemHas obs n && !coopItemHas g.previous n) = true
      · rw [if_pos hrise, note_eq]
        refine ⟨_, rfl, fun id => ?_⟩
        rw [show noting { g with input.request := request } = noting g from rfl]
        by_cases hnote : noting g = true
        · rw [if_pos hnote, itemBit_setItemBit hword, hbits, hnote]
          by_cases hid : id = n
          · subst hid
            rw [Bool.and_eq_true] at hrise
            simp [hrise.1, hrise.2]
          · have hlt : decide (id < n + 1) = decide (id < n) := decide_eq_decide.mpr (by omega)
            have hne : (id == n) = false := by simpa using hid
            rw [hlt, hne, Bool.or_false]
        · rw [if_neg hnote, hbits, Bool.eq_false_iff.mpr hnote]
          simp
      · rw [if_neg hrise]
        refine ⟨request, rfl, fun id => ?_⟩
        rw [hbits]
        by_cases hid : id = n
        · subst hid
          rw [Bool.and_assoc (noting g && decide (id < id + 1)), Bool.eq_false_iff.mpr hrise]
          simp
        · have hlt : decide (id < n + 1) = decide (id < n) := decide_eq_decide.mpr (by omega)
          rw [hlt]
  unfold noteRising
  generalize hn : coopItems = n at hrun
  obtain ⟨request, hrun, hbits⟩ := hrun n (Nat.le_refl _)
  refine ⟨request, hrun, fun id => ?_⟩
  rw [hbits, ← hn]
  by_cases hlt : id < coopItems
  · simp [hlt]
  · simp [coopItemHas, hlt]

/-- A joined guest, bound to a scope, with a first snapshot. -/
def guestBound (g : CoopItems) : Bool :=
  g.join && g.bound && g.input.scope != 0 && g.baseline

/-- The words an overlay capture extends the snapshot to. -/
def overlayWords (g : CoopItems) (view : ItemsView) : ItemWords :=
  collectItems g.input.owned view.flagged

/-- The capture of a prepared guest is one of an overlay that extends the snapshot. -/
def ExtendsSnapshot (p : CoopItems) (view : ItemsView) : Prop :=
  p.input.ready ≠ 0 ∧ p.baseline = true ∧ view.snapshotMap = false ∧ view.rewardQueue = false
    ∧ coopItemsFullDependencies (overlayWords p view) = true

/-- The words a full capture sees. -/
def fullWords (view : ItemsView) : ItemWords := collectItems (fun _ => 0) view.owned

/-- What a bound guest keeps. -/
structure SameGuest (g g' : CoopItems) : Prop where
  join : g'.join = g.join
  bound : g'.bound = g.bound
  scope : g'.input.scope = g.input.scope

/-- What a capture may do to the snapshot and the requests. -/
inductive CaptureStep (g : CoopItems) (extending : Prop) (view : ItemsView) (g' : CoopItems) : Prop
  /-- Nothing is seen; a capture that ends the session may still have noted something new. -/
  | unseen (hprevious : g'.previous = g.previous) (hlive : g'.liveSnapshot = false)
      (hbaseline : g'.baseline = g.baseline)
      (hrequest : ∀ id, itemBit g'.input.request id = true →
        itemBit g.input.request id = true ∨ coopItemHas g.previous id = false)
  /-- The permanent flags extend the snapshot. -/
  | overlay (hextends : extending) (hprevious : g'.previous = overlayWords g view)
      (hlive : g'.liveSnapshot = false) (hbaseline : g'.baseline = g.baseline)
      (hrequest : ∀ id, itemBit g'.input.request id = (itemBit g.input.request id
        || (guestBound g && coopItemHas (overlayWords g view) id && !coopItemHas g.previous id)))
  /-- The whole save is seen. -/
  | full (hprevious : g'.previous = fullWords view) (hbaseline : g'.baseline = true)
      (hrequest : ∀ id, itemBit g'.input.request id = (itemBit g.input.request id
        || (guestBound g && coopItemHas (fullWords view) id && !coopItemHas g.previous id)))

theorem noting_of_ready (h : g.input.ready ≠ 0) :
    (g.baseline && noting g) = guestBound g := by
  have hready : (g.input.ready != 0) = true := by simpa using h
  rw [noting, guestBound, hready]
  cases g.baseline <;> cases g.join <;> cases g.bound <;> simp

theorem lockFile_guest (g : CoopItems) (enabled : Word) (adventure : Bool) (file : Word) :
    SameGuest g (lockFile g enabled adventure file)
    ∧ (lockFile g enabled adventure file).previous = g.previous
    ∧ (lockFile g enabled adventure file).baseline = g.baseline := by
  unfold lockFile
  split_ifs <;> exact ⟨⟨rfl, rfl, rfl⟩, rfl, rfl⟩

/-- What `coop_items_prepare` leaves alone. -/
theorem prepare_guest (g : CoopItems) (enabled : Word) (adventure : Bool) (file : Word) :
    SameGuest g (coopItemsPrepare g enabled adventure file)
    ∧ (coopItemsPrepare g enabled adventure file).previous = g.previous
    ∧ (coopItemsPrepare g enabled adventure file).baseline = g.baseline
    ∧ (coopItemsPrepare g enabled adventure file).input.owned = g.input.owned
    ∧ ∀ id, itemBit (coopItemsPrepare g enabled adventure file).input.request id = true →
      itemBit g.input.request id = true := by
  obtain ⟨hguest, hprevious, hbaseline⟩ := lockFile_guest g enabled adventure file
  have hin : (lockFile g enabled adventure file).input = g.input := lockFile_input
  unfold coopItemsPrepare
  generalize lockFile g enabled adventure file = l at hguest hprevious hbaseline hin ⊢
  dsimp only
  generalize (if l.fileChanged = true then 0 else enabled) = e
  split
  · refine ⟨⟨hguest.join, hguest.bound, hguest.scope⟩, hprevious, hbaseline, by rw [hin], ?_⟩
    intro id h
    rw [show itemBit (fun _ => 0) id = false from itemBit_zero] at h
    cases h
  · exact ⟨⟨hguest.join, hguest.bound, hguest.scope⟩, hprevious, hbaseline, by rw [hin],
      fun id h => hin ▸ h⟩

/-- A ready guest has its requests. -/
theorem prepare_request {enabled file : Word} {adventure : Bool}
    (h : (coopItemsPrepare g enabled adventure file).input.ready ≠ 0) :
    (coopItemsPrepare g enabled adventure file).input.request = g.input.request := by
  have hin : (lockFile g enabled adventure file).input = g.input := lockFile_input
  unfold coopItemsPrepare at h ⊢
  generalize lockFile g enabled adventure file = l at hin h ⊢
  dsimp only at h ⊢
  generalize (if l.fileChanged = true then 0 else enabled) = e at h ⊢
  by_cases he : e = 0
  · simp [he] at h
  · have hrequest : l.input.request = g.input.request := by rw [hin]
    rw [if_neg he]
    exact hrequest

/-- The guest after an overlay capture that extends the snapshot. -/
def CoopItems.overlaySeen (p : CoopItems) (words request : ItemWords) : CoopItems :=
  { p with
    deferred := true
    previous := words
    input := { p.input with owned := words, request := request } }

/-- The guest after a full capture. -/
def CoopItems.fullSeen (p : CoopItems) (words request : ItemWords) (deferred : Bool) : CoopItems :=
  { p with
    previous := words
    baseline := true
    liveSnapshot := true
    deferred := deferred
    input := { p.input with owned := words, request := request } }

/-- The guest after a full capture that ends the session. -/
def CoopItems.failedSeen (p : CoopItems) (words request : ItemWords) : CoopItems :=
  { p with
    counterError := true
    input := { p.input with owned := words, request := request, ready := 0 } }

theorem captureOverlay_eq (p : CoopItems) (view : ItemsView) : ∃ request : ItemWords,
    captureOverlay p view
      = (if p.baseline then
          if ¬ view.rewardQueue ∧ coopItemsFullDependencies (overlayWords p view) then
            p.overlaySeen (overlayWords p view) request
          else { p with deferred := true }
        else { p with input := { p.input with ready := 0 } })
    ∧ ∀ id, itemBit request id = (itemBit p.input.request id
      || (noting p && coopItemHas (overlayWords p view) id && !coopItemHas p.previous id)) := by
  obtain ⟨request, heq, hbits⟩ := noteRising_eq { p with deferred := true } (overlayWords p view)
  refine ⟨request, ?_, hbits⟩
  have hwords : collectItems p.input.owned view.flagged = overlayWords p view := rfl
  have hset : ∀ words, { ({ p with deferred := true, input.request := request } :
      CoopItems).setOwned words with previous := words } = p.overlaySeen words request := fun _ => rfl
  unfold captureOverlay
  dsimp only
  rw [hwords, heq, hset]

/-- The rising bits of a first snapshot are not requests. -/
theorem noteSnapshot_eq (p : CoopItems) (words : ItemWords) : ∃ request : ItemWords,
    (if (p.setOwned words).baseline then noteRising (p.setOwned words) words else p.setOwned words)
      = { p with input := { p.input with owned := words, request := request } }
    ∧ ∀ id, itemBit request id = (itemBit p.input.request id
      || (p.baseline && noting p && coopItemHas words id && !coopItemHas p.previous id)) := by
  by_cases hb : p.baseline = true
  · obtain ⟨request, heq, hbits⟩ := noteRising_eq (p.setOwned words) words
    refine ⟨request, ?_, fun id => ?_⟩
    · rw [if_pos (show (p.setOwned words).baseline = true from hb), heq]
      rfl
    · rw [hb, Bool.true_and]
      exact hbits id
  · refine ⟨p.input.request, if_neg hb, fun id => ?_⟩
    rw [Bool.eq_false_iff.mpr hb]
    simp

theorem captureSafe_eq (p : CoopItems) (view : ItemsView) : ∃ request : ItemWords,
    captureSafe p view
      = (if ¬ view.countersValid then p.counterFailed
        else if ¬ coopItemsFullDependencies (fullWords view) then
          p.failedSeen (fullWords view) request
        else p.fullSeen (fullWords view) request (!view.applyMap))
    ∧ ∀ id, itemBit request id = (itemBit p.input.request id
      || (p.baseline && noting p && coopItemHas (fullWords view) id
        && !coopItemHas p.previous id)) := by
  obtain ⟨request, heq, hbits⟩ := noteSnapshot_eq p (fullWords view)
  have hwords : collectItems (fun _ => 0) view.owned = fullWords view := rfl
  have hfailed : ∀ words, CoopItems.counterFailed
      { p with input := { p.input with owned := words, request := request } }
      = p.failedSeen words request := fun _ => rfl
  have hfull : ∀ words (d : Bool),
      ({ p with
        input := { p.input with owned := words, request := request }
        previous := words
        baseline := true
        liveSnapshot := true
        deferred := d } : CoopItems) = p.fullSeen words request d := fun _ _ => rfl
  refine ⟨request, ?_, hbits⟩
  unfold captureSafe
  dsimp only
  rw [hwords, heq, hfailed, hfull]

-- The words are variables here, so that no proof has to compute them.
section Seen

variable {p : CoopItems} {P : Prop} {words request : ItemWords}

theorem overlaySeen_step (hextends : P) (hlive : p.liveSnapshot = false)
    (hwords : overlayWords p view = words)
    (hbits : ∀ id, itemBit request id = (itemBit p.input.request id
      || (guestBound p && coopItemHas words id && !coopItemHas p.previous id))) :
    SameGuest p (p.overlaySeen words request)
      ∧ CaptureStep p P view (p.overlaySeen words request) := by
  have hprevious : (p.overlaySeen words request).previous = words := rfl
  refine ⟨⟨rfl, rfl, rfl⟩, .overlay hextends (hprevious.trans hwords.symm) hlive rfl fun id => ?_⟩
  rw [hwords]
  exact hbits id

theorem failedSeen_step (hlive : p.liveSnapshot = false)
    (hbits : ∀ id, itemBit request id = (itemBit p.input.request id
      || (guestBound p && coopItemHas words id && !coopItemHas p.previous id))) :
    SameGuest p (p.failedSeen words request)
      ∧ CaptureStep p P view (p.failedSeen words request) := by
  refine ⟨⟨rfl, rfl, rfl⟩, .unseen rfl hlive rfl fun id h => ?_⟩
  have hbit : itemBit request id = true := h
  simp only [hbits, Bool.or_eq_true, Bool.and_eq_true, Bool.not_eq_true'] at hbit
  exact hbit.imp_right (·.2)

theorem fullSeen_step {d : Bool} (hwords : fullWords view = words)
    (hbits : ∀ id, itemBit request id = (itemBit p.input.request id
      || (guestBound p && coopItemHas words id && !coopItemHas p.previous id))) :
    SameGuest p (p.fullSeen words request d)
      ∧ CaptureStep p P view (p.fullSeen words request d) := by
  have hprevious : (p.fullSeen words request d).previous = words := rfl
  refine ⟨⟨rfl, rfl, rfl⟩, .full (hprevious.trans hwords.symm) rfl fun id => ?_⟩
  rw [hwords]
  exact hbits id

end Seen

theorem captureOverlay_step {p : CoopItems} (hready : p.input.ready ≠ 0)
    (hlive : p.liveSnapshot = false) (hmap : view.snapshotMap = false ∨ view.rewardQueue = true) :
    SameGuest p (captureOverlay p view)
      ∧ CaptureStep p (ExtendsSnapshot p view) view (captureOverlay p view) := by
  obtain ⟨request, heq, hbits⟩ := captureOverlay_eq p view
  rw [heq]
  split
  · rename_i hb
    split
    · rename_i hseen
      have hqueue : view.rewardQueue = false := by simpa using hseen.1
      have hsnap : view.snapshotMap = false := hmap.resolve_right (by simp [hqueue])
      have hbound := noting_of_ready hready
      rw [hb, Bool.true_and] at hbound
      rw [hbound] at hbits
      exact overlaySeen_step ⟨hready, hb, hsnap, hqueue, hseen.2⟩ hlive rfl hbits
    · exact ⟨⟨rfl, rfl, rfl⟩, .unseen rfl hlive rfl fun _ h => .inl h⟩
  · exact ⟨⟨rfl, rfl, rfl⟩, .unseen rfl hlive rfl fun _ h => .inl h⟩

theorem captureSafe_step {p : CoopItems} (hready : p.input.ready ≠ 0)
    (hlive : p.liveSnapshot = false) : SameGuest p (captureSafe p view)
      ∧ CaptureStep p (ExtendsSnapshot p view) view (captureSafe p view) := by
  obtain ⟨request, heq, hbits⟩ := captureSafe_eq p view
  rw [noting_of_ready hready] at hbits
  rw [heq]
  split
  · exact ⟨⟨rfl, rfl, rfl⟩, .unseen rfl hlive rfl fun _ h => .inl h⟩
  split
  · exact failedSeen_step hlive hbits
  · exact fullSeen_step rfl hbits

theorem SameGuest.trans {g'' : CoopItems} (h : SameGuest g g') (h' : SameGuest g' g'') :
    SameGuest g g'' :=
  ⟨h'.join.trans h.join, h'.bound.trans h.bound, h'.scope.trans h.scope⟩

theorem SameGuest.guestBound (h : SameGuest g g') (hbaseline : g'.baseline = g.baseline) :
    guestBound g' = guestBound g := by
  rw [Coop.guestBound, Coop.guestBound, h.join, h.bound, h.scope, hbaseline]

/-- **What a capture does to a guest.** -/
theorem capture_step (g : CoopItems) (enabled : Word) (adventure : Bool) (file : Word)
    (view : ItemsView) : SameGuest g (coopItemsCapture g enabled adventure file view)
      ∧ CaptureStep g (ExtendsSnapshot (coopItemsPrepare g enabled adventure file) view) view
        (coopItemsCapture g enabled adventure file view) := by
  obtain ⟨hguest, hprevious, hbaseline, howned, hrequest⟩ := prepare_guest g enabled adventure file
  have hkept : (coopItemsPrepare g enabled adventure file).input.ready ≠ 0 →
      (coopItemsPrepare g enabled adventure file).input.request = g.input.request := prepare_request
  unfold coopItemsCapture
  generalize coopItemsPrepare g enabled adventure file = p at *
  have hreset : ∀ q : CoopItems, SameGuest p q → q.previous = p.previous → q.baseline = p.baseline →
      q.input = p.input → q.liveSnapshot = false →
      SameGuest g (if q.input.ready = 0 then q
        else if ¬ view.snapshotMap ∨ view.rewardQueue then captureOverlay q view
        else captureSafe q view)
      ∧ CaptureStep g (ExtendsSnapshot p view) view (if q.input.ready = 0 then q
        else if ¬ view.snapshotMap ∨ view.rewardQueue then captureOverlay q view
        else captureSafe q view) := by
    intro q hq hprev hbase hin hlive
    split
    · exact ⟨hguest.trans hq, .unseen (hprev.trans hprevious) hlive (hbase.trans hbaseline)
        fun id h => .inl (hrequest id (hin ▸ h))⟩
    rename_i hready
    have hsame : SameGuest q (if ¬ view.snapshotMap ∨ view.rewardQueue then captureOverlay q view
          else captureSafe q view)
        ∧ CaptureStep q (ExtendsSnapshot q view) view (if ¬ view.snapshotMap ∨ view.rewardQueue
          then captureOverlay q view else captureSafe q view) := by
      split
      · rename_i hmap
        exact captureOverlay_step hready hlive (hmap.imp_left (by simp))
      · exact captureSafe_step hready hlive
    generalize (if ¬ view.snapshotMap ∨ view.rewardQueue then captureOverlay q view
      else captureSafe q view) = out at hsame ⊢
    have hbound : guestBound q = guestBound g :=
      (hguest.trans hq).guestBound (hbase.trans hbaseline)
    have hreq : q.input.request = g.input.request := by
      rw [hin]
      exact hkept (hin ▸ hready)
    have hwords : overlayWords q view = overlayWords g view := by
      rw [overlayWords, overlayWords, hin, howned]
    have hext : ExtendsSnapshot q view → ExtendsSnapshot p view := by
      rintro ⟨h1, h2, h3, h4, h5⟩
      exact ⟨hin ▸ h1, hbase ▸ h2, h3, h4, by rwa [overlayWords, hin] at h5⟩
    refine ⟨(hguest.trans hq).trans hsame.1, ?_⟩
    cases hsame.2 with
    | unseen hp hl hb hr =>
      exact .unseen (hp.trans (hprev.trans hprevious)) hl (hb.trans (hbase.trans hbaseline))
        fun id h => by
          have h := hr id h
          rwa [hreq, hprev, hprevious] at h
    | overlay he hp hl hb hr =>
      refine .overlay (hext he) (hp.trans hwords) hl (hb.trans (hbase.trans hbaseline)) fun id => ?_
      rw [hr, hreq, hbound, hwords, hprev, hprevious]
    | full hp hb hr =>
      refine .full hp hb fun id => ?_
      rw [hr, hreq, hbound, hprev, hprevious]
  exact hreset _ ⟨rfl, rfl, rfl⟩ rfl rfl rfl rfl

end Dk64Port.Coop
