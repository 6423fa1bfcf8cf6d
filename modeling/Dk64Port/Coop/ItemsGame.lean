import Dk64Port.Coop.ItemsPolicy
import Dk64Port.Lib.Run

/-!
# The item inputs of the game (`mod/items_policy.h`, `mod/items_game.h`)

The game captures its save into the words it hands to the session, notes which rising bits are
requests, and takes the result of the session back.

* `Keeps`: everything between two results keeps the session words, the scope and every request.
* `receive_same`: a result of the same session and scope takes away exactly what it acknowledges.
-/

namespace Dk64Port.Coop

/-- `CoopItemInput`. -/
structure CoopItemInput where
  enabled : Word := 0
  file : Word := 0
  ready : Word := 0
  owned : ItemWords := fun _ => 0
  request : ItemWords := fun _ => 0
  sessionHi : Word := 0
  sessionLo : Word := 0
  scope : Word := 0

/-- `CoopItemResult`. -/
structure CoopItemResult where
  status : Word := 0
  apply : ItemWords := fun _ => 0
  acknowledged : ItemWords := fun _ => 0
  sessionHi : Word := 0
  sessionLo : Word := 0
  scope : Word := 0

/-- `CoopItems`, without the fields only the display and the save writer read. -/
structure CoopItems where
  input : CoopItemInput := {}
  result : CoopItemResult := {}
  lockedFile : Word := 0
  fileChanged : Bool := false
  applying : Bool := false
  savePending : Bool := false
  counterError : Bool := false
  hudPending : Bool := false
  refreshPending : Bool := false
  baseline : Bool := false
  join : Bool := false
  bound : Bool := false
  deferred : Bool := false
  liveSnapshot : Bool := false
  worldSavePending : Bool := false
  previous : ItemWords := fun _ => 0

/-- What `coop_items_capture` reads from the running game. -/
structure ItemsView where
  /-- `coop_items_snapshot_map()`. -/
  snapshotMap : Bool
  /-- `coop_items_apply_map()`. -/
  applyMap : Bool
  /-- `D_global_asm_807FD730`: a reward is still queued. -/
  rewardQueue : Bool
  /-- `coop_items_counters_valid()`. -/
  countersValid : Bool
  /-- `coop_item_owned(id)`. -/
  owned : Nat → Bool
  /-- `coop_item_flag(id) >= 0 && isFlagSet(coop_item_flag(id), 0)`. -/
  flagged : Nat → Bool

/-- `coop_items_note`. -/
def coopItemsNote (g : CoopItems) (id : Nat) : CoopItems :=
  if g.join ∧ g.input.ready ≠ 0 ∧ g.input.scope ≠ 0 ∧ g.bound then
    { g with input.request := setItemBit g.input.request id }
  else g

/-- The first file played is locked; playing another one disables the feature for good. -/
def lockFile (g : CoopItems) (enabled : Word) (adventure : Bool) (file : Word) : CoopItems :=
  if enabled ≠ 0 ∧ adventure ∧ file < 3 then
    if g.lockedFile = 0 then { g with lockedFile := file + 1 }
    else if g.lockedFile ≠ file + 1 then { g with fileChanged := true }
    else g
  else g

/-- `coop_items_prepare`. -/
def coopItemsPrepare (g : CoopItems) (enabled : Word) (adventure : Bool) (file : Word) :
    CoopItems :=
  let g := lockFile g enabled adventure file
  let enabled' : Word := if g.fileChanged then 0 else enabled
  let ready : Bool := enabled' ≠ 0 ∧ ¬ g.counterError ∧ adventure ∧ file < 3 ∧
    g.lockedFile = file + 1
  let g : CoopItems :=
    { g with input := { g.input with
        enabled := enabled', file := g.lockedFile, ready := if ready then 1 else 0 } }
  if enabled' = 0 then
    { g with
      input.request := fun _ => 0
      savePending := false
      worldSavePending := false
      hudPending := false
      refreshPending := false }
  else g

/-- `if (coop_item_has(observed, id) && !coop_item_has(g->previous, id)) coop_items_note(g, id)`. -/
def noteIfRising (observed : ItemWords) (g : CoopItems) (id : Nat) : CoopItems :=
  if coopItemHas observed id && !coopItemHas g.previous id then coopItemsNote g id else g

/-- The rising bits of all ids become requests. -/
def noteRising (g : CoopItems) (observed : ItemWords) : CoopItems :=
  Run.run (noteIfRising observed) g (List.range coopItems)

/-- The words of the ids below `COOP_ITEMS` that `has` names, over `start`. -/
def collectItems (start : ItemWords) (has : Nat → Bool) : ItemWords :=
  (List.range coopItems).foldl (fun words id => if has id then setItemBit words id else words) start

def CoopItems.setOwned (g : CoopItems) (owned : ItemWords) : CoopItems :=
  { g with input.owned := owned }

/-- A save the counters of which do not add up is not published. -/
def CoopItems.counterFailed (g : CoopItems) : CoopItems :=
  { g with counterError := true, input.ready := 0 }

/-- The overlay branch of `coop_items_capture`: the last safe snapshot, extended by the flags that
are stable once the reward queue has drained. -/
def captureOverlay (g : CoopItems) (view : ItemsView) : CoopItems :=
  if g.baseline then
    let g := { g with deferred := true }
    let observed := collectItems g.input.owned view.flagged
    if ¬ view.rewardQueue ∧ coopItemsFullDependencies observed then
      { (noteRising g observed).setOwned observed with previous := observed }
    else g
  else { g with input.ready := 0 }

/-- The branch of `coop_items_capture` that reads the whole save. -/
def captureSafe (g : CoopItems) (view : ItemsView) : CoopItems :=
  if ¬ view.countersValid then g.counterFailed
  else
    let owned := collectItems (fun _ => 0) view.owned
    let g := g.setOwned owned
    let g := if g.baseline then noteRising g owned else g
    if ¬ coopItemsFullDependencies owned then g.counterFailed
    else
      { g with
        previous := owned
        baseline := true
        liveSnapshot := true
        deferred := !view.applyMap }

/-- `coop_items_capture`. -/
def coopItemsCapture (g : CoopItems) (enabled : Word) (adventure : Bool) (file : Word)
    (view : ItemsView) : CoopItems :=
  let g := coopItemsPrepare g enabled adventure file
  let g := { g with deferred := false, liveSnapshot := false }
  if g.input.ready = 0 then g
  else if ¬ view.snapshotMap ∨ view.rewardQueue then captureOverlay g view
  else captureSafe g view

/-- `coop_items_observe`; `id` is `coop_item_id(flag)`, `none` for `-1`. -/
def coopItemsObserve (g : CoopItems) (join : Bool) (id : Option Nat) (value type : Word)
    (alreadyOwned adventure : Bool) (file : Word) : CoopItems :=
  if ¬ join ∨ g.input.enabled = 0 ∨ g.input.ready = 0 ∨ g.applying ∨ value = 0 ∨ type ≠ 0
      ∨ alreadyOwned ∨ ¬ adventure ∨ 3 ≤ file ∨ g.lockedFile ≠ file + 1 ∨ g.input.scope = 0
      ∨ (g.result.status ≠ 2 ∧ g.result.status ≠ 3) then g
  else match id with
    | none => g
    | some id => { g with input.request := setItemBit g.input.request id }

/-- A remote write that was read back: `g->previous[id / 32] |= 1u << (id % 32)` of
`coop_items_apply`. -/
def coopItemsApplied (g : CoopItems) (id : Nat) : CoopItems :=
  { g with previous := setItemBit g.previous id }

/-- `coop_items_receive`. -/
def coopItemsReceive (g : CoopItems) (result : CoopItemResult) : CoopItems :=
  let changed := result.sessionHi ≠ g.input.sessionHi ∨ result.sessionLo ≠ g.input.sessionLo
    ∨ result.scope ≠ g.input.scope
  let bound := if changed ∨ result.status = 4 then false else g.bound
  let bound := if result.status = 2 ∨ result.status = 3 then true else bound
  { g with
    bound := bound
    input := { g.input with
      request := fun i => if changed then 0 else g.input.request i &&& ~~~ result.acknowledged i
      sessionHi := result.sessionHi
      sessionLo := result.sessionLo
      scope := result.scope }
    result := result }

/-! ## What the game does to its pending requests -/

/-- `g'` still talks to the same session and scope, has every request of `g`, and has a new one
only when its scope is bound. -/
structure Keeps (g g' : CoopItems) : Prop where
  sessionHi : g'.input.sessionHi = g.input.sessionHi
  sessionLo : g'.input.sessionLo = g.input.sessionLo
  scope : g'.input.scope = g.input.scope
  kept : ∀ id, itemBit g.input.request id = true → itemBit g'.input.request id = true
  raised : ∀ id, itemBit g'.input.request id = true →
    itemBit g.input.request id = true ∨ g.input.scope ≠ 0

namespace Keeps

variable {g g' g'' : CoopItems}

theorem refl (g : CoopItems) : Keeps g g := ⟨rfl, rfl, rfl, fun _ h => h, fun _ h => .inl h⟩

theorem trans (h : Keeps g g') (h' : Keeps g' g'') : Keeps g g'' where
  sessionHi := h'.sessionHi.trans h.sessionHi
  sessionLo := h'.sessionLo.trans h.sessionLo
  scope := h'.scope.trans h.scope
  kept id hid := h'.kept id (h.kept id hid)
  raised id hid := (h'.raised id hid).elim (h.raised id) fun hs => .inr (h.scope ▸ hs)

/-- A step that leaves the session words, the scope and the requests alone. -/
theorem of_eq (h1 : g'.input.sessionHi = g.input.sessionHi)
    (h2 : g'.input.sessionLo = g.input.sessionLo) (h3 : g'.input.scope = g.input.scope)
    (h4 : g'.input.request = g.input.request) : Keeps g g' :=
  ⟨h1, h2, h3, fun _ h => h4 ▸ h, fun _ h => .inl (h4 ▸ h)⟩

end Keeps

variable {g : CoopItems} {id : Nat}

theorem keeps_note : Keeps g (coopItemsNote g id) := by
  unfold coopItemsNote
  split
  · rename_i h
    exact ⟨rfl, rfl, rfl, fun _ hi => itemBit_setItemBit_mono id hi, fun _ _ => .inr h.2.2.1⟩
  · exact .refl g

theorem keeps_noteRising (observed : ItemWords) :
    Keeps g (noteRising g observed)
    ∧ (noteRising g observed).input.enabled = g.input.enabled := by
  unfold noteRising
  refine Run.run_of_steps (R := fun g g' => Keeps g g' ∧ g'.input.enabled = g.input.enabled)
    (fun g => ⟨.refl g, rfl⟩) (fun _ _ _ h h' => ⟨h.1.trans h'.1, h'.2.trans h.2⟩)
    (fun g id => ?_) g _
  unfold noteIfRising
  split
  · refine ⟨keeps_note, ?_⟩
    unfold coopItemsNote
    split <;> rfl
  · exact ⟨.refl g, rfl⟩

theorem lockFile_input {enabled file : Word} {adventure : Bool} :
    (lockFile g enabled adventure file).input = g.input := by
  unfold lockFile
  split_ifs <;> rfl

/-- `coop_items_prepare` drops the requests only with the feature. -/
theorem keeps_prepare {enabled file : Word} {adventure : Bool}
    (h : (coopItemsPrepare g enabled adventure file).input.enabled ≠ 0) :
    Keeps g (coopItemsPrepare g enabled adventure file) := by
  unfold coopItemsPrepare at h ⊢
  have hin : (lockFile g enabled adventure file).input = g.input := lockFile_input
  generalize lockFile g enabled adventure file = l at h hin ⊢
  dsimp only at h ⊢
  generalize (if l.fileChanged = true then 0 else enabled) = e at h ⊢
  by_cases he : e = 0
  · rw [if_pos he] at h
    exact absurd he h
  · rw [if_neg he]
    have h1 := congrArg CoopItemInput.sessionHi hin
    have h2 := congrArg CoopItemInput.sessionLo hin
    have h3 := congrArg CoopItemInput.scope hin
    have h4 := congrArg CoopItemInput.request hin
    exact .of_eq h1 h2 h3 h4

attribute [irreducible] noteRising

theorem keeps_setOwned {owned : ItemWords} : Keeps g (g.setOwned owned) := .of_eq rfl rfl rfl rfl

theorem keeps_counterFailed : Keeps g g.counterFailed := .of_eq rfl rfl rfl rfl

theorem keeps_captureOverlay {view : ItemsView} : Keeps g (captureOverlay g view)
    ∧ (captureOverlay g view).input.enabled = g.input.enabled := by
  unfold captureOverlay
  have hd : Keeps g { g with deferred := true } := .of_eq rfl rfl rfl rfl
  dsimp only
  generalize collectItems g.input.owned view.flagged = observed
  split_ifs
  · obtain ⟨hk, he⟩ := keeps_noteRising (g := { g with deferred := true }) observed
    exact ⟨(hd.trans (hk.trans keeps_setOwned)).trans (.of_eq rfl rfl rfl rfl), he⟩
  · exact ⟨hd, rfl⟩
  · exact ⟨.of_eq rfl rfl rfl rfl, rfl⟩

theorem keeps_captureSafe {view : ItemsView} : Keeps g (captureSafe g view)
    ∧ (captureSafe g view).input.enabled = g.input.enabled := by
  unfold captureSafe
  split
  · exact ⟨keeps_counterFailed, rfl⟩
  dsimp only
  generalize collectItems (fun _ => 0) view.owned = owned
  have hk : ∀ g' : CoopItems, Keeps g g' ∧ g'.input.enabled = g.input.enabled →
      Keeps g (if g'.baseline then noteRising g' owned else g')
      ∧ (if g'.baseline then noteRising g' owned else g').input.enabled = g.input.enabled := by
    rintro g' ⟨hk, he⟩
    split
    · exact ⟨hk.trans (keeps_noteRising owned).1, (keeps_noteRising owned).2.trans he⟩
    · exact ⟨hk, he⟩
  obtain ⟨hk, he⟩ := hk (g.setOwned owned) ⟨keeps_setOwned, rfl⟩
  split
  · exact ⟨hk.trans keeps_counterFailed, he⟩
  · exact ⟨hk.trans (.of_eq rfl rfl rfl rfl), he⟩

/-- A capture that leaves the feature enabled keeps every request. -/
theorem keeps_capture {enabled file : Word} {adventure : Bool} {view : ItemsView}
    (h : (coopItemsCapture g enabled adventure file view).input.enabled ≠ 0) :
    Keeps g (coopItemsCapture g enabled adventure file view) := by
  unfold coopItemsCapture at h ⊢
  have hk : (coopItemsPrepare g enabled adventure file).input.enabled ≠ 0 →
      Keeps g (coopItemsPrepare g enabled adventure file) := keeps_prepare
  generalize coopItemsPrepare g enabled adventure file = p at h hk ⊢
  have hd : Keeps p { p with deferred := false, liveSnapshot := false } := .of_eq rfl rfl rfl rfl
  dsimp only at h ⊢
  split_ifs at h ⊢
  · exact (hk h).trans hd
  · rw [keeps_captureOverlay.2] at h
    exact (hk h).trans (hd.trans keeps_captureOverlay.1)
  · rw [keeps_captureSafe.2] at h
    exact (hk h).trans (hd.trans keeps_captureSafe.1)

theorem keeps_observe {join alreadyOwned adventure : Bool} {id : Option Nat}
    {value type file : Word} :
    Keeps g (coopItemsObserve g join id value type alreadyOwned adventure file) := by
  unfold coopItemsObserve
  split
  · exact .refl g
  · rename_i h
    cases id with
    | none => exact .refl g
    | some id =>
      refine ⟨rfl, rfl, rfl, fun _ hi => itemBit_setItemBit_mono id hi, fun _ _ => .inr ?_⟩
      grind

theorem keeps_applied : Keeps g (coopItemsApplied g id) := .of_eq rfl rfl rfl rfl

/-! ## What a result does to them -/

/-- The result is about the session and scope the requests were raised in. -/
def SameScope (g : CoopItems) (r : CoopItemResult) : Prop :=
  r.sessionHi = g.input.sessionHi ∧ r.sessionLo = g.input.sessionLo ∧ r.scope = g.input.scope

variable {r : CoopItemResult}

theorem receive_same (h : SameScope g r) : itemBit (coopItemsReceive g r).input.request id
    = (itemBit g.input.request id && !itemBit r.acknowledged id) := by
  obtain ⟨h1, h2, h3⟩ := h
  simp only [coopItemsReceive, h1, h2, h3, ne_eq, not_true_eq_false, or_self, if_false]
  exact itemBit_and_not

/-- An answer that is in sync binds the game. -/
theorem receive_bound (h : r.status = 2 ∨ r.status = 3) : (coopItemsReceive g r).bound = true := by
  simp only [coopItemsReceive, if_pos h]

end Dk64Port.Coop
