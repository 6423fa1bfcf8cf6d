import Dk64Port.Archipelago.ItemQueries
import Dk64Port.Archipelago.ExactlyOnce
import Mathlib.Algebra.Group.Nat.Defs
import Mathlib.Algebra.GroupWithZero.Nat
import Mathlib.Algebra.Ring.Int.Defs

/-!
# What the item queries answer over a campaign

A staging copies the inventory of the received prefix; a commit moves the trailer on, and a load takes
it back. In between the queries answer for the trailer of the file, or not at all.

* `Answered`: what the copy says about the list, whatever the trailer is.
* `Leveled`: what the file has got from the receipts, without its counters.
* `item_queries_answer`: **over any run the queries answer for the receipts of the file, agree with what
  the stock game sees, and do not fall.**
-/

namespace Dk64Port.Archipelago

open ByteLayout (Byte)

variable {cat : Catalog} {t : LocationTable} {tables : TrapTables} {ids : List Word} {g g' : Game}
  {start image : Image} {sourceAt address : Word} {source : Transaction} {wire : CampaignStageWire}

/-! ## The invariants -/

/-- The copy of the inventory is that of a prefix of the list. -/
def Answered (cat : Catalog) (ids : List Word) (p : InventoryPublication) : Prop :=
  p.ready →
    let n := p.identity.counter.toNat
    n ≤ ids.length ∧ n ≤ campaignReceiptLimit ∧ p.inventory = CampaignInventory.addAll cat (ids.take n)

/-- The levels and the traps of an image, on the way from a start. -/
structure Leveled (cat : Catalog) (ids : List Word) (start image : Image) : Prop where
  processed : start.processed ≤ image.processed
  levels : start.processed < image.processed →
    Progress.Owns image.progress (CampaignInventory.addAll cat (ids.take image.processed))
  traps : image.started = start.started ++ (receivedBetween ids start image).flatMap cat.trapsOf

/-- The invariant of a run. -/
structure Accounted (cat : Catalog) (ids : List Word) (start : Image) (g : Game) : Prop where
  planned : Planned cat ids g.publications.transaction
  answered : Answered cat ids g.publications.items
  here : Leveled cat ids start g.image
  saved : ∀ image ∈ g.saved, Leveled cat ids start image

theorem leveled_self (cat : Catalog) (ids : List Word) (start : Image) : Leveled cat ids start start := by
  have hnone : receivedBetween ids start start = [] := by
    rw [receivedBetween, List.drop_eq_nil_iff]
    exact List.length_take_le _ _
  refine ⟨Nat.le_refl _, fun h => absurd h (Nat.lt_irrefl _), ?_⟩
  rw [hnone, List.flatMap_nil, List.append_nil]

theorem Leveled.congr {image' : Image} (h : Leveled cat ids start image)
    (htrailer : image'.trailer = image.trailer)
    (hitems : image.progress.SameItems image'.progress) (hstarted : image'.started = image.started) :
    Leveled cat ids start image' := by
  have hprocessed : image'.processed = image.processed := congrArg (·.counter.toNat) htrailer
  have hbetween : receivedBetween ids start image' = receivedBetween ids start image := by
    rw [receivedBetween, hprocessed]
    rfl
  refine ⟨hprocessed ▸ h.processed, ?_, by rw [hstarted, hbetween, h.traps]⟩
  rw [hprocessed]
  exact fun hlt => (h.levels hlt).congr hitems

/-! ## One event -/

/-- A commit moves the levels and the traps on by the receipt behind the counter. -/
theorem leveled_commit {item : ItemEffectDef} (h : Accounted cat ids start g)
    (hc : Committable cat tables g source item) :
    Leveled cat ids start (({ g with trailer := source.next } : Game).execute tables item source).image := by
  obtain ⟨id, hid, -, -, hplans⟩ := h.planned hc.ready hc.hasItem
  rw [hc.identity] at hid hplans
  have hrow := hc.row
  rw [hc.itemId, hplans.itemId_eq] at hrow
  have hafter : source.after.SameLevels
      (CampaignInventory.addAll cat (ids.take (g.trailer.counter.toNat + 1))) := by
    have hafter := hc.after
    rwa [hplans.after_eq, ← addAll_take_succ hid] at hafter
  have hlow := low_addAll cat (ids.take (g.trailer.counter.toNat + 1))
  obtain ⟨hstarted, hkeeps⟩ := Game.startTraps_spec
    (g := ({ g with trailer := source.next } : Game)) hc.traps
  have hprocessed : (({ g with trailer := source.next } : Game).execute tables item source).image.processed
      = g.image.processed + 1 := by
    show ((({ g with trailer := source.next } : Game).startTraps tables item).trailer).counter.toNat = _
    rw [hkeeps.trailer]
    exact hc.counter
  refine ⟨?_, fun _ => ?_, ?_⟩
  · rw [hprocessed]
    exact Nat.le_succ_of_le h.here.processed
  · rw [hprocessed]
    exact Progress.owns_receive item source _ hafter (fun kong _ => hlow.moves kong)
      (fun kong _ => hlow.guns kong) (fun kong _ => hlow.instruments kong)
  · rw [receivedBetween_succ hid h.here.processed hprocessed, List.flatMap_append, List.flatMap_singleton,
      ← List.append_assoc, ← h.here.traps]
    show (({ g with trailer := source.next } : Game).startTraps tables item).started = _
    rw [hstarted, Catalog.trapsOf, hrow]
    rfl

/-- A staged block publishes the inventory of its prefix. -/
theorem answered_stage {p : Publications} (h : Answered cat ids p.items) (hwire : StagesPrefix ids wire)
    (s : Scene) : Answered cat ids (stageApply cat t s p address wire).2.items := by
  by_cases hstageable : Stageable cat t s address wire
  · obtain ⟨p', heq, hstaged⟩ := stageApply_of_stageable (p := p) hstageable
    have hfew := hstageable.few
    rw [← hstageable.counter] at hfew
    rw [heq]
    have htake : ids.take wire.receipts.length = wire.receipts :=
      (List.prefix_iff_eq_take.mp hwire.receipts).symm
    rw [hstaged.items]
    intro _
    refine ⟨?_, hfew, ?_⟩
    · rw [hstaged.counter]
      exact hwire.receipts.length_le
    · rw [hstaged.counter, htake]
  · rw [stageApply_of_not_stageable hstageable]
    exact h

/-- **One event.** -/
theorem accounted_step (e : CampaignEvent) (h : Accounted cat ids start g)
    (ha : Admitted ids (fun _ _ _ => True) g e) :
    Accounted cat ids start (campaignStep cat t tables g e) := by
  cases e with
  | stage address wire =>
    exact ⟨planned_stage h.planned ha g.scene, answered_stage h.answered ha g.scene, h.here, h.saved⟩
  | commit sourceAt source =>
    rcases commit_refuses_or_executes cat tables g sourceAt source with hrefused | ⟨item, hc, haccepted⟩
    · rw [campaignStep, hrefused]
      exact h
    · have hleveled := leveled_commit h hc
      obtain ⟨-, hkeeps⟩ := Game.startTraps_spec
        (g := ({ g with trailer := source.next } : Game)) hc.traps
      rw [campaignStep, haccepted]
      refine ⟨fun hready => absurd hready Bool.false_ne_true, ?_, hleveled, ?_⟩
      · show Answered cat ids
          (({ g with trailer := source.next } : Game).startTraps tables item).publications.items
        rw [hkeeps.publications]
        exact h.answered
      · intro image hmem
        rcases List.mem_cons.mp hmem with rfl | hmem
        · exact hleveled
        · rw [hkeeps.saved] at hmem
          exact h.saved image hmem
  | save => exact ⟨h.planned, h.answered, h.here, List.forall_mem_cons.mpr ⟨h.here, h.saved⟩⟩
  | restore i =>
    cases hget : g.saved[i]? with
    | none =>
      have hstep : campaignStep cat t tables g (.restore i) = g := by
        simp only [campaignStep, hget]
      rw [hstep]
      exact h
    | some image =>
      have hstep : campaignStep cat t tables g (.restore i) = g.restore image := by
        simp only [campaignStep, hget]
      rw [hstep]
      exact ⟨h.planned, h.answered, h.saved image (List.mem_of_getElem? hget), h.saved⟩
  | play next =>
    obtain ⟨hkeeps, hstarted⟩ := ha
    refine ⟨?_, ?_, h.here.congr hkeeps.trailer hkeeps.items hstarted, ?_⟩
    · show Planned cat ids next.publications.transaction
      rw [hkeeps.publications]
      exact h.planned
    · show Answered cat ids next.publications.items
      rw [hkeeps.publications]
      exact h.answered
    · show ∀ image ∈ next.saved, _
      rw [hkeeps.saved]
      exact h.saved

/-! ## What the queries answer -/

/-- The answers are what the stock game reads from its progress. -/
structure StockAgrees (g : Game) : Prop where
  moves : ∀ kong < 5, ∀ level < 3, g.itemCount .move (level : Nat) (kong : Nat) =
    bitOf (g.progress.characters kong).moves level
  slam : ∀ kong < 5, g.itemCount .move 3 0 = (g.progress.characters kong).simianSlam.toNat
  gun : ∀ kong < 5, g.itemCount .move 4 (kong : Nat) = bitOf (g.progress.characters kong).weapon 0
  homing : g.itemCount .move 5 0 = bitOf (g.progress.characters 0).weapon 1
  sniper : g.itemCount .move 6 0 = bitOf (g.progress.characters 0).weapon 2
  belt : ∀ kong < 5, g.itemCount .move 7 0 = (g.progress.characters kong).ammoBelt.toNat
  instrument : ∀ kong < 5,
    g.itemCount .move 8 (kong : Nat) = bitOf (g.progress.characters kong).instrument 0

/-- What the queries answer. -/
structure Answers (cat : Catalog) (ids : List Word) (start : Image) (g : Game) : Prop where
  /-- The inventory of the receipts that the file has processed, or nothing. -/
  counts : ∀ query level kong, g.itemCount query level kong =
    if g.itemsActive then
      (CampaignInventory.addAll cat (ids.take g.image.processed)).countOf query level kong
    else -1
  flags : ∀ flag, g.itemHasFlag flag =
    if g.itemsActive then
      if (CampaignInventory.addAll cat (ids.take g.image.processed)).hasFlag flag then 1 else 0
    else -1
  /-- The checks of the randomizer fail closed. -/
  closed : g.itemsActive = false → (∀ item level kong, g.originalItemCount item level kong = 0) ∧
    (∀ flag, g.kongOwnership flag = 0) ∧
    (g.gameplayMode &&& gameplayItems ≠ 0 → ∀ flag ∈ Game.abilityFlags, g.hasFlagMove flag = false)
  kongs : ∀ query n level, query.kongs = some n → 0 ≤ g.itemCount query level (-1) →
    g.itemCount query level (-1) = ((List.range n).map fun (kong : Nat) => g.itemCount query level kong).sum
  levels : ∀ query n kong, query.levels = some n → 0 ≤ g.itemCount query (-1) kong →
    g.itemCount query (-1) kong = ((List.range n).map fun (level : Nat) => g.itemCount query level kong).sum
  stock : g.itemsActive → start.processed < g.image.processed → StockAgrees g
  traps : g.itemsActive → start.processed = 0 →
    g.started.length = start.started.length + g.itemCount .trap (-1) 0

theorem Accounted.active (h : Accounted cat ids start g) (hactive : g.itemsActive) :
    g.image.processed ≤ campaignReceiptLimit ∧ g.image.processed ≤ ids.length ∧
      g.publications.items.inventory = CampaignInventory.addAll cat (ids.take g.image.processed) := by
  unfold Game.itemsActive at hactive
  rw [Bool.and_eq_true, Bool.and_eq_true, Bool.and_eq_true, Bool.and_eq_true] at hactive
  obtain ⟨⟨⟨⟨hready, -⟩, -⟩, -⟩, hsame⟩ := hactive
  obtain ⟨hlen, hfew, hinventory⟩ := h.answered hready
  have hcounter : g.image.processed = g.publications.items.identity.counter.toNat := by
    rw [CampaignSave.sameIdentity_iff.mp hsame]
    rfl
  rw [hcounter]
  exact ⟨hfew, hlen, hinventory⟩

theorem Accounted.counts (h : Accounted cat ids start g) (query : ItemQuery) (level kong : Int) :
    g.itemCount query level kong = if g.itemsActive then
      (CampaignInventory.addAll cat (ids.take g.image.processed)).countOf query level kong else -1 := by
  unfold Game.itemCount
  cases hactive : g.itemsActive with
  | false => rfl
  | true =>
    rw [(h.active hactive).2.2]
    rfl

theorem itemCount_inactive (h : g.itemsActive = false) (query : ItemQuery) (level kong : Int) :
    g.itemCount query level kong = -1 := by
  rw [Game.itemCount, h]
  rfl

theorem gameplayCount_inactive (h : g.itemsActive = false) (query : ItemQuery) (level kong : Int) :
    g.gameplayCount query level kong = 0 := by
  rw [Game.gameplayCount, itemCount_inactive h]
  rfl

theorem answers_closed (h : g.itemsActive = false) :
    (∀ item level kong, g.originalItemCount item level kong = 0) ∧ (∀ flag, g.kongOwnership flag = 0) ∧
      (g.gameplayMode &&& gameplayItems ≠ 0 → ∀ flag ∈ Game.abilityFlags, g.hasFlagMove flag = false) := by
  refine ⟨fun item level kong => ?_, fun flag => ?_, fun hmode flag hflag => ?_⟩
  · unfold Game.originalItemCount
    split <;> first | exact gameplayCount_inactive h _ _ _ | rfl
  · unfold Game.kongOwnership
    split
    · exact gameplayCount_inactive h _ _ _
    · rfl
  · unfold Game.hasFlagMove
    rw [if_neg hmode]
    obtain ⟨i, hi⟩ := Option.isSome_iff_exists.mp (List.isSome_idxOf?.mpr hflag)
    rw [hi]
    dsimp only
    rw [itemCount_inactive h]
    rfl

theorem bitOf_masked {a b : Byte} {mask : Byte} {i : Nat} (h : a &&& mask = b)
    (hmask : mask.getLsbD i = true) : bitOf b i = bitOf a i := by
  unfold bitOf
  rw [← h, BitVec.getLsbD_and, hmask, Bool.and_true]

/-- What an inventory owns is answered as the progress has it. -/
theorem stockAgrees_of_owns {c : CampaignInventory} (h : Progress.Owns g.progress c)
    (hcount : ∀ level kong, g.itemCount .move level kong = c.moveCount level kong) : StockAgrees g where
  moves kong hk level hl := by
    have hmask : (7 : Byte).getLsbD level = true := by
      have hall : ∀ l < 3, (7 : Byte).getLsbD l = true := by decide
      exact hall level hl
    rw [hcount, CampaignInventory.moveCount, if_pos (by omega), if_pos (by omega), Int.toNat_natCast,
      Int.toNat_natCast, bitOf_masked (h.moves kong hk) hmask]
  slam kong hk := by
    rw [hcount, h.simianSlam kong hk]
    rfl
  gun kong hk := by
    rw [hcount, CampaignInventory.moveCount, if_neg (by decide), if_neg (by decide), if_pos rfl,
      if_pos (by omega), Int.toNat_natCast, bitOf_masked (h.weapon kong hk) (by decide)]
  homing := by
    rw [hcount, ← bitOf_masked (h.weapon 0 (by decide)) (by decide)]
    rfl
  sniper := by
    rw [hcount, ← bitOf_masked (h.weapon 0 (by decide)) (by decide)]
    rfl
  belt kong hk := by
    rw [hcount, h.ammoBelt kong hk]
    rfl
  instrument kong hk := by
    rw [hcount, CampaignInventory.moveCount, if_neg (by decide), if_neg (by decide), if_neg (by decide),
      if_neg (by decide), if_neg (by decide), if_pos rfl, if_pos (by omega), Int.toNat_natCast,
      bitOf_masked (h.instrument kong hk) (by decide)]

theorem countOf_traps (c : CampaignInventory) : c.countOf .trap (-1) 0 = capped c.trapTotal := by
  unfold CampaignInventory.countOf
  simp

theorem Accounted.answers (h : Accounted cat ids start g) : Answers cat ids start g where
  counts := h.counts
  flags flag := by
    unfold Game.itemHasFlag
    cases hactive : g.itemsActive with
    | false => rfl
    | true => rw [(h.active hactive).2.2]
  closed := answers_closed
  kongs query n level hq hvalid := by
    cases hactive : g.itemsActive with
    | false =>
      rw [itemCount_inactive hactive] at hvalid
      exact absurd hvalid (by decide)
    | true =>
      simp only [h.counts, hactive, if_true] at hvalid ⊢
      exact CampaignInventory.countOf_kongs hq hvalid
  levels query n kong hq hvalid := by
    cases hactive : g.itemsActive with
    | false =>
      rw [itemCount_inactive hactive] at hvalid
      exact absurd hvalid (by decide)
    | true =>
      simp only [h.counts, hactive, if_true] at hvalid ⊢
      exact CampaignInventory.countOf_levels hq hvalid
  stock hactive hlt := stockAgrees_of_owns (h.here.levels hlt) fun level kong => by
    rw [h.counts, if_pos hactive]
    rfl
  traps hactive hzero := by
    obtain ⟨hfew, -, -⟩ := h.active hactive
    have hlimit : campaignReceiptLimit = 4096 := rfl
    have hlen : (ids.take g.image.processed).length ≤ g.image.processed := List.length_take_le _ _
    have htraps : g.started = start.started ++ (receivedBetween ids start g.image).flatMap cat.trapsOf :=
      h.here.traps
    have hbetween : receivedBetween ids start g.image = ids.take g.image.processed := by
      rw [receivedBetween, hzero, List.drop_zero]
    rw [h.counts, if_pos hactive, countOf_traps, CampaignInventory.trapTotal_addAll cat (by omega), htraps,
      List.length_append, Nat.cast_add, hbetween]

/-- **The queries answer for the receipts of the file**, over every run of stagings, commits, saves and
loads, and no answer falls while the counter of the file does not. -/
theorem item_queries_answer (cat : Catalog) (t : LocationTable) (tables : TrapTables) (ids : List Word)
    (g : Game) (es fs : List CampaignEvent)
    (hready : g.publications.transaction.ready = false) (hitems : g.publications.items.ready = false)
    (hsaved : ∀ image ∈ g.saved, image = g.image)
    (hrun : Run.Along (campaignStep cat t tables) (Admitted ids fun _ _ _ => True) g (es ++ fs)) :
    let before := Run.run (campaignStep cat t tables) g es
    let after := Run.run (campaignStep cat t tables) g (es ++ fs)
    Answers cat ids g.image after ∧
      (before.itemsActive → after.itemsActive → before.image.processed ≤ after.image.processed →
        ∀ query level kong, before.itemCount query level kong ≤ after.itemCount query level kong) := by
  have hstart : Accounted cat ids g.image g := by
    refine ⟨fun h => ?_, fun h => ?_, leveled_self cat ids g.image, fun image hmem => ?_⟩
    · rw [hready] at h
      exact absurd h Bool.false_ne_true
    · rw [hitems] at h
      exact absurd h Bool.false_ne_true
    · rw [hsaved image hmem]
      exact leveled_self cat ids g.image
  have hinv : ∀ {es}, Run.Along (campaignStep cat t tables) (Admitted ids fun _ _ _ => True) g es →
      Accounted cat ids g.image (Run.run (campaignStep cat t tables) g es) :=
    fun h => Run.invariant (fun g e ha h => accounted_step e h ha) hstart h
  have hafter := hinv hrun
  have hbefore := hinv (Run.along_append.mp hrun).1
  refine ⟨hafter.answers, fun hactive hactive' hle query level kong => ?_⟩
  rw [hbefore.counts, hafter.counts, if_pos hactive, if_pos hactive']
  exact CampaignInventory.countOf_mono
    (CampaignInventory.grows_addAll cat (List.take_prefix_take_left hle)) query level kong

/-! ## A golden banana -/

/-- The file with the golden banana, behind its commit. -/
def bananaCommitted : Game :=
  campaignStep pocketCatalog emptyTable ⟨[], []⟩ (bananaPlayed 0) bananaCommit

/-- The game leaves the campaign. -/
def bananaTitle : Game := { bananaCommitted with gameplayMode := 0 }

/-- The native block behind the first receipt. -/
def spentWire : CampaignStageWire :=
  CampaignStageSnapshot.block ⟨spentHeader, [14041270], none, 0, 0⟩ fun _ => 0

/-- The inventory is staged again. -/
def bananaRestaged : Game :=
  campaignStep pocketCatalog emptyTable ⟨[], []⟩ bananaTitle (.stage 0x80001000 spentWire)

/-- The campaign goes on. -/
def bananaResumed : Game := { bananaRestaged with gameplayMode := Game.commitMode }

/-- What follows the commit. -/
def restageEvents : List CampaignEvent :=
  [.play bananaTitle, .stage 0x80001000 spentWire, .play bananaResumed]

theorem run_banana :
    Run.run (campaignStep pocketCatalog emptyTable ⟨[], []⟩) (bananaGame 0) (bananaEvents 0) =
      bananaCommitted := by
  have hstaged : campaignStep pocketCatalog emptyTable ⟨[], []⟩ (bananaGame 0)
      (.stage 0x80001000 bananaWire) = bananaStaged 0 := by rw [bananaStaged]
  have hplayed : campaignStep pocketCatalog emptyTable ⟨[], []⟩ (bananaStaged 0)
      (.play (bananaPlayed 0)) = bananaPlayed 0 := by rw [campaignStep]
  rw [bananaEvents, Run.run_cons, hstaged, Run.run_cons, hplayed, Run.run_cons, Run.run_nil,
    bananaCommitted]

theorem admitted_restage :
    Run.Along (campaignStep pocketCatalog emptyTable ⟨[], []⟩)
      (Admitted [14041270] fun _ _ _ => True) (bananaGame 0) (bananaEvents 0 ++ restageEvents) := by
  have htitle : campaignStep pocketCatalog emptyTable ⟨[], []⟩ bananaCommitted (.play bananaTitle) =
      bananaTitle := by rw [campaignStep]
  have hrestaged : campaignStep pocketCatalog emptyTable ⟨[], []⟩ bananaTitle
      (.stage 0x80001000 spentWire) = bananaRestaged := by rw [bananaRestaged]
  have hwire : StagesPrefix [14041270] spentWire :=
    ⟨by decide, fun h => absurd (show spentWire.nextItemValid = 0 by decide) h⟩
  rw [Run.along_append, run_banana]
  refine ⟨admitted_banana 0 fun _ _ => trivial, ?_⟩
  simp only [restageEvents, Run.Along, htitle, hrestaged, and_true]
  exact ⟨keeps_mode bananaCommitted _, hwire, keeps_mode bananaRestaged _⟩

/-- A golden banana is staged and committed, and the inventory staged again: the queries answer on both
sides, and the count of golden bananas has risen. -/
theorem item_queries_answer_banana :
    let before := Run.run (campaignStep pocketCatalog emptyTable ⟨[], []⟩) (bananaGame 0)
      ((bananaEvents 0).take 2)
    let after := Run.run (campaignStep pocketCatalog emptyTable ⟨[], []⟩) (bananaGame 0)
      ((bananaEvents 0).take 2 ++ ((bananaEvents 0).drop 2 ++ restageEvents))
    before.itemsActive = true ∧ after.itemsActive = true ∧
      before.itemCount .goldenBanana 0 0 = 0 ∧ after.itemCount .goldenBanana 0 0 = 1 ∧
      Answers pocketCatalog [14041270] (bananaGame 0).image after ∧
      (before.itemsActive → after.itemsActive → before.image.processed ≤ after.image.processed →
        ∀ query level kong, before.itemCount query level kong ≤ after.itemCount query level kong) :=
  ⟨by decide +kernel, by decide +kernel, by decide +kernel, by decide +kernel,
    item_queries_answer pocketCatalog emptyTable ⟨[], []⟩ [14041270] (bananaGame 0) ((bananaEvents 0).take 2)
      ((bananaEvents 0).drop 2 ++ restageEvents) rfl rfl (fun _ hmem => absurd hmem List.not_mem_nil)
      admitted_restage⟩

end Dk64Port.Archipelago
