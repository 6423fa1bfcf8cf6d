import Dk64Port.Archipelago.Commit
import Dk64Port.Archipelago.Receipts
import Dk64Port.Archipelago.StageNative
import Dk64Port.Lib.Run
import Mathlib.Algebra.Group.Nat.Defs

/-!
# Every receipt is applied exactly once

The owned levels are recomputed from the received prefix, the bananas and coins are added, and the
counter that tells how far the file has come lives in the file. A load takes all of them back
together.

* `CampaignEvent`, `campaignStep`, `Admitted`: a game that is staged, commits, saves and loads.
* `Planned`: what the published transaction says about the list, whatever the trailer is.
* `Reached`: what a trailer and a progress say about each other, from a start on.
* `receipts_exactly_once`: every run; `golden_banana_wraps`: it needs room in the counters.
-/

namespace Dk64Port.Archipelago

open ByteLayout (Byte)

/-! ## Runs -/

/-- What happens in the game. -/
inductive CampaignEvent where
  /-- A native block is staged. -/
  | stage (address : Word) (wire : CampaignStageWire)
  | commit (sourceAt : Word) (source : Transaction)
  /-- The stock save, outside a commit. -/
  | save
  /-- The image that was saved `i` saves ago is loaded. -/
  | restore (i : Nat)
  /-- Everything else the game does. -/
  | play (next : Game)

/-- One event. -/
def campaignStep (cat : Catalog) (t : LocationTable) (tables : TrapTables) (g : Game) :
    CampaignEvent → Game
  | .stage address wire =>
    { g with publications := (stageApply cat t g.scene g.publications address wire).2 }
  | .commit sourceAt source => (g.commit cat tables sourceAt source).2
  | .save => g.save
  | .restore i =>
    match g.saved[i]? with
    | some image => g.restore image
    | none => g
  | .play next => next

/-- The block holds a prefix of the received list, and the receipt behind it if it holds one. -/
structure StagesPrefix (ids : List Word) (wire : CampaignStageWire) : Prop where
  receipts : wire.receipts <+: ids
  next : wire.nextItemValid ≠ 0 → ids[wire.receipts.length]? = some wire.nextItemId

/-- Five more coins fit, if the transaction brings any. -/
def CoinsFit (g : Game) (source : Transaction) : Prop :=
  source.before.rainbowCoins < source.after.rainbowCoins →
    ∀ kong < 5, (g.progress.characters kong).coins.toNat + 5 < 2 ^ 16

/-- One more golden banana fits somewhere, if the transaction brings one. -/
def BananasFit (g : Game) (source : Transaction) : Prop :=
  source.before.goldenBananas < source.after.goldenBananas →
    ∃ slot ∈ bananaSlots, (g.progress.bananas slot).toInt < 32767

/-- What an accepted commit brings fits. -/
def CommitFits (cat : Catalog) (tables : TrapTables) (g : Game) (sourceAt : Word)
    (source : Transaction) : Prop :=
  (g.commit cat tables sourceAt source).1 = true → CoinsFit g source ∧ BananasFit g source

/-- What a run may do: stage prefixes of the list, and write nothing a campaign owns. -/
def Admitted (ids : List Word) (fits : Game → Word → Transaction → Prop) (g : Game) :
    CampaignEvent → Prop
  | .stage _ wire => StagesPrefix ids wire
  | .commit sourceAt source => fits g sourceAt source
  | .save | .restore _ => True
  | .play next => g.Keeps next ∧ next.started = g.started

/-! ## The invariants -/

/-- What the published transaction says about the list. -/
def Planned (cat : Catalog) (ids : List Word) (p : TransactionPublication) : Prop :=
  p.ready → p.hasItem →
    let n := p.identity.counter.toNat
    ∃ id, ids[n]? = some id ∧ n ≤ campaignReceiptLimit ∧ (∀ id ∈ ids.take n, cat.supports id) ∧
      Plans cat p.identity (CampaignInventory.addAll cat (ids.take n)) id p.published

/-- How many receipts the file of an image has processed. -/
def Image.processed (image : Image) : Nat := image.trailer.counter.toNat

/-- The receipts between two images. -/
def receivedBetween (ids : List Word) (start image : Image) : List Word :=
  (ids.take image.processed).drop start.processed

/-- What an image is worth, on the way from a start. -/
structure Reached (cat : Catalog) (ids : List Word) (start image : Image) : Prop where
  binding : image.trailer.binding = start.trailer.binding
  processed : start.processed ≤ image.processed
  /-- The levels are those of a rebuild of the processed receipts. -/
  levels : start.processed < image.processed → image.processed ≤ ids.length ∧
    (CampaignInventory.rebuild cat {} (ids.take image.processed)).1 = 1 ∧
    Progress.Owns image.progress (CampaignInventory.rebuild cat {} (ids.take image.processed)).2
  bananas : image.progress.liveBananas = start.progress.liveBananas +
    ((receivedBetween ids start image).countP cat.givesBanana : Nat)
  coins : ∀ kong < 5, (image.progress.characters kong).coins.toNat =
    (start.progress.characters kong).coins.toNat +
      5 * (receivedBetween ids start image).countP cat.givesRainbow
  traps : image.started = start.started ++ (receivedBetween ids start image).flatMap cat.trapsOf

/-- The invariant of a run. -/
structure OnTrack (cat : Catalog) (ids : List Word) (start : Image) (g : Game) : Prop where
  planned : Planned cat ids g.publications.transaction
  here : Reached cat ids start g.image
  saved : ∀ image ∈ g.saved, Reached cat ids start image

variable {cat : Catalog} {t : LocationTable} {tables : TrapTables} {ids : List Word} {g g' : Game}
  {start image : Image} {sourceAt address : Word} {source : Transaction}
  {wire : CampaignStageWire} {p : Publications}

theorem reached_self (cat : Catalog) (ids : List Word) (start : Image) :
    Reached cat ids start start := by
  have hnone : receivedBetween ids start start = [] := by
    rw [receivedBetween, List.drop_eq_nil_iff]
    exact List.length_take_le _ _
  refine ⟨rfl, Nat.le_refl _, fun h => absurd h (Nat.lt_irrefl _), ?_, fun kong _ => ?_, ?_⟩ <;>
    rw [hnone] <;> simp

/-- An image with the same trailer, items and traps is worth the same. -/
theorem Reached.congr {image' : Image} (h : Reached cat ids start image)
    (htrailer : image'.trailer = image.trailer)
    (hitems : image.progress.SameItems image'.progress) (hstarted : image'.started = image.started) :
    Reached cat ids start image' := by
  have hprocessed : image'.processed = image.processed := by
    rw [Image.processed, htrailer]
    rfl
  have hbetween : receivedBetween ids start image' = receivedBetween ids start image := by
    rw [receivedBetween, hprocessed]
    rfl
  refine ⟨by rw [htrailer, h.binding], by rw [hprocessed]; exact h.processed, ?_, ?_, ?_, ?_⟩
  · rw [hprocessed]
    intro hlt
    obtain ⟨hlen, hone, howns⟩ := h.levels hlt
    exact ⟨hlen, hone, howns.congr hitems⟩
  · rw [hbetween, ← h.bananas]
    exact Progress.liveBananas_congr hitems.goldenBananas
  · intro kong hk
    rw [hbetween, hitems.coins kong hk, h.coins kong hk]
  · rw [hbetween, hstarted, h.traps]

/-! ## A commit -/

theorem receivedBetween_succ {image' : Image} {id : Word} (h : ids[image.processed]? = some id)
    (hle : start.processed ≤ image.processed)
    (hsucc : image'.processed = image.processed + 1) :
    receivedBetween ids start image' = receivedBetween ids start image ++ [id] := by
  obtain ⟨hlen, rfl⟩ := List.getElem?_eq_some_iff.mp h
  unfold receivedBetween
  rw [hsucc, List.take_succ_eq_append_getElem hlen, List.drop_append_of_le_length]
  rw [List.length_take]
  omega

/-- The next image is worth what the image was, and the receipt behind its counter. -/
theorem Reached.advance {next : Image} {id : Word} (h : Reached cat ids start image)
    (hid : ids[image.processed]? = some id) (hsucc : next.processed = image.processed + 1)
    (hbinding : next.trailer.binding = image.trailer.binding)
    (hsupports : ∀ id ∈ ids.take (image.processed + 1), cat.supports id)
    (hfew : image.processed + 1 ≤ 65535)
    (howns : Progress.Owns next.progress
      (CampaignInventory.addAll cat (ids.take (image.processed + 1))))
    (hbananas : next.progress.liveBananas =
      image.progress.liveBananas + if cat.givesBanana id then 1 else 0)
    (hcoins : ∀ kong < 5, (next.progress.characters kong).coins.toNat =
      (image.progress.characters kong).coins.toNat + if cat.givesRainbow id then 5 else 0)
    (hstarted : next.started = image.started ++ cat.trapsOf id) :
    Reached cat ids start next := by
  obtain ⟨hlen, -⟩ := List.getElem?_eq_some_iff.mp hid
  have hbetween := receivedBetween_succ hid h.processed hsucc
  refine ⟨hbinding.trans h.binding, ?_, fun _ => ?_, ?_, fun kong hk => ?_, ?_⟩
  · rw [hsucc]
    exact Nat.le_succ_of_le h.processed
  · rw [hsucc]
    have hone : (CampaignInventory.rebuild cat {} (ids.take (image.processed + 1))).1 = 1 :=
      CampaignInventory.rebuild_eq_one_iff.mpr ⟨(List.length_take_le _ _).trans hfew, hsupports⟩
    rw [CampaignInventory.rebuild_output hone]
    exact ⟨hlen, hone, howns⟩
  · rw [hbananas, hbetween, List.countP_append, h.bananas, List.countP_singleton]
    split <;> push_cast <;> omega
  · rw [hcoins kong hk, hbetween, List.countP_append, h.coins kong hk, List.countP_singleton]
    split <;> omega
  · rw [hstarted, hbetween, List.flatMap_append, h.traps, List.flatMap_singleton, List.append_assoc]

/-- **A commit advances the file by the receipt behind its counter.** -/
theorem reached_commit {item : ItemEffectDef} (h : OnTrack cat ids start g)
    (hc : Committable cat tables g source item) (hcoins : CoinsFit g source)
    (hbananas : BananasFit g source) :
    Reached cat ids start
      (({ g with trailer := source.next } : Game).execute tables item source).image := by
  obtain ⟨id, hid, hfew, hsupports, hplans⟩ := h.planned hc.ready hc.hasItem
  rw [hc.identity] at hid hfew hsupports hplans
  have hlimit : campaignReceiptLimit = 4096 := rfl
  have hcounted := addAll_counted cat (ids.take g.trailer.counter.toNat)
  have hshort : (ids.take g.trailer.counter.toNat).length ≤ 4096 :=
    (List.length_take_le _ _).trans hfew
  have hrow := hc.row
  rw [hc.itemId, hplans.itemId_eq] at hrow
  have hbanana : source.before.goldenBananas < source.after.goldenBananas ↔
      cat.givesBanana id := by
    rw [hc.before.goldenBananas, hc.after.goldenBananas, hplans.before_eq, hplans.after_eq]
    exact goldenBananas_lt_iff hcounted (by omega)
  have hrainbow : source.before.rainbowCoins < source.after.rainbowCoins ↔
      cat.givesRainbow id := by
    rw [hc.before.rainbowCoins, hc.after.rainbowCoins, hplans.before_eq, hplans.after_eq]
    exact rainbowCoins_lt_iff hcounted (by omega)
  have hafter : source.after.SameLevels
      (CampaignInventory.addAll cat (ids.take (g.trailer.counter.toNat + 1))) := by
    have hafter := hc.after
    rwa [hplans.after_eq, ← addAll_take_succ hid] at hafter
  have hlow := low_addAll cat (ids.take (g.trailer.counter.toNat + 1))
  obtain ⟨hstarted, hkeeps⟩ := Game.startTraps_spec
    (g := ({ g with trailer := source.next } : Game)) hc.traps
  have hitems := hkeeps.items
  refine h.here.advance hid ?_ ?_ ?_ ?_ ?_ ?_ ?_ ?_
  · show ((({ g with trailer := source.next } : Game).startTraps tables item).trailer).counter.toNat =
      _
    rw [hkeeps.trailer]
    exact hc.counter
  · show ((({ g with trailer := source.next } : Game).startTraps tables item).trailer).binding = _
    rw [hkeeps.trailer]
    exact hc.binding
  · intro id' hmem
    rw [show g.image.processed = g.trailer.counter.toNat from rfl, List.take_add_one, hid] at hmem
    rcases List.mem_append.mp hmem with hmem | hmem
    · exact hsupports id' hmem
    · obtain rfl := List.mem_singleton.mp hmem
      exact hplans.supports
  · show g.trailer.counter.toNat + 1 ≤ 65535
    omega
  · exact Progress.owns_receive item source _ hafter (fun kong _ => hlow.moves kong)
      (fun kong _ => hlow.guns kong) (fun kong _ => hlow.instruments kong)
  · refine (Progress.liveBananas_receive item source _ fun hmore => ?_).trans ?_
    · obtain ⟨slot, hslot, hless⟩ := hbananas hmore
      refine ⟨slot, hslot, ?_⟩
      rw [Progress.bananas, hitems.goldenBananas slot.1 (Progress.mem_bananaSlots.mp hslot).1]
      exact hless
    · rw [Progress.liveBananas_congr hitems.goldenBananas, if_congr hbanana rfl rfl]
      rfl
  · intro kong hk
    show ((Progress.receive item source _).characters kong).coins.toNat = _
    rw [Progress.coins_receive item source _ hk, hitems.coins kong hk, if_congr hrainbow rfl rfl]
    by_cases hgives : cat.givesRainbow id
    · have hroom := hcoins (hrainbow.mpr hgives) kong hk
      have hfive : (5 : Half).toNat = 5 := rfl
      rw [if_pos hgives, if_pos hgives, BitVec.toNat_add, hfive, Nat.mod_eq_of_lt hroom]
      rfl
    · have hzero : (0 : Half).toNat = 0 := rfl
      rw [if_neg hgives, if_neg hgives, BitVec.toNat_add, hzero, Nat.add_zero,
        Nat.mod_eq_of_lt (BitVec.isLt _)]
      rfl
  · show (({ g with trailer := source.next } : Game).startTraps tables item).started = _
    rw [hstarted, Catalog.trapsOf, hrow]
    rfl

/-! ## Staging -/

/-- A staged block plans the receipt behind its prefix. -/
theorem planned_stage (h : Planned cat ids p.transaction) (hwire : StagesPrefix ids wire)
    (s : Scene) :
    Planned cat ids (stageApply cat t s p address wire).2.transaction := by
  by_cases hstageable : Stageable cat t s address wire
  · obtain ⟨p', heq, hstaged⟩ := stageApply_of_stageable (p := p) hstageable
    rw [heq]
    intro _ hhas
    have hn : p'.transaction.identity.counter.toNat = wire.receipts.length := by
      rw [hstaged.transaction_identity, hstaged.counter]
    have hfew := hstageable.few
    rw [← hstageable.counter] at hfew
    have htake : ids.take wire.receipts.length = wire.receipts :=
      (List.prefix_iff_eq_take.mp hwire.receipts).symm
    refine ⟨wire.nextItemId, ?_, ?_, ?_, ?_⟩
    · rw [hn]
      exact hwire.next (hstaged.hasItem.mp hhas)
    · rw [hstaged.transaction_identity]
      exact hfew
    · rw [hn, htake]
      exact hstageable.supported
    · rw [hn, htake, hstaged.transaction_identity]
      exact hstaged.pending hhas
  · rw [stageApply_of_not_stageable hstageable]
    exact h

/-! ## Every run -/

/-- What one event keeps. -/
structure KeptReceipts (cat : Catalog) (t : LocationTable) (tables : TrapTables) (ids : List Word)
    (start : Image) (g : Game) (e : CampaignEvent) : Prop where
  /-- An accepted commit advances the counter by one, under the same binding. -/
  accepted : ∀ sourceAt source, e = .commit sourceAt source →
    (g.commit cat tables sourceAt source).1 = true →
      (g.commit cat tables sourceAt source).2.trailer.counter.toNat =
          g.trailer.counter.toNat + 1 ∧
        (g.commit cat tables sourceAt source).2.trailer.binding = g.trailer.binding
  /-- A refused commit changes nothing. -/
  refused : ∀ sourceAt source, e = .commit sourceAt source →
    (g.commit cat tables sourceAt source).1 = false →
      (g.commit cat tables sourceAt source).2 = g
  /-- The file is worth the receipts it has processed. -/
  reached : Reached cat ids start (campaignStep cat t tables g e).image

theorem onTrack_commit (h : OnTrack cat ids start g)
    (hfits : CommitFits cat tables g sourceAt source) :
    OnTrack cat ids start (g.commit cat tables sourceAt source).2 := by
  rcases commit_refuses_or_executes cat tables g sourceAt source with hrefused | ⟨item, hc, haccepted⟩
  · rw [hrefused]
    exact h
  · obtain ⟨hcoins, hbananas⟩ := hfits (by rw [haccepted])
    have hreached := reached_commit h hc hcoins hbananas
    obtain ⟨-, hkeeps⟩ := Game.startTraps_spec
      (g := ({ g with trailer := source.next } : Game)) hc.traps
    rw [haccepted]
    refine ⟨fun hready => absurd hready Bool.false_ne_true, hreached, ?_⟩
    intro image hmem
    rcases List.mem_cons.mp hmem with rfl | hmem
    · exact hreached
    · rw [hkeeps.saved] at hmem
      exact h.saved image hmem

/-- **One event.** -/
theorem onTrack_step (e : CampaignEvent) (h : OnTrack cat ids start g)
    (ha : Admitted ids (CommitFits cat tables) g e) :
    OnTrack cat ids start (campaignStep cat t tables g e) := by
  cases e with
  | stage address wire => exact ⟨planned_stage h.planned ha g.scene, h.here, h.saved⟩
  | commit sourceAt source => exact onTrack_commit h ha
  | save => exact ⟨h.planned, h.here, List.forall_mem_cons.mpr ⟨h.here, h.saved⟩⟩
  | restore i =>
    cases hget : g.saved[i]? with
    | none =>
      have hstep : campaignStep cat t tables g (.restore i) = g := by
        simp only [campaignStep, hget]
      rw [hstep]
      exact h
    | some image =>
      have hstep : campaignStep cat t tables g (.restore i) = g.restore image := by
        simp only [campaignStep, hget]
      rw [hstep]
      exact ⟨h.planned, h.saved image (List.mem_of_getElem? hget), h.saved⟩
  | play next =>
    obtain ⟨hkeeps, hstarted⟩ := ha
    refine ⟨?_, h.here.congr hkeeps.trailer hkeeps.items hstarted, ?_⟩
    · show Planned cat ids next.publications.transaction
      rw [hkeeps.publications]
      exact h.planned
    · show ∀ image ∈ next.saved, _
      rw [hkeeps.saved]
      exact h.saved

theorem keptReceipts (e : CampaignEvent) (h : OnTrack cat ids start g)
    (ha : Admitted ids (CommitFits cat tables) g e) :
    KeptReceipts cat t tables ids start g e := by
  refine ⟨?_, ?_, (onTrack_step e h ha).here⟩
  · rintro sourceAt source rfl haccepted
    rcases commit_refuses_or_executes cat tables g sourceAt source with hrefused | ⟨item, hc, hcommit⟩
    · rw [hrefused] at haccepted
      exact absurd haccepted Bool.false_ne_true
    · obtain ⟨-, hkeeps⟩ := Game.startTraps_spec
        (g := ({ g with trailer := source.next } : Game)) hc.traps
      have htrailer : (g.commit cat tables sourceAt source).2.trailer = source.next := by
        rw [hcommit]
        exact hkeeps.trailer
      rw [htrailer]
      exact ⟨hc.counter, hc.binding⟩
  · rintro sourceAt source rfl hrefused
    rcases commit_refuses_or_executes cat tables g sourceAt source with hsame | ⟨item, hc, hcommit⟩
    · rw [hsame]
    · rw [hcommit] at hrefused
      exact absurd hrefused.symm Bool.false_ne_true

/-- **Every receipt is applied exactly once**: in every run of stagings, commits, saves and loads,
the trailer and the progress of the file agree on the receipts that it has processed. -/
theorem receipts_exactly_once (cat : Catalog) (t : LocationTable) (tables : TrapTables)
    (ids : List Word) (g : Game) (events : List CampaignEvent)
    (hready : g.publications.transaction.ready = false)
    (hsaved : ∀ image ∈ g.saved, image = g.image)
    (hrun : Run.Along (campaignStep cat t tables)
      (Admitted ids (CommitFits cat tables)) g events) :
    Run.Along (campaignStep cat t tables) (KeptReceipts cat t tables ids g.image) g events := by
  have hstart : OnTrack cat ids g.image g := by
    refine ⟨fun h => ?_, reached_self cat ids g.image, fun image hmem => ?_⟩
    · rw [hready] at h
      exact absurd h Bool.false_ne_true
    · rw [hsaved image hmem]
      exact reached_self cat ids g.image
  exact Run.along_of_invariant (I := OnTrack cat ids g.image)
    (fun g e ha h => onTrack_step e h ha) (fun g e ha h => keptReceipts e h ha) hstart hrun

/-! ## A golden banana -/

/-- A golden banana without room in any counter: the sum falls. -/
theorem commit_wraps (hall : ∀ slot ∈ bananaSlots, g.progress.bananas slot = 32767)
    (hmore : source.before.goldenBananas < source.after.goldenBananas)
    (haccepted : (g.commit cat tables sourceAt source).1 = true) :
    (g.commit cat tables sourceAt source).2.image.progress.liveBananas =
      g.image.progress.liveBananas - 65535 := by
  rcases commit_refuses_or_executes cat tables g sourceAt source with hrefused | ⟨item, hc, hcommit⟩
  · rw [hrefused] at haccepted
    exact absurd haccepted Bool.false_ne_true
  · obtain ⟨-, hkeeps⟩ := Game.startTraps_spec
      (g := ({ g with trailer := source.next } : Game)) hc.traps
    have hitems := hkeeps.items
    rw [hcommit]
    refine (Progress.liveBananas_receive_eq item source _).trans ?_
    rw [if_pos hmore, Progress.liveBananas_wrap]
    · congr 1
      refine (Progress.liveBananas_congr fun kong _ => ?_).trans
        (Progress.liveBananas_congr hitems.goldenBananas)
      rw [Progress.setFlags_characters]
    · intro slot hslot
      rw [Progress.bananas_setFlags, Progress.bananas,
        hitems.goldenBananas slot.1 (Progress.mem_bananaSlots.mp hslot).1]
      exact hall slot hslot

/-- The native block for a first receipt that is a golden banana. -/
def bananaWire : CampaignStageWire :=
  CampaignStageSnapshot.block ⟨freshHeader, [], some 14041270, 0, 0⟩ fun _ => 0

/-- A file that has processed nothing, with `count` bananas in each slot. -/
def bananaGame (count : BitVec 16) : Game :=
  { trailer := freshHeader
    progress := { characters := fun _ => { goldenBananas := fun _ => count } } }

/-- The game after the block is staged. -/
def bananaStaged (count : BitVec 16) : Game :=
  campaignStep pocketCatalog emptyTable ⟨[], []⟩ (bananaGame count) (.stage 0x80001000 bananaWire)

/-- The campaign has begun. -/
def bananaPlayed (count : BitVec 16) : Game :=
  { bananaStaged count with gameplayMode := Game.commitMode }

/-- What is committed. -/
def bananaCommit : CampaignEvent :=
  .commit 0x80002000 (bananaStaged 0).publications.transaction.published

/-- The block is staged, the campaign begins, and the receipt is committed. -/
def bananaEvents (count : BitVec 16) : List CampaignEvent :=
  [.stage 0x80001000 bananaWire, .play (bananaPlayed count), bananaCommit]

theorem stagesPrefix_banana : StagesPrefix [14041270] bananaWire :=
  ⟨⟨[14041270], rfl⟩, fun _ => by decide⟩

theorem coinsFit_banana (count : BitVec 16) (source : Transaction) :
    CoinsFit (bananaPlayed count) source := by
  intro _ kong _
  have hcoins : ((bananaPlayed count).progress.characters kong).coins = 0 := rfl
  rw [hcoins]
  decide

/-- The run, event by event. -/
theorem along_banana (count : BitVec 16) {C : Game → CampaignEvent → Prop} :
    Run.Along (campaignStep pocketCatalog emptyTable ⟨[], []⟩) C (bananaGame count)
        (bananaEvents count) ↔
      C (bananaGame count) (.stage 0x80001000 bananaWire) ∧
        C (bananaStaged count) (.play (bananaPlayed count)) ∧ C (bananaPlayed count) bananaCommit := by
  have hstaged : campaignStep pocketCatalog emptyTable ⟨[], []⟩ (bananaGame count)
      (.stage 0x80001000 bananaWire) = bananaStaged count := by rw [bananaStaged]
  have hplayed : campaignStep pocketCatalog emptyTable ⟨[], []⟩ (bananaStaged count)
      (.play (bananaPlayed count)) = bananaPlayed count := by rw [campaignStep]
  simp only [bananaEvents, Run.Along, hstaged, hplayed, and_true]

/-- The mode belongs to no campaign. -/
theorem keeps_mode (g : Game) (mode : Word) : g.Keeps { g with gameplayMode := mode } ∧
    ({ g with gameplayMode := mode } : Game).started = g.started :=
  ⟨⟨rfl, rfl, rfl, .refl _⟩, rfl⟩

/-- The run stages a prefix, and plays without touching what the campaign owns. -/
theorem admitted_banana (count : BitVec 16) {fits : Game → Word → Transaction → Prop}
    (hfits : ∀ sourceAt source, fits (bananaPlayed count) sourceAt source) :
    Run.Along (campaignStep pocketCatalog emptyTable ⟨[], []⟩) (Admitted [14041270] fits)
      (bananaGame count) (bananaEvents count) := by
  rw [along_banana]
  exact ⟨stagesPrefix_banana, keeps_mode (bananaStaged count) _, hfits _ _⟩

/-- With all counters at their end the golden banana of an accepted commit is lost. -/
theorem golden_banana_wraps :
    (∀ id ∈ [(14041270 : Word)], pocketCatalog.supports id ∧
        (pocketCatalog.findItem id).any executableItem) ∧
      (bananaGame 32767).publications.transaction.ready = false ∧
      (∀ image ∈ (bananaGame 32767).saved, image = (bananaGame 32767).image) ∧
      Run.Along (campaignStep pocketCatalog emptyTable ⟨[], []⟩) (Admitted [14041270] fun g _ => CoinsFit g)
        (bananaGame 32767) (bananaEvents 32767) ∧
      ¬ Run.Along (campaignStep pocketCatalog emptyTable ⟨[], []⟩)
        (KeptReceipts pocketCatalog emptyTable ⟨[], []⟩ [14041270] (bananaGame 32767).image)
        (bananaGame 32767) (bananaEvents 32767) := by
  have haccepted : ((bananaPlayed 32767).commit pocketCatalog ⟨[], []⟩ 0x80002000
      (bananaStaged 0).publications.transaction.published).1 = true := by decide +kernel
  have hmore : (bananaStaged 0).publications.transaction.published.before.goldenBananas <
      (bananaStaged 0).publications.transaction.published.after.goldenBananas := by decide +kernel
  have hall : ∀ slot ∈ bananaSlots, (bananaPlayed 32767).progress.bananas slot = 32767 :=
    fun _ _ => rfl
  have hlost := commit_wraps hall hmore haccepted
  have hsame : (bananaPlayed 32767).image.progress = (bananaGame 32767).image.progress := rfl
  refine ⟨?_, rfl, fun _ hmem => absurd hmem List.not_mem_nil,
    admitted_banana 32767 fun _ => coinsFit_banana 32767, ?_⟩
  · intro id hid
    obtain rfl := List.mem_singleton.mp hid
    exact ⟨by decide, by decide⟩
  · rw [along_banana]
    rintro ⟨-, -, hkept⟩
    have hgrown := hkept.reached.bananas
    have hcommit : campaignStep pocketCatalog emptyTable ⟨[], []⟩ (bananaPlayed 32767)
        bananaCommit = ((bananaPlayed 32767).commit pocketCatalog ⟨[], []⟩ 0x80002000
          (bananaStaged 0).publications.transaction.published).2 := by
      rw [bananaCommit, campaignStep]
    rw [hcommit, hlost, hsame] at hgrown
    omega

/-- With room in a counter it is counted. -/
theorem receipts_exactly_once_banana :
    Run.Along (campaignStep pocketCatalog emptyTable ⟨[], []⟩)
      (KeptReceipts pocketCatalog emptyTable ⟨[], []⟩ [14041270] (bananaGame 0).image)
      (bananaGame 0) (bananaEvents 0) := by
  have hslot : ∃ slot ∈ bananaSlots, ((bananaPlayed 0).progress.bananas slot).toInt < 32767 := by
    have hzero : (bananaPlayed 0).progress.bananas (0, 0) = 0 := rfl
    refine ⟨(0, 0), Progress.mem_bananaSlots.mpr ⟨by decide, by decide⟩, ?_⟩
    rw [hzero]
    decide
  exact receipts_exactly_once pocketCatalog emptyTable ⟨[], []⟩ [14041270] (bananaGame 0)
    (bananaEvents 0) rfl (fun _ hmem => absurd hmem List.not_mem_nil)
    (admitted_banana 0 fun _ source _ => ⟨coinsFit_banana 0 source, fun _ => hslot⟩)

end Dk64Port.Archipelago
