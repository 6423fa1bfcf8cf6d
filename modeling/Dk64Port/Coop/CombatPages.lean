import Dk64Port.Coop.CombatWire
import Dk64Port.Coop.Defeat
import Mathlib.Algebra.Group.Nat.Defs

/-!
# The combat pages on the wire

`CombatSync.wire` puts the header, the shots, the boss and the boss motion of the last frame around
enemies that earlier frames left in the page cache. The cache outlives a change of the layout as long
as the number of pages stays and nobody is paired, and a boss motion may arrive after an enemy took
slot zero of another page: the game adapter keeps to one page without a layout and leaves slot zero
free where a boss moves.

* `wire_valid_iff`: which pages of a state are valid.
* `combat_pages_valid`: **every page of every state of a run is valid exactly when every frame of the
  run fits what the cache keeps.**
* `adapter_pages_valid`: the frames of an adapter that reserves slot zero where a boss moves, and goes
  through a disabled frame between rooms, always fit.
-/

namespace Dk64Port.Coop

variable {s : CombatSync} {c : CombatCall} {f g : CoopCombatFrame} {e : CoopEnemy}

/-! ## What a valid frame is made of -/

theorem validCombat_iff : validCombat f = true ↔ validFrameHead f = true
    ∧ (∀ i, validEnemy f (f.enemies i) = true) ∧ (∀ i, validShot f (f.shots i) = true)
    ∧ distinctRecords f = true ∧ validBoss f f.boss = true
    ∧ validBossMotion f f.bossMotion = true
    ∧ ¬ (f.bossMotion.kind ≠ 0 ∧ (f.enemies 0).key ≠ 0) := by
  simp only [validCombat, Bool.and_eq_true, decide_eq_true_eq, and_assoc]

/-- The frame without its enemies, as if it were page zero. -/
def CoopCombatFrame.header (f : CoopCombatFrame) : CoopCombatFrame :=
  { f with enemies := fun _ => {}, page := 0 }

/-- The checks of a record that do not look at the frame around it. -/
def validEnemyRecord (e : CoopEnemy) : Bool := validEnemy { enabled := 1, layout := 1 } e

/-- The keys of one page. -/
def DistinctKeys (records : Fin coopEnemies → CoopEnemy) : Prop :=
  ∀ i j, j < i → (records i).key ≠ 0 → (records j).key ≠ (records i).key

/-- The frame has room for the record in slot `i`: a layout, and no boss motion in its place. -/
def CoopCombatFrame.Admits (f : CoopCombatFrame) (i : Fin coopEnemies) : Prop :=
  f.layout ≠ 0 ∧ (i = 0 → f.bossMotion.kind = 0)

instance (f : CoopCombatFrame) (i : Fin coopEnemies) : Decidable (f.Admits i) :=
  inferInstanceAs (Decidable (_ ∧ _))

theorem validEnemy_empty (f : CoopCombatFrame) : validEnemy f {} = true := rfl

theorem validEnemyRecord_empty : validEnemyRecord {} = true := validEnemy_empty _

theorem validEnemy_iff (hf : f.enabled ≠ 0) :
    validEnemy f e = true ↔ validEnemyRecord e = true ∧ (e.key ≠ 0 → f.layout ≠ 0) := by
  by_cases hk : e.key = 0
  · simp [validEnemyRecord, validEnemy, hk]
  · simp only [validEnemyRecord, validEnemy, if_neg hk, Bool.and_eq_true, decide_eq_true_eq]
    have h1 : (1 : Word) ≠ 0 := by decide
    constructor
    · rintro ⟨⟨⟨⟨⟨-, hl, h⟩, h'⟩, hx⟩, hy⟩, hz⟩
      exact ⟨⟨⟨⟨⟨⟨h1, h1, h⟩, h'⟩, hx⟩, hy⟩, hz⟩, fun _ => hl⟩
    · rintro ⟨⟨⟨⟨⟨⟨-, -, h⟩, h'⟩, hx⟩, hy⟩, hz⟩, hl⟩
      exact ⟨⟨⟨⟨⟨hf, hl hk, h⟩, h'⟩, hx⟩, hy⟩, hz⟩

theorem validFrameHead_page (h : validFrameHead f.header = true) (hf : f.enabled ≠ 0)
    (hp : f.page < f.pages) : validFrameHead f = true := by
  have h' := of_decide_eq_true h
  obtain ⟨h1, h2, h3, h4, -, h6⟩ := h'
  refine decide_eq_true ⟨h1, h2, h3, h4, fun h => hf h.1, fun ⟨_, h⟩ => h6 ⟨hf, ?_⟩⟩
  rcases h with h | h | h
  · exact .inl h
  · exact .inr (.inl h)
  · exact absurd hp (BitVec.not_lt.mpr h)

theorem distinctRecords_iff : distinctRecords f = true ↔
    DistinctKeys f.enemies ∧ distinctRecords f.header = true := by
  simp only [distinctRecords, Bool.and_eq_true, decide_eq_true_eq, DistinctKeys]
  constructor
  · rintro ⟨h1, h2⟩
    exact ⟨h1, fun i j _ h => absurd rfl h, h2⟩
  · rintro ⟨h1, -, h2⟩
    exact ⟨h1, h2⟩

/-- The header of a valid frame is valid. -/
theorem validCombat_header (h : validCombat f = true) : validCombat f.header = true := by
  obtain ⟨h1, -, h3, h4, h5, h6, -⟩ := validCombat_iff.mp h
  refine validCombat_iff.mpr ⟨?_, fun _ => ?_, h3, (distinctRecords_iff.mp h4).2, h5, h6,
    fun h => absurd rfl h.2⟩
  · obtain ⟨k1, k2, k3, k4, k5, k6⟩ := of_decide_eq_true h1
    refine decide_eq_true ⟨k1, k2, k3, k4, fun ⟨he, h⟩ => k5 ⟨he, ?_⟩, fun ⟨he, h⟩ => k6 ⟨he, ?_⟩⟩
    · rcases h with h | h | h | h | h
      · exact .inl h
      · exact .inr (.inl h)
      · exact .inr (.inr (.inl h))
      · exact absurd rfl h
      · exact .inr (.inr (.inr (.inr h)))
    · rcases h with h | h | h
      · exact .inl h
      · exact .inr (.inl h)
      · refine .inl ?_
        exact BitVec.le_zero_iff.mp h
  · exact validEnemy_empty _

/-- **A page of records under a valid header.** -/
theorem validCombat_page (h : validCombat f.header = true) (hf : f.enabled ≠ 0)
    (hp : f.page < f.pages) (hr : ∀ i, validEnemyRecord (f.enemies i) = true)
    (hd : DistinctKeys f.enemies) :
    validCombat f = true ↔ ∀ i, (f.enemies i).key ≠ 0 → f.Admits i := by
  obtain ⟨h1, -, h3, h4, h5, h6, -⟩ := validCombat_iff.mp h
  rw [validCombat_iff]
  constructor
  · rintro ⟨-, henemy, -, -, -, -, hslot⟩ i hk
    refine ⟨((validEnemy_iff hf).mp (henemy i)).2 hk, ?_⟩
    rintro rfl
    exact not_not.mp fun hm => hslot ⟨hm, hk⟩
  · intro ha
    refine ⟨validFrameHead_page h1 hf hp, fun i => ?_, h3, distinctRecords_iff.mpr ⟨hd, h4⟩, h5,
      h6, fun ⟨hm, hk⟩ => hm ((ha 0 hk).2 rfl)⟩
    exact (validEnemy_iff hf).mpr ⟨hr i, fun hk => (ha i hk).1⟩

/-! ## The frame of the game -/

theorem validCombat_empty : validCombat {} = true := by decide

theorem eq_empty_of_valid (h : validEnemy f e = true) (hk : e.key = 0) : e = {} := by
  rw [validEnemy, if_pos hk] at h
  exact of_decide_eq_true h

/-- The peer life of a record is not checked. -/
theorem validEnemy_setPeerLife {life : Word} (h : validEnemy f e = true) (hl : e.key = 0 → life = 0) :
    validEnemy f { e with peerLife := life } = true := by
  by_cases hk : e.key = 0
  · rw [hl hk, eq_empty_of_valid h hk]
    exact validEnemy_empty f
  · unfold validEnemy at h ⊢
    rw [if_neg hk] at h
    rw [if_neg hk]
    exact h

theorem validEnemy_mask (h : validEnemy f e = true) (mask : Word) :
    validEnemy f { e with peerLife := e.peerLife &&& mask } = true := by
  refine validEnemy_setPeerLife h fun hk => ?_
  rw [eq_empty_of_valid h hk]
  exact BitVec.zero_and

/-- The boss of a valid frame with another token of its peer. -/
theorem validBoss_setPeerLife {b : CoopBoss} {life : Word} (h : validBoss f b = true)
    (hz : b.kind = 0 → life = 0) (hl : life ≤ enemyLifeMask) :
    validBoss f { b with peerLife := life } = true := by
  unfold validBoss at h ⊢
  by_cases hk : b.kind = 0
  · rw [if_pos hk] at h
    rw [if_pos hk]
    obtain ⟨k1, -, k3⟩ := of_decide_eq_true h
    exact decide_eq_true ⟨k1, hz hk, k3⟩
  · rw [if_neg hk] at h
    rw [if_neg hk]
    obtain ⟨k1, k2, k3, k4, -, k6⟩ := of_decide_eq_true h
    exact decide_eq_true ⟨k1, k2, k3, k4, hl, k6⟩

/-- A valid frame stays valid when the bridge takes what it owns out of it. -/
theorem validCombat_strip (h : validCombat f = true) (mask : Word) :
    validCombat { f with
      enemies := fun i => { f.enemies i with peerLife := (f.enemies i).peerLife &&& mask }
      boss := { f.boss with peerLife := 0 } } = true := by
  obtain ⟨h1, h2, h3, h4, h5, h6, h7⟩ := validCombat_iff.mp h
  refine validCombat_iff.mpr ⟨h1, fun i => ?_, h3, h4, ?_, h6, h7⟩
  · exact validEnemy_mask (h2 i) mask
  · exact validBoss_setPeerLife h5 (fun _ => rfl) (by decide : (0 : Word) ≤ enemyLifeMask)

/-- The frame of the game: none, or the input without what the bridge owns. -/
theorem readbackFrame_cases (input : CoopCombatFrame) : readbackFrame input = {}
    ∨ validCombat input = true ∧ readbackFrame input =
      { input with
        enemies := fun i =>
          { input.enemies i with peerLife := (input.enemies i).peerLife &&& enemyPoseHashPackMask }
        boss := { input.boss with peerLife := 0 } } := by
  unfold readbackFrame
  dsimp only
  by_cases hv : validCombat input = true
  · rw [if_pos hv]
    split
    · exact .inl rfl
    · exact .inr ⟨hv, rfl⟩
  · rw [if_neg hv]
    refine .inl ?_
    split
    · rfl
    · simp only [show (0 : Word) &&& enemyPoseHashPackMask = 0 from by decide]

theorem validCombat_readback (input : CoopCombatFrame) : validCombat (readbackFrame input) = true := by
  rcases readbackFrame_cases input with h | ⟨hv, h⟩ <;> rw [h]
  · exact validCombat_empty
  · exact validCombat_strip hv _

theorem page_readback {input : CoopCombatFrame} (h : (readbackFrame input).enabled ≠ 0) :
    (readbackFrame input).page = input.page := by
  rcases readbackFrame_cases input with h' | ⟨-, h'⟩ <;> rw [h'] at h ⊢
  exact absurd rfl h

/-! ## The page cache -/

/-- The record a slot of the cache holds after a page was stored. -/
def storedRecord (pages : EnemyPages) (pageCount : Word) (frame : CoopCombatFrame)
    (page : Fin coopCombatPages) (slot : Fin coopEnemies) : CoopEnemy :=
  if page.val = frame.page.toNat then frame.enemies slot
  else if pageCount ≠ frame.pages then {}
  else if page.val < frame.pages.toNat
      ∧ ∃ i, (frame.enemies i).key ≠ 0 ∧ (pages page slot).key = (frame.enemies i).key then {}
  else pages page slot

theorem storeSlot_frame {pages : EnemyPages} {page : Fin coopCombatPages}
    (hp : page.val = f.page.toNat) (slot : Fin coopEnemies) :
    ∀ (l : List (Fin coopEnemies)), slot ∈ l ∨ pages page slot = f.enemies slot →
      l.foldl (storeSlot f) pages page slot = f.enemies slot := by
  intro l
  induction l generalizing pages with
  | nil => exact fun h => h.resolve_left (List.not_mem_nil)
  | cons i l ih =>
    intro h
    refine ih ?_
    by_cases hi : slot = i
    · right
      rw [storeSlot, if_pos ⟨hp, hi⟩, hi]
    · rcases h with h | h
      · exact .inl (List.mem_of_ne_of_mem hi h)
      · right
        rw [storeSlot, if_neg fun h => hi h.2, if_neg fun h => h.2.2.1 hp, h]

theorem storeSlot_other {pages : EnemyPages} {page : Fin coopCombatPages}
    (hp : page.val ≠ f.page.toNat) (slot : Fin coopEnemies) :
    ∀ (l : List (Fin coopEnemies)), l.foldl (storeSlot f) pages page slot =
      if page.val < f.pages.toNat
        ∧ ∃ i ∈ l, (f.enemies i).key ≠ 0 ∧ (pages page slot).key = (f.enemies i).key then {}
      else pages page slot := by
  intro l
  induction l generalizing pages with
  | nil => simp
  | cons i l ih =>
    rw [List.foldl_cons, ih]
    by_cases hc : (f.enemies i).key ≠ 0 ∧ page.val < f.pages.toNat ∧ page.val ≠ f.page.toNat
        ∧ (pages page slot).key = (f.enemies i).key
    · have h0 : storeSlot f pages i page slot = {} := by
        rw [storeSlot, if_neg fun h => hp h.1, if_pos hc]
      rw [h0, ite_self, if_pos ⟨hc.2.1, i, List.mem_cons_self, hc.1, hc.2.2.2⟩]
    · have h0 : storeSlot f pages i page slot = pages page slot := by
        rw [storeSlot, if_neg fun h => hp h.1, if_neg hc]
      rw [h0]
      refine if_congr (and_congr_right fun hl => ?_) rfl rfl
      rw [List.exists_mem_cons_iff]
      exact (or_iff_right fun h => hc ⟨h.1, hl, hp, h.2⟩).symm

/-- **What `store_page` leaves in a slot.** -/
theorem storePage_apply (pages : EnemyPages) (pageCount : Word) (page : Fin coopCombatPages)
    (slot : Fin coopEnemies) :
    storePage pages pageCount f page slot = storedRecord pages pageCount f page slot := by
  unfold storePage storedRecord
  by_cases hp : page.val = f.page.toNat
  · rw [if_pos hp]
    exact storeSlot_frame hp slot _ (.inl (List.mem_finRange slot))
  · rw [if_neg hp, storeSlot_other hp, if_neg hp]
    by_cases hc : pageCount ≠ f.pages
    · rw [if_pos hc, if_pos hc, ite_self]
    · rw [if_neg hc, if_neg hc]
      simp only [List.mem_finRange, true_and]

/-! ## The header of an update -/

/-- The header `g` is valid and shows what the header of `f` shows, the peer's token apart. -/
structure Shows (f g : CoopCombatFrame) : Prop where
  valid : validCombat g.header = true
  enabled : g.enabled = f.enabled
  layout : g.layout = f.layout
  pages : g.pages = f.pages
  bossMotion : g.bossMotion = f.bossMotion

theorem shows_self (h : validCombat f = true) : Shows f f :=
  ⟨validCombat_header h, rfl, rfl, rfl, rfl⟩

theorem Shows.of_header {f' : CoopCombatFrame} (h : Shows f g) (he : f'.header = g.header) :
    Shows f f' where
  valid := he ▸ h.valid
  enabled := (congrArg CoopCombatFrame.enabled he).trans h.enabled
  layout := (congrArg CoopCombatFrame.layout he).trans h.layout
  pages := (congrArg CoopCombatFrame.pages he).trans h.pages
  bossMotion := (congrArg CoopCombatFrame.bossMotion he).trans h.bossMotion

theorem Shows.setPeerLife {life : Word} (h : Shows f g) (hk : g.boss.kind ≠ 0)
    (hl : life ≤ enemyLifeMask) :
    Shows f { g with boss := { g.boss with peerLife := life } } where
  valid := by
    obtain ⟨h1, h2, h3, h4, h5, h6, h7⟩ := validCombat_iff.mp h.valid
    exact validCombat_iff.mpr
      ⟨h1, h2, h3, h4, validBoss_setPeerLife h5 (fun h => absurd h hk) hl, h6, h7⟩
  enabled := h.enabled
  layout := h.layout
  pages := h.pages
  bossMotion := h.bossMotion

/-- The header that is sent. -/
def CombatSync.shown (s : CombatSync) : CoopCombatFrame := s.outgoing.header

theorem shown_pairEnemy {host : Bool} {input : CoopCombatFrame} {i : Fin coopEnemies} :
    (s.pairEnemy host input i).shown = s.shown :=
  pairEnemy_keeps CombatSync.shown fun _ _ _ _ => rfl

theorem shown_pairLoop : (s.pairLoop c).shown = s.shown :=
  IndexedLoop.foldl_keeps CombatSync.shown (fun _ _ => shown_pairEnemy) _ _

theorem wire_eq {page : Word} (he : s.outgoing.enabled ≠ 0) (hp : page < s.outgoing.pages) :
    s.wire page = { s.outgoing with
      page := page
      enemies := fun i => s.wireEnemy (pageEnemy s.localPages page i) } := by
  have hz : s.outgoing.pages ≠ 0 := by
    rintro h
    rw [h] at hp
    exact BitVec.not_lt_zero hp
  unfold CombatSync.wire
  rw [if_neg (not_or.mpr ⟨he, not_or.mpr ⟨hz, BitVec.not_le.mpr hp⟩⟩)]

theorem header_wire {page : Word} (he : s.outgoing.enabled ≠ 0) (hp : page < s.outgoing.pages) :
    (s.wire page).header = s.outgoing.header := by
  rw [wire_eq he hp]
  rfl

theorem Shows.pairEnemies (h : Shows f s.outgoing) (he : f.enabled ≠ 0)
    (hp : c.input.page < f.pages) : Shows f (s.pairEnemies c).outgoing := by
  unfold CombatSync.pairEnemies
  dsimp only
  split
  · exact h
  · split
    · exact h
    · obtain ⟨s₁, hs₁⟩ : ∃ s₁, s₁ = CombatSync.allowMovement c.remote
        { s with output := { s.output with status := combatReady } } := ⟨_, rfl⟩
      have h₁ : Shows f s₁.outgoing := by
        rw [hs₁]
        exact h
      rw [← hs₁]
      have hl : Shows f (s₁.pairLoop c).outgoing := h₁.of_header shown_pairLoop
      generalize s₁.pairLoop c = s₂ at hl ⊢
      exact hl.of_header (header_wire (hl.enabled ▸ he) (hl.pages ▸ hp))

/-- The peer's token is a life of its valid boss. -/
theorem Shows.pairBoss (h : Shows f s.outgoing) (hv : validCombat c.remote = true) (host : Bool)
    (map : Word) : Shows f (s.pairBoss host map c.remote).outgoing := by
  have hadvance : ∀ (target : Word) (s : CombatSync),
      (s.advanceBoss target).outgoing = s.outgoing := by
    intro target s
    unfold CombatSync.advanceBoss
    split <;> rfl
  have hfollow : ∀ (expected : Word) (s : CombatSync),
      (s.followBoss host expected c.remote).outgoing = s.outgoing := by
    intro expected s
    unfold CombatSync.followBoss
    dsimp only
    split_ifs <;> rfl
  unfold CombatSync.pairBoss
  dsimp only
  split
  · rename_i hk
    obtain ⟨hne, hl, hr⟩ := hk
    have hlife : (s.bindBoss c.remote).bossBinding.peerLife ≤ enemyLifeMask := by
      have hb := (validCombat_iff.mp hv).2.2.2.2.1
      rw [validBoss, if_neg (hr ▸ hne)] at hb
      have hmask := (of_decide_eq_true hb).2.2.2.1
      unfold CombatSync.bindBoss
      dsimp only
      split
      · exact hmask
      · rename_i hsame
        simp only [not_or, not_not] at hsame
        rw [hsame.2.1]
        exact hmask
    have hbind : Shows f (s.bindBoss c.remote).outgoing := h.setPeerLife (hl ▸ hne) hlife
    generalize s.bindBoss c.remote = s₁ at hbind ⊢
    split
    · rw [hadvance, hfollow]
      exact hbind
    · exact hbind
  · exact h

theorem remote_of_engaged (h : c.engaged = true) : validCombat c.remote = true := by
  simp only [CombatCall.engaged, Bool.and_eq_true] at h
  exact h.1.1.1.1.2

theorem page_lt_pages (h : validCombat f = true) (he : f.enabled ≠ 0) : f.page < f.pages := by
  obtain ⟨-, -, -, -, -, h6⟩ := of_decide_eq_true (validCombat_iff.mp h).1
  exact BitVec.not_le.mp fun hp => h6 ⟨he, .inr (.inr hp)⟩

theorem pages_le (h : validCombat f = true) (he : f.enabled ≠ 0) :
    f.pages.toNat ≤ coopCombatPages := by
  obtain ⟨-, -, -, -, -, h6⟩ := of_decide_eq_true (validCombat_iff.mp h).1
  exact Nat.not_lt.mp fun hp => h6 ⟨he, .inr (.inl hp)⟩

/-- **The header of an update** is the one of the frame of the game. -/
theorem shows_update (s : CombatSync) (c : CombatCall) :
    Shows (readbackFrame c.input) (s.update c).outgoing := by
  have hv := validCombat_readback c.input
  cases hc : c.engaged with
  | false =>
    unfold CombatSync.update
    dsimp only
    split
    · exact shows_self hv
    · rw [if_pos (by rw [hc]; exact Bool.false_ne_true)]
      exact shows_self hv
  | true =>
    have he := enabled_of_engaged hc
    have hp : c.input.page < (readbackFrame c.input).pages :=
      page_readback he ▸ page_lt_pages hv he
    rw [update_eq_engage hc, engage_eq_pair]
    refine Shows.pairEnemies (Shows.pairBoss ?_ (remote_of_engaged hc) _ _) he hp
    rw [(entered_spec _ c).2.1]
    exact shows_self hv

/-! ## The cache of an update -/

/-- The cache of the game's pages outlives the call. -/
def CombatCall.carries (c : CombatCall) (s : CombatSync) : Bool :=
  decide (s.localPageCount = (readbackFrame c.input).pages)
    && (!c.engaged || decide (s.context = c.context))

/-- The record of an earlier frame that a slot still holds after the call. -/
def CombatCall.keptRecord (c : CombatCall) (s : CombatSync) (page : Fin coopCombatPages)
    (slot : Fin coopEnemies) : CoopEnemy :=
  let f := readbackFrame c.input
  if c.carries s = true ∧ page.val ≠ f.page.toNat ∧ page.val < f.pages.toNat
      ∧ ¬ ∃ i, (f.enemies i).key ≠ 0 ∧ (s.localPages page slot).key = (f.enemies i).key then
    s.localPages page slot
  else {}

theorem keptRecord_page {page : Fin coopCombatPages} {slot : Fin coopEnemies}
    (hk : (c.keptRecord s page slot).key ≠ 0) :
    page.val ≠ (readbackFrame c.input).page.toNat
    ∧ page.val < (readbackFrame c.input).pages.toNat := by
  unfold CombatCall.keptRecord at hk
  dsimp only at hk
  split at hk
  · rename_i hc
    exact ⟨hc.2.1, hc.2.2.1⟩
  · exact absurd rfl hk

/-- The frame of the call has room for the records that stay cached. -/
def CombatCall.Fits (c : CombatCall) (s : CombatSync) : Prop :=
  ∀ page slot, (c.keptRecord s page slot).key ≠ 0 → (readbackFrame c.input).Admits slot

instance (c : CombatCall) (s : CombatSync) : Decidable (c.Fits s) :=
  inferInstanceAs (Decidable (∀ _ _, _))

/-- **The cache after an update**: the page of the frame, and what is kept of the others. -/
theorem localPages_update_apply (he : (readbackFrame c.input).enabled ≠ 0)
    {page : Fin coopCombatPages} (hp : page.val < (readbackFrame c.input).pages.toNat)
    (slot : Fin coopEnemies) :
    (s.update c).localPages page slot =
      if page.val = (readbackFrame c.input).page.toNat then (readbackFrame c.input).enemies slot
      else c.keptRecord s page slot := by
  obtain ⟨f, hf⟩ : ∃ f, f = readbackFrame c.input := ⟨_, rfl⟩
  have hstored : c.carries s = decide (s.localPageCount = f.pages) →
      storePage s.localPages s.localPageCount f page slot =
        if page.val = f.page.toNat then f.enemies slot else c.keptRecord s page slot := by
    intro hc
    rw [storePage_apply, storedRecord, CombatCall.keptRecord, hc, ← hf]
    by_cases h1 : page.val = f.page.toNat
    · rw [if_pos h1, if_pos h1]
    · rw [if_neg h1, if_neg h1]
      by_cases h2 : s.localPageCount = f.pages
      · simp only [h2, decide_true, ne_eq, not_true_eq_false, if_false, h1, not_false_eq_true,
          true_and, hf ▸ hp]
        exact (ite_not _ _ _).symm
      · simp [h2]
  unfold CombatCall.carries at hstored
  rw [← hf] at hstored hp he ⊢
  cases hc : c.engaged with
  | false =>
    unfold CombatSync.update
    dsimp only
    rw [← hf, if_neg he, if_pos (by rw [hc]; exact Bool.false_ne_true)]
    exact hstored (by simp [hc])
  | true =>
    rw [update_eq_engage hc, (engage_spec _ c).2.2.2]
    unfold CombatSync.enter
    by_cases hx : s.context = c.context
    · rw [if_pos (show (s.stored c).context = c.context from hx)]
      change storePage s.localPages s.localPageCount (readbackFrame c.input) page slot = _
      rw [← hf]
      exact hstored (by simp [hx])
    · rw [if_neg (show ¬ (s.stored c).context = c.context from hx)]
      change storePage (fun _ _ => {}) 0 (readbackFrame c.input) page slot = _
      have hk : c.carries s = false := by simp [CombatCall.carries, hc, hx]
      rw [← hf, storePage_apply, storedRecord, CombatCall.keptRecord, hk]
      by_cases h1 : page.val = f.page.toNat
      · rw [if_pos h1, if_pos h1]
      · rw [if_neg h1, if_neg h1]
        simp only [ite_self, Bool.false_eq_true, false_and, if_false]

/-! ## One update -/

/-- The pages of the cache hold what earlier frames showed. -/
structure CachesRecords (s : CombatSync) : Prop where
  record : ∀ page slot, validEnemyRecord (s.localPages page slot) = true
  distinct : ∀ page, DistinctKeys (s.localPages page)

theorem distinctKeys_empty : DistinctKeys fun _ => {} := fun _ _ _ h => absurd rfl h

theorem validEnemyRecord_readback (input : CoopCombatFrame) (i : Fin coopEnemies) :
    validEnemyRecord ((readbackFrame input).enemies i) = true := by
  have hi := (validCombat_iff.mp (validCombat_readback input)).2.1 i
  by_cases hk : ((readbackFrame input).enemies i).key = 0
  · rw [eq_empty_of_valid hi hk]
    exact validEnemyRecord_empty
  · have he : (readbackFrame input).enabled ≠ 0 := by
      rw [validEnemy, if_neg hk] at hi
      simp only [Bool.and_eq_true] at hi
      exact (of_decide_eq_true hi.1.1.1.1).1
    exact ((validEnemy_iff he).mp hi).1

theorem distinctKeys_readback (input : CoopCombatFrame) :
    DistinctKeys (readbackFrame input).enemies :=
  (distinctRecords_iff.mp (validCombat_iff.mp (validCombat_readback input)).2.2.2.1).1

/-- Storing a page of distinct keys leaves every page with distinct keys. -/
theorem distinctKeys_storePage {pages : EnemyPages} (hf : DistinctKeys f.enemies)
    (hp : ∀ page, DistinctKeys (pages page)) (count : Word) (page : Fin coopCombatPages) :
    DistinctKeys (storePage pages count f page) := by
  intro i j hj
  rw [storePage_apply, storePage_apply]
  unfold storedRecord
  by_cases h1 : page.val = f.page.toNat
  · rw [if_pos h1, if_pos h1]
    exact hf i j hj
  · rw [if_neg h1, if_neg h1]
    by_cases h2 : count ≠ f.pages
    · rw [if_pos h2]
      exact fun h => absurd rfl h
    · rw [if_neg h2, if_neg h2]
      split
      · exact fun h => absurd rfl h
      · intro hk
        split
        · exact fun h => hk h.symm
        · exact hp page i j hj hk

/-- Where the cache of an update comes from. -/
theorem localPages_update_cases (s : CombatSync) (c : CombatCall) :
    (s.update c).localPages = (fun _ _ => {})
    ∨ ∃ pages count, (pages = s.localPages ∨ pages = fun _ _ => {})
      ∧ (s.update c).localPages = storePage pages count (readbackFrame c.input) := by
  cases hc : c.engaged with
  | true =>
    have hpages := (engage_spec (s.stored c) c).2.2.2
    rw [← update_eq_engage hc] at hpages
    rcases localPages_enter c.context (s.stored c) with he | he
    · exact .inr ⟨_, _, .inl rfl, hpages.trans he⟩
    · exact .inr ⟨_, _, .inr rfl, hpages.trans he⟩
  | false =>
    unfold CombatSync.update
    dsimp only
    split
    · exact .inl rfl
    · rw [if_pos (by rw [hc]; exact Bool.false_ne_true)]
      exact .inr ⟨_, _, .inl rfl, rfl⟩

/-- **Every update leaves valid records in the cache.** -/
theorem CachesRecords.update (h : CachesRecords s) (c : CombatCall) :
    CachesRecords (s.update c) := by
  rcases localPages_update_cases s c with hs | ⟨pages, count, hold, hs⟩
  · exact ⟨fun _ _ => by rw [hs]; exact validEnemyRecord_empty,
      fun _ => by rw [hs]; exact distinctKeys_empty⟩
  · have hpages : (∀ page slot, validEnemyRecord (pages page slot) = true)
        ∧ ∀ page, DistinctKeys (pages page) := by
      rcases hold with rfl | rfl
      · exact ⟨h.record, h.distinct⟩
      · exact ⟨fun _ _ => validEnemyRecord_empty, fun _ => distinctKeys_empty⟩
    refine ⟨?_, ?_⟩ <;> rw [hs]
    · exact storePage_entry (P := fun e => validEnemyRecord e = true) count validEnemyRecord_empty
        (validEnemyRecord_readback c.input) hpages.1
    · exact distinctKeys_storePage (distinctKeys_readback c.input) hpages.2 count

theorem key_wireEnemy (s : CombatSync) (e : CoopEnemy) : (s.wireEnemy e).key = e.key := by
  unfold CombatSync.wireEnemy
  split <;> rfl

/-- A defeat may be shown as a request, every other state as it is. -/
theorem wireState_cases (s : CombatSync) (e : CoopEnemy) :
    s.wireState e = e.state ∨ e.state = enemyDefeated ∧ s.wireState e = enemyRequest := by
  unfold CombatSync.wireState
  split
  · rename_i hd
    split
    · exact .inr ⟨hd.2, rfl⟩
    · split
      · exact .inr ⟨hd.2, rfl⟩
      · exact .inl rfl
  · exact .inl rfl

theorem validEnemyRecord_wireEnemy (s : CombatSync) (h : validEnemyRecord e = true) :
    validEnemyRecord (s.wireEnemy e) = true := by
  unfold CombatSync.wireEnemy
  by_cases hk : e.key = 0
  · rw [if_pos hk]
    exact h
  · rw [if_neg hk]
    refine validEnemy_setPeerLife (e := { e with state := s.wireState e }) ?_ fun h0 => absurd h0 hk
    unfold validEnemyRecord validEnemy at h
    unfold validEnemy
    rw [if_neg hk] at h
    rw [if_neg hk]
    rcases wireState_cases s e with hs | ⟨hd, hs⟩
    · rw [hs]
      exact h
    · simp only [Bool.and_eq_true, decide_eq_true_eq] at h ⊢
      rw [hd, if_neg (by decide)] at h
      rw [hs, if_neg (by decide)]
      obtain ⟨⟨⟨⟨⟨h1, h2, h3, h4, h5, -, -⟩, h6⟩, hx⟩, hy⟩, hz⟩ := h
      exact ⟨⟨⟨⟨⟨h1, h2, h3, h4, h5, by decide, by decide⟩, h6⟩, hx⟩, hy⟩, hz⟩

/-- **Which page of a state is valid.** -/
theorem wire_valid_iff (h : CachesRecords s) (hs : Shows f s.outgoing) (hf : f.enabled ≠ 0)
    {page : Word} (hp : page < f.pages) :
    validCombat (s.wire page) = true ↔
      ∀ i, (pageEnemy s.localPages page i).key ≠ 0 → f.Admits i := by
  have he : s.outgoing.enabled ≠ 0 := hs.enabled ▸ hf
  have hp' : page < s.outgoing.pages := hs.pages ▸ hp
  have hrecord : ∀ i, validEnemyRecord (pageEnemy s.localPages page i) = true := by
    intro i
    unfold pageEnemy
    split
    · exact h.record _ i
    · exact validEnemyRecord_empty
  have hdistinct : DistinctKeys (pageEnemy s.localPages page) := by
    unfold pageEnemy
    split
    · exact h.distinct _
    · exact distinctKeys_empty
  have hshow : Shows f (s.wire page) := hs.of_header (header_wire he hp')
  have hwire := wire_eq he hp'
  have hpage : (s.wire page).page = page := congrArg CoopCombatFrame.page hwire
  have henemies : (s.wire page).enemies = fun i => s.wireEnemy (pageEnemy s.localPages page i) :=
    congrArg CoopCombatFrame.enemies hwire
  have hlt : (s.wire page).page < (s.wire page).pages := by
    rw [hpage, hshow.pages]
    exact hp
  rw [validCombat_page hshow.valid (hshow.enabled ▸ hf) hlt]
  · rw [henemies]
    refine forall_congr' fun i => ?_
    rw [key_wireEnemy]
    unfold CoopCombatFrame.Admits
    rw [hshow.layout, hshow.bossMotion]
  · rw [henemies]
    exact fun i => validEnemyRecord_wireEnemy s (hrecord i)
  · rw [henemies]
    intro i j hj
    rw [key_wireEnemy, key_wireEnemy]
    exact hdistinct i j hj

/-- **Which updates leave every page valid.** -/
theorem wire_update_iff (h : CachesRecords s) (c : CombatCall) :
    (∀ page, validCombat ((s.update c).wire page) = true) ↔ c.Fits s := by
  have hv := validCombat_readback c.input
  have hs := shows_update s c
  by_cases he : (readbackFrame c.input).enabled = 0
  · have hpages : (readbackFrame c.input).pages = 0 := by
      obtain ⟨-, -, -, -, h5, -⟩ := of_decide_eq_true (validCombat_iff.mp hv).1
      exact not_not.mp fun hp => h5 ⟨he, .inr (.inr (.inr (.inr hp)))⟩
    constructor
    · intro _ page slot hk
      have hlt := (keptRecord_page hk).2
      rw [hpages] at hlt
      exact absurd hlt (Nat.not_lt_zero _)
    · intro _ page
      unfold CombatSync.wire
      rw [if_pos (.inl (hs.enabled.trans he))]
      exact validCombat_empty
  · have hle := pages_le hv he
    have hwire := fun page (hp : page < (readbackFrame c.input).pages) =>
      wire_valid_iff (h.update c) hs he hp
    constructor
    · intro hall page slot hk
      have hkept := keptRecord_page hk
      have hto : (BitVec.ofNat 32 page.val).toNat = page.val :=
        Nat.mod_eq_of_lt (page.isLt.trans (by decide))
      have hlt : BitVec.ofNat 32 page.val < (readbackFrame c.input).pages := by
        rw [BitVec.lt_def, hto]
        exact hkept.2
      refine (hwire _ hlt).mp (hall _) slot ?_
      unfold pageEnemy
      simp only [hto, page.isLt, dif_pos, Fin.eta]
      rw [localPages_update_apply he hkept.2, if_neg hkept.1]
      exact hk
    · intro hfits page
      by_cases hp : page < (readbackFrame c.input).pages
      · refine (hwire _ hp).mpr fun slot => ?_
        have hlt : page.toNat < coopCombatPages := (BitVec.lt_def.mp hp).trans_le hle
        unfold pageEnemy
        rw [dif_pos hlt, localPages_update_apply he (BitVec.lt_def.mp hp)]
        split
        · exact (validCombat_page (validCombat_header hv) he (page_lt_pages hv he)
            (validEnemyRecord_readback c.input) (distinctKeys_readback c.input)).mp hv slot
        · exact hfits _ slot
      · unfold CombatSync.wire
        rw [if_pos (.inr (.inr (hs.pages ▸ BitVec.not_lt.mp hp)))]
        exact validCombat_empty

/-! ## Runs -/

/-- The peer's `valid_combat` accepts the frame before it is sent and after it is decoded. -/
def Acceptable (f : CoopCombatFrame) : Prop :=
  validCombat f = true ∧ validCombat (combatFromWords (combatWords f)) = true

theorem acceptable_iff : Acceptable f ↔ validCombat f = true := by
  refine ⟨fun h => h.1, fun h => ⟨h, ?_⟩⟩
  rw [combatFromWords_combatWords h]
  exact h

theorem cachesRecords_run (calls : List CombatCall) :
    CachesRecords (Run.run CombatSync.update {} calls) :=
  Run.run_invariant_of_steps (fun _ c h => h.update c)
    ⟨fun _ _ => validEnemyRecord_empty, fun _ => distinctKeys_empty⟩ calls

/-- After a run whose every frame fits, every page is acceptable. -/
theorem acceptable_of_fits {calls : List CombatCall}
    (h : Run.Along CombatSync.update (fun s c => c.Fits s) {} calls) (page : Word) :
    Acceptable ((Run.run CombatSync.update {} calls).wire page) := by
  rw [acceptable_iff]
  induction calls using List.reverseRecOn with
  | nil => exact validCombat_empty
  | append_singleton sent c _ =>
    rw [Run.run_snoc]
    exact (wire_update_iff (cachesRecords_run sent) c).mpr (Run.along_append.mp h).2.1 page

/-- **Which runs send acceptable pages only**: those whose every frame has room for the records that
earlier frames left in the cache. -/
theorem combat_pages_valid (calls : List CombatCall) :
    Run.Along CombatSync.update (fun s c => c.Fits s) {} calls ↔
      ∀ sent, sent <+: calls →
        ∀ page, Acceptable ((Run.run CombatSync.update {} sent).wire page) := by
  constructor
  · rintro h sent ⟨rest, rfl⟩ page
    exact acceptable_of_fits (Run.along_append.mp h).1 page
  · intro h
    rw [Run.along_iff_prefix]
    intro sent c hsent
    refine (wire_update_iff (cachesRecords_run sent) c).mp fun page => ?_
    have hpage := (h _ hsent page).1
    rw [Run.run_snoc] at hpage
    exact hpage

/-- A page of `pages` pages on an otherwise empty map, with a beaver of key 17 or a boss motion. -/
def pageFrame (layout page pages : Word) (beaver boss : Bool) : CoopCombatFrame where
  enabled := 2
  file := 1
  layout := layout
  page := page
  pages := pages
  enemies := fun i =>
    if beaver = true ∧ i = 0 then
      { key := 17, life := 100, state := enemyAlive, kind := 1, yaw := enemyPack 0 5 }
    else {}
  boss := if boss then { kind := 1, life := 7 } else {}
  bossMotion := if boss then { kind := 1, life := 7 } else {}

/-- A call of a side that has no peer yet. -/
def aloneCall (input : CoopCombatFrame) : CombatCall where
  host := true
  player := {}
  input := input
  peer := {}
  remote := {}
  fresh := false

/-- A layout that is lost between two pages, and a boss that starts to move, leave a cached enemy on a
page the peer refuses. -/
theorem stale_page_refused :
    ¬ Acceptable ((Run.run CombatSync.update {} [aloneCall (pageFrame 0x1234 0 2 true false),
      aloneCall (pageFrame 0 1 2 false false)]).wire 0)
    ∧ ¬ Acceptable ((Run.run CombatSync.update {} [aloneCall (pageFrame 0x1234 0 2 true false),
      aloneCall (pageFrame 0x1234 1 2 false true)]).wire 0) := by
  rw [acceptable_iff, acceptable_iff]
  constructor <;> decide +kernel

/-! ## The frames of the game adapter -/

/-- A frame of the game adapter: one page without a layout; slot zero stays free in the room where
`reserve` holds, and elsewhere no boss moves on a map of several pages. -/
structure AdapterFrame (reserve : Bool) (f : CoopCombatFrame) : Prop where
  layout : f.layout = 0 → f.pages ≤ 1
  slot : reserve = true → (f.enemies 0).key = 0
  motion : reserve = false → f.bossMotion.kind ≠ 0 → f.pages ≤ 1

/-- What the adapter keeps in the cache leaves slot zero free. -/
def SlotFree (reserve : Bool) (s : CombatSync) : Prop :=
  reserve = true → ∀ page, (s.localPages page 0).key = 0

theorem SlotFree.update {reserve : Bool} (hs : SlotFree reserve s)
    (hf : AdapterFrame reserve (readbackFrame c.input)) : SlotFree reserve (s.update c) := by
  intro hr page
  rcases localPages_update_cases s c with h | ⟨pages, count, hold, h⟩
  · rw [h]
  · rw [h]
    have hpage : (pages page 0).key = 0 := by
      rcases hold with rfl | rfl
      · exact hs hr page
      · rfl
    rw [storePage_apply]
    unfold storedRecord
    split_ifs
    · exact hf.slot hr
    · rfl
    · rfl
    · exact hpage

/-- A record is kept from another page only. -/
theorem pages_of_kept {page : Fin coopCombatPages} {slot : Fin coopEnemies}
    (hk : (c.keptRecord s page slot).key ≠ 0) : ¬ (readbackFrame c.input).pages ≤ 1 := by
  obtain ⟨hne, hlt⟩ := keptRecord_page hk
  have hv := validCombat_readback c.input
  intro hone
  have h1 : (readbackFrame c.input).pages.toNat ≤ 1 := BitVec.le_def.mp hone
  have he : (readbackFrame c.input).enabled ≠ 0 := by
    intro he
    obtain ⟨-, -, -, -, h5, -⟩ := of_decide_eq_true (validCombat_iff.mp hv).1
    refine h5 ⟨he, .inr (.inr (.inr (.inr fun hp => ?_)))⟩
    rw [hp] at hlt
    exact absurd hlt (Nat.not_lt_zero _)
  have hpage := BitVec.lt_def.mp (page_lt_pages hv he)
  omega

theorem fits_of_reserved {reserve : Bool} (hs : SlotFree reserve s)
    (hf : AdapterFrame reserve (readbackFrame c.input)) : c.Fits s := by
  intro page slot hk
  have hmany := pages_of_kept hk
  refine ⟨fun h0 => hmany (hf.layout h0), ?_⟩
  rintro rfl
  cases hr : reserve with
  | false => exact not_not.mp fun hm => hmany (hf.motion hr hm)
  | true =>
    unfold CombatCall.keptRecord at hk
    dsimp only at hk
    split at hk
    · exact absurd (hs hr page) hk
    · exact absurd rfl hk

theorem readbackFrame_empty : readbackFrame {} = {} := by
  have hno : ¬ ∃ i, (({} : CoopCombatFrame).enemies i).state = enemyRequest := by
    rintro ⟨i, hi⟩
    exact absurd hi (show ¬ (0 : Word) = enemyRequest by decide)
  have hmask : (0 : Word) &&& enemyPoseHashPackMask = 0 := by decide
  unfold readbackFrame
  dsimp only
  rw [if_pos validCombat_empty, if_neg hno]
  simp only [hmask]

theorem AdapterFrame.readback {reserve : Bool} {f : CoopCombatFrame} (h : AdapterFrame reserve f) :
    AdapterFrame reserve (readbackFrame f) := by
  have hempty : AdapterFrame reserve {} := ⟨fun _ => by decide, fun _ => rfl, fun _ hm => absurd rfl hm⟩
  have hread : AdapterFrame reserve (if validCombat f then f else {}) := by
    split
    · exact h
    · exact hempty
  unfold readbackFrame
  dsimp only
  generalize (if validCombat f then f else {}) = f at hread
  split
  · exact hempty
  · exact ⟨hread.layout, hread.slot, hread.motion⟩

/-- A stay in a room: the frames of the room, and the disabled frame of the way out. -/
structure RoomVisit where
  reserve : Bool
  calls : List CombatCall
  door : CombatCall

/-- The calls of a stay. -/
def RoomVisit.all (v : RoomVisit) : List CombatCall := v.calls ++ [v.door]

/-- The adapter's frames while the room stays the same, and none on the way out. -/
structure RoomVisit.Adapted (v : RoomVisit) : Prop where
  calls : ∀ c ∈ v.calls, AdapterFrame v.reserve c.input
  door : readbackFrame v.door.input = {}

/-- The frames of a room fit, from a cache that leaves its slot free. -/
theorem fits_room {reserve : Bool} {calls : List CombatCall}
    (h : ∀ c ∈ calls, AdapterFrame reserve c.input) (hs : SlotFree reserve s) :
    Run.Along CombatSync.update (fun s c => c.Fits s) s calls :=
  Run.along_of_invariant (I := SlotFree reserve) (fun _ _ hf hs => hs.update hf)
    (fun _ _ hf hs => fits_of_reserved hs hf) hs
    (Run.along_of_forall fun c hc => (h c hc).readback)

/-- The way out fits any cache, and empties it. -/
theorem fits_door (hdoor : readbackFrame c.input = {}) : c.Fits s
    ∧ (s.update c).localPages = fun _ _ => {} := by
  constructor
  · intro page slot hk
    obtain ⟨-, hlt⟩ := keptRecord_page hk
    rw [hdoor] at hlt
    exact absurd hlt (Nat.not_lt_zero _)
  · unfold CombatSync.update
    dsimp only
    rw [hdoor, if_pos rfl]

/-- After any stays the cache is empty. -/
theorem fits_visits {visits : List RoomVisit} (hv : ∀ v ∈ visits, v.Adapted) :
    ∀ {s : CombatSync}, s.localPages = (fun _ _ => {}) →
      Run.Along CombatSync.update (fun s c => c.Fits s) s (visits.flatMap RoomVisit.all)
      ∧ (Run.run CombatSync.update s (visits.flatMap RoomVisit.all)).localPages = fun _ _ => {} := by
  induction visits with
  | nil => exact fun hs => ⟨trivial, hs⟩
  | cons v visits ih =>
    intro s hs
    obtain ⟨⟨hcalls, hdoor⟩, hv⟩ := List.forall_mem_cons.mp hv
    have hfree : SlotFree v.reserve s := fun _ page => by rw [hs]
    obtain ⟨hfits, hempty⟩ := fits_door (s := Run.run CombatSync.update s v.calls) hdoor
    have hone : (Run.run CombatSync.update s v.all).localPages = fun _ _ => {} := by
      rw [RoomVisit.all, Run.run_append]
      exact hempty
    obtain ⟨hrest, hlast⟩ := ih hv hone
    rw [List.flatMap_cons, Run.run_append]
    refine ⟨Run.along_append.mpr ⟨?_, hrest⟩, hlast⟩
    exact Run.along_append.mpr ⟨fits_room hcalls hfree, hfits, trivial⟩

/-- **The game adapter's pages are acceptable** on the way through any rooms. -/
theorem adapter_pages_valid {visits : List RoomVisit} (hv : ∀ v ∈ visits, v.Adapted) {reserve : Bool}
    {calls : List CombatCall} (h : ∀ c ∈ calls, AdapterFrame reserve c.input) (page : Word) :
    Acceptable ((Run.run CombatSync.update {} (visits.flatMap RoomVisit.all ++ calls)).wire page) := by
  refine acceptable_of_fits ?_ page
  have hstart : ({} : CombatSync).localPages = fun _ _ => {} := rfl
  obtain ⟨hvisits, hempty⟩ := fits_visits hv hstart
  exact Run.along_append.mpr ⟨hvisits, fits_room h fun _ page => by rw [hempty]⟩

end Dk64Port.Coop
