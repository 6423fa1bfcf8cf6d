import Dk64Port.Coop.CombatFrames
import Mathlib.Algebra.Group.Nat.Defs

/-!
# The rotation of the pages (`mod/combat_actor.h`)

The page counter goes up by one with every capture that lists enemies, and starts again with another
map, table or layout. While the table and its eligible slots stay, `pages` captures that list enemies
list every eligible slot exactly once, wherever the counter was.

* `capture_keys`: a capture lists one slice of the eligible slots.
* `position_capture`: the counter turns.
* `listedFrames_keys`: the frames of a stretch of a run list consecutive slices.
* `combat_paging`: **what the captures of a run list.**
-/

namespace Dk64Port.Coop.CombatGame

variable {cfg : CombatConfig} {room base : CombatRoom} {g : CombatGame} {i j : Nat}
  {e : CombatEvent} {es : List CombatEvent} {slots : List Nat}

/-! ## One capture -/

/-- The state in which a capture comes to the enemies. -/
def beforeEnemies (cfg : CombatConfig) (room : CombatRoom) (g : CombatGame) : CombatGame :=
  captureBoss cfg room (openFrame cfg room (g.prepare cfg room))

/-- The capture lists enemies. -/
def Lists (cfg : CombatConfig) (room : CombatRoom) (g : CombatGame) : Prop :=
  (g.prepare cfg room).Ready cfg room ∧ Listing room

instance : Decidable (Lists cfg room g) := inferInstanceAs (Decidable (_ ∧ _))

/-- The slots a capture finds eligible. -/
def eligibleSlots (cfg : CombatConfig) (room : CombatRoom) (g : CombatGame) : List Nat :=
  (counted room (refreshed room (beforeEnemies cfg room g)) room.spawners.zipIdx).map Prod.snd

/-- The keys of a frame. -/
def frameKeys (f : CoopCombatFrame) : List Word :=
  ((List.finRange coopEnemies).map fun k => (f.enemies k).key).filter (· ≠ 0)

theorem capture_of_ready (h : (g.prepare cfg room).Ready cfg room) :
    capture cfg room g = captureShots room (captureEnemies cfg room (beforeEnemies cfg room g)) :=
  if_pos h

theorem eligible_eq (cfg : CombatConfig) (room : CombatRoom) (g : CombatGame) :
    eligible room (beforeEnemies cfg room g) = (eligibleSlots cfg room g).length := by
  unfold eligible eligibleSlots
  rw [(refreshSlots_spec room _).1, List.length_map]
  rfl

/-- Records in their places have the keys of the records. -/
theorem filter_placed {first : Nat} {records : List CoopEnemy}
    (hlen : first + records.length ≤ coopEnemies) (hkeys : ∀ r ∈ records, r.key ≠ 0) :
    ((List.finRange coopEnemies).map fun k => (placed first records k).key).filter (· ≠ 0)
      = records.map CoopEnemy.key := by
  have hplaced : ∀ k : Fin coopEnemies, (placed first records k).key
      = if k.val < first then 0 else (records.getD (k.val - first) {}).key := by
    intro k
    unfold placed
    split <;> rfl
  have hsplit : ((List.finRange coopEnemies).map fun k => (placed first records k).key)
      = List.replicate first 0 ++ (records.map CoopEnemy.key
        ++ List.replicate (coopEnemies - first - records.length) 0) := by
    refine List.ext_getElem ?_ fun k hk hk' => ?_
    · rw [List.length_map, List.length_finRange, List.length_append, List.length_append,
        List.length_replicate, List.length_replicate, List.length_map]
      omega
    · rw [List.getElem_map, List.getElem_finRange, hplaced]
      show (if k < first then 0 else (records.getD (k - first) {}).key) = _
      by_cases h1 : k < first
      · rw [if_pos h1, List.getElem_append_left (by rwa [List.length_replicate]),
          List.getElem_replicate]
      · rw [if_neg h1, List.getElem_append_right (by rw [List.length_replicate]; omega)]
        by_cases h2 : k - first < records.length
        · rw [List.getElem_append_left (by rw [List.length_replicate, List.length_map]; exact h2),
            List.getElem_map, List.getD_eq_getElem?_getD, List.getElem?_eq_getElem h2,
            Option.getD_some]
          simp only [List.length_replicate]
        · rw [List.getElem_append_right
            (by rw [List.length_replicate, List.length_map]; omega), List.getElem_replicate,
            List.getD_eq_getElem?_getD, List.getElem?_eq_none (Nat.le_of_not_lt h2)]
          rfl
  have hzero : ∀ n, (List.replicate n (0 : Word)).filter (· ≠ 0) = [] := by
    intro n
    refine List.filter_eq_nil_iff.mpr fun w hw => ?_
    rw [(List.mem_replicate.mp hw).2]
    decide
  have hall : (records.map CoopEnemy.key).filter (· ≠ 0) = records.map CoopEnemy.key := by
    refine List.filter_eq_self.mpr fun w hw => ?_
    obtain ⟨r, hr, rfl⟩ := List.mem_map.mp hw
    exact decide_eq_true (hkeys r hr)
  rw [hsplit, List.filter_append, List.filter_append, hzero, hzero, hall, List.nil_append,
    List.append_nil]

theorem firstEnemy_capacity (cfg : CombatConfig) (room : CombatRoom) :
    firstEnemy cfg room + enemyCapacity cfg room = coopEnemies := by
  unfold firstEnemy enemyCapacity
  split <;> rfl

/-- The second pass lists what the first one counted. -/
theorem filter_admits (h : Sound g) :
    room.spawners.zipIdx.filter (admits room (refreshed room g))
      = counted room (refreshed room g) room.spawners.zipIdx := by
  have hs : Sound (refreshed room g) := sound_refreshSlots h
  refine List.filter_congr fun e he => ?_
  exact admits_iff_counts (fun i => (hs.slots i).kind_ne) ((refreshSlots_spec room _).2 e he)

/-- **A capture lists one slice of the eligible slots.** -/
theorem capture_keys (h : Sound g) (hl : Lists cfg room g) :
    frameKeys (capture cfg room g).input =
      Paging.slice (enemyCapacity cfg room) ((eligibleSlots cfg room g).map slotKey)
        ((refreshed room (beforeEnemies cfg room g)).capturePage.toNat
          % pagesFor cfg room (eligibleSlots cfg room g).length) := by
  have hp : Sound (g.prepare cfg room) := sound_prepare h
  have hb : Sound (beforeEnemies cfg room g) :=
    sound_captureBoss ⟨hp.slots, hp.boss, hp.file⟩
  have hlen : room.spawners.length ≤ 256 := hl.2.2.2.2.1
  obtain ⟨l, hsub, -, hlength, hrec⟩ := pageRecords_sublist cfg room
    (refreshed room (beforeEnemies cfg room g)) (pageStart cfg room (beforeEnemies cfg room g))
  have hkeys : ∀ r ∈ pageRecords cfg room (refreshed room (beforeEnemies cfg room g))
      (pageStart cfg room (beforeEnemies cfg room g)), r.key ≠ 0 := by
    intro r hr
    rw [hrec] at hr
    obtain ⟨e, he, rfl⟩ := List.mem_map.mp hr
    rw [entryRecord_key]
    exact slotKey_ne_zero (Nat.lt_of_lt_of_le (zipIdx_index_lt (hsub.subset he)) hlen)
  rw [capture_of_ready hl.1, captureShots, captureEnemies_of_listing hl.2]
  unfold frameKeys
  dsimp only
  rw [filter_placed ?_ hkeys, pageRecords_eq, filter_admits hb, List.map_map]
  · unfold Paging.slice eligibleSlots pageStart
    rw [List.map_map, ← List.map_drop, ← List.map_take, eligible_eq]
    refine List.map_congr_left fun e _ => entryRecord_key e
  · rw [hrec, List.length_map, ← firstEnemy_capacity cfg room]
    exact Nat.add_le_add_left hlength _

/-- The eligible slots have keys of their own. -/
theorem eligibleSlots_nodup (hl : Lists cfg room g) :
    ((eligibleSlots cfg room g).map slotKey).Nodup := by
  unfold eligibleSlots
  rw [List.map_map]
  exact keys_nodup List.filter_sublist hl.2.2.2.2.1

/-- The page count of a capture that lists enemies. -/
theorem capture_pages (hl : Lists cfg room g) : (capture cfg room g).input.pages.toNat
    = pagesFor cfg room (eligibleSlots cfg room g).length := by
  rw [capture_of_ready hl.1, captureShots, captureEnemies_of_listing hl.2, ← eligible_eq]
  exact toNat_pagesFor cfg room (Nat.le_trans (eligible_le room _) hl.2.2.2.2.1)

/-! ## The page counter -/

/-- The immutable identity of a spawner. -/
def EnemySpawner.identity (s : EnemySpawner) : Nat × BitVec 16 × BitVec 16 × BitVec 16 :=
  (s.enemyValue, s.xPos, s.yPos, s.zPos)

/-- The room has the map and the spawner table of `base`. -/
structure SameTable (base room : CombatRoom) : Prop where
  map : room.currentMap = base.currentMap
  table : room.table = base.table
  identities : room.spawners.map EnemySpawner.identity = base.spawners.map EnemySpawner.identity

/-- The layout hash reads the identities alone. -/
theorem layoutHash_congr (h : SameTable base room) : layoutHash room = layoutHash base := by
  have hfold : ∀ r : CombatRoom, layoutHash r
      = (fun hash : Word => if hash ≠ 0 then hash else 1)
        ((r.spawners.map EnemySpawner.identity).zipIdx.foldl (fun hash d =>
          [BitVec.ofNat 32 d.2, BitVec.ofNat 32 d.1.1, d.1.2.1.setWidth 32, d.1.2.2.1.setWidth 32,
            d.1.2.2.2.setWidth 32].foldl hashField hash) 2166136261) := by
    intro r
    rw [List.zipIdx_map, List.foldl_map]
    rfl
  rw [hfold, hfold, h.identities]

theorem enemyCapacity_congr (h : SameTable base room) :
    enemyCapacity cfg room = enemyCapacity cfg base := by
  unfold enemyCapacity reservesSlot
  rw [h.map]

theorem pagesFor_congr (h : SameTable base room) (n : Nat) :
    pagesFor cfg room n = pagesFor cfg base n := by
  unfold pagesFor
  rw [enemyCapacity_congr h]

/-- Where the page counter stands for the table of `base`: at zero when it has to start again. -/
def position (base : CombatRoom) (g : CombatGame) : Nat :=
  if g.map = base.currentMap ∧ g.layout = layoutHash base ∧ g.table = base.table then
    g.capturePage.toNat
  else 0

/-- What the page counter depends on. -/
def SamePage (g g' : CombatGame) : Prop :=
  g'.map = g.map ∧ g'.layout = g.layout ∧ g'.table = g.table ∧ g'.capturePage = g.capturePage

theorem samePage_refl (g : CombatGame) : SamePage g g := ⟨rfl, rfl, rfl, rfl⟩

theorem SamePage.trans {g₁ g₂ g₃ : CombatGame} (h : SamePage g₁ g₂) (h' : SamePage g₂ g₃) :
    SamePage g₁ g₃ :=
  ⟨h'.1.trans h.1, h'.2.1.trans h.2.1, h'.2.2.1.trans h.2.2.1, h'.2.2.2.trans h.2.2.2⟩

theorem SamePage.position {g' : CombatGame} (h : SamePage g g') :
    position base g' = position base g := by
  obtain ⟨hmap, hlayout, htable, hpage⟩ := h
  unfold CombatGame.position
  rw [hmap, hlayout, htable, hpage]

theorem samePage_confirm (l : List CoopEnemy) : SamePage g (l.foldl confirm g) := by
  induction l generalizing g with
  | nil => exact samePage_refl g
  | cons done l ih =>
    refine SamePage.trans ?_ ih
    unfold confirm
    split
    · exact samePage_refl g
    · dsimp only
      split <;> exact ⟨rfl, rfl, rfl, rfl⟩

theorem samePage_bindFile (g : CombatGame) : SamePage g (bindFile cfg room g) := by
  unfold bindFile
  split_ifs <;> exact ⟨rfl, rfl, rfl, rfl⟩

theorem samePage_trackBoss (g : CombatGame) (kind : Word) (found : Option Nat) :
    SamePage g (trackBoss room g kind found) := by
  rcases trackBoss_cases room g kind found with e | ⟨a, -, -, e⟩
  · rw [e]
    exact samePage_refl g
  · rw [e]
    rcases refreshBoss_cases room g kind a (bossPhase kind (room.actor a)) with ⟨-, p, -, e'⟩ | e' <;>
    · rw [e']
      exact ⟨rfl, rfl, rfl, rfl⟩

theorem samePage_beforeEnemies (cfg : CombatConfig) (room : CombatRoom) (g : CombatGame) :
    SamePage (g.prepare cfg room) (beforeEnemies cfg room g) := by
  unfold beforeEnemies
  rcases captureBoss_cases cfg room (openFrame cfg room (g.prepare cfg room)) rfl with
    e | e | ⟨-, -, -, e⟩
  · rw [e]
    exact ⟨rfl, rfl, rfl, rfl⟩
  · rw [e]
    exact samePage_trackBoss (openFrame cfg room (g.prepare cfg room)) _ _
  · rw [e]
    exact samePage_trackBoss (openFrame cfg room (g.prepare cfg room)) _ _

/-- Without a transition the preparations leave the counter where it stands. -/
theorem position_prepare (cfg : CombatConfig) (g : CombatGame) (hsame : SameTable base room)
    (htr : room.transition = false) : position base (g.prepare cfg room) = position base g
      ∧ (g.prepare cfg room).map = base.currentMap := by
  have hleave : ∀ g : CombatGame, leaveRoom room g = g := fun g => if_neg (by rw [htr]; decide)
  have hconfirm : SamePage g { room.apply.foldl confirm g with input := {} } :=
    samePage_confirm room.apply
  unfold prepare
  rw [hleave, (samePage_bindFile _).position, (samePage_bindFile _).1,
    ← @SamePage.position base _ _ hconfirm]
  generalize ({ room.apply.foldl confirm g with input := {} } : CombatGame) = g'
  unfold changeMap
  split
  · rename_i hne
    refine ⟨?_, hsame.map⟩
    have h0 : (0 : Word) ≠ layoutHash base := (layoutHash_ne_zero base).symm
    have hold : position base g' = 0 := if_neg fun h => hne (h.1.trans hsame.map.symm)
    have hnew : ∀ b : CombatGame, b.layout = 0 → position base b = 0 := fun b hb =>
      if_neg fun h => h0 (hb ▸ h.2.1)
    rw [hold]
    exact hnew _ rfl
  · rename_i hmap
    exact ⟨rfl, (not_not.mp hmap).trans hsame.map⟩

theorem settleLayout_page (hsame : SameTable base room) (hmap : g.map = base.currentMap) :
    (settleLayout room g).capturePage.toNat = position base g
      ∧ (settleLayout room g).map = base.currentMap := by
  unfold settleLayout position
  rw [layoutHash_congr hsame, hsame.table]
  split
  · rename_i hne
    refine ⟨?_, hmap⟩
    rw [if_neg]
    · rfl
    · rintro ⟨-, hl, ht⟩
      rcases hne with h | h
      · exact h hl
      · exact h ht
  · rename_i heq
    simp only [not_or, not_not] at heq
    exact ⟨(if_pos ⟨hmap, heq⟩).symm, hmap⟩

/-- The page of a capture that lists enemies is that of the counter. -/
theorem refreshed_page (cfg : CombatConfig) (g : CombatGame) (hsame : SameTable base room)
    (htr : room.transition = false) :
    (refreshed room (beforeEnemies cfg room g)).capturePage.toNat = position base g
      ∧ (refreshed room (beforeEnemies cfg room g)).map = base.currentMap := by
  obtain ⟨hpos, hmap⟩ := position_prepare cfg g hsame htr
  have hb := samePage_beforeEnemies cfg room g
  have hset := settleLayout_page hsame (hb.1.trans hmap)
  rw [hb.position, hpos] at hset
  unfold refreshed
  rw [refreshSlots_frame]
  exact hset

/-- **The counter turns with every capture that lists enemies**, and stays with the others. -/
theorem position_capture (cfg : CombatConfig) (g : CombatGame) (hsame : SameTable base room)
    (htr : room.transition = false) (hlt : position base g + 1 < 2 ^ 32) : position base (capture cfg room g)
      = if Lists cfg room g then position base g + 1 else position base g := by
  obtain ⟨hpos, hmap⟩ := position_prepare cfg g hsame htr
  have hb := samePage_beforeEnemies cfg room g
  by_cases hready : (g.prepare cfg room).Ready cfg room
  · rw [capture_of_ready hready]
    by_cases hlist : Listing room
    · obtain ⟨hpage, hmap'⟩ := refreshed_page cfg g hsame htr
      obtain ⟨-, hlayout, htable⟩ := refreshed_frame room (beforeEnemies cfg room g)
      have hone : (1 : Word).toNat = 1 := rfl
      rw [if_pos ⟨hready, hlist⟩, captureShots, captureEnemies_of_listing hlist]
      unfold position
      dsimp only
      rw [if_pos ⟨hmap', hlayout.trans (layoutHash_congr hsame), htable.trans hsame.table⟩,
        BitVec.toNat_add, hpage, hone, Nat.mod_eq_of_lt hlt]
      rfl
    · have hnone : captureEnemies cfg room (beforeEnemies cfg room g) = beforeEnemies cfg room g :=
        if_neg hlist
      rw [if_neg (fun h => hlist h.2), hnone, ← hpos, ← hb.position]
      rfl
  · have hprep : capture cfg room g = g.prepare cfg room := if_neg hready
    rw [if_neg (fun h => hready h.1), hprep, hpos]

/-! ## A stretch of a run -/

/-- The frames of the captures that list enemies. -/
def listedFrames (cfg : CombatConfig) : CombatGame → List CombatEvent → List CoopCombatFrame
  | _, [] => []
  | g, .capture room :: es =>
    if Lists cfg room g then
      (capture cfg room g).input :: listedFrames cfg (capture cfg room g) es
    else listedFrames cfg (capture cfg room g) es
  | g, .defeat i a :: es => listedFrames cfg (defeat g i a) es
  | g, .localKongChanged :: es => listedFrames cfg (localKongChanged g) es

/-- The spawner table stays that of `base`, and its eligible slots stay `slots`. -/
def Steady (cfg : CombatConfig) (base : CombatRoom) (slots : List Nat) (g : CombatGame) :
    CombatEvent → Prop
  | .capture room => SameTable base room ∧ room.transition = false
    ∧ (Lists cfg room g → eligibleSlots cfg room g = slots)
  | .defeat _ _ => True
  | .localKongChanged => True

/-- The captures of a run. -/
def captures (es : List CombatEvent) : Nat :=
  es.countP fun
    | .capture _ => true
    | _ => false

theorem samePage_defeat (g : CombatGame) (i a : Nat) : SamePage g (defeat g i a) := by
  unfold defeat
  split <;> exact ⟨rfl, rfl, rfl, rfl⟩

/-- **The frames of a stretch of a run list consecutive slices** of the eligible slots. -/
theorem listedFrames_keys : ∀ (es : List CombatEvent) (g : CombatGame), Sound g →
    Run.Along (step cfg) (Steady cfg base slots) g es → position base g + captures es < 2 ^ 32 →
    (listedFrames cfg g es).map frameKeys =
        (List.range (listedFrames cfg g es).length).map (fun k =>
          Paging.slice (enemyCapacity cfg base) (slots.map slotKey)
            ((position base g + k) % pagesFor cfg base slots.length))
      ∧ ∀ f ∈ listedFrames cfg g es, f.pages.toNat = pagesFor cfg base slots.length
        ∧ (slots.map slotKey).Nodup
  | [], _, _, _, _ => ⟨rfl, fun _ h => absurd h List.not_mem_nil⟩
  | .defeat i a :: es, g, hs, hw, hlt => by
    have hpos : position base (defeat g i a) = position base g := (samePage_defeat g i a).position
    rw [← hpos] at hlt ⊢
    have hs' : Sound (step cfg g (.defeat i a)) := sound_step hs _
    exact listedFrames_keys es (defeat g i a) hs' hw.2 hlt
  | .localKongChanged :: es, g, hs, hw, hlt =>
    have hs' : Sound (step cfg g .localKongChanged) := sound_step hs _
    listedFrames_keys es (localKongChanged g) hs' hw.2 hlt
  | .capture room :: es, g, hs, hw, hlt => by
    obtain ⟨⟨hsame, htr, hslots⟩, hrest⟩ := hw
    have hcount : captures (.capture room :: es) = captures es + 1 := List.countP_cons_of_pos rfl
    rw [hcount] at hlt
    have hpos := position_capture cfg g hsame htr (by omega)
    have hs' : Sound (capture cfg room g) := capture_sound hs
    by_cases hl : Lists cfg room g
    · rw [if_pos hl] at hpos
      obtain ⟨hkeys, hpages⟩ := listedFrames_keys es _ hs' hrest (by
        show position base (capture cfg room g) + _ < _
        omega)
      have hunfold : listedFrames cfg g (.capture room :: es) =
          (capture cfg room g).input :: listedFrames cfg (capture cfg room g) es := if_pos hl
      have helig := hslots hl
      rw [hunfold]
      constructor
      · rw [List.map_cons, List.length_cons, List.range_succ_eq_map, List.map_cons, List.map_map]
        refine List.cons_eq_cons.mpr ⟨?_, ?_⟩
        · rw [capture_keys hs hl, helig, (refreshed_page cfg g hsame htr).1, enemyCapacity_congr hsame,
            pagesFor_congr hsame, Nat.add_zero]
        · refine hkeys.trans (List.map_congr_left fun k _ => ?_)
          show Paging.slice _ _ ((position base (capture cfg room g) + k) % _) = _
          rw [hpos]
          show _ = Paging.slice _ _ ((position base g + (k + 1)) % _)
          congr 2
          omega
      · intro f hf
        rcases List.mem_cons.mp hf with rfl | hf
        · refine ⟨?_, ?_⟩
          · rw [capture_pages hl, helig, pagesFor_congr hsame]
          · rw [← helig]
            exact eligibleSlots_nodup hl
        · exact hpages f hf
    · rw [if_neg hl] at hpos
      have hunfold : listedFrames cfg g (.capture room :: es) =
          listedFrames cfg (capture cfg room g) es := if_neg hl
      rw [hunfold, ← hpos]
      exact listedFrames_keys es _ hs' hrest (by
        show position base (capture cfg room g) + _ < _
        omega)

/-! ## The counter never comes round -/

theorem leaveRoom_page (g : CombatGame) : (leaveRoom room g).capturePage = g.capturePage := by
  unfold leaveRoom
  split <;> rfl

theorem capturePage_prepare (cfg : CombatConfig) (room : CombatRoom) (g : CombatGame) :
    (g.prepare cfg room).capturePage.toNat ≤ g.capturePage.toNat := by
  have hconfirm : SamePage g { room.apply.foldl confirm g with input := {} } :=
    samePage_confirm room.apply
  unfold prepare
  rw [leaveRoom_page, (samePage_bindFile _).2.2.2]
  unfold changeMap
  split
  · exact Nat.zero_le _
  · exact Nat.le_of_eq (congrArg BitVec.toNat hconfirm.2.2.2)

theorem capturePage_capture (cfg : CombatConfig) (room : CombatRoom) (g : CombatGame) :
    (capture cfg room g).capturePage.toNat ≤ g.capturePage.toNat + 1 := by
  have hp := capturePage_prepare cfg room g
  by_cases hready : (g.prepare cfg room).Ready cfg room
  · have hb : (beforeEnemies cfg room g).capturePage = (g.prepare cfg room).capturePage :=
      (samePage_beforeEnemies cfg room g).2.2.2
    rw [capture_of_ready hready]
    by_cases hlist : Listing room
    · have hset : (settleLayout room (beforeEnemies cfg room g)).capturePage.toNat
          ≤ g.capturePage.toNat := by
        unfold settleLayout
        split
        · exact Nat.zero_le _
        · rw [hb]
          exact hp
      have hpage : (refreshed room (beforeEnemies cfg room g)).capturePage
          = (settleLayout room (beforeEnemies cfg room g)).capturePage := by
        unfold refreshed
        rw [refreshSlots_frame]
      have hone : (1 : Word).toNat = 1 := rfl
      rw [captureShots, captureEnemies_of_listing hlist]
      dsimp only
      rw [BitVec.toNat_add, hpage, hone]
      exact Nat.le_trans (Nat.mod_le _ _) (Nat.add_le_add_right hset 1)
    · rw [show captureEnemies cfg room (beforeEnemies cfg room g) = beforeEnemies cfg room g from
        if_neg hlist]
      show (beforeEnemies cfg room g).capturePage.toNat ≤ _
      rw [hb]
      omega
  · rw [show capture cfg room g = g.prepare cfg room from if_neg hready]
    omega

theorem capturePage_le (cfg : CombatConfig) : ∀ (es : List CombatEvent) (g : CombatGame),
    (Run.run (step cfg) g es).capturePage.toNat ≤ g.capturePage.toNat + captures es
  | [], _ => Nat.le_add_right _ _
  | .capture room :: es, g => by
    have hcount : captures (.capture room :: es) = captures es + 1 := List.countP_cons_of_pos rfl
    have hstep := capturePage_capture cfg room g
    have hrest := capturePage_le cfg es (capture cfg room g)
    rw [hcount]
    show (Run.run (step cfg) (capture cfg room g) es).capturePage.toNat ≤ _
    omega
  | .defeat i a :: es, g => by
    have hrest := capturePage_le cfg es (defeat g i a)
    rw [(samePage_defeat g i a).2.2.2] at hrest
    exact hrest
  | .localKongChanged :: es, g => capturePage_le cfg es (localKongChanged g)

theorem position_le (base : CombatRoom) (g : CombatGame) :
    position base g ≤ g.capturePage.toNat := by
  unfold position
  split
  · exact Nat.le_refl _
  · exact Nat.zero_le _

/-- **Any `pages` captures in a row list every eligible slot once.** -/
theorem listed_once {pre : List CombatEvent}
    (hw : Run.Along (step cfg) (Steady cfg base slots) (Run.run (step cfg) {} pre) es)
    (hlt : captures pre + captures es < 2 ^ 32)
    (hlen : (listedFrames cfg (Run.run (step cfg) {} pre) es).length
      = pagesFor cfg base slots.length) :
    ((listedFrames cfg (Run.run (step cfg) {} pre) es).flatMap frameKeys).Perm
      (slots.map slotKey) := by
  have hpage := capturePage_le cfg pre {}
  have hzero : ({} : CombatGame).capturePage.toNat = 0 := rfl
  have hpos := position_le base (Run.run (step cfg) {} pre)
  obtain ⟨hkeys, -⟩ := listedFrames_keys es _ (sound_run cfg pre) hw (by omega)
  rw [List.flatMap_def, hkeys, hlen, ← List.flatMap_def]
  refine Paging.slices_perm ?_ _
  rw [List.length_map]
  have hcap := (enemyCapacity_bounds cfg base).1
  have hlast := @Paging.last_page (enemyCapacity cfg base) slots.length (by omega)
  unfold pagesFor
  split
  · rename_i h0
    rw [h0] at hlast
    omega
  · exact hlast

/-! ## The captures of a run -/

/-- The keys and the page count of a capture, whatever the memory holds. -/
theorem capture_part (cfg : CombatConfig) (room : CombatRoom) (g : CombatGame) :
    (capture cfg room g).input.pages.toNat ≤ coopCombatPages
      ∧ DistinctKeys (capture cfg room g).input.enemies := by
  by_cases hready : (g.prepare cfg room).Ready cfg room
  · obtain ⟨b, m, hb⟩ := captureBoss_input cfg room (openFrame cfg room (g.prepare cfg room))
    have hin := prepare_input cfg room g
    have hpart : EnemyPart cfg room (captureEnemies cfg room (beforeEnemies cfg room g)).input := by
      unfold beforeEnemies
      refine captureEnemies_part ?_ ?_
      · rw [hb]
        unfold openFrame
        rw [hin]
      · rw [hb]
        unfold openFrame
        rw [hin]
        exact ⟨rfl, rfl⟩
    rw [capture_of_ready hready]
    exact ⟨hpart.pages.2.1, hpart.distinct⟩
  · rw [show capture cfg room g = g.prepare cfg room from if_neg hready, prepare_input]
    exact ⟨by decide, fun _ _ _ h => absurd rfl h⟩

/-- **What the captures of a run list.** After any run `pre`: a frame has at most fourteen pages and
no key twice; in a stretch `es` in which the table and its eligible slots stay, `pages` captures that
list enemies list every eligible slot exactly once, while the page counter has not come round; while
fewer than `2 ^ 26` lives were given out, the lives of the slots in use are nonzero and pairwise
distinct, the boss with them; and over admissible memory every frame is valid. -/
theorem combat_paging (cfg : CombatConfig) (pre : List CombatEvent) :
    let g := Run.run (step cfg) {} pre
    (∀ room, (capture cfg room g).input.pages.toNat ≤ coopCombatPages
        ∧ DistinctKeys (capture cfg room g).input.enemies)
      ∧ (∀ base slots es, Run.Along (step cfg) (Steady cfg base slots) g es →
          captures (pre ++ es) < 2 ^ 32 →
          (∀ f ∈ listedFrames cfg g es, f.pages.toNat = pagesFor cfg base slots.length
            ∧ (slots.map slotKey).Nodup)
          ∧ ((listedFrames cfg g es).length = pagesFor cfg base slots.length →
            ((listedFrames cfg g es).flatMap frameKeys).Perm (slots.map slotKey)))
      ∧ (g.spawns < 2 ^ 26 → (∀ i, (g.slots i).actor ≠ none → (g.slots i).life ≠ 0)
        ∧ ∀ k l, k ≠ l → g.token k ≠ 0 → g.token k ≠ g.token l)
      ∧ (Run.Along (step cfg) (AdmissibleStep cfg) {} pre → ∀ room, Admissible cfg g room →
        validCombat (capture cfg room g).input = true) := by
  have hs := sound_run cfg pre
  refine ⟨fun room => capture_part cfg room _, fun base slots es hw hlt => ?_, fun hlt => ⟨fun i =>
    (hs.slots i).life_ne, fun k l hkl hk => tokens_run hlt hkl hk⟩, fun hpre room ha =>
    capture_valid hs (soundShots_run hpre) ha⟩
  have hcount : captures pre + captures es < 2 ^ 32 := by
    unfold captures at hlt ⊢
    rwa [List.countP_append] at hlt
  have hpage := capturePage_le cfg pre {}
  have hpos := position_le base (Run.run (step cfg) {} pre)
  have hzero : ({} : CombatGame).capturePage.toNat = 0 := rfl
  exact ⟨(listedFrames_keys es _ hs hw (by omega)).2, listed_once hw hcount⟩

/-! ## More beavers than a page, beside a moving boss -/

/-- Movement is shared too. -/
def movingConfig : CombatConfig := ⟨2, by decide, fun _ _ => 0⟩

/-- The room of the Fungi spider, with thirty beavers. -/
def spiderRoom : CombatRoom where
  currentMap := 60
  registry := (List.range 31).map some
  actor a :=
    if a = 0 then
      { unk58 := 251, objectPropertiesBitfield := 0x10, health := 6, controlState := 0x1E
        unk178 := some ⟨0, 0, 0⟩ }
    else { unk58 := 178, objectPropertiesBitfield := 0x10, health := 1 }
  bossHooked := true
  table := some 0
  spawners := (List.range 30).map fun i => ⟨0, BitVec.ofNat 16 i, 0, 0, some (i + 1)⟩

/-- The channel in the room. -/
def spiderGame : CombatGame := Run.run (step movingConfig) {} [.capture spiderRoom]

theorem admissible_spider (g : CombatGame) : Admissible movingConfig g spiderRoom := by
  have hzero : boundedPosition 0 = true := by decide
  have hactor : ∀ a, ((spiderRoom.actor a).owned = false ∧ (spiderRoom.actor a).x = 0)
      ∧ (spiderRoom.actor a).y = 0 ∧ (spiderRoom.actor a).z = 0 := by
    intro a
    by_cases ha : a = 0 <;> simp only [spiderRoom, ha, if_true, if_false, and_self]
  have hnone : ∀ a, ¬ OwnShot spiderRoom a := by
    rintro a ⟨-, hown⟩
    rw [ownShot, (hactor a).1.1] at hown
    simp at hown
  refine ⟨fun a _ => ?_, fun a _ ha _ _ => absurd ha (hnone a), fun _ a ha _ => absurd ha (hnone a)⟩
  rw [(hactor a).1.2, (hactor a).2.1, (hactor a).2.2]
  exact ⟨hzero, hzero, hzero⟩

/-- Two captures list the thirty beavers once each, and every frame with the boss is valid. -/
theorem combat_paging_spider :
    let es : List CombatEvent := [.capture spiderRoom, .capture spiderRoom]
    ((listedFrames movingConfig spiderGame es).flatMap frameKeys).Perm
        ((List.range 30).map slotKey)
      ∧ (capture movingConfig spiderRoom spiderGame).input.bossMotion.kind = 11
      ∧ validCombat (capture movingConfig spiderRoom spiderGame).input = true
      ∧ ∀ k l, k ≠ l → spiderGame.token k ≠ 0 → spiderGame.token k ≠ spiderGame.token l := by
  have hsteady : Run.Along (step movingConfig) (Steady movingConfig spiderRoom (List.range 30))
      spiderGame [.capture spiderRoom, .capture spiderRoom] := by
    have hsame : SameTable spiderRoom spiderRoom := ⟨rfl, rfl, rfl⟩
    exact ⟨⟨hsame, rfl, by decide +kernel⟩, ⟨hsame, rfl, by decide +kernel⟩, trivial⟩
  obtain ⟨-, hpages, htokens, hvalid⟩ := combat_paging movingConfig [.capture spiderRoom]
  exact ⟨(hpages spiderRoom (List.range 30) _ hsteady (by decide)).2 (by decide +kernel),
    by decide +kernel, hvalid ⟨admissible_spider _, trivial⟩ spiderRoom (admissible_spider _),
    (htokens (by decide +kernel)).2⟩

/-! ## Two projectiles of one id -/

/-- Combat is shared. -/
def plainConfig : CombatConfig := ⟨1, by decide, fun _ _ => 0⟩

/-- Two projectiles of the player, of two kinds, with one spawn number. -/
def twoShots : CombatRoom where
  currentMap := 0
  registry := [some 1, some 2]
  actor a :=
    { unk54 := 7, unk58 := if a = 1 then 48 else 36, objectPropertiesBitfield := 0x10, owned := true }
  table := none
  spawners := []

/-- Both are listed under one id, and the frame is refused. -/
theorem twoShots_refused : Near twoShots
    ∧ validCombat (Run.run (step plainConfig) {} [.capture twoShots]).input = false := by
  have hzero : boundedPosition 0 = true := by decide
  exact ⟨fun _ _ => ⟨hzero, hzero, hzero⟩, by decide⟩

end Dk64Port.Coop.CombatGame
