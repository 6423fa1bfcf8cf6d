import Dk64Port.Coop.CombatCapture
import Mathlib.Algebra.Group.Nat.Defs

/-!
# The two passes over the spawner table (`mod/combat_actor.h`)

The first pass refreshes the slots and counts the eligible ones; the second lists one page of the
slots it finds live or defeated. The two agree on which slots those are, so a page is a slice of
the eligible slots.

* `refreshSlots_spec`: what the first pass leaves behind, and what it counts.
* `pageRecords_eq`: the second pass lists a slice of what it admits.
* `admits_iff_counts`: **the second pass admits exactly what the first one counted.**
-/

namespace Dk64Port.Coop.CombatGame

variable {cfg : CombatConfig} {room : CombatRoom} {g : CombatGame} {i j : Nat} {s : EnemySpawner}

/-! ## Small facts -/

@[simp] theorem setSlot_slots (slot : EnemySlot) :
    (g.setSlot i slot).slots j = if j = i then slot else g.slots j := rfl

theorem nextLife_ne_zero (c : Word) : nextLife c ≠ 0 := by
  unfold nextLife
  dsimp only
  split
  · decide
  · assumption

theorem nextLife_le (c : Word) : nextLife c ≤ enemyLifeMask := by
  unfold nextLife
  dsimp only
  split
  · decide
  · rw [BitVec.le_def, BitVec.toNat_and]
    exact Nat.and_le_right

theorem nextLife_toNat {c : Word} (h : c.toNat + 1 < 2 ^ 26) :
    (nextLife c).toNat = c.toNat + 1 := by
  have hand : ((c + 1) &&& enemyLifeMask).toNat = c.toNat + 1 := by
    have hm : enemyLifeMask.toNat = 2 ^ 26 - 1 := by decide
    have h1 : (1 : Word).toNat = 1 := rfl
    have hw : (c.toNat + 1) % 2 ^ 32 = c.toNat + 1 := Nat.mod_eq_of_lt (by omega)
    rw [BitVec.toNat_and, BitVec.toNat_add, hm, h1, Nat.and_two_pow_sub_one_eq_mod, hw,
      Nat.mod_eq_of_lt h]
  unfold nextLife
  dsimp only
  rw [if_neg]
  · exact hand
  · intro h0
    rw [h0] at hand
    have hz : (0 : Word).toNat = 0 := rfl
    omega

theorem combatEnemyKind_le (type : Nat) : combatEnemyKind type ≤ coopEnemyKindCount := by
  unfold combatEnemyKind
  split
  · rename_i i h
    have hi : i < combatEnemyTypes.length := (List.findIdx?_eq_some_iff_getElem.mp h).1
    have hlen : combatEnemyTypes.length = 34 := by decide
    rw [BitVec.le_def, BitVec.toNat_ofNat, Nat.mod_eq_of_lt (by omega)]
    have : coopEnemyKindCount.toNat = 34 := rfl
    omega
  · decide

/-! ## The first pass -/

/-- An enemy the channel knows stands in the spawner's place. -/
def stands (room : CombatRoom) (s : EnemySpawner) (a : Nat) : Prop :=
  s.tiedActor = some a ∧ registered room a = true ∧ combatEnemyKind (room.actor a).unk58 ≠ 0
    ∧ (room.actor a).objectPropertiesBitfield &&& 0x10 ≠ 0

/-- The slot holds the enemy of its spawner, when one stands there. -/
def Fresh (room : CombatRoom) (slot : EnemySlot) (s : EnemySpawner) : Prop :=
  ∀ a, stands room s a → slot.actor = some a ∧ slot.generation = (room.actor a).unk54
    ∧ slot.kind = combatEnemyKind (room.actor a).unk58

/-- What a refresh of slot `i` does: nothing, or a new token for the actor that stands there. -/
theorem refreshSlot_cases (room : CombatRoom) (g : CombatGame) (i : Nat) (s : EnemySpawner) :
    (refreshSlot room g i s = g ∧ Fresh room (g.slots i) s) ∨
      ∃ a, stands room s a ∧ refreshSlot room g i s =
        { g.setSlot i ⟨some a, (room.actor a).unk54, nextLife g.lifeCounter, false,
            combatEnemyKind (room.actor a).unk58⟩ with
          lifeCounter := nextLife g.lifeCounter, spawns := g.spawns + 1 } := by
  unfold refreshSlot
  cases ht : s.tiedActor with
  | none =>
    refine .inl ⟨rfl, fun a ha => ?_⟩
    rw [ha.1] at ht
    cases ht
  | some a =>
    dsimp only
    split
    · rename_i hc
      have hst : stands room s a := ⟨ht, hc⟩
      split
      · exact .inr ⟨a, hst, rfl⟩
      · rename_i hsame
        simp only [not_or, not_not] at hsame
        refine .inl ⟨rfl, fun b hb => ?_⟩
        obtain rfl : b = a := Option.some.inj (hb.1.symm.trans ht)
        exact hsame
    · rename_i hc
      refine .inl ⟨rfl, fun b hb => ?_⟩
      obtain rfl : b = a := Option.some.inj (hb.1.symm.trans ht)
      exact absurd hb.2 hc

theorem refreshSlot_slots (h : j ≠ i) : (refreshSlot room g i s).slots j = g.slots j := by
  rcases refreshSlot_cases room g i s with ⟨h', -⟩ | ⟨a, -, h'⟩
  · rw [h']
  · rw [h']
    exact if_neg h

theorem refreshSlot_fresh : Fresh room ((refreshSlot room g i s).slots i) s := by
  rcases refreshSlot_cases room g i s with ⟨h', hf⟩ | ⟨a, hst, h'⟩
  · rwa [h']
  · rw [h']
    intro b hb
    obtain rfl : b = a := Option.some.inj (hb.1.symm.trans hst.1)
    simp only [setSlot_slots, if_true]
    exact ⟨trivial, trivial, trivial⟩

/-- The slots of the table that count. -/
def counted (room : CombatRoom) (g : CombatGame) (l : List (EnemySpawner × Nat)) :
    List (EnemySpawner × Nat) := l.filter fun e => countsSlot room g e.2 e.1

theorem counted_cons (e : EnemySpawner × Nat) (l : List (EnemySpawner × Nat)) :
    (counted room g (e :: l)).length
      = (counted room g l).length + if countsSlot room g e.2 e.1 then 1 else 0 := by
  unfold counted
  rw [List.filter_cons]
  split <;> simp

theorem countsSlot_congr {g' : CombatGame} (h : g'.slots i = g.slots i) :
    countsSlot room g' i s = countsSlot room g i s := by
  simp only [countsSlot, h]

/-- One step of the first pass. -/
def refreshStep (room : CombatRoom) (acc : CombatGame × Nat) (e : EnemySpawner × Nat) :
    CombatGame × Nat :=
  (refreshSlot room acc.1 e.2 e.1,
    if countsSlot room (refreshSlot room acc.1 e.2 e.1) e.2 e.1 then acc.2 + 1 else acc.2)

theorem refreshSlots_eq (room : CombatRoom) (g : CombatGame) :
    refreshSlots room g = room.spawners.zipIdx.foldl (refreshStep room) (g, 0) := rfl

/-- **The first pass** from index `k`: earlier slots stay, later ones are fresh, and the count is
that of the slots that count in the end. -/
theorem refreshFold_spec : ∀ (l : List EnemySpawner) (k : Nat) (g : CombatGame) (n : Nat),
    let r := (l.zipIdx k).foldl (refreshStep room) (g, n)
    (∀ j, j < k → r.1.slots j = g.slots j) ∧ r.2 = n + (counted room r.1 (l.zipIdx k)).length ∧
      ∀ e ∈ l.zipIdx k, Fresh room (r.1.slots e.2) e.1
  | [], k, g, n => ⟨fun _ _ => rfl, rfl, by simp⟩
  | s :: l, k, g, n => by
    rw [List.zipIdx_cons, List.foldl_cons]
    generalize hacc : refreshStep room (g, n) (s, k) = acc
    obtain ⟨g₁, n₁⟩ := acc
    have hg₁ : g₁ = refreshSlot room g k s := (Prod.ext_iff.mp hacc).1.symm
    have hn₁ : n₁ = if countsSlot room g₁ k s then n + 1 else n := by
      rw [hg₁]
      exact (Prod.ext_iff.mp hacc).2.symm
    obtain ⟨hkeep, hcount, hfresh⟩ := refreshFold_spec l (k + 1) g₁ n₁
    have hk := hkeep k (Nat.lt_succ_self k)
    refine ⟨fun j hj => ?_, ?_, ?_⟩
    · rw [hkeep j (by omega), hg₁]
      exact refreshSlot_slots (by omega)
    · rw [counted_cons, countsSlot_congr hk, hcount, hn₁]
      split <;> omega
    · intro e he
      rcases List.mem_cons.mp he with rfl | he
      · rw [hk, hg₁]
        exact refreshSlot_fresh
      · exact hfresh e he

/-- **What the first pass leaves behind, and what it counts.** -/
theorem refreshSlots_spec (room : CombatRoom) (g : CombatGame) :
    (refreshSlots room g).2
        = (counted room (refreshSlots room g).1 room.spawners.zipIdx).length ∧
      ∀ e ∈ room.spawners.zipIdx, Fresh room ((refreshSlots room g).1.slots e.2) e.1 := by
  obtain ⟨-, hcount, hfresh⟩ := @refreshFold_spec room room.spawners 0 g 0
  rw [refreshSlots_eq]
  exact ⟨by rw [hcount, Nat.zero_add], hfresh⟩

/-! ## The second pass -/

/-- The second pass does not skip the slot. -/
def admits (room : CombatRoom) (g : CombatGame) (e : EnemySpawner × Nat) : Bool :=
  decide ((g.slots e.2).life ≠ 0) && (slotLive room (g.slots e.2) e.1 || (g.slots e.2).defeated)

/-- The record of a table entry. -/
def entryRecord (cfg : CombatConfig) (room : CombatRoom) (g : CombatGame)
    (e : EnemySpawner × Nat) : CoopEnemy := enemyRecord cfg room e.2 (g.slots e.2) e.1

theorem admits_eq_false (e : EnemySpawner × Nat) : admits room g e = false ↔
    (g.slots e.2).life = 0 ∨
      (slotLive room (g.slots e.2) e.1 = false ∧ (g.slots e.2).defeated = false) := by
  unfold admits
  rw [Bool.and_eq_false_iff, Bool.or_eq_false_iff, decide_eq_false_iff_not, ne_eq, not_not]

theorem listSlot_eq (first : Nat) (acc : Nat × List CoopEnemy) (e : EnemySpawner × Nat) :
    listSlot cfg room g first acc e =
      if coopEnemies ≤ firstEnemy cfg room + acc.2.length then acc
      else if admits room g e = false then acc
      else if acc.1 < first then (acc.1 + 1, acc.2)
      else (acc.1 + 1, acc.2 ++ [entryRecord cfg room g e]) := by
  simp only [admits_eq_false]
  rfl

/-- **The second pass** from any point of the table. -/
theorem listFold_eq (first : Nat) : ∀ (l : List (EnemySpawner × Nat)) (acc : Nat × List CoopEnemy),
    (l.foldl (listSlot cfg room g first) acc).2 = acc.2 ++
      ((((l.filter (admits room g)).drop (first - acc.1)).take
        (coopEnemies - firstEnemy cfg room - acc.2.length)).map (entryRecord cfg room g))
  | [], acc => by simp
  | e :: l, acc => by
    rw [List.foldl_cons, listFold_eq first l, listSlot_eq, List.filter_cons]
    by_cases hfull : coopEnemies ≤ firstEnemy cfg room + acc.2.length
    · rw [if_pos hfull]
      have hzero : coopEnemies - firstEnemy cfg room - acc.2.length = 0 := by omega
      rw [hzero, List.take_zero, List.take_zero]
    · rw [if_neg hfull]
      cases had : admits room g e with
      | false => simp
      | true =>
        simp only [Bool.true_eq_false, if_false, if_true]
        by_cases hlt : acc.1 < first
        · rw [if_pos hlt]
          have hsucc : first - acc.1 = (first - (acc.1 + 1)) + 1 := by omega
          rw [hsucc, List.drop_succ_cons]
        · rw [if_neg hlt]
          have hdrop : first - acc.1 = 0 := by omega
          have hdrop' : first - (acc.1 + 1) = 0 := by omega
          have htake : coopEnemies - firstEnemy cfg room - acc.2.length
              = (coopEnemies - firstEnemy cfg room - (acc.2.length + 1)) + 1 := by omega
          rw [hdrop, hdrop', List.drop_zero, List.drop_zero, htake, List.take_succ_cons,
            List.map_cons, List.length_append, List.length_singleton, List.append_assoc,
            List.singleton_append]

theorem capacity_eq (cfg : CombatConfig) (room : CombatRoom) :
    coopEnemies - firstEnemy cfg room = enemyCapacity cfg room := by
  unfold firstEnemy enemyCapacity
  split <;> rfl

/-- **A page is a slice of the slots the second pass admits.** -/
theorem pageRecords_eq (first : Nat) : pageRecords cfg room g first =
    (((room.spawners.zipIdx.filter (admits room g)).drop first).take
      (enemyCapacity cfg room)).map (entryRecord cfg room g) := by
  rw [pageRecords, listFold_eq, List.nil_append, List.length_nil, Nat.sub_zero, Nat.sub_zero,
    capacity_eq]

/-- The kinds of the slots are known. -/
def KindsKnown (g : CombatGame) : Prop := ∀ i, (g.slots i).actor ≠ none → (g.slots i).kind ≠ 0

/-- Nothing lives in a slot whose spawner is tied to no actor. -/
theorem slotLive_untied {slot : EnemySlot} (ht : s.tiedActor = none) :
    slotLive room slot s = false := by
  unfold slotLive
  cases slot.actor with
  | none => rfl
  | some b => simp [ht]

/-- What lives in a fresh slot is the enemy its spawner is tied to. -/
theorem slotLive_tied (hk : KindsKnown g) (hf : Fresh room (g.slots i) s) {a : Nat}
    (ht : s.tiedActor = some a) : slotLive room (g.slots i) s = (registered room a
      && decide (combatEnemyKind (room.actor a).unk58 ≠ 0)
      && decide ((room.actor a).objectPropertiesBitfield &&& 0x10 ≠ 0)
      && !(decide ((room.actor a).health.toInt ≤ 0) && !false)) := by
  unfold slotLive
  cases ha : (g.slots i).actor with
  | none =>
    -- a standing enemy would have been put into the slot
    by_cases hst : stands room s a
    · rw [(hf a hst).1] at ha
      cases ha
    · by_contra hne
      refine hst ⟨ht, ?_⟩
      have hb : (registered room a && decide (combatEnemyKind (room.actor a).unk58 ≠ 0)
          && decide ((room.actor a).objectPropertiesBitfield &&& 0x10 ≠ 0)
          && !(decide ((room.actor a).health.toInt ≤ 0) && !false)) = true := by
        simpa [and_assoc] using Ne.symm hne
      simp only [Bool.and_eq_true, decide_eq_true_eq] at hb
      exact ⟨hb.1.1.1, hb.1.1.2, hb.1.2⟩
  | some b =>
    rw [ht]
    dsimp only
    by_cases hst : stands room s a
    · obtain ⟨h1, h2, h3⟩ := hf a hst
      obtain rfl : b = a := Option.some.inj (ha.symm.trans h1)
      simp only [actorLive, h2, h3, hst.2.1, decide_true, Bool.and_true, Bool.true_and,
        hst.2.2.1, hst.2.2.2, ne_eq, not_false_eq_true, Bool.not_false]
      rw [← decide_not]
      congr 1
      exact propext (by omega)
    · have hno : ¬ (registered room a = true ∧ combatEnemyKind (room.actor a).unk58 ≠ 0
          ∧ (room.actor a).objectPropertiesBitfield &&& 0x10 ≠ 0) := fun h => hst ⟨ht, h⟩
      have hkind := hk i (by rw [ha]; exact Option.some_ne_none b)
      have h2 : (registered room a && decide (combatEnemyKind (room.actor a).unk58 ≠ 0)
          && decide ((room.actor a).objectPropertiesBitfield &&& 0x10 ≠ 0)) = false := by
        rw [← Bool.not_eq_true]
        simpa only [Bool.and_eq_true, decide_eq_true_eq, and_assoc] using hno
      rw [h2, Bool.false_and]
      by_contra hne
      simp only [Bool.not_eq_false, Bool.and_eq_true, decide_eq_true_eq, actorLive] at hne
      obtain ⟨⟨⟨⟨hab, hreg, -⟩, hk'⟩, hbit⟩, -⟩ := hne
      obtain rfl : a = b := Option.some.inj hab
      exact hno ⟨hreg, hk' ▸ hkind, hbit⟩

/-- **The second pass admits exactly what the first one counted.** -/
theorem admits_iff_counts (hk : KindsKnown g) (hf : Fresh room (g.slots i) s) :
    admits room g (s, i) = countsSlot room g i s := by
  unfold admits countsSlot
  dsimp only
  cases hd : (g.slots i).defeated with
  | true => rw [Bool.or_true, Bool.or_true]
  | false =>
    cases ht : s.tiedActor with
    | none => rw [slotLive_untied ht]
    | some a => rw [slotLive_tied hk hf ht]

/-! ## The boss -/

/-- What a refresh of the boss slot does: another phase, or a new token for the actor. -/
theorem refreshBoss_cases (room : CombatRoom) (g : CombatGame) (kind : Word) (a phase : Nat) :
    (g.boss.kind = kind ∧ ∃ p, (p = g.boss.phase ∨ p = phase) ∧
      refreshBoss room g kind a phase = { g with boss := { g.boss with phase := p } }) ∨
    refreshBoss room g kind a phase =
      { g with
        boss := ⟨some a, (room.actor a).unk54, nextLife g.lifeCounter, phase, kind⟩
        lifeCounter := nextLife g.lifeCounter
        spawns := g.spawns + 1 } := by
  unfold refreshBoss
  dsimp only
  by_cases hnew : g.boss.actor ≠ some a ∨ g.boss.generation ≠ (room.actor a).unk54
      ∨ g.boss.kind ≠ kind
  · rw [if_pos hnew]
    exact .inr (if_pos (Nat.le_refl phase))
  · rw [if_neg hnew]
    simp only [not_or, not_not] at hnew
    refine .inl ⟨hnew.2.2, ?_⟩
    split
    · exact ⟨phase, .inr rfl, rfl⟩
    · exact ⟨g.boss.phase, .inl rfl, rfl⟩

/-- What tracking the boss does to its slot. -/
theorem trackBoss_cases (room : CombatRoom) (g : CombatGame) (kind : Word) (found : Option Nat) :
    trackBoss room g kind found = g ∨ ∃ a, found = some a
      ∧ bossPhase kind (room.actor a) ≤ 4
      ∧ trackBoss room g kind found
        = refreshBoss room g kind a (bossPhase kind (room.actor a)) := by
  unfold trackBoss
  cases found with
  | none => exact .inl rfl
  | some a =>
    dsimp only
    split
    · rename_i h
      exact .inr ⟨a, rfl, h, rfl⟩
    · exact .inl rfl

/-- The motion that is shown: the frame's own, or that of the boss actor. -/
theorem shownMotion_cases (cfg : CombatConfig) (room : CombatRoom) (g : CombatGame) (kind : Word)
    (found : Option Nat) :
    shownMotion cfg room g kind found = g.input.bossMotion ∨
      2 ≤ cfg.enabled ∧ ∃ a, found = some a
        ∧ shownMotion cfg room g kind found
          = bossMotionOf cfg kind g.boss.life (room.actor a) := by
  unfold shownMotion
  cases found with
  | none => exact .inl rfl
  | some a =>
    dsimp only
    split
    · rename_i h
      exact .inr ⟨h, a, rfl, rfl⟩
    · exact .inl rfl

/-- **What the boss part of a capture does.** -/
theorem captureBoss_cases (cfg : CombatConfig) (room : CombatRoom) (g : CombatGame)
    {kind : Word} (hk : coopBossKind room.currentMap = kind) :
    captureBoss cfg room g = g ∨ captureBoss cfg room g = trackBoss room g kind (bossActor room kind)
      ∨ kind ≠ 0 ∧ (trackBoss room g kind (bossActor room kind)).boss.life ≠ 0
        ∧ (trackBoss room g kind (bossActor room kind)).boss.kind = kind
        ∧ captureBoss cfg room g
          = showBoss (trackBoss room g kind (bossActor room kind)) kind
              (shownMotion cfg room (trackBoss room g kind (bossActor room kind)) kind
                (bossActor room kind)) := by
  subst hk
  unfold captureBoss
  dsimp only
  split
  · exact .inl rfl
  · rename_i hno
    split
    · rename_i h
      exact .inr (.inr ⟨(not_or.mp hno).1, h.1, h.2.1, rfl⟩)
    · exact .inr (.inl rfl)

end Dk64Port.Coop.CombatGame
