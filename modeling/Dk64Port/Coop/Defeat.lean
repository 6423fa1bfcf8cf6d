import Dk64Port.Coop.CombatSync
import Dk64Port.Lib.IndexedLoop
import Dk64Port.Lib.Run
import Mathlib.Algebra.Group.Nat.Defs

/-!
# Defeats are committed by readback only

A defeat reaches the game of one side because the other side reported it for the same pair of lives.
The pair must have been seen alive on both sides in an earlier update, and nothing since may have
broken the context: neither a gap nor a new map, epoch, file or layout.

* `pairEnemies_spec`: what the loop over the enemies does to the bindings and the commands.
* `bindings_run`: **where a binding of a run comes from.**
* `defeat_by_readback`: **every defeat command, and every defeat a guest shows, has its readback.**
-/

namespace Dk64Port.Coop

variable {s s' : CombatSync} {c : CombatCall} {frame : CoopCombatFrame}
  {find : Word → Option CoopEnemy} {old : Fin coopEnemyKeys → Binding} {host : Bool}
  {i : Fin coopEnemies} {e p : CoopEnemy}

/-- The cached record of the peer for a key. -/
def CombatSync.cached (s : CombatSync) (key : Word) : Option CoopEnemy :=
  findEnemy s.remotePages s.remotePageCount key

/-- The frame shows one life of the binding alive and the cache shows the other alive. -/
structure SeesAlive (frame : CoopCombatFrame) (find : Word → Option CoopEnemy) (b : Binding) :
    Prop where
  here : ∃ i, (frame.enemies i).key = b.key ∧ (frame.enemies i).life = b.localLife
    ∧ (frame.enemies i).state = enemyAlive
  there : ∃ p, find b.key = some p ∧ p.life = b.peerLife ∧ p.state = enemyAlive

/-- A binding after the loop: none, the one before it, or one both sides of which are alive now. -/
inductive BoundBy (old : Fin coopEnemyKeys → Binding) (frame : CoopCombatFrame)
    (find : Word → Option CoopEnemy) (slot : Fin coopEnemyKeys) (b : Binding) : Prop
  | none (free : b.key = 0)
  | kept (same : b = old slot)
  | new (sees : SeesAlive frame find b)

/-- The pair of lives a command is about. -/
def commandBinding (a : CoopEnemy) : Binding where
  key := a.key
  localLife := a.life
  peerLife := a.peerLife
  kind := a.kind

/-- A defeat command answers the peer's record of a pair that was bound before the loop. -/
structure Commits (old : Fin coopEnemyKeys → Binding) (find : Word → Option CoopEnemy)
    (host : Bool) (a : CoopEnemy) : Prop where
  key : a.key ≠ 0
  bound : (old (keySlot a.key)).key = a.key ∧ (old (keySlot a.key)).localLife = a.life
    ∧ (old (keySlot a.key)).peerLife = a.peerLife
  readback : ∃ p, find a.key = some p ∧ p.life = a.peerLife ∧ enemyPeerLife p = a.life
    ∧ p.state = defeatTrigger host

theorem defeatTrigger_ne_alive (host : Bool) : defeatTrigger host ≠ enemyAlive := by
  cases host <;> decide

/-! ## The loop over the enemies -/

/-- What the loop keeps at every point; `old` are the bindings before it. -/
structure Pairing (old : Fin coopEnemyKeys → Binding) (frame : CoopCombatFrame)
    (find : Word → Option CoopEnemy) (host : Bool) (s : CombatSync) : Prop where
  cached : s.cached = find
  bindings : ∀ slot, BoundBy old frame find slot (s.bindings slot)
  apply : ∀ i, (s.output.apply i).state = enemyDefeated →
    Commits old find host (s.output.apply i)

variable {input : CoopCombatFrame} {b : Binding} {slot : Fin coopEnemyKeys} {state yaw : Word}

/-- A change that touches no binding and gives no new defeat command. -/
theorem Pairing.of_quiet (h : Pairing old frame find host s) (hc : s'.cached = s.cached)
    (hb : s'.bindings = s.bindings)
    (ha : ∀ i, (s'.output.apply i).state = enemyDefeated →
      s'.output.apply i = s.output.apply i) : Pairing old frame find host s' where
  cached := hc.trans h.cached
  bindings slot := by
    rw [hb]
    exact h.bindings slot
  apply i hi := by
    have hs := ha i hi
    rw [hs] at hi ⊢
    exact h.apply i hi

theorem Pairing.setBinding (h : Pairing old frame find host s)
    (hb : BoundBy old frame find slot b) :
    Pairing old frame find host { s with bindings := Function.update s.bindings slot b } where
  cached := h.cached
  bindings k := by
    by_cases hk : k = slot
    · subst hk
      dsimp only
      rw [Function.update_self]
      exact hb
    · dsimp only
      rw [Function.update_of_ne hk]
      exact h.bindings k
  apply := h.apply

theorem Pairing.command (h : Pairing old frame find host s)
    (hd : state = enemyDefeated → Commits old find host
      { key := e.key, life := e.life, state := state, peerLife := p.life, kind := e.kind
        yaw := yaw }) :
    Pairing old frame find host (s.command i e p state yaw) where
  cached := h.cached
  bindings := h.bindings
  apply j hj := by
    unfold CombatSync.command at hj ⊢
    dsimp only at hj ⊢
    by_cases hji : j = i
    · subst hji
      rw [Function.update_self] at hj ⊢
      exact hd hj
    · rw [Function.update_of_ne hji] at hj ⊢
      exact h.apply j hj

theorem Pairing.lowerHealth (h : Pairing old frame find host s) :
    Pairing old frame find host (s.lowerHealth host i e p) := by
  have htarget : ∀ target : Word, Pairing old frame find host
      (if target ≠ 0 ∧ target < enemyHealth e then
        s.command i e p enemyAlive (enemyPack 0 target) else s) := by
    intro target
    split
    · exact h.command fun hs => absurd hs (by decide)
    · exact h
  unfold CombatSync.lowerHealth
  by_cases ha : e.state = enemyAlive ∧ p.state = enemyAlive
  · rw [if_pos ha]
    exact htarget _
  · rw [if_neg ha]
    exact h

theorem Pairing.followMotion (h : Pairing old frame find host s) :
    Pairing old frame find host (s.followMotion host i e p) := by
  unfold CombatSync.followMotion
  split
  · exact h.of_quiet rfl rfl fun _ _ => rfl
  · exact h

/-- The binding the loop uses is about the two records at hand. -/
theorem renew_eq (hb : (b.renew e p).key ≠ 0) :
    (b.renew e p).key = e.key ∧ (b.renew e p).localLife = e.life
      ∧ (b.renew e p).peerLife = p.life := by
  unfold Binding.renew at hb ⊢
  by_cases hne : b.key ≠ e.key ∨ b.localLife ≠ e.life ∨ b.peerLife ≠ p.life
  · rw [if_pos hne] at hb ⊢
    by_cases ha : e.state = enemyAlive ∧ p.state = enemyAlive
    · rw [if_pos ha]
      exact ⟨rfl, rfl, rfl⟩
    · rw [if_neg ha] at hb
      exact absurd rfl hb
  · rw [if_neg hne]
    simp only [not_or, not_not] at hne
    exact hne

theorem renew_boundBy (h : BoundBy old frame find slot b) (he : frame.enemies i = e)
    (hp : find e.key = some p) : BoundBy old frame find slot (b.renew e p) := by
  unfold Binding.renew
  split
  · split
    · rename_i ha
      exact .new ⟨⟨i, by rw [he], by rw [he], by rw [he]; exact ha.1⟩, p, hp, rfl, ha.2⟩
    · exact .none rfl
  · exact h

/-- A peer that reports a defeat was bound in an earlier update. -/
theorem commits_of_boundBy (h : BoundBy old frame find (keySlot e.key) (b.renew e p))
    (hb : (b.renew e p).key ≠ 0) (hp : find e.key = some p) (hl : enemyPeerLife p = e.life)
    (ht : p.state = defeatTrigger host) :
    Commits old find host
      { key := e.key, life := e.life, state := state, peerLife := p.life, kind := e.kind
        yaw := yaw } := by
  obtain ⟨h1, h2, h3⟩ := renew_eq hb
  have hold : b.renew e p = old (keySlot e.key) := by
    rcases h with h0 | hk | ⟨-, p', hp', -, ha⟩
    · exact absurd h0 hb
    · exact hk
    · rw [h1, hp] at hp'
      cases hp'
      exact absurd (ht.symm.trans ha) (defeatTrigger_ne_alive host)
  exact ⟨h1 ▸ hb, ⟨hold ▸ h1, hold ▸ h2, hold ▸ h3⟩, p, hp, rfl, hl, ht⟩

theorem Pairing.settleEnemy (h : Pairing old frame find host s)
    (hd : p.state = defeatTrigger host → Commits old find host
      { key := e.key, life := e.life, state := enemyDefeated, peerLife := p.life, kind := e.kind
        yaw := 0 }) :
    Pairing old frame find host (s.settleEnemy host input i e p) := by
  unfold CombatSync.settleEnemy
  dsimp only
  have h₁ : Pairing old frame find host
      { s with output := { s.output with paired := s.output.paired + 1 } } :=
    h.of_quiet rfl rfl fun _ _ => rfl
  split
  · refine Pairing.command ?_ fun hs => absurd hs (by decide)
    split
    · exact h₁
    · exact h₁.of_quiet rfl rfl fun _ _ => rfl
  · have h₂ := (h₁.lowerHealth (i := i) (e := e) (p := p)).followMotion (i := i) (e := e) (p := p)
    split
    · rename_i ht
      exact h₂.command fun _ => hd ht.2
    · exact h₂

/-- **One record of the loop.** -/
theorem Pairing.pairEnemy (h : Pairing old frame find host s)
    (he : s.outgoing.enemies i = frame.enemies i) :
    Pairing old frame find host (s.pairEnemy host input i) := by
  unfold CombatSync.pairEnemy
  dsimp only
  rw [he]
  split
  · exact h
  · have hc : findEnemy s.remotePages s.remotePageCount (frame.enemies i).key
        = find (frame.enemies i).key := congrFun h.cached _
    rw [hc]
    split
    · exact h.setBinding (.none rfl)
    · rename_i p hp
      split
      · exact h.setBinding (.none rfl)
      · have hb := renew_boundBy (h.bindings (keySlot (frame.enemies i).key)) rfl hp
        have h₁ := h.setBinding hb
        split
        · exact h₁
        · rename_i hk
          split
          · exact h₁.of_quiet rfl rfl fun _ _ => rfl
          · rename_i hl
            refine Pairing.settleEnemy (h₁.of_quiet rfl rfl fun _ _ => rfl) fun ht => ?_
            exact commits_of_boundBy hb hk hp (not_not.mp hl) ht

/-- A record of the frame is changed at its own turn only. -/
theorem pairEnemy_others {j : Fin coopEnemies} (hj : j ≠ i) :
    (s.pairEnemy host input i).outgoing.enemies j = s.outgoing.enemies j := by
  have hcommand : ∀ (s : CombatSync) (e p : CoopEnemy) (state yaw : Word),
      (s.command i e p state yaw).outgoing = s.outgoing := fun _ _ _ _ _ => rfl
  have hlower : ∀ (s : CombatSync) (e p : CoopEnemy),
      (s.lowerHealth host i e p).outgoing = s.outgoing := by
    intro s e p
    unfold CombatSync.lowerHealth
    dsimp only
    split_ifs <;> rfl
  have hfollow : ∀ (s : CombatSync) (e p : CoopEnemy),
      (s.followMotion host i e p).outgoing = s.outgoing := by
    intro s e p
    unfold CombatSync.followMotion
    split_ifs <;> rfl
  have hsettle : ∀ (s : CombatSync) (e p : CoopEnemy),
      (s.settleEnemy host input i e p).outgoing.enemies j = s.outgoing.enemies j := by
    intro s e p
    unfold CombatSync.settleEnemy
    dsimp only
    split_ifs <;> simp [hcommand, hlower, hfollow, hj]
  unfold CombatSync.pairEnemy
  dsimp only
  split
  · rfl
  · split
    · rfl
    · split_ifs <;> simp [hsettle, hj]

/-- What the pairing never writes. -/
def CombatSync.base (s : CombatSync) : EnemyPages × CombatContext × Bool :=
  (s.localPages, s.context, s.localHost)

/-- The loop writes the bindings, the records of the frame and the commands. -/
theorem pairEnemy_keeps {α : Type} (π : CombatSync → α)
    (hπ : ∀ s b es o, π { s with
      bindings := b, outgoing := { s.outgoing with enemies := es }, output := o } = π s) :
    π (s.pairEnemy host input i) = π s := by
  have houtput : ∀ (s : CombatSync) (o : CoopCombatResult), π { s with output := o } = π s :=
    fun s o => hπ s s.bindings s.outgoing.enemies o
  have hcommand : ∀ (s : CombatSync) (e p : CoopEnemy) (state yaw : Word),
      π (s.command i e p state yaw) = π s := fun s _ _ _ _ => houtput s _
  have hlower : ∀ (s : CombatSync) (e p : CoopEnemy), π (s.lowerHealth host i e p) = π s := by
    intro s e p
    unfold CombatSync.lowerHealth
    dsimp only
    split_ifs <;> first | rfl | exact hcommand s e p _ _
  have hfollow : ∀ (s : CombatSync) (e p : CoopEnemy), π (s.followMotion host i e p) = π s := by
    intro s e p
    unfold CombatSync.followMotion
    split_ifs
    · exact houtput s _
    · rfl
  have hsettle : ∀ (s : CombatSync) (e p : CoopEnemy),
      π (s.settleEnemy host input i e p) = π s := by
    intro s e p
    unfold CombatSync.settleEnemy
    dsimp only
    split
    · rw [hcommand]
      split
      · exact houtput s _
      · exact hπ s s.bindings _ _
    · split
      · rw [hcommand, hfollow, hlower, houtput]
      · rw [hfollow, hlower, houtput]
  unfold CombatSync.pairEnemy
  dsimp only
  split
  · rfl
  · split
    · exact hπ s _ s.outgoing.enemies s.output
    · split
      · exact hπ s _ s.outgoing.enemies s.output
      · split
        · exact hπ s _ s.outgoing.enemies s.output
        · split
          · exact hπ s _ _ s.output
          · exact (hsettle _ _ _).trans (hπ s _ _ s.output)

theorem base_pairEnemy : (s.pairEnemy host input i).base = s.base :=
  pairEnemy_keeps CombatSync.base fun _ _ _ _ => rfl

/-- **The loop over the enemies.** -/
theorem Pairing.foldl :
    ∀ {l : List (Fin coopEnemies)} {s : CombatSync}, l.Nodup → Pairing old frame find host s →
      (∀ i ∈ l, s.outgoing.enemies i = frame.enemies i) →
      Pairing old frame find host (l.foldl (CombatSync.pairEnemy host input) s)
  | [], _, _, h, _ => h
  | i :: l, s, hn, h, he => by
    rw [List.nodup_cons] at hn
    rw [List.foldl_cons]
    refine Pairing.foldl hn.2 (h.pairEnemy (he i List.mem_cons_self)) fun j hj => ?_
    have hji : j ≠ i := fun e => hn.1 (e ▸ hj)
    rw [pairEnemy_others hji, he j (List.mem_cons_of_mem i hj)]

theorem Pairing.pairLoop (h : Pairing old frame find c.host s)
    (he : ∀ i, s.outgoing.enemies i = frame.enemies i) :
    Pairing old frame find c.host (s.pairLoop c) :=
  h.foldl (List.nodup_finRange coopEnemies) fun i _ => he i

theorem base_pairLoop : (s.pairLoop c).base = s.base :=
  IndexedLoop.foldl_keeps CombatSync.base (fun _ _ => base_pairEnemy) _ _

theorem base_pairEnemies : (s.pairEnemies c).base = s.base := by
  unfold CombatSync.pairEnemies
  dsimp only
  split
  · rfl
  · split
    · rfl
    · obtain ⟨s₁, hs₁⟩ : ∃ s₁, s₁ = CombatSync.allowMovement c.remote
        { s with output := { s.output with status := combatReady } } := ⟨_, rfl⟩
      have hb₁ : s₁.base = s.base := by
        rw [hs₁]
        rfl
      rw [← hs₁]
      have hb₂ : (s₁.pairLoop c).base = s.base := base_pairLoop.trans hb₁
      generalize s₁.pairLoop c = s₂ at hb₂ ⊢
      exact hb₂

/-- What the enemies' part of an update does. -/
theorem Pairing.pairEnemies (h : Pairing old frame find c.host s)
    (he : ∀ i, s.outgoing.enemies i = frame.enemies i) :
    Pairing old frame find c.host (s.pairEnemies c) := by
  unfold CombatSync.pairEnemies
  dsimp only
  split
  · exact ⟨h.cached, fun _ => .none rfl, h.apply⟩
  · split
    · exact ⟨h.cached, fun _ => .none rfl, h.apply⟩
    · obtain ⟨s₁, hs₁⟩ : ∃ s₁, s₁ = CombatSync.allowMovement c.remote
        { s with output := { s.output with status := combatReady } } := ⟨_, rfl⟩
      have h₁ : Pairing old frame find c.host s₁ := by
        rw [hs₁]
        exact h.of_quiet rfl rfl fun _ _ => rfl
      have he₁ : ∀ i, s₁.outgoing.enemies i = frame.enemies i := by
        rw [hs₁]
        exact he
      rw [← hs₁]
      have h₂ := h₁.pairLoop he₁
      generalize s₁.pairLoop c = s₂ at h₂ ⊢
      exact ⟨h₂.cached, h₂.bindings, h₂.apply⟩

/-! ## One update -/

/-- The boss is paired without touching the enemies. -/
structure SameEnemies (s s' : CombatSync) : Prop where
  cached : s'.cached = s.cached
  bindings : s'.bindings = s.bindings
  apply : s'.output.apply = s.output.apply
  enemies : s'.outgoing.enemies = s.outgoing.enemies
  base : s'.base = s.base

theorem SameEnemies.trans {s'' : CombatSync} (h : SameEnemies s s') (h' : SameEnemies s' s'') :
    SameEnemies s s'' :=
  ⟨h'.cached.trans h.cached, h'.bindings.trans h.bindings, h'.apply.trans h.apply,
    h'.enemies.trans h.enemies, h'.base.trans h.base⟩

theorem sameEnemies_followBoss (host : Bool) (expected : Word) (remote : CoopCombatFrame)
    (s : CombatSync) : SameEnemies s (s.followBoss host expected remote) := by
  unfold CombatSync.followBoss
  dsimp only
  split
  · split <;> exact ⟨rfl, rfl, rfl, rfl, rfl⟩
  · exact ⟨rfl, rfl, rfl, rfl, rfl⟩

theorem sameEnemies_advanceBoss (target : Word) (s : CombatSync) :
    SameEnemies s (s.advanceBoss target) := by
  unfold CombatSync.advanceBoss
  split <;> exact ⟨rfl, rfl, rfl, rfl, rfl⟩

theorem sameEnemies_pairBoss (host : Bool) (map : Word) (remote : CoopCombatFrame)
    (s : CombatSync) : SameEnemies s (s.pairBoss host map remote) := by
  unfold CombatSync.pairBoss
  dsimp only
  have hbind : SameEnemies s (s.bindBoss remote) := ⟨rfl, rfl, rfl, rfl, rfl⟩
  split
  · generalize s.bindBoss remote = s₁ at hbind ⊢
    split
    · refine hbind.trans (.trans ?_ (sameEnemies_advanceBoss _ _))
      refine .trans ?_ (sameEnemies_followBoss _ _ _ _)
      exact ⟨rfl, rfl, rfl, rfl, rfl⟩
    · exact hbind
  · exact ⟨rfl, rfl, rfl, rfl, rfl⟩

/-- Without a peer to pair with, nothing is bound and nothing is commanded. -/
theorem update_of_idle (h : c.engaged = false) :
    (s.update c).bindings = (fun _ => {}) ∧ (s.update c).output.apply = fun _ => {} := by
  unfold CombatSync.update
  dsimp only
  split
  · exact ⟨rfl, rfl⟩
  · rw [if_pos (by rw [h]; exact Bool.false_ne_true)]
    exact ⟨rfl, rfl⟩

theorem enabled_of_engaged (h : c.engaged = true) : (readbackFrame c.input).enabled ≠ 0 := by
  simp only [CombatCall.engaged, Bool.and_eq_true] at h
  exact of_decide_eq_true h.1.1.1.1.1.1

/-- The bindings an engaged update starts from. -/
def CombatSync.carried (s : CombatSync) (c : CombatCall) : Fin coopEnemyKeys → Binding :=
  if s.context = c.context then s.bindings else fun _ => {}

theorem localPages_enter (next : CombatContext) (s : CombatSync) :
    (s.enter next).localPages = s.localPages
    ∨ (s.enter next).localPages = storePage (fun _ _ => {}) 0 s.outgoing := by
  unfold CombatSync.enter
  split
  · exact .inl rfl
  · exact .inr rfl

/-- The engaged part of an update up to its pairing. -/
def CombatSync.entered (s : CombatSync) (c : CombatCall) : CombatSync :=
  let s : CombatSync :=
    { s with output := { status := combatShots, hands := c.remote.hands, shots := c.remote.shots } }
  let s := s.enter c.context
  { s with
    remotePages := storePage s.remotePages s.remotePageCount c.remote
    remotePageCount := c.remote.pages }

theorem engage_eq_pair (s : CombatSync) (c : CombatCall) :
    s.engage c = ((s.entered c).pairBoss c.host c.player.map c.remote).pairEnemies c := rfl

/-- What is left of the state when the pairing starts. -/
theorem entered_spec (s : CombatSync) (c : CombatCall) :
    (s.entered c).context = c.context ∧ (s.entered c).outgoing = s.outgoing
    ∧ (s.entered c).output.apply = (fun _ => {}) ∧ (s.entered c).localHost = s.localHost
    ∧ (s.entered c).bindings = s.carried c
    ∧ (s.entered c).localPages = (s.enter c.context).localPages := by
  unfold CombatSync.entered CombatSync.carried CombatSync.enter
  dsimp only
  by_cases h : s.context = c.context
  · rw [if_pos h, if_pos h, if_pos h]
    exact ⟨h, rfl, rfl, rfl, rfl, rfl⟩
  · rw [if_neg h, if_neg h, if_neg h]
    exact ⟨rfl, rfl, rfl, rfl, rfl, rfl⟩

theorem base_engage (s : CombatSync) (c : CombatCall) : (s.engage c).base = (s.entered c).base := by
  rw [engage_eq_pair, base_pairEnemies]
  exact (sameEnemies_pairBoss _ _ _ _).base

/-- The engaged part of an update, from a state that has stored the page of the call. -/
theorem engage_spec (s : CombatSync) (c : CombatCall) :
    Pairing (s.carried c) s.outgoing (s.engage c).cached c.host (s.engage c)
    ∧ (s.engage c).context = c.context ∧ (s.engage c).localHost = s.localHost
    ∧ (s.engage c).localPages = (s.enter c.context).localPages := by
  obtain ⟨hctx, hout, happly, hhost, hbind, hpages⟩ := entered_spec s c
  have hbase := base_engage s c
  refine ⟨?_, (congrArg (·.2.1) hbase).trans hctx, (congrArg (·.2.2) hbase).trans hhost,
    (congrArg (·.1) hbase).trans hpages⟩
  have hboss := sameEnemies_pairBoss c.host c.player.map c.remote (s.entered c)
  rw [engage_eq_pair]
  generalize (s.entered c).pairBoss c.host c.player.map c.remote = s₁ at hboss ⊢
  have h₁ : Pairing (s.carried c) s.outgoing s₁.cached c.host s₁ := by
    refine ⟨rfl, fun slot => .kept (by rw [hboss.bindings, hbind]), fun i hi => ?_⟩
    rw [hboss.apply, happly] at hi
    exact absurd (show (0 : Word) = enemyDefeated from hi) (by decide)
  have h₂ := h₁.pairEnemies fun i => by rw [hboss.enemies, hout]
  rw [h₂.cached]
  exact h₂

/-- The state of an update that has stored the page of the call. -/
def CombatSync.stored (s : CombatSync) (c : CombatCall) : CombatSync :=
  { s with
    localHost := c.host
    outgoing := readbackFrame c.input
    localPages := storePage s.localPages s.localPageCount (readbackFrame c.input)
    localPageCount := (readbackFrame c.input).pages
    output := { status := combatWaiting } }

theorem update_eq_engage (h : c.engaged = true) : s.update c = (s.stored c).engage c := by
  unfold CombatSync.update
  dsimp only
  rw [if_neg (enabled_of_engaged h), if_neg (by rw [h]; exact not_not.mpr rfl)]
  rfl

/-- **An engaged update.** -/
theorem update_of_engaged (h : c.engaged = true) :
    Pairing (s.carried c) (readbackFrame c.input) (s.update c).cached c.host (s.update c)
    ∧ (s.update c).context = c.context := by
  rw [update_eq_engage h]
  obtain ⟨h1, h2, -, -⟩ := engage_spec (s.stored c) c
  exact ⟨h1, h2⟩

/-! ## Runs -/

/-- The call is engaged in the context. -/
def EngagedIn (ctx : CombatContext) (c : CombatCall) : Prop :=
  c.engaged = true ∧ c.context = ctx

/-- Some call of the run saw both lives alive, and that call and all later ones are engaged in one
context. -/
def SeenAlive (es : List CombatCall) (ctx : CombatContext) (b : Binding) : Prop :=
  ∃ pre c mid, es = pre ++ c :: mid
    ∧ SeesAlive (readbackFrame c.input)
      ((Run.run CombatSync.update {} pre).update c).cached b
    ∧ ∀ c' ∈ c :: mid, EngagedIn ctx c'

theorem SeenAlive.snoc {es : List CombatCall} {ctx : CombatContext} {b : Binding}
    (h : SeenAlive es ctx b) (hc : EngagedIn ctx c) : SeenAlive (es ++ [c]) ctx b := by
  obtain ⟨pre, c₀, mid, rfl, hs, hall⟩ := h
  refine ⟨pre, c₀, mid ++ [c], by simp, hs, fun c' hc' => ?_⟩
  rw [← List.cons_append, List.mem_append, List.mem_singleton] at hc'
  rcases hc' with hc' | rfl
  · exact hall c' hc'
  · exact hc

/-- **Where the bindings of a run come from.** -/
theorem bindings_run (es : List CombatCall) (slot : Fin coopEnemyKeys) :
    ((Run.run CombatSync.update {} es).bindings slot).key ≠ 0 →
      SeenAlive es (Run.run CombatSync.update {} es).context
        ((Run.run CombatSync.update {} es).bindings slot) := by
  induction es using List.reverseRecOn with
  | nil => exact fun h => absurd rfl h
  | append_singleton es c ih =>
    rw [Run.run_snoc]
    generalize hs : Run.run CombatSync.update {} es = s at ih ⊢
    intro hkey
    cases hc : c.engaged with
    | false =>
      rw [(update_of_idle hc).1] at hkey
      exact absurd rfl hkey
    | true =>
      obtain ⟨hp, hctx⟩ := update_of_engaged (s := s) hc
      rw [hctx]
      rcases hp.bindings slot with h0 | hk | hsees
      · exact absurd h0 hkey
      · by_cases hsame : s.context = c.context
        · have hk' : (s.update c).bindings slot = s.bindings slot := by
            rw [hk, CombatSync.carried, if_pos hsame]
          rw [hk'] at hkey ⊢
          rw [← hsame]
          exact (ih hkey).snoc ⟨hc, hsame.symm⟩
        · rw [CombatSync.carried, if_neg hsame] at hk
          rw [hk] at hkey
          exact absurd rfl hkey
      · refine ⟨es, c, [], rfl, ?_, fun c' hc' => ?_⟩
        · rw [hs]
          exact hsees
        · rw [List.mem_singleton.mp hc']
          exact ⟨hc, rfl⟩

/-! ## What a guest shows -/

/-- A blank record is not defeated. -/
def NoBlankDefeat (e : CoopEnemy) : Prop := e.key = 0 → e.state ≠ enemyDefeated

theorem noBlankDefeat_empty : NoBlankDefeat {} := fun _ => by decide

theorem noBlankDefeat_of_valid {f : CoopCombatFrame} (hv : validCombat f = true)
    (i : Fin coopEnemies) : NoBlankDefeat (f.enemies i) := by
  intro hk
  simp only [validCombat, Bool.and_eq_true] at hv
  have he := of_decide_eq_true hv.1.1.1.1.1.2 i
  rw [validEnemy, if_pos hk] at he
  rw [of_decide_eq_true he]
  decide

theorem noBlankDefeat_readback (input : CoopCombatFrame) (i : Fin coopEnemies) :
    NoBlankDefeat ((readbackFrame input).enemies i) := by
  have hf : ∀ i, NoBlankDefeat
      ((if validCombat input then input else {} : CoopCombatFrame).enemies i) := by
    intro i
    by_cases hv : validCombat input = true
    · rw [if_pos hv]
      exact noBlankDefeat_of_valid hv i
    · rw [if_neg hv]
      exact noBlankDefeat_empty
  unfold readbackFrame
  generalize (if validCombat input then input else {} : CoopCombatFrame) = f at hf ⊢
  dsimp only
  split
  · exact noBlankDefeat_empty
  · exact hf i

/-- The role and the pages of an update. -/
theorem localPages_update (s : CombatSync) (c : CombatCall) :
    (s.update c).localHost = c.host
    ∧ ((∀ page slot, NoBlankDefeat (s.localPages page slot)) →
      ∀ page slot, NoBlankDefeat ((s.update c).localPages page slot)) := by
  have hframe := noBlankDefeat_readback c.input
  cases hc : c.engaged with
  | true =>
    rw [update_eq_engage hc]
    obtain ⟨-, -, h3, h4⟩ := engage_spec (s.stored c) c
    refine ⟨h3, fun h => ?_⟩
    rw [h4]
    rcases localPages_enter c.context (s.stored c) with h5 | h5 <;> rw [h5]
    · exact storePage_entry _ noBlankDefeat_empty hframe h
    · exact storePage_entry _ noBlankDefeat_empty hframe fun _ _ => noBlankDefeat_empty
  | false =>
    unfold CombatSync.update
    dsimp only
    split
    · exact ⟨rfl, fun _ _ _ => noBlankDefeat_empty⟩
    · rw [if_pos (by rw [hc]; exact Bool.false_ne_true)]
      exact ⟨rfl, fun h => storePage_entry _ noBlankDefeat_empty hframe h⟩

theorem noBlankDefeat_run (es : List CombatCall) (page : Fin coopCombatPages)
    (slot : Fin coopEnemies) :
    NoBlankDefeat ((Run.run CombatSync.update {} es).localPages page slot) :=
  Run.run_invariant_of_steps (I := fun s => ∀ page slot, NoBlankDefeat (s.localPages page slot))
    (fun s c h => (localPages_update s c).2 h) (fun _ _ => noBlankDefeat_empty) es page slot

/-- A guest's record that is shown defeated answers the cached record of the host. -/
theorem wireState_defeated (hhost : s.localHost = false)
    (h : s.wireState e = enemyDefeated) :
    ∃ p, s.cached e.key = some p ∧ p.state = enemyDefeated ∧ enemyPeerLife p = e.life := by
  unfold CombatSync.wireState at h
  by_cases hd : e.state = enemyDefeated
  · rw [if_pos ⟨by rw [hhost]; exact Bool.false_ne_true, hd⟩] at h
    split at h
    · exact absurd h (by decide)
    · rename_i p hp
      split at h
      · exact absurd h (by decide)
      · rename_i hn
        simp only [not_or, not_not] at hn
        exact ⟨p, hp, hn.1, hn.2⟩
  · rw [if_neg fun hn => hd hn.2] at h
    exact absurd h hd

theorem wire_defeated (hhost : s.localHost = false)
    (hblank : ∀ page slot, NoBlankDefeat (s.localPages page slot)) (page : Word)
    (hd : ((s.wire page).enemies i).state = enemyDefeated) :
    ∃ p, s.cached ((s.wire page).enemies i).key = some p ∧ p.state = enemyDefeated
      ∧ enemyPeerLife p = ((s.wire page).enemies i).life := by
  unfold CombatSync.wire at hd ⊢
  split at hd
  · exact absurd (show (0 : Word) = enemyDefeated from hd) (by decide)
  · rename_i hpage
    rw [if_neg hpage]
    dsimp only at hd ⊢
    have hb : NoBlankDefeat (pageEnemy s.localPages page i) := by
      unfold pageEnemy
      split
      · exact hblank _ _
      · exact noBlankDefeat_empty
    generalize pageEnemy s.localPages page i = e at hd hb ⊢
    unfold CombatSync.wireEnemy at hd ⊢
    by_cases hk : e.key = 0
    · rw [if_pos hk] at hd
      exact absurd hd (hb hk)
    · rw [if_neg hk] at hd ⊢
      dsimp only at hd ⊢
      exact wireState_defeated hhost hd

/-! ## The result -/

/-- **Enemy defeats are committed only by readback of the same pair.** After any run of updates: a
defeat command is about a key and two lives that some earlier update saw alive on both sides, in the
context of every update since; the cached record of the peer acknowledges the local life, and is a
request on the host, a defeat on a guest. A guest's page shows a defeat only when the cached record
of the host is a defeat that acknowledges the life shown. -/
theorem defeat_by_readback (es : List CombatCall) (c : CombatCall) :
    let s := Run.run CombatSync.update {} (es ++ [c])
    (∀ i, (s.output.apply i).state = enemyDefeated →
      SeenAlive es c.context (commandBinding (s.output.apply i)) ∧ EngagedIn c.context c
      ∧ ∃ p, s.cached (s.output.apply i).key = some p ∧ p.life = (s.output.apply i).peerLife
        ∧ enemyPeerLife p = (s.output.apply i).life ∧ p.state = defeatTrigger c.host)
    ∧ (c.host = false → ∀ page i, ((s.wire page).enemies i).state = enemyDefeated →
      ∃ p, s.cached ((s.wire page).enemies i).key = some p ∧ p.state = enemyDefeated
        ∧ enemyPeerLife p = ((s.wire page).enemies i).life) := by
  intro s
  have hs : s = (Run.run CombatSync.update {} es).update c := Run.run_snoc _ _ _
  constructor
  · intro i hd
    have hrun := bindings_run es
    rw [hs] at hd ⊢
    generalize Run.run CombatSync.update {} es = s₀ at hd hrun ⊢
    cases hc : c.engaged with
    | false =>
      rw [(update_of_idle hc).2] at hd
      exact absurd (show (0 : Word) = enemyDefeated from hd) (by decide)
    | true =>
      obtain ⟨hp, -⟩ := update_of_engaged (s := s₀) hc
      obtain ⟨hk, ⟨hb1, hb2, hb3⟩, hread⟩ := hp.apply i hd
      by_cases hsame : s₀.context = c.context
      · rw [CombatSync.carried, if_pos hsame] at hb1 hb2 hb3
        obtain ⟨pre, c₀, mid, hes, hsees, hall⟩ := hrun _ (by rw [hb1]; exact hk)
        refine ⟨⟨pre, c₀, mid, hes, ?_, hsame ▸ hall⟩, ⟨hc, rfl⟩, hread⟩
        obtain ⟨⟨j, hj1, hj2, hj3⟩, p, hp1, hp2, hp3⟩ := hsees
        rw [hb1] at hj1 hp1
        rw [hb2] at hj2
        rw [hb3] at hp2
        exact ⟨⟨j, hj1, hj2, hj3⟩, p, hp1, hp2, hp3⟩
      · rw [CombatSync.carried, if_neg hsame] at hb1
        exact absurd hb1.symm hk
  · intro hhost page i hd
    refine wire_defeated ?_ (noBlankDefeat_run _) page hd
    rw [Run.run_snoc, (localPages_update _ c).1, hhost]

/-- A beaver of key 17 on an otherwise empty page of map 7. -/
def beaverFrame (life state peerLife yaw : Word) : CoopCombatFrame where
  enabled := 1
  file := 1
  layout := 0x1234
  pages := 1
  enemies := fun i =>
    if i = 0 then { key := 17, life := life, state := state, peerLife := peerLife, kind := 1, yaw := yaw }
    else {}

/-- A host meets the frame of its guest: its own beaver has life 100 and health 5. -/
def beaverCall (state yaw : Word) : CombatCall where
  host := true
  player := { map := 7, epoch := 1, flags := stateActive }
  input := beaverFrame 100 enemyAlive 0 (enemyPack 0 5)
  peer := { map := 7, epoch := 2, flags := stateActive }
  remote := beaverFrame 200 state 100 yaw
  fresh := true

/-- The guest asks for the defeat of a beaver both sides saw alive. -/
theorem defeat_by_readback_beaver :
    let s := Run.run CombatSync.update {} [beaverCall enemyAlive (enemyPack 0 5),
      beaverCall enemyRequest 0]
    (s.output.apply 0).state = enemyDefeated
    ∧ SeenAlive [beaverCall enemyAlive (enemyPack 0 5)] (beaverCall enemyRequest 0).context
      { key := 17, localLife := 100, peerLife := 200, kind := 1 } := by
  have hd : ((Run.run CombatSync.update {} [beaverCall enemyAlive (enemyPack 0 5),
      beaverCall enemyRequest 0]).output.apply 0).state = enemyDefeated := by decide
  have hb : commandBinding ((Run.run CombatSync.update {} [beaverCall enemyAlive (enemyPack 0 5),
      beaverCall enemyRequest 0]).output.apply 0)
        = { key := 17, localLife := 100, peerLife := 200, kind := 1 } := by decide
  obtain ⟨hseen, -, -⟩ := (defeat_by_readback [beaverCall enemyAlive (enemyPack 0 5)]
    (beaverCall enemyRequest 0)).1 0 hd
  exact ⟨hd, hb ▸ hseen⟩

end Dk64Port.Coop
