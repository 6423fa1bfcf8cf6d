import Dk64Port.Coop.CombatSlots
import Dk64Port.Lib.FreshTokens
import Dk64Port.Lib.Run
import Mathlib.Algebra.Group.Nat.Defs

/-!
# Life tokens (`mod/combat_actor.h`)

The boss and every enemy slot carry a life token drawn from one counter of 26 bits, which outlives
the maps. While fewer than `2 ^ 26` tokens were drawn the counter never came round, so no two of
them share one.

* `CombatEvent`, `step`: what happens to the channel between two captures.
* `tokens_run`: **live life tokens are nonzero and pairwise distinct after any run.**
-/

namespace Dk64Port.Coop.CombatGame

variable {cfg : CombatConfig} {room : CombatRoom} {g : CombatGame} {i j : Nat} {s : EnemySpawner}

/-! ## Runs -/

/-- What changes the channel's state: a capture, a defeat seen by the behaviour of an enemy whose
actor is still in its slot, and another Kong. -/
inductive CombatEvent where
  | capture (room : CombatRoom)
  | defeat (i : Nat) (a : Nat)
  | localKongChanged

/-- `combat_enemy_behavior` of actor `a` in slot `i`, after the stock behaviour. -/
def defeat (g : CombatGame) (i a : Nat) : CombatGame :=
  if (g.slots i).actor = some a then g.setSlot i { g.slots i with defeated := true } else g

/-- `coop_combat_local_kong_changed`. -/
def localKongChanged (g : CombatGame) : CombatGame := { g with shots := fun _ => {} }

/-- One event. -/
def step (cfg : CombatConfig) (g : CombatGame) : CombatEvent → CombatGame
  | .capture room => capture cfg room g
  | .defeat i a => defeat g i a
  | .localKongChanged => localKongChanged g

/-! ## One step -/

/-- The token of the boss and of each slot. -/
def token (g : CombatGame) : Option Nat → Nat
  | none => g.boss.life.toNat
  | some i => (g.slots i).life.toNat

/-- The tokens of the channel are those the counter gave out. -/
structure Tokens (g : CombatGame) : Prop where
  counter : g.lifeCounter.toNat = g.spawns
  held : FreshTokens.Ok g.spawns g.token

/-- The same while the counter has not come round. -/
def TokensOk (g : CombatGame) : Prop := g.spawns < 2 ^ 26 → Tokens g

theorem tokens_start : Tokens {} := by
  refine ⟨rfl, ?_⟩
  have h : ({} : CombatGame).token = fun _ => 0 := by
    funext k
    cases k <;> rfl
  rw [h]
  exact .start

/-- A step that draws no token. -/
theorem TokensOk.drop {g' : CombatGame} (h : TokensOk g) (hc : g'.lifeCounter = g.lifeCounter)
    (hs : g'.spawns = g.spawns)
    (hb : g'.boss.life = g.boss.life ∨ g'.boss.life = 0)
    (hi : ∀ i, (g'.slots i).life = (g.slots i).life ∨ (g'.slots i).life = 0) : TokensOk g' := by
  intro hlt
  rw [hs] at hlt
  obtain ⟨h1, h2⟩ := h hlt
  refine ⟨by rw [hc, hs, h1], hs ▸ h2.drop fun k => ?_⟩
  cases k with
  | none => exact hb.imp (congrArg BitVec.toNat) (congrArg BitVec.toNat)
  | some i => exact (hi i).imp (congrArg BitVec.toNat) (congrArg BitVec.toNat)

/-- A step that leaves the tokens alone. -/
theorem TokensOk.same {g' : CombatGame} (h : TokensOk g) (hc : g'.lifeCounter = g.lifeCounter)
    (hs : g'.spawns = g.spawns) (hb : g'.boss = g.boss) (hi : g'.slots = g.slots) :
    TokensOk g' :=
  h.drop hc hs (.inl (by rw [hb])) fun i => .inl (by rw [hi])

/-- A step that draws one. -/
theorem TokensOk.draw {g' : CombatGame} (h : TokensOk g) (who : Option Nat)
    (hc : g'.lifeCounter = nextLife g.lifeCounter) (hs : g'.spawns = g.spawns + 1)
    (hnew : g'.token who = (nextLife g.lifeCounter).toNat)
    (hold : ∀ k, k ≠ who → g'.token k = g.token k) : TokensOk g' := by
  intro hlt
  rw [hs] at hlt
  obtain ⟨h1, h2⟩ := h (by omega)
  have hnext : (nextLife g.lifeCounter).toNat = g.spawns + 1 := by
    rw [nextLife_toNat (by omega), h1]
  exact ⟨by rw [hc, hs, hnext], hs ▸ h2.draw who (hnew.trans hnext) hold⟩

/-- A slot that is rewritten without a new token. -/
theorem tokensOk_setSlot (h : TokensOk g) (slot : EnemySlot) (hl : slot.life = (g.slots i).life) :
    TokensOk (g.setSlot i slot) := by
  refine h.drop rfl rfl (.inl rfl) fun j => .inl ?_
  rw [setSlot_slots]
  split
  · rename_i hj
    rw [hl, hj]
  · rfl

theorem tokensOk_confirm (h : TokensOk g) (done : CoopEnemy) : TokensOk (confirm g done) := by
  unfold confirm
  split
  · exact h
  · dsimp only
    split
    · exact tokensOk_setSlot h _ rfl
    · exact h

theorem tokensOk_prepare (h : TokensOk g) : TokensOk (g.prepare cfg room) := by
  have hconfirm : TokensOk (room.apply.foldl confirm g) := by
    generalize room.apply = l
    induction l generalizing g with
    | nil => exact h
    | cons done l ih => exact ih (tokensOk_confirm h done)
  unfold prepare
  have hmap : TokensOk (changeMap room { room.apply.foldl confirm g with input := {} }) := by
    unfold changeMap
    split
    · exact hconfirm.drop rfl rfl (.inr rfl) fun _ => .inr rfl
    · exact hconfirm.same rfl rfl rfl rfl
  have hfile : ∀ {g}, TokensOk g → TokensOk (bindFile cfg room g) := by
    intro g h
    unfold bindFile
    split_ifs <;> exact h.same rfl rfl rfl rfl
  unfold leaveRoom
  split
  · exact (hfile hmap).drop rfl rfl (.inr rfl) fun _ => .inr rfl
  · exact hfile hmap

theorem tokensOk_refreshBoss (h : TokensOk g) (kind : Word) (a phase : Nat) :
    TokensOk (refreshBoss room g kind a phase) := by
  rcases refreshBoss_cases room g kind a phase with ⟨-, p, -, h'⟩ | h'
  · rw [h']
    exact h.drop rfl rfl (.inl rfl) fun _ => .inl rfl
  · rw [h']
    refine h.draw none rfl rfl rfl fun k hk => ?_
    cases k with
    | none => exact absurd rfl hk
    | some i => rfl

theorem tokensOk_captureBoss (h : TokensOk g) : TokensOk (captureBoss cfg room g) := by
  have htrack : ∀ kind found, TokensOk (trackBoss room g kind found) := by
    intro kind found
    rcases trackBoss_cases room g kind found with e | ⟨a, -, -, e⟩
    · rwa [e]
    · rw [e]
      exact tokensOk_refreshBoss h _ _ _
  rcases captureBoss_cases cfg room g rfl with e | e | ⟨-, -, -, e⟩
  · rwa [e]
  · rw [e]
    exact htrack _ _
  · rw [e]
    exact (htrack _ _).same rfl rfl rfl rfl

theorem tokensOk_settleLayout (h : TokensOk g) : TokensOk (settleLayout room g) := by
  unfold settleLayout
  split
  · exact h.drop rfl rfl (.inl rfl) fun _ => .inr rfl
  · exact h

theorem tokensOk_refreshSlot (h : TokensOk g) : TokensOk (refreshSlot room g i s) := by
  rcases refreshSlot_cases room g i s with ⟨h', -⟩ | ⟨a, -, h'⟩
  · rwa [h']
  · rw [h']
    refine h.draw (some i) rfl rfl ?_ fun k hk => ?_
    · simp [token]
    · cases k with
      | none => rfl
      | some j =>
        have hj : j ≠ i := fun e => hk (congrArg some e)
        simp [token, hj]

/-- A property every refresh keeps is kept by the first pass. -/
theorem refreshSlots_induct {P : CombatGame → Prop} (h : P g)
    (hstep : ∀ g i s, P g → P (refreshSlot room g i s)) : P (refreshSlots room g).1 := by
  rw [refreshSlots_eq]
  generalize room.spawners.zipIdx = l
  generalize (0 : Nat) = n
  induction l generalizing g n with
  | nil => exact h
  | cons e l ih => exact ih (hstep g e.2 e.1 h) _

theorem tokensOk_captureEnemies (h : TokensOk g) : TokensOk (captureEnemies cfg room g) := by
  unfold captureEnemies
  split
  · have hr : TokensOk (refreshSlots room (settleLayout room g)).1 :=
      refreshSlots_induct (tokensOk_settleLayout h) fun _ _ _ => tokensOk_refreshSlot
    exact hr.same rfl rfl rfl rfl
  · exact h

theorem tokensOk_capture (h : TokensOk g) : TokensOk (capture cfg room g) := by
  unfold capture
  dsimp only
  split
  · have hopen : TokensOk (openFrame cfg room (g.prepare cfg room)) :=
      (tokensOk_prepare h).same rfl rfl rfl rfl
    exact (tokensOk_captureEnemies (tokensOk_captureBoss hopen)).same rfl rfl rfl rfl
  · exact tokensOk_prepare h

theorem tokensOk_step (h : TokensOk g) (e : CombatEvent) : TokensOk (step cfg g e) := by
  cases e with
  | capture room => exact tokensOk_capture h
  | defeat i a =>
    show TokensOk (defeat g i a)
    unfold defeat
    split
    · exact tokensOk_setSlot h _ rfl
    · exact h
  | localKongChanged => exact h.same rfl rfl rfl rfl

/-! ## Runs -/

theorem tokensOk_run (es : List CombatEvent) : TokensOk (Run.run (step cfg) {} es) :=
  Run.run_invariant_of_steps (I := TokensOk) (fun _ e h => tokensOk_step h e)
    (fun _ => tokens_start) es

/-- **Live life tokens are pairwise distinct after any run** with fewer than `2 ^ 26` spawns. -/
theorem tokens_run {es : List CombatEvent}
    (hs : (Run.run (step cfg) {} es).spawns < 2 ^ 26) {k l : Option Nat} (hkl : k ≠ l)
    (hk : (Run.run (step cfg) {} es).token k ≠ 0) :
    (Run.run (step cfg) {} es).token k ≠ (Run.run (step cfg) {} es).token l :=
  (tokensOk_run es hs).held.distinct k l hkl hk

end Dk64Port.Coop.CombatGame
