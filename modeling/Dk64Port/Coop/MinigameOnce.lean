import Dk64Port.Coop.MinigameBehavior
import Dk64Port.Lib.Run
import Mathlib.Algebra.Group.Nat.Defs
import Mathlib.Algebra.GroupWithZero.Nat

/-!
# A peer's success counts once (`mod/transient_game.h`)

The five latches over any order of ticks, records and captures. Epochs are not used twice; while an
epoch lasts, the map stays and permanent flags are only set. The instances of Kosh, Minecart and
Batty have maps of their own, so one map has one key; the rounds of the Rabbit Race come in order.

* `identity_after`: the keys of an epoch come up in order.
* `good_run`: the latches after any run.
* `minigame_success_once`: **a forced win runs at most once for an epoch and key**, in the instance
  and the epoch of its record, and what is published was won.
-/

namespace Dk64Port.Coop

open OnceLatch

/-! ## Runs -/

/-- The latches, the epochs so far, what the epoch has shown of the map and the permanent flags, and
the records published with their epochs. -/
structure MinigameGame where
  epoch : Word := 1
  latch : Minigame → WinLatch := fun _ => { latch := ⟨⟨0, 0⟩, ⟨0, 0⟩, ⟨0, 0⟩⟩ }
  past : List Word := [1]
  seen : Option (Nat × (Nat → Bool)) := none
  published : List (Word × CoopTransientRecord) := []

/-- What happens. -/
inductive MinigameEvent where
  | openEpoch (epoch : Word)
  /-- The controller of a minigame behaves. -/
  | tick (game : Minigame) (c : StockController) (m : MinigameRoom)
  /-- A record of the peer is applied. -/
  | record (game : Minigame) (m : MinigameRoom) (record : CoopTransientRecord)
  /-- A capture adds the successes to the records it has. -/
  | capture (room : GameRoom) (f : Frame)

namespace MinigameGame

variable {hook : Minigame → Bool} {g : MinigameGame} {game : Minigame} {m : MinigameRoom}

/-- One latch is replaced. -/
def setLatch (g : MinigameGame) (game : Minigame) (r : WinLatch) : MinigameGame :=
  { g with latch := fun other => if other = game then r else g.latch other }

/-- The room with the latches and the epoch of the game. -/
def capturedRoom (g : MinigameGame) (room : GameRoom) : GameRoom :=
  { room with
    epoch := g.epoch
    success := fun game => ⟨(g.latch game).latch.success.epoch,
      BitVec.ofNat 32 (g.latch game).latch.success.key⟩ }

/-- One event. -/
def step (hook : Minigame → Bool) (g : MinigameGame) : MinigameEvent → MinigameGame
  | .openEpoch epoch => { g with epoch := epoch, past := epoch :: g.past, seen := none }
  | .tick game c m =>
    { g.setLatch game (game.behavior (hook game) g.epoch c m (g.latch game)).1 with
      seen := some (m.currentMap, m.flag) }
  | .record game m record =>
    g.setLatch game (game.applyRecord (hook game) g.epoch m (g.latch game) record)
  | .capture room f =>
    { g with
      published := g.published
        ++ ((addSuccesses (g.capturedRoom room) f).records.drop f.records.length).map (g.epoch, ·) }

/-- The map of the epoch stays, and its permanent flags stay set. -/
def Follows (g : MinigameGame) (m : MinigameRoom) : Prop :=
  ∀ map flag, g.seen = some (map, flag) →
    m.currentMap = map ∧ ∀ f, flag f = true → m.flag f = true

/-- What is assumed of the events. -/
def Proper (g : MinigameGame) : MinigameEvent → Prop
  | .openEpoch epoch => epoch ∉ g.past
  | .tick _ _ m => g.Follows m
  | .record _ _ _ => True
  | .capture _ _ => True

/-! ## The order of the keys -/

/-- The epoch has shown the instance of the key, and for the second round the end of the first. -/
def Reached (g : MinigameGame) (game : Minigame) (k : Nat) : Prop :=
  ∃ map flag, g.seen = some (map, flag) ∧ game.maps[k - 1]? = some map
    ∧ (game = .rabbit → k = 2 → flag rabbitRaceComplete = true)

theorem identity_le {hook : Bool} {actor : Option Nat} (h : game.identity hook m actor ≠ 0) :
    game.identity hook m actor ≤ game.maps.length := by
  have hlt := (List.getElem?_eq_some_iff.mp (identity_map h)).1
  omega

/-- **The keys of an epoch come up in order.** -/
theorem identity_after {hook : Bool} {actor : Option Nat} {k : Nat} (hf : g.Follows m)
    (hr : g.Reached game k) (h : game.identity hook m actor ≠ 0) :
    k ≤ game.identity hook m actor := by
  obtain ⟨map, flag, hseen, hmap, hround⟩ := hr
  obtain ⟨hsame, hflags⟩ := hf map flag hseen
  have hnow := identity_map h
  rw [hsame, ← hmap] at hnow
  have hlt := (List.getElem?_eq_some_iff.mp hmap).1
  have hone : game.maps.Nodup → k ≤ game.identity hook m actor := by
    intro hnodup
    have := (List.getElem?_inj hlt hnodup).mp hnow.symm
    omega
  cases game with
  | kosh => exact hone (by decide)
  | minecart => exact hone (by decide)
  | batty => exact hone (by decide)
  | owl => exact hone (by decide)
  | rabbit =>
    have hlen : Minigame.rabbit.maps.length = 2 := rfl
    by_cases h2 : k = 2
    · have hset := hflags _ (hround rfl h2)
      have hkey := identity_rabbit h
      unfold rabbitRoundKey at hkey
      rw [hset] at hkey
      split at hkey
      · exact absurd hkey h
      · rw [if_pos rfl] at hkey
        omega
    · omega

theorem reached_tick {hook : Bool} {actor : Option Nat} (h : game.identity hook m actor ≠ 0)
    {g' : MinigameGame} (hseen : g'.seen = some (m.currentMap, m.flag)) :
    g'.Reached game (game.identity hook m actor) := by
  refine ⟨m.currentMap, m.flag, hseen, identity_map h, ?_⟩
  rintro rfl h2
  have hkey := identity_rabbit h
  rw [h2] at hkey
  unfold rabbitRoundKey at hkey
  split_ifs at hkey with h1 h3
  · exact h3
  · cases hkey

/-- What was reached stays reached. -/
theorem Reached.follows {k : Nat} (hr : g.Reached game k) (hf : g.Follows m) {g' : MinigameGame}
    (hseen : g'.seen = some (m.currentMap, m.flag)) : g'.Reached game k := by
  obtain ⟨map, flag, hs, hmap, hround⟩ := hr
  obtain ⟨hsame, hflags⟩ := hf map flag hs
  exact ⟨m.currentMap, m.flag, hseen, hsame ▸ hmap, fun hg hk => hflags _ (hround hg hk)⟩

/-! ## One event -/

/-- What holds of one latch. -/
structure GoodLatch (g : MinigameGame) (game : Minigame) : Prop where
  ok : Ok g.past g.epoch (g.latch game)
  reached : (g.latch game).latch.applied.epoch = g.epoch → (g.latch game).latch.applied.key ≠ 0 →
    g.Reached game (g.latch game).latch.applied.key
  small : ∀ w, Won (g.latch game) w → w.key ≤ game.maps.length

/-- What holds of the latches and of what was published. -/
structure Good (g : MinigameGame) : Prop where
  latch : ∀ game, GoodLatch g game
  published : ∀ p ∈ g.published, ∃ game : Minigame, p.2.kind = game.kind
    ∧ Won (g.latch game) ⟨p.1, p.2.key.toNat⟩

theorem good_start : Good {} where
  latch game :=
    { ok :=
        { now := List.mem_singleton.mpr rfl
          known := fun _ h => absurd h List.not_mem_nil
          acted := fun h => absurd rfl h
          pending := fun h => absurd rfl h
          success := fun h => absurd rfl h
          received := fun _ h => absurd h List.not_mem_nil
          once := List.nodup_nil
          done := fun _ h => absurd h List.not_mem_nil }
      reached := fun _ h => absurd rfl h
      small := fun _ h => by
        rcases h with h | h <;> exact absurd h List.not_mem_nil }
  published _ h := absurd h List.not_mem_nil

theorem good_openEpoch (h : Good g) {epoch : Word} (hfresh : epoch ∉ g.past) :
    Good (step hook g (.openEpoch epoch)) where
  latch game :=
    { ok := (h.latch game).ok.openEpoch hfresh
      reached := fun he hk => by
        have he' : (g.latch game).latch.applied.epoch = epoch := he
        exact absurd (he' ▸ (h.latch game).ok.acted hk) hfresh
      small := (h.latch game).small }
  published := h.published

theorem good_tick (h : Good g) (hf : g.Follows m) (c : StockController) :
    Good (step hook g (.tick game c m)) := by
  have ht : Ticks game (hook game) g.epoch c m (g.latch game)
    (game.behavior (hook game) g.epoch c m (g.latch game)).1 := behavior_ticks game
  have hl : ∀ other, (step hook g (.tick game c m)).latch other = if other = game
      then (game.behavior (hook game) g.epoch c m (g.latch game)).1 else g.latch other := fun _ => rfl
  have hseen : (step hook g (.tick game c m)).seen = some (m.currentMap, m.flag) := rfl
  generalize (game.behavior (hook game) g.epoch c m (g.latch game)).1 = r at *
  have hgood := h.latch game
  have hfit : game.identity (hook game) m m.currentActor ≠ 0 →
      LatchFits (g.latch game) g.epoch (game.identity (hook game) m m.currentActor) := by
    intro hk he
    by_cases h0 : (g.latch game).latch.applied.key = 0
    · rw [h0]
      exact Nat.zero_le _
    · exact identity_after hf (hgood.reached he h0) hk
  refine ⟨fun other => ?_, fun p hp => ?_⟩
  · by_cases ho : other = game
    · subst ho
      have hlatch : (step hook g (.tick other c m)).latch other = r := by rw [hl, if_pos rfl]
      refine ⟨?_, ?_, ?_⟩
      · rw [hlatch]
        exact (ht.moves.ok hgood.ok hfit).1
      · rw [hlatch]
        intro he h0
        rcases ht.moves.applied with e | ⟨hk, e⟩
        · rw [e] at he h0 ⊢
          exact (hgood.reached he h0).follows hf hseen
        · rw [e]
          exact reached_tick hk hseen
      · rw [hlatch]
        intro w hw
        rcases (ht.moves.won w).2 hw with hold | ⟨hk, rfl⟩
        · exact hgood.small w hold
        · exact identity_le hk
    · have hlatch : (step hook g (.tick game c m)).latch other = g.latch other := by
        rw [hl, if_neg ho]
      have hother := h.latch other
      refine ⟨?_, ?_, ?_⟩
      · rw [hlatch]
        exact hother.ok
      · rw [hlatch]
        exact fun he h0 => (hother.reached he h0).follows hf hseen
      · rw [hlatch]
        exact hother.small
  · obtain ⟨other, hkind, hwon⟩ := h.published p hp
    refine ⟨other, hkind, ?_⟩
    by_cases ho : other = game
    · subst ho
      rw [hl, if_pos rfl]
      exact (ht.moves.won _).1 hwon
    · rw [hl, if_neg ho]
      exact hwon

theorem good_record (h : Good g) (record : CoopTransientRecord) :
    Good (step hook g (.record game m record)) := by
  have hcases : game.applyRecord (hook game) g.epoch m (g.latch game) record = g.latch game ∨
      game.applyRecord (hook game) g.epoch m (g.latch game) record
        = (g.latch game).receive g.epoch record.key.toNat := applyRecord_cases game record
  have hl : ∀ other, (step hook g (.record game m record)).latch other = if other = game
      then game.applyRecord (hook game) g.epoch m (g.latch game) record else g.latch other :=
    fun _ => rfl
  generalize game.applyRecord (hook game) g.epoch m (g.latch game) record = r at *
  have hlatch : ∀ other, (step hook g (.record game m record)).latch other = g.latch other ∨
      ∃ k, (step hook g (.record game m record)).latch other = (g.latch other).receive g.epoch k := by
    intro other
    rw [hl]
    by_cases ho : other = game
    · rw [if_pos ho, ho]
      exact hcases.imp_right fun e => ⟨_, e⟩
    · rw [if_neg ho]
      exact .inl rfl
  refine ⟨fun other => ?_, fun p hp => ?_⟩
  · have hother := h.latch other
    rcases hlatch other with e | ⟨k, e⟩
    · refine ⟨?_, ?_, ?_⟩ <;> rw [e]
      · exact hother.ok
      · exact hother.reached
      · exact hother.small
    · refine ⟨?_, ?_, ?_⟩ <;> rw [e]
      · exact hother.ok.receive k
      · exact hother.reached
      · exact hother.small
  · obtain ⟨other, hkind, hwon⟩ := h.published p hp
    refine ⟨other, hkind, ?_⟩
    rcases hlatch other with e | ⟨k, e⟩
    · rw [e]
      exact hwon
    · rw [e]
      exact hwon

/-- A success that is added to a capture is one the room has won. -/
theorem addSuccess_append (room : GameRoom) (game : Minigame) (f : Frame) :
    ∃ l, (addSuccess room game f).records = f.records ++ l ∧ ∀ r ∈ l, ∃ other : Minigame,
      room.won other = true ∧ r = ⟨other.kind, (room.success other).key, 1, 0⟩ := by
  unfold addSuccess
  split
  · rename_i hwon
    refine ⟨_, rfl, fun r hr => ⟨game, hwon.1, List.mem_singleton.mp hr⟩⟩
  · exact ⟨[], (List.append_nil _).symm, fun r hr => absurd hr List.not_mem_nil⟩

theorem addSuccesses_append (room : GameRoom) (f : Frame) :
    ∃ l, (addSuccesses room f).records = f.records ++ l ∧ ∀ r ∈ l, ∃ other : Minigame,
      room.won other = true ∧ r = ⟨other.kind, (room.success other).key, 1, 0⟩ := by
  have hchain : ∀ {f' : Frame} (game : Minigame) (l : List CoopTransientRecord),
      f'.records = f.records ++ l → (∀ r ∈ l, ∃ other : Minigame, room.won other = true
        ∧ r = ⟨other.kind, (room.success other).key, 1, 0⟩) →
      ∃ l', (addSuccess room game f').records = f.records ++ l' ∧ ∀ r ∈ l', ∃ other : Minigame,
        room.won other = true ∧ r = ⟨other.kind, (room.success other).key, 1, 0⟩ := by
    intro f' game l hf' hl
    obtain ⟨l', e, hl'⟩ := addSuccess_append room game f'
    refine ⟨l ++ l', by rw [e, hf', List.append_assoc], fun r hr => ?_⟩
    rcases List.mem_append.mp hr with hr | hr
    · exact hl r hr
    · exact hl' r hr
  obtain ⟨l₁, e₁, h₁⟩ := addSuccess_append room .kosh f
  obtain ⟨l₂, e₂, h₂⟩ := hchain .minecart l₁ e₁ h₁
  obtain ⟨l₃, e₃, h₃⟩ := hchain .rabbit l₂ e₂ h₂
  obtain ⟨l₄, e₄, h₄⟩ := hchain .batty l₃ e₃ h₃
  exact hchain .owl l₄ e₄ h₄

theorem good_capture (h : Good g) (room : GameRoom) (f : Frame) :
    Good (step hook g (.capture room f)) := by
  refine ⟨fun game => ⟨(h.latch game).ok, (h.latch game).reached, (h.latch game).small⟩,
    fun p hp => ?_⟩
  rcases List.mem_append.mp hp with hold | hnew
  · exact h.published p hold
  · obtain ⟨l, e, hl⟩ := addSuccesses_append (g.capturedRoom room) f
    rw [e, List.drop_left] at hnew
    obtain ⟨r, hr, rfl⟩ := List.mem_map.mp hnew
    obtain ⟨game, hwon, rfl⟩ := hl r hr
    obtain ⟨hepoch, hkey, -⟩ := of_decide_eq_true hwon
    have hstamp := h.latch game
    generalize hs : (g.latch game).latch.success = stamp at *
    have hepoch' : stamp.epoch = g.epoch := by
      have he : (g.latch game).latch.success.epoch = g.epoch := hepoch
      rwa [hs] at he
    have hkey' : BitVec.ofNat 32 stamp.key ≠ 0 := by
      have hk : BitVec.ofNat 32 (g.latch game).latch.success.key ≠ 0 := hkey
      rwa [hs] at hk
    have hne : stamp.key ≠ 0 := fun h0 => hkey' (h0 ▸ rfl)
    have hwon' : Won (g.latch game) stamp := hs ▸ hstamp.ok.success (by rwa [hs])
    have hle := hstamp.small stamp hwon'
    have hlen : game.maps.length ≤ 4 := by cases game <;> decide
    refine ⟨game, rfl, ?_⟩
    show Won (g.latch game) ⟨g.epoch, (BitVec.ofNat 32 (g.latch game).latch.success.key).toNat⟩
    rw [hs, BitVec.toNat_ofNat, Nat.mod_eq_of_lt (by omega), ← hepoch']
    exact hwon'

/-- **Every event keeps the latches good.** -/
theorem good_step (h : Good g) {e : MinigameEvent} (hp : Proper g e) : Good (step hook g e) := by
  cases e with
  | openEpoch epoch => exact good_openEpoch h hp
  | tick game c m => exact good_tick h hp c
  | record game m record => exact good_record h record
  | capture room f => exact good_capture h room f

/-- **The latches after any run.** -/
theorem good_run {es : List MinigameEvent} (h : Run.Along (step hook) Proper {} es) :
    Good (Run.run (step hook) {} es) :=
  Run.invariant (I := Good) (fun _ _ hp hg => good_step hg hp) good_start h

/-- **A peer's success counts at most once.** After any run in which epochs are not used twice and an
epoch keeps its map and its permanent flags: no latch has forced a win twice for one epoch and key,
and each forced win has its record in its epoch; the next tick forces a win only under the key its
controller shows, again in the memory the win is forced in, with no transition and the save file
unchanged; and a success that was published under an epoch was reached or forced in that epoch, for
that key. -/
theorem minigame_success_once (hook : Minigame → Bool) (es : List MinigameEvent)
    (h : Run.Along (step hook) Proper {} es) :
    let g := Run.run (step hook) {} es
    (∀ game, (g.latch game).wins.Nodup ∧ ∀ w ∈ (g.latch game).wins, w ∈ (g.latch game).received)
      ∧ (∀ (game : Minigame) c m,
          let key := game.identity (hook game) m m.currentActor
          let m' := game.winRoom (hook game) c m
          ((step hook g (.tick game c m)).latch game).wins = (g.latch game).wins ∨
            ((step hook g (.tick game c m)).latch game).wins = ⟨g.epoch, key⟩ :: (g.latch game).wins
              ∧ key ≠ 0 ∧ game.identity (hook game) m' m.currentActor = key
              ∧ m'.fileChanged = false ∧ m'.transition = false)
      ∧ ∀ p ∈ g.published, ∃ game : Minigame, p.2.kind = game.kind
        ∧ Won (g.latch game) ⟨p.1, p.2.key.toNat⟩ := by
  have hg := good_run h
  refine ⟨fun game => ⟨(hg.latch game).ok.once, (hg.latch game).ok.received⟩, fun game c m => ?_,
    hg.published⟩
  have ht : Ticks game (hook game) (Run.run (step hook) {} es).epoch c m
    ((Run.run (step hook) {} es).latch game)
    (game.behavior (hook game) (Run.run (step hook) {} es).epoch c m
      ((Run.run (step hook) {} es).latch game)).1 := behavior_ticks game
  have hl : (step hook (Run.run (step hook) {} es) (.tick game c m)).latch game
      = (game.behavior (hook game) (Run.run (step hook) {} es).epoch c m
        ((Run.run (step hook) {} es).latch game)).1 := if_pos rfl
  dsimp only
  rw [hl]
  exact ht.wins.imp_right fun hw => ⟨hw.1, hw.2.1, hw.2.2.1, hw.2.2.2.1, hw.2.2.2.2.1⟩

/-! ## A win of Kosh -/

/-- A Kosh controller in the first of its maps. -/
def koshRoom : MinigameRoom where
  currentMap := 10
  parent := some (24, 0)
  currentCharacter := 0
  currentActor := some 1
  player := some 2
  fileChanged := false
  transition := false
  registry := [some 1]
  actor _ :=
    { unk58 := 256, objectPropertiesBitfield := 0x10, unk178 := some 0, unk11C := some 3 }
  wrapped _ := true
  stockTimer := true
  stockReel := true
  flag _ := false
  script _ := none
  unk807FBB64 := 0
  playerInfo := none
  unk1F0 := 0
  unk1F4 := 0
  vehicleActor := none
  unk1A8 := none
  spawner := some 4
  spawnerTarget := 18
  spawnerState := 2
  race := none
  rings := 0
  enemy := none
  enemyFlags := 0
  koshIntro _ := 2
  battyData _ := ⟨fun _ => none, 0, 0, 0, 0, 0, 0, 0, none⟩
  reelOwner _ := none
  timerWord _ := 0
  owlTimer _ := 0

/-- The peer's record arrives twice, and the controller behaves after each. -/
def koshRun : List MinigameEvent :=
  [.record .kosh koshRoom ⟨transientMinigameSuccess, 1, 1, 0⟩, .tick .kosh ⟨id, id⟩ koshRoom,
    .record .kosh koshRoom ⟨transientMinigameSuccess, 1, 1, 0⟩, .tick .kosh ⟨id, id⟩ koshRoom]

/-- One win is forced. -/
theorem minigame_success_once_kosh :
    ((Run.run (step fun _ => true) {} koshRun).latch .kosh).wins = [⟨1, 1⟩]
      ∧ ((Run.run (step fun _ => true) {} koshRun).latch .kosh).wins.Nodup := by
  have hproper : Run.Along (step fun _ => true) Proper {} koshRun := by
    have hfollow : ∀ g : MinigameGame, g.seen = none ∨ g.seen = some (10, fun _ => false) →
        g.Follows koshRoom := by
      rintro g (hg | hg) map flag hs <;> rw [hg] at hs
      · cases hs
      · obtain ⟨rfl, rfl⟩ := Prod.mk.inj (Option.some.inj hs)
        exact ⟨rfl, fun f hf => hf⟩
    exact ⟨trivial, hfollow _ (.inl rfl), trivial, hfollow _ (.inr rfl), trivial⟩
  exact ⟨by decide, ((minigame_success_once _ _ hproper).1 .kosh).1⟩

end MinigameGame

end Dk64Port.Coop
