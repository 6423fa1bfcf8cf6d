import Dk64Port.Coop.WorldNet
import Dk64Port.Lib.Run

/-!
# The world wire is valid

`valid_world` couples the words of the wire: the revisions are all zero or all nonzero, a request
stands with its base, the values of requests stand under their requests, and readiness needs a scope
and revisions. `WorldSync::update` leaves by five early returns, each of which writes a part of these
words only.

* `WireSound`: what every update keeps; the revisions are there exactly since the first exchange.
* `wireSound_update`: **one update**, cut as the source is.
* `world_wire_valid`: **every wire of every run is valid and of its role.**
-/

namespace Dk64Port.Coop

variable {host : Bool} {l : CoopWorldInput} {r : WorldWire} {s : WorldSync}

/-! ## What a sound wire is made of -/

/-- Nothing beyond the three toggles. -/
def Masked (values : Word) : Prop := values &&& ~~~ coopWorldMask = 0

theorem masked_zero : Masked 0 := BitVec.zero_and

theorem masked_iff {values : Word} : Masked values ↔ ∀ i, 3 ≤ i → values.getLsbD i = false := by
  have hmask : ∀ i : Fin 32, (~~~ coopWorldMask).getLsbD i.val = decide (3 ≤ i.val) := by decide
  have hzero : ∀ i, (0 : Word).getLsbD i = false := fun i => BitVec.getLsbD_zero
  constructor
  · intro h i hi
    by_cases h32 : i < 32
    · have hbit := congrArg (fun x : Word => x.getLsbD i) h
      have hi' : (~~~ coopWorldMask).getLsbD i = true := by simpa [hi] using hmask ⟨i, h32⟩
      simpa only [BitVec.getLsbD_and, hi', Bool.and_true, hzero] using hbit
    · exact BitVec.getLsbD_of_ge _ _ (Nat.not_lt.mp h32)
  · intro h
    refine BitVec.eq_of_getLsbD_eq fun i hi => ?_
    rw [BitVec.getLsbD_and, hmask ⟨i, hi⟩, hzero]
    by_cases h3 : 3 ≤ i
    · rw [h i h3, Bool.false_and]
    · rw [decide_eq_false h3, Bool.and_false]

/-- A toggle is set within the three. -/
theorem Masked.setBit {values : Word} (h : Masked values) (i : Fin coopWorldToggles) (source : Word) :
    Masked (setBit values i source) := by
  rw [masked_iff] at h ⊢
  intro j hj
  have hne : i.val ≠ j := (i.isLt.trans_le hj).ne
  unfold Coop.setBit
  simp [BitVec.getLsbD_or, BitVec.getLsbD_and, BitVec.getLsbD_twoPow, h j hj, hne]

/-- The wire before the first exchange. -/
structure BlankWire (w : WorldWire) : Prop where
  revision : ∀ i, w.revision i = 0
  desired : w.desired = 0
  requestValues : w.requestValues = 0
  request : ∀ i, w.request i = 0
  base : ∀ i, w.base i = 0
  ack : ∀ i, w.ack i = 0

/-- The toggles of the wire since the first exchange. -/
structure ToggleWire (host : Bool) (w : WorldWire) : Prop where
  revision : ∀ i, w.revision i ≠ 0
  desired : Masked w.desired
  requestValues : Masked w.requestValues
  base : ∀ i, w.request i = 0 ↔ w.base i = 0
  requested : ∀ i, w.request i = 0 → toggleBit w.requestValues i = false
  role : peerRoleValid (!host) w = true

/-- The words around the toggles. -/
structure WireHead (w : WorldWire) : Prop where
  file : w.file ≤ 3
  scope : w.scope ≤ 3
  ready : w.ready ≤ 1
  values : Masked w.values
  unannounced : w.file = 0 → w.scope = 0 ∧ w.values = 0

/-- **What every update keeps.** -/
structure WireSound (host : Bool) (s : WorldSync) : Prop where
  feature : s.outgoing = {} ∨ s.outgoing.feature = 1
  head : WireHead s.outgoing
  ready : s.outgoing.ready ≠ 0 → s.initialized = true
  blank : s.initialized = false → BlankWire s.outgoing
  live : s.initialized = true → ToggleWire host s.outgoing
    ∧ s.outgoing.file ≠ 0 ∧ s.outgoing.scope ≠ 0

theorem peerRoleValid_of_blank {w : WorldWire} (h : BlankWire w) (host : Bool) :
    peerRoleValid host w = true := by
  cases host with
  | true => exact decide_eq_true h.ack
  | false => exact decide_eq_true ⟨fun i => ⟨h.request i, h.base i⟩, h.requestValues⟩

theorem WireSound.role (h : WireSound host s) : peerRoleValid (!host) s.outgoing = true := by
  cases hi : s.initialized with
  | true => exact (h.live hi).1.role
  | false => exact peerRoleValid_of_blank (h.blank hi) _

theorem masked_or {x y z : Word} (hx : Masked x) (hy : Masked y) (hz : Masked z) :
    (x ||| y ||| z) &&& ~~~ coopWorldMask = 0 := by
  change Masked _
  rw [masked_iff] at *
  intro i hi
  simp [hx i hi, hy i hi, hz i hi]

/-- **A sound wire passes `valid_world`.** -/
theorem WireSound.valid (h : WireSound host s) : validWorld s.outgoing = true := by
  rcases h.feature with he | hf
  · rw [he]
    exact validWorld_empty
  · have hne : s.outgoing.feature ≠ 0 := by
      rw [hf]
      decide
    unfold validWorld
    rw [if_neg hne]
    simp only [Bool.and_eq_true, decide_eq_true_eq]
    have hun : ¬ (s.outgoing.file = 0 ∧ (s.outgoing.scope ≠ 0 ∨ s.outgoing.values ≠ 0)) := by
      rintro ⟨h0, hs | hv⟩
      · exact hs (h.head.unannounced h0).1
      · exact hv (h.head.unannounced h0).2
    cases hi : s.initialized with
    | true =>
      obtain ⟨ht, hfile, hscope⟩ := h.live hi
      have hrev := ht.revision
      refine ⟨⟨⟨⟨⟨⟨hf, h.head.file, h.head.scope, h.head.ready, masked_or h.head.values ht.desired
        ht.requestValues⟩, hun, ?_, ?_⟩, ?_⟩, ?_⟩, ?_⟩, fun i => ⟨ht.base i, ?_⟩⟩
      · exact iff_of_false (hrev 0) (hrev 1)
      · exact iff_of_false (hrev 0) (hrev 2)
      · rintro ⟨-, h0 | h0 | h0⟩
        · exact hfile h0
        · exact hscope h0
        · exact hrev 0 h0
      · rintro ⟨-, h0 | h0⟩
        · exact hfile h0
        · exact hscope h0
      · exact fun h0 => hrev 0 h0.1
      · rintro ⟨h0, hb⟩
        rw [ht.requested i h0] at hb
        cases hb
    | false =>
      have hb := h.blank hi
      have hready : s.outgoing.ready = 0 := by
        by_contra h0
        rw [h.ready h0] at hi
        cases hi
      refine ⟨⟨⟨⟨⟨⟨hf, h.head.file, h.head.scope, h.head.ready, masked_or h.head.values ?_ ?_⟩, hun,
        ?_, ?_⟩, ?_⟩, ?_⟩, ?_⟩, fun i => ⟨iff_of_true (hb.request i) (hb.base i), ?_⟩⟩
      · exact hb.desired ▸ masked_zero
      · exact hb.requestValues ▸ masked_zero
      · exact iff_of_true (hb.revision 0) (hb.revision 1)
      · exact iff_of_true (hb.revision 0) (hb.revision 2)
      · exact fun h0 => h0.1 hready
      · exact fun h0 => h0.1 (hb.revision 0)
      · rintro ⟨-, h0 | h0 | ⟨i, h0 | h0 | h0⟩⟩
        · exact h0 hb.desired
        · exact h0 hb.requestValues
        · exact h0 (hb.request i)
        · exact h0 (hb.base i)
        · exact h0 (hb.ack i)
      · rintro ⟨-, h0⟩
        rw [hb.requestValues] at h0
        simp [toggleBit] at h0

/-! ## The exchange -/

theorem toggleWire_start (hb : BlankWire s.outgoing) (hl : Masked l.values) (hr : Masked r.desired)
    (hp : host = true ∨ ∀ i, r.revision i ≠ 0) :
    ToggleWire host (s.initializeFrom host l r).outgoing := by
  have hrole := peerRoleValid_of_blank hb (!host)
  refine ⟨fun i => ?_, ?_, hb.requestValues ▸ masked_zero,
    fun i => iff_of_true (hb.request i) (hb.base i), fun i _ => ?_, hrole⟩
  · unfold WorldSync.initializeFrom
    dsimp only
    rcases hp with rfl | hp
    · exact show (1 : Word) ≠ 0 by decide
    · cases host with
      | true => exact show (1 : Word) ≠ 0 by decide
      | false => exact hp i
  · unfold WorldSync.initializeFrom
    dsimp only
    split
    · exact hl
    · exact hr
  · change toggleBit s.outgoing.requestValues i = false
    rw [hb.requestValues]
    exact BitVec.getLsbD_zero

theorem update_ne_zero {f : Toggles} {value : Word} (h : ∀ i, f i ≠ 0) (hv : value ≠ 0)
    (i j : Fin coopWorldToggles) : Function.update f i value j ≠ 0 := by
  rcases eq_or_ne j i with rfl | hj
  · rw [Function.update_self]
    exact hv
  · rw [Function.update_of_ne hj]
    exact h j

/-- One toggle of the local loop. -/
theorem ToggleWire.intent (h : ToggleWire host s.outgoing) (i : Fin coopWorldToggles) :
    ToggleWire host (s.intent host l i).outgoing := by
  unfold WorldSync.intent
  by_cases hc : l.change i = s.lastChange i
  · rw [if_pos hc]
    exact h
  · rw [if_neg hc]
    cases host with
    | true =>
      rw [if_pos rfl]
      exact ⟨update_ne_zero h.revision (advance_ne_zero _) i, h.desired.setBit i _, h.requestValues,
        h.base, h.requested, h.role⟩
    | false =>
      rw [if_neg Bool.false_ne_true]
      refine ⟨h.revision, h.desired, h.requestValues.setBit i _, fun j => ?_, fun j hj => ?_, h.role⟩
      · dsimp only
        rcases eq_or_ne j i with rfl | hj
        · rw [Function.update_self, Function.update_self]
          exact iff_of_false (advance_ne_zero _) (h.revision j)
        · rw [Function.update_of_ne hj, Function.update_of_ne hj]
          exact h.base j
      · dsimp only at hj ⊢
        rcases eq_or_ne j i with rfl | hne
        · rw [Function.update_self] at hj
          exact absurd hj (advance_ne_zero _)
        · rw [Function.update_of_ne hne] at hj
          rw [toggleBit_setBit, if_neg hne]
          exact h.requested j hj

/-- One toggle of the remote loop. -/
theorem ToggleWire.incoming (h : ToggleWire host s.outgoing) (hr : ∀ i, r.revision i ≠ 0)
    (i : Fin coopWorldToggles) : ToggleWire host (s.incoming host r i).outgoing := by
  unfold WorldSync.incoming
  cases host with
  | true =>
    rw [if_pos rfl]
    by_cases hq : r.request i ≠ 0 ∧ (s.outgoing.ack i = 0 ∨ newer (r.request i) (s.outgoing.ack i))
    · rw [if_pos hq]
      by_cases hb : r.base i = s.outgoing.revision i
      · rw [if_pos hb]
        exact ⟨update_ne_zero h.revision (advance_ne_zero _) i, h.desired.setBit i _,
          h.requestValues, h.base, h.requested, h.role⟩
      · rw [if_neg hb]
        exact ⟨h.revision, h.desired, h.requestValues, h.base, h.requested, h.role⟩
    · rw [if_neg hq]
      exact h
  | false =>
    rw [if_neg Bool.false_ne_true]
    by_cases hn : r.revision i = s.outgoing.revision i
        ∨ newer (r.revision i) (s.outgoing.revision i)
    · rw [if_pos hn]
      exact ⟨update_ne_zero h.revision (hr i) i, h.desired.setBit i _, h.requestValues, h.base,
        h.requested, h.role⟩
    · rw [if_neg hn]
      exact h

/-- The words around the toggles are left alone by both loops. -/
def WorldSync.around (s : WorldSync) : Word × Word × Word × Word × Word :=
  (s.outgoing.feature, s.outgoing.file, s.outgoing.scope, s.outgoing.ready, s.outgoing.values)

theorem around_intent (s : WorldSync) (i : Fin coopWorldToggles) :
    (s.intent host l i).around = s.around := by
  unfold WorldSync.intent
  split_ifs <;> rfl

theorem around_incoming (s : WorldSync) (i : Fin coopWorldToggles) :
    (s.incoming host r i).around = s.around := by
  unfold WorldSync.incoming
  split_ifs <;> rfl

theorem masked_desired (hr : validWorld r = true) : Masked r.desired := by
  by_cases hf : r.feature = 0
  · rw [world_eq_empty hr hf]
    exact masked_zero
  · unfold validWorld at hr
    rw [if_neg hf] at hr
    simp only [Bool.and_eq_true] at hr
    have hmask : Masked (r.values ||| r.desired ||| r.requestValues) :=
      (of_decide_eq_true hr.1.1.1.1.1).2.2.2.2
    rw [masked_iff] at hmask ⊢
    intro i hi
    have hbit := hmask i hi
    simp only [BitVec.getLsbD_or, Bool.or_eq_false_iff] at hbit
    exact hbit.1.2

theorem revision_of_peerBound (h : s.peerBound r = true) (i : Fin coopWorldToggles) :
    r.revision i ≠ 0 := by
  obtain ⟨-, h0, h1, h2⟩ := of_decide_eq_true h
  fin_cases i
  · exact h0
  · exact h1
  · exact h2

/-- The first exchange waits for what the wire needs. -/
theorem toggleWire_started (h : WireSound host s) (hl : validWorldInput l = true)
    (hr : validWorld r = true) (hp : host = true ∨ s.initialized = true ∨ s.peerBound r = true) :
    ToggleWire host (s.started host l r).outgoing := by
  unfold WorldSync.started
  cases hi : s.initialized with
  | true => exact (h.live hi).1
  | false =>
    refine toggleWire_start (h.blank hi) (of_decide_eq_true hl).2.2.2.2.1 (masked_desired hr) ?_
    rcases hp with hp | hp | hp
    · exact .inl hp
    · rw [hi] at hp
      cases hp
    · exact .inr (revision_of_peerBound hp)

/-- What an exchange keeps while it runs. -/
structure Exchanging (host : Bool) (s : WorldSync) : Prop where
  toggles : ToggleWire host s.outgoing
  head : WireHead s.outgoing
  feature : s.outgoing.feature = 1
  file : s.outgoing.file ≠ 0
  scope : s.outgoing.scope ≠ 0

theorem Exchanging.of_around {s s' : WorldSync} (ht : ToggleWire host s'.outgoing)
    (h : WireHead s.outgoing) (hfeature : s.outgoing.feature = 1) (hfile : s.outgoing.file ≠ 0)
    (hscope : s.outgoing.scope ≠ 0) (ha : s'.around = s.around) : Exchanging host s' := by
  simp only [WorldSync.around, Prod.mk.injEq] at ha
  obtain ⟨h1, h2, h3, h4, h5⟩ := ha
  refine ⟨ht, ⟨?_, ?_, ?_, ?_, ?_⟩, ?_, ?_, ?_⟩
  · exact h2 ▸ h.file
  · exact h3 ▸ h.scope
  · exact h4 ▸ h.ready
  · exact h5 ▸ h.values
  · rw [h2, h3, h5]
    exact h.unannounced
  · exact h1.trans hfeature
  · exact h2 ▸ hfile
  · exact h3 ▸ hscope

theorem Exchanging.intent (h : Exchanging host s) (i : Fin coopWorldToggles) :
    Exchanging host (s.intent host l i) :=
  .of_around (h.toggles.intent i) h.head h.feature h.file h.scope (around_intent s i)

theorem Exchanging.incoming (h : Exchanging host s) (hr : ∀ i, r.revision i ≠ 0)
    (i : Fin coopWorldToggles) : Exchanging host (s.incoming host r i) :=
  .of_around (h.toggles.incoming hr i) h.head h.feature h.file h.scope (around_incoming s i)

theorem Exchanging.intents (h : Exchanging host s) (hl : validWorldInput l = true) :
    Exchanging host (s.intents host l) := by
  unfold WorldSync.intents
  split
  · exact h
  · have hstep : ∀ (s : WorldSync) i, Exchanging host s →
        Exchanging host (WorldSync.intent host l s i) := fun _ i h => h.intent i
    refine Run.run_invariant_of_steps hstep ?_ _
    obtain ⟨h1, h2, h3, h4, h5, h6⟩ := h.toggles
    exact ⟨⟨h1, h2, h3, h4, h5, h6⟩,
      ⟨h.head.file, h.head.scope, show (1 : Word) ≤ 1 by decide, (of_decide_eq_true hl).2.2.2.2.1,
        fun h0 => absurd h0 h.file⟩, h.feature, h.file, h.scope⟩

/-- The part of an update behind the guards. -/
theorem wireSound_exchange {fresh permitted : Bool} (h : WireSound host s)
    (hm : s.mayExchange host l r fresh permitted = true) (hl : validWorldInput l = true)
    (hr : validWorld r = true) (hfeature : s.outgoing.feature = 1) (hfile : s.outgoing.file ≠ 0)
    (hscope : s.outgoing.scope ≠ 0) : WireSound host (s.exchange host l r) := by
  have hinit := initialized_exchange host l r s
  suffices hx : Exchanging host (s.exchange host l r) from
    ⟨.inr hx.feature, hx.head, fun _ => hinit,
      fun hi => absurd (hinit.symm.trans hi) (by decide),
      fun _ => ⟨hx.toggles, hx.file, hx.scope⟩⟩
  have hguard : host = true ∨ s.initialized = true ∨ s.peerBound r = true := by
    simp only [WorldSync.mayExchange, Bool.and_eq_true, Bool.or_eq_true] at hm
    rcases hm.2 with hi | ⟨-, hp | hp⟩
    · exact .inr (.inl hi)
    · exact .inl hp
    · exact .inr (.inr hp)
  have hstart : Exchanging host (s.started host l r) := by
    have ht := toggleWire_started h hl hr hguard
    have ha : (s.started host l r).around = s.around := by
      unfold WorldSync.started
      split <;> rfl
    exact .of_around ht h.head hfeature hfile hscope ha
  rw [exchange_eq]
  split
  · rename_i hp
    have hrev := revision_of_peerBound hp
    have hstep : ∀ (s : WorldSync) i, Exchanging host s →
        Exchanging host (WorldSync.incoming host r s i) := fun _ i h => h.incoming hrev i
    obtain ⟨h1, h2, h3, h4, h5⟩ : Exchanging host ((List.finRange coopWorldToggles).foldl
        (WorldSync.incoming host r) ((s.started host l r).intents host l)) :=
      Run.run_invariant_of_steps hstep (hstart.intents hl) _
    exact ⟨h1, h2, h3, h4, h5⟩
  · exact hstart.intents hl

/-! ## One update -/

theorem wireHead_empty : WireHead {} :=
  ⟨by decide, by decide, by decide, masked_zero, fun _ => ⟨rfl, rfl⟩⟩

theorem blankWire_empty : BlankWire {} :=
  ⟨fun _ => rfl, rfl, rfl, fun _ => rfl, fun _ => rfl, fun _ => rfl⟩

/-- A reset `WorldSync`, whatever it is bound to. -/
theorem wireSound_reset (h : s.outgoing = {}) (hi : s.initialized = false) : WireSound host s where
  feature := .inl h
  head := h ▸ wireHead_empty
  ready h0 := absurd (show s.outgoing.ready = 0 by rw [h]) h0
  blank _ := h ▸ blankWire_empty
  live ht := absurd (hi.symm.trans ht) (by decide)

/-- The head of the wire is written anew, without readiness. -/
theorem WireSound.readdress (h : WireSound host s) (s' : WorldSync) {file : Word} (scope : Word)
    (hout : s'.outgoing = { s.outgoing with feature := 1, file := file, scope := scope, ready := 0 })
    (hi : s'.initialized = s.initialized) (hfile : file ≤ 3) (hscope : scope ≤ 3)
    (hu : file = 0 → scope = 0 ∧ s.outgoing.values = 0)
    (hl : s.initialized = true → file ≠ 0 ∧ scope ≠ 0) : WireSound host s' where
  feature := .inr (by rw [hout])
  head := by
    rw [hout]
    exact ⟨hfile, hscope, show (0 : Word) ≤ 1 by decide, h.head.values, hu⟩
  ready h0 := absurd (show s'.outgoing.ready = 0 by rw [hout]) h0
  blank hb := by
    obtain ⟨h1, h2, h3, h4, h5, h6⟩ := h.blank (hi.symm.trans hb)
    rw [hout]
    exact ⟨h1, h2, h3, h4, h5, h6⟩
  live ht := by
    rw [hi] at ht
    obtain ⟨⟨h1, h2, h3, h4, h5, h6⟩, -, -⟩ := h.live ht
    rw [hout]
    exact ⟨⟨h1, h2, h3, h4, h5, h6⟩, hl ht⟩

theorem wireSound_wait (h : WireSound host s) (hl : l.file ≤ 3) (hf : l.file ≠ 0)
    (session : Word64) : WireSound host (s.wait l session) := by
  have hwaiting : ∀ {s : WorldSync}, WireSound host s → WireSound host (s.waiting l) :=
    fun {s} h => h.readdress _ s.outgoing.scope rfl rfl hl h.head.scope
      (fun h0 => absurd h0 hf) fun hi => ⟨hf, (h.live hi).2.2⟩
  unfold WorldSync.wait
  split
  · exact hwaiting (wireSound_reset rfl rfl)
  · exact hwaiting h

/-- The binding after a usable payload of the peer. -/
theorem wireSound_rebind (h : WireSound host s) (hl : l.file ≤ 3) (hf : l.file ≠ 0)
    (hr : r.file ≤ 3) (hrf : r.file ≠ 0) (session : Word64) :
    WireSound host (s.rebind host l r session)
    ∧ (s.rebind host l r session).outgoing.feature = 1
    ∧ (s.rebind host l r session).outgoing.file ≠ 0
    ∧ (s.rebind host l r session).outgoing.scope ≠ 0 := by
  have hwanted : (if host then l.file else r.file) ≤ 3 ∧ (if host then l.file else r.file) ≠ 0 := by
    split
    · exact ⟨hl, hf⟩
    · exact ⟨hr, hrf⟩
  unfold WorldSync.rebind
  dsimp only
  generalize (if host then l.file else r.file) = wanted at hwanted ⊢
  split
  · refine ⟨?_, rfl, hf, hwanted.2⟩
    have hreset : WireSound host
        { binding := session, file := l.file, scope := wanted, peerFile := r.file } :=
      wireSound_reset rfl rfl
    exact hreset.readdress _ _ rfl rfl hl hwanted.1 (fun h0 => absurd h0 hf) fun _ => ⟨hf, hwanted.2⟩
  · rename_i hsame
    simp only [not_or, not_not] at hsame
    obtain ⟨-, hfile, hscope, -⟩ := hsame
    have hf' : s.file ≠ 0 := hfile ▸ hf
    have hs' : s.scope ≠ 0 := hscope ▸ hwanted.2
    exact ⟨h.readdress (s.announce session) _ rfl rfl (hfile ▸ hl) (hscope ▸ hwanted.1)
      (fun h0 => absurd h0 hf') fun _ => ⟨hf', hs'⟩, rfl, hf', hs'⟩

/-- What one call of `WorldSync::update` is given. -/
structure WorldCall where
  input : CoopWorldInput
  remote : WorldWire
  connected : Bool
  fresh : Bool
  permitted : Bool
  session : Word64

/-- The update of one endpoint of a fixed role. -/
def WorldSync.call (host : Bool) (s : WorldSync) (c : WorldCall) : WorldSync :=
  s.update host c.input c.remote c.connected c.fresh c.permitted c.session

theorem file_of_validWorld (hr : validWorld r = true) : r.file ≤ 3 := by
  by_cases hf : r.feature = 0
  · rw [world_eq_empty hr hf]
    decide
  · unfold validWorld at hr
    rw [if_neg hf] at hr
    simp only [Bool.and_eq_true] at hr
    exact (of_decide_eq_true hr.1.1.1.1.1).2.1

/-- **One update keeps the wire sound.** -/
theorem wireSound_update (h : WireSound host s) (c : WorldCall) : WireSound host (s.call host c) := by
  unfold WorldSync.call WorldSync.update
  by_cases hon : ¬ validWorldInput c.input = true ∨ c.input.enabled = 0
  · rw [if_pos hon]
    exact wireSound_reset rfl rfl
  rw [if_neg hon]
  simp only [not_or, not_not] at hon
  have hfile : c.input.file ≤ 3 := (of_decide_eq_true hon.1).2.1
  by_cases hn : ¬ c.connected = true ∨ c.session = 0 ∨ c.input.file = 0
  · rw [if_pos hn]
    have hreset : WireSound host {} := wireSound_reset rfl rfl
    exact hreset.readdress _ 0 rfl rfl hfile (by decide) (fun _ => ⟨rfl, rfl⟩)
      fun hi => absurd hi (by decide)
  rw [if_neg hn]
  simp only [not_or, not_not] at hn
  by_cases hw : ¬ validWorld c.remote = true ∨ c.remote.feature = 0 ∨ c.remote.file = 0
  · rw [if_pos hw]
    exact wireSound_wait h hfile hn.2.2 _
  rw [if_neg hw]
  simp only [not_or, not_not] at hw
  obtain ⟨hs, h1, h2, h3⟩ := wireSound_rebind h hfile hn.2.2 (file_of_validWorld hw.1) hw.2.2
    c.session
  dsimp only
  split
  · rename_i hm
    exact wireSound_exchange hs hm hon.1 hw.1 h1 h2 h3
  · exact hs

/-! ## Runs -/

theorem wireSound_run (host : Bool) (calls : List WorldCall) :
    WireSound host (Run.run (WorldSync.call host) {} calls) :=
  Run.run_invariant_of_steps (I := WireSound host) (fun _ c h => wireSound_update h c)
    (wireSound_reset rfl rfl) calls

/-- The session takes readiness out, or the whole payload. -/
theorem worldPayload_valid {w : WorldWire} (h : validWorld w = true)
    (hrole : peerRoleValid host w = true) (items : ItemWire) :
    validWorld (worldPayload w items) = true ∧ peerRoleValid host (worldPayload w items) = true := by
  have hunready : validWorld { w with ready := 0 } = true := by
    by_cases hf : w.feature = 0
    · rw [world_eq_empty h hf]
      exact validWorld_empty
    · unfold validWorld at h ⊢
      rw [if_neg hf] at h
      rw [if_neg hf]
      simp only [Bool.and_eq_true] at h ⊢
      obtain ⟨⟨⟨⟨⟨h1, h2⟩, -⟩, h4⟩, h5⟩, h6⟩ := h
      obtain ⟨k1, k2, k3, -, k5⟩ := of_decide_eq_true h1
      have hready : (0 : Word) ≤ 1 := by decide
      exact ⟨⟨⟨⟨⟨decide_eq_true ⟨k1, k2, k3, hready, k5⟩, h2⟩, decide_eq_true fun h0 => h0.1 rfl⟩,
        h4⟩, h5⟩, h6⟩
  unfold worldPayload
  split_ifs
  · exact ⟨validWorld_empty, peerRoleValid_of_blank blankWire_empty host⟩
  · exact ⟨hunready, hrole⟩
  · exact ⟨h, hrole⟩

/-- The test of `decode` that a world payload goes with an item payload of the same file. -/
def pairedWith (w : WorldWire) (items : ItemWire) : Bool :=
  decide (¬ (w.feature ≠ 0 ∧ (items.feature = 0 ∨ w.file ≠ items.file
    ∨ w.ready ≠ 0 ∧ items.ready = 0)))

/-- What the session sends beside an item payload goes with it. -/
theorem worldPayload_paired (w : WorldWire) (items : ItemWire) :
    pairedWith (worldPayload w items) items = true := by
  refine decide_eq_true ?_
  unfold worldPayload
  split_ifs with hnone hready
  · exact fun h => h.1 rfl
  · rintro ⟨-, h | h | h⟩
    · exact hnone (.inl h)
    · exact hnone (.inr h)
    · exact h.1 rfl
  · rintro ⟨-, h | h | h⟩
    · exact hnone (.inl h)
    · exact hnone (.inr h)
    · exact hready h.2

/-- **The outgoing wire is always valid, and of its role.** After any run of updates of one role the
wire passes `valid_world`, a host's wire carries neither requests nor bases, a guest's wire carries no
acknowledgement, and what the session sends of it is decoded to a payload that the peer's `valid_world`
and role check accept, and that goes with the item payload beside it. -/
theorem world_wire_valid (host : Bool) (calls : List WorldCall) :
    let w := (Run.run (WorldSync.call host) {} calls).outgoing
    validWorld w = true
    ∧ (host = true → ∀ i, w.request i = 0 ∧ w.base i = 0)
    ∧ (host = false → ∀ i, w.ack i = 0)
    ∧ ∀ items, validWorld (worldFromWords (worldWords (worldPayload w items))) = true
      ∧ peerRoleValid (!host) (worldFromWords (worldWords (worldPayload w items))) = true
      ∧ pairedWith (worldFromWords (worldWords (worldPayload w items))) items = true := by
  intro w
  have hs := wireSound_run host calls
  refine ⟨hs.valid, ?_, ?_, fun items => ?_⟩
  · rintro rfl
    exact (of_decide_eq_true hs.role).1
  · rintro rfl
    exact of_decide_eq_true hs.role
  · rw [worldFromWords_worldWords]
    obtain ⟨hvalid, hrole⟩ := worldPayload_valid hs.valid hs.role items
    exact ⟨hvalid, hrole, worldPayload_paired w items⟩

end Dk64Port.Coop
