import Dk64Port.Coop.Items
import Mathlib.Data.Fin.VecNotation
import Mathlib.Data.Fintype.Basic
import Mathlib.Logic.Function.Basic
import Mathlib.Tactic.FinCases
import Mathlib.Algebra.Group.Nat.Defs
import Mathlib.Algebra.GroupWithZero.Nat

/-!
# Reversible world toggles (`native/world.cpp`, `mod/world_types.h`)

The wire form of the toggles and `WorldSync`, which keeps for every toggle the value both saves
should show. Only the host gives out revisions; the guest sends numbered requests that name the
revision they were based on.

* `WorldSync.update`: one call of `WorldSync::update`, cut at the blank lines of the source.
-/

namespace Dk64Port.Coop

/-- `COOP_WORLD_TOGGLES`. -/
abbrev coopWorldToggles : Nat := 3

instance : NeZero coopWorldToggles := ⟨Nat.succ_ne_zero _⟩

/-- `COOP_WORLD_MASK`. -/
def coopWorldMask : Word := 7

/-- `COOP_WORLD_WIRE_WORDS`. -/
abbrev coopWorldWireWords : Nat := 19

/-- `unsigned change[COOP_WORLD_TOGGLES]`. -/
abbrev Toggles := Fin coopWorldToggles → Word

/-- `CoopWorldInput`. -/
structure CoopWorldInput where
  enabled : Word := 0
  file : Word := 0
  ready : Word := 0
  values : Word := 0
  change : Toggles := fun _ => 0
  sessionHi : Word := 0
  sessionLo : Word := 0
  scope : Word := 0

/-- `CoopWorldResult`. -/
structure CoopWorldResult where
  status : Word := 0
  desired : Word := 0
  apply : Word := 0
  pending : Word := 0
  sessionHi : Word := 0
  sessionLo : Word := 0
  scope : Word := 0

/-- `WorldWire`. -/
@[ext] structure WorldWire where
  feature : Word := 0
  file : Word := 0
  scope : Word := 0
  ready : Word := 0
  values : Word := 0
  desired : Word := 0
  revision : Toggles := fun _ => 0
  request : Toggles := fun _ => 0
  base : Toggles := fun _ => 0
  requestValues : Word := 0
  ack : Toggles := fun _ => 0

/-- `world_words`. -/
def worldWords (w : WorldWire) : Fin coopWorldWireWords → Word :=
  ![w.feature, w.file, w.scope, w.ready, w.values, w.desired,
    w.revision 0, w.revision 1, w.revision 2,
    w.request 0, w.request 1, w.request 2,
    w.base 0, w.base 1, w.base 2, w.requestValues,
    w.ack 0, w.ack 1, w.ack 2]

/-- `world_from_words`. -/
def worldFromWords (w : Fin coopWorldWireWords → Word) : WorldWire where
  feature := wordAt w 0
  file := wordAt w 1
  scope := wordAt w 2
  ready := wordAt w 3
  values := wordAt w 4
  desired := wordAt w 5
  revision := ![wordAt w 6, wordAt w 7, wordAt w 8]
  request := ![wordAt w 9, wordAt w 10, wordAt w 11]
  base := ![wordAt w 12, wordAt w 13, wordAt w 14]
  requestValues := wordAt w 15
  ack := ![wordAt w 16, wordAt w 17, wordAt w 18]

/-- `values & (1u << i)`. -/
def toggleBit (values : Word) (i : Fin coopWorldToggles) : Bool := values.getLsbD i.val

/-- `valid_world`. -/
def validWorld (w : WorldWire) : Bool :=
  if w.feature = 0 then decide (∀ i, worldWords w i = 0)
  else
    decide (w.feature = 1 ∧ w.file ≤ 3 ∧ w.scope ≤ 3 ∧ w.ready ≤ 1
      ∧ (w.values ||| w.desired ||| w.requestValues) &&& ~~~ coopWorldMask = 0)
    && decide (¬ (w.file = 0 ∧ (w.scope ≠ 0 ∨ w.values ≠ 0))
      ∧ (w.revision 0 = 0 ↔ w.revision 1 = 0) ∧ (w.revision 0 = 0 ↔ w.revision 2 = 0))
    && decide (¬ (w.ready ≠ 0 ∧ (w.file = 0 ∨ w.scope = 0 ∨ w.revision 0 = 0)))
    && decide (¬ (w.revision 0 ≠ 0 ∧ (w.file = 0 ∨ w.scope = 0)))
    && decide (¬ (w.revision 0 = 0 ∧ (w.desired ≠ 0 ∨ w.requestValues ≠ 0
      ∨ ∃ i, w.request i ≠ 0 ∨ w.base i ≠ 0 ∨ w.ack i ≠ 0)))
    && decide (∀ i, (w.request i = 0 ↔ w.base i = 0)
      ∧ ¬ (w.request i = 0 ∧ toggleBit w.requestValues i))

theorem worldFromWords_worldWords (w : WorldWire) : worldFromWords (worldWords w) = w := by
  refine WorldWire.ext rfl rfl rfl rfl rfl rfl ?_ ?_ ?_ rfl ?_ <;>
    funext i <;> fin_cases i <;> rfl

theorem worldWords_worldFromWords (w : Fin coopWorldWireWords → Word) :
    worldWords (worldFromWords w) = w := by
  funext i
  fin_cases i <;> rfl

theorem world_eq_empty {w : WorldWire} (h : validWorld w = true) (hf : w.feature = 0) : w = {} := by
  rw [validWorld, if_pos hf, decide_eq_true_eq] at h
  have hzero : ∀ i, worldWords {} i = 0 := by decide
  rw [← worldFromWords_worldWords w, ← worldFromWords_worldWords {}]
  exact congrArg worldFromWords (funext fun i => (h i).trans (hzero i).symm)

/-- `valid_world_input`. -/
def validWorldInput (l : CoopWorldInput) : Bool :=
  decide (l.enabled ≤ 1 ∧ l.file ≤ 3 ∧ l.scope ≤ 3 ∧ l.ready ≤ 1
    ∧ l.values &&& ~~~ coopWorldMask = 0 ∧ (l.ready = 0 ∨ l.enabled ≠ 0 ∧ l.file ≠ 0))

/-- `advance`: zero means no revision, so it is skipped. -/
def advance (value : Word) : Word := if value + 1 = 0 then 1 else value + 1

theorem advance_ne_zero (value : Word) : advance value ≠ 0 := by
  unfold advance
  split
  · decide
  · assumption

theorem toNat_advance {value : Word} (h : value.toNat + 1 < 2 ^ 32) :
    (advance value).toNat = value.toNat + 1 := by
  have hs : (value + 1).toNat = value.toNat + 1 := by
    rw [BitVec.toNat_add]
    exact Nat.mod_eq_of_lt h
  have hne : ¬ value + 1 = 0 := by
    intro hz
    rw [hz] at hs
    simp at hs
  rw [advance, if_neg hne, hs]

/-- `set_bit`. -/
def setBit (values : Word) (i : Fin coopWorldToggles) (source : Word) : Word :=
  (values &&& ~~~ BitVec.twoPow 32 i.val) ||| (source &&& BitVec.twoPow 32 i.val)

/-- `newer`: the candidate is ahead by less than half of the numbers. -/
def newer (candidate previous : Word) : Bool :=
  decide (candidate - previous ≠ 0 ∧ candidate - previous < 0x80000000)

/-- `WorldSync`. -/
structure WorldSync where
  outgoing : WorldWire := {}
  output : CoopWorldResult := {}
  binding : Word64 := 0
  file : Word := 0
  scope : Word := 0
  peerFile : Word := 0
  lastChange : Toggles := fun _ => 0
  pending : Word := 0
  initialized : Bool := false

/-- The peer is not usable: the binding so far stays announced. -/
def WorldSync.waiting (l : CoopWorldInput) (s : WorldSync) : WorldSync :=
  { s with
    outgoing := { s.outgoing with feature := 1, file := l.file, ready := 0 }
    output :=
      if s.binding ≠ 0 then
        { status := 1, sessionHi := sessionHi s.binding, sessionLo := sessionLo s.binding
          scope := s.scope }
      else { status := 1 } }

/-- Without a usable payload of the peer, only a new session or file resets. -/
def WorldSync.wait (l : CoopWorldInput) (session : Word64) (s : WorldSync) : WorldSync :=
  (if s.binding ≠ session ∨ s.file ≠ l.file then {} else s).waiting l

/-- The binding is announced. -/
def WorldSync.announce (session : Word64) (s : WorldSync) : WorldSync :=
  { s with
    outgoing := { s.outgoing with feature := 1, file := s.file, scope := s.scope, ready := 0 }
    output :=
      { status := 1, sessionHi := sessionHi session, sessionLo := sessionLo session
        scope := s.scope } }

/-- The binding is renewed when the session, a file or the scope changed. -/
def WorldSync.rebind (host : Bool) (l : CoopWorldInput) (r : WorldWire) (session : Word64)
    (s : WorldSync) : WorldSync :=
  let wantedScope := if host then l.file else r.file
  (if s.binding ≠ session ∨ s.file ≠ l.file ∨ s.scope ≠ wantedScope ∨ s.peerFile ≠ r.file then
    { binding := session, file := l.file, scope := wantedScope, peerFile := r.file }
  else s : WorldSync).announce session

/-- `bound`. -/
def WorldSync.bound (l : CoopWorldInput) (s : WorldSync) : Bool :=
  decide (l.sessionHi = s.output.sessionHi ∧ l.sessionLo = s.output.sessionLo
    ∧ l.scope = s.scope)

/-- `peer_bound`. -/
def WorldSync.peerBound (r : WorldWire) (s : WorldSync) : Bool :=
  decide (r.scope = s.scope ∧ r.revision 0 ≠ 0 ∧ r.revision 1 ≠ 0 ∧ r.revision 2 ≠ 0)

/-- `peer_role_valid`. -/
def peerRoleValid (host : Bool) (r : WorldWire) : Bool :=
  if host then decide (∀ i, r.ack i = 0)
  else decide ((∀ i, r.request i = 0 ∧ r.base i = 0) ∧ r.requestValues = 0)

/-- The first usable update. An offline change of the save is never a request. -/
def WorldSync.initializeFrom (host : Bool) (l : CoopWorldInput) (r : WorldWire) (s : WorldSync) :
    WorldSync :=
  { s with
    initialized := true
    outgoing := { s.outgoing with
      desired := if host then l.values else r.desired
      revision := fun i => if host then 1 else r.revision i }
    lastChange := l.change }

/-- One toggle of the local loop. -/
def WorldSync.intent (host : Bool) (l : CoopWorldInput) (s : WorldSync)
    (i : Fin coopWorldToggles) : WorldSync :=
  if l.change i = s.lastChange i then s
  else if host then
    { s with
      lastChange := Function.update s.lastChange i (l.change i)
      outgoing := { s.outgoing with
        desired := setBit s.outgoing.desired i l.values
        revision := Function.update s.outgoing.revision i (advance (s.outgoing.revision i)) } }
  else
    { s with
      lastChange := Function.update s.lastChange i (l.change i)
      outgoing := { s.outgoing with
        request := Function.update s.outgoing.request i (advance (s.outgoing.request i))
        base := Function.update s.outgoing.base i (s.outgoing.revision i)
        requestValues := setBit s.outgoing.requestValues i l.values }
      pending := s.pending ||| BitVec.twoPow 32 i.val }

/-- Local intent, before incoming changes: requests are based on the revision the guest saw. -/
def WorldSync.intents (host : Bool) (l : CoopWorldInput) (s : WorldSync) : WorldSync :=
  if l.ready = 0 then s
  else
    (List.finRange coopWorldToggles).foldl (WorldSync.intent host l)
      { s with outgoing := { s.outgoing with values := l.values, ready := 1 } }

/-- One toggle of the remote loop. The host refuses a request based on an old revision but
acknowledges it. -/
def WorldSync.incoming (host : Bool) (r : WorldWire) (s : WorldSync)
    (i : Fin coopWorldToggles) : WorldSync :=
  if host then
    if r.request i ≠ 0 ∧ (s.outgoing.ack i = 0 ∨ newer (r.request i) (s.outgoing.ack i)) then
      let s : WorldSync :=
        if r.base i = s.outgoing.revision i then
          { s with outgoing := { s.outgoing with
              desired := setBit s.outgoing.desired i r.requestValues
              revision := Function.update s.outgoing.revision i
                (advance (s.outgoing.revision i)) } }
        else s
      { s with outgoing := { s.outgoing with
          ack := Function.update s.outgoing.ack i (r.request i) } }
    else s
  else if r.revision i = s.outgoing.revision i ∨ newer (r.revision i) (s.outgoing.revision i) then
    { s with
      outgoing := { s.outgoing with
        revision := Function.update s.outgoing.revision i (r.revision i)
        desired := setBit s.outgoing.desired i r.desired }
      pending :=
        if s.outgoing.request i ≠ 0 ∧ r.ack i = s.outgoing.request i then
          s.pending &&& ~~~ BitVec.twoPow 32 i.val
        else s.pending }
  else s

/-- The toggles whose revision the peer has not reached. -/
def unseen (r : WorldWire) (w : WorldWire) : Word :=
  (List.finRange coopWorldToggles).foldl
    (fun (bits : Word) (i : Fin coopWorldToggles) =>
      if r.revision i ≠ w.revision i then bits ||| BitVec.twoPow 32 i.val else bits) 0

/-- What the game is told. -/
def WorldSync.report (l : CoopWorldInput) (r : WorldWire) (s : WorldSync) : WorldSync :=
  let pending := s.pending ||| (l.values ^^^ s.outgoing.desired)
    ||| (r.values ^^^ s.outgoing.desired) ||| unseen r s.outgoing
  { s with output := { s.output with
      desired := s.outgoing.desired
      pending := pending
      apply := if l.ready ≠ 0 then (l.values ^^^ s.outgoing.desired) &&& ~~~ s.pending else 0
      status := if l.ready = 0 ∨ r.ready = 0 then 1 else if pending ≠ 0 then 2 else 3 } }

/-- The part of an update behind the guards. -/
def WorldSync.exchange (host : Bool) (l : CoopWorldInput) (r : WorldWire) (s : WorldSync) :
    WorldSync :=
  let s := if s.initialized then s else s.initializeFrom host l r
  let s := s.intents host l
  if ¬ s.peerBound r then s
  else ((List.finRange coopWorldToggles).foldl (WorldSync.incoming host r) s).report l r

/-- The guards of an update that is already bound. -/
def WorldSync.mayExchange (host : Bool) (l : CoopWorldInput) (r : WorldWire)
    (fresh permitted : Bool) (s : WorldSync) : Bool :=
  s.bound l && fresh && permitted && peerRoleValid host r
    && (s.initialized || decide (l.ready ≠ 0) && (host || s.peerBound r))

/-- `WorldSync::update`. -/
def WorldSync.update (host : Bool) (l : CoopWorldInput) (r : WorldWire)
    (connected fresh permitted : Bool) (session : Word64) (s : WorldSync) : WorldSync :=
  if ¬ validWorldInput l ∨ l.enabled = 0 then {}
  else if ¬ connected ∨ session = 0 ∨ l.file = 0 then
    { outgoing := { feature := 1, file := l.file }, output := { status := 1 } }
  else if ¬ validWorld r ∨ r.feature = 0 ∨ r.file = 0 then s.wait l session
  else
    let s := s.rebind host l r session
    if s.mayExchange host l r fresh permitted then s.exchange host l r else s

/-- The update passes every guard before the remote loop. -/
def WorldSync.hears (host : Bool) (l : CoopWorldInput) (r : WorldWire)
    (connected fresh permitted : Bool) (session : Word64) (s : WorldSync) : Bool :=
  validWorldInput l && connected && validWorld r
    && decide (l.enabled ≠ 0 ∧ session ≠ 0 ∧ l.file ≠ 0 ∧ r.feature ≠ 0 ∧ r.file ≠ 0)
    && (s.rebind host l r session).mayExchange host l r fresh permitted
    && (s.rebind host l r session).peerBound r

end Dk64Port.Coop
