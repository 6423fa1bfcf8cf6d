import Dk64Port.Coop.Items
import Dk64Port.Coop.Player
import Mathlib.Data.Fintype.Basic
import Mathlib.Logic.Function.Basic
import Mathlib.Tactic.FinCases
import Mathlib.Algebra.GroupWithZero.Nat

/-!
# Same-room records (`mod/transient_types.h`, `native/transient.cpp`)

Up to eight bounded records about the room both players are in. The host decides most of them; a
few are commands that either side may give.

* `transientFromWords_transientWords` / `transientWords_transientFromWords`: the words are the
  payload.
* `TransientSync.update`: one call of `TransientSync::update`.
-/

namespace Dk64Port.Coop

/-- `COOP_TRANSIENT_RECORDS`. -/
abbrev coopTransientRecords : Nat := 8

instance : NeZero coopTransientRecords := ⟨Nat.succ_ne_zero _⟩

/-- `COOP_TRANSIENT_WIRE_WORDS`. -/
abbrev coopTransientWireWords : Nat := 6 + coopTransientRecords * 4

/-- `COOP_TRANSIENT_TRIGGER`. -/
def transientTrigger : Word := 5

/-- `COOP_TRANSIENT_SEQUENCE`. -/
def transientSequence : Word := 6

/-- The kinds that report one finished minigame, from `COOP_TRANSIENT_MINIGAME_SUCCESS` on. -/
def transientMinigameSuccess : Word := 10

/-- `COOP_TRANSIENT_KIND_COUNT`. -/
def coopTransientKindCount : Word := 14

/-- `CoopTransientRecord`. -/
@[ext] structure CoopTransientRecord where
  kind : Word := 0
  key : Word := 0
  state : Word := 0
  value : Word := 0
deriving DecidableEq

/-- `CoopTransientRecord records[COOP_TRANSIENT_RECORDS]`. -/
abbrev TransientRecords := Fin coopTransientRecords → CoopTransientRecord

/-- `CoopTransientInput`. -/
structure CoopTransientInput where
  enabled : Word := 0
  file : Word := 0
  map : Word := 0
  epoch : Word := 0
  revision : Word := 0
  count : Word := 0
  records : TransientRecords := fun _ => {}

/-- `CoopTransientResult`; the records delivered so far are a list. -/
structure CoopTransientResult where
  status : Word := 0
  map : Word := 0
  epoch : Word := 0
  records : List CoopTransientRecord := []

/-- `TransientWire`. -/
@[ext] structure TransientWire where
  feature : Word := 0
  file : Word := 0
  map : Word := 0
  epoch : Word := 0
  revision : Word := 0
  count : Word := 0
  records : TransientRecords := fun _ => {}

/-! ## The wire form -/

/-- The four words of a record. -/
def recordWord (r : CoopTransientRecord) : Fin 4 → Word := ![r.kind, r.key, r.state, r.value]

/-- `transient_words`. -/
def transientWords (t : TransientWire) : Fin coopTransientWireWords → Word := fun n =>
  if h : n.val < 6 then ![t.feature, t.file, t.map, t.epoch, t.revision, t.count] ⟨n.val, h⟩
  else
    have hn : n.val < 38 := n.isLt
    recordWord (t.records ⟨(n.val - 6) / 4, (by omega : (n.val - 6) / 4 < 8)⟩)
      ⟨(n.val - 6) % 4, Nat.mod_lt _ (by decide)⟩

/-- `transient_from_words`. -/
def transientFromWords (w : Fin coopTransientWireWords → Word) : TransientWire where
  feature := wordAt w 0
  file := wordAt w 1
  map := wordAt w 2
  epoch := wordAt w 3
  revision := wordAt w 4
  count := wordAt w 5
  records := fun i =>
    { kind := wordAt w (6 + 4 * i.val), key := wordAt w (6 + 4 * i.val + 1)
      state := wordAt w (6 + 4 * i.val + 2), value := wordAt w (6 + 4 * i.val + 3) }

variable {t : TransientWire} {w : Fin coopTransientWireWords → Word}

theorem wordAt_transientWords (i : Fin coopTransientRecords) (k : Fin 4) :
    wordAt (transientWords t) (6 + 4 * i.val + k.val) = recordWord (t.records i) k := by
  have hi : i.val < 8 := i.isLt
  have hq : (6 + 4 * i.val + k.val - 6) / 4 = i.val := by omega
  have hr : (6 + 4 * i.val + k.val - 6) % 4 = k.val := by omega
  rw [wordAt_of_lt (by omega : 6 + 4 * i.val + k.val < 6 + 8 * 4), transientWords,
    dif_neg (by omega : ¬ 6 + 4 * i.val + k.val < 6)]
  exact congrArg₂ (fun j l => recordWord (t.records j) l) (Fin.ext hq) (Fin.ext hr)

theorem transientFromWords_transientWords (t : TransientWire) :
    transientFromWords (transientWords t) = t := by
  refine TransientWire.ext rfl rfl rfl rfl rfl rfl (funext fun i => ?_)
  exact CoopTransientRecord.ext (wordAt_transientWords i 0) (wordAt_transientWords i 1)
    (wordAt_transientWords i 2) (wordAt_transientWords i 3)

theorem transientWords_transientFromWords (w : Fin coopTransientWireWords → Word) :
    transientWords (transientFromWords w) = w := by
  funext n
  have hn : n.val < 38 := n.isLt
  by_cases h : n.val < 6
  · rw [transientWords, dif_pos h]
    obtain ⟨n, -⟩ := n
    obtain rfl | rfl | rfl | rfl | rfl | rfl : n = 0 ∨ n = 1 ∨ n = 2 ∨ n = 3 ∨ n = 4 ∨ n = 5 := by
      dsimp only at h
      omega
    all_goals rfl
  · rw [transientWords, dif_neg h]
    have hk : ∀ k : Fin 4, recordWord ((transientFromWords w).records
        ⟨(n.val - 6) / 4, (by omega : (n.val - 6) / 4 < 8)⟩) k
          = wordAt w (6 + 4 * ((n.val - 6) / 4) + k.val) := by
      intro k
      fin_cases k <;> rfl
    rw [hk, wordAt_of_lt (by omega : 6 + 4 * ((n.val - 6) / 4) + (n.val - 6) % 4 < 6 + 8 * 4)]
    congr 1
    exact Fin.ext (by simp only; omega)

/-! ## Valid records -/

/-- No two-bit cell of the board is `3`. -/
def validBoard (value : Word) : Bool := decide (∀ i : Fin 16, (value >>> (i.val * 2)) &&& 3 ≠ 3)

/-- `valid_record`; kind zero is the empty record. -/
def validRecord (r : CoopTransientRecord) : Bool :=
  if r.kind = 0 then decide (r.key = 0 ∧ r.state = 0 ∧ r.value = 0)
  else if coopTransientKindCount < r.kind ∨ 0xFFFF < r.key then false
  else
    match r.kind.toNat with
    | 1 => decide (r.state ≤ 0xFF ∧ r.value ≤ 2)
    | 2 => decide (r.state ≤ 0xFF ∧ r.value ≤ 0xFFFF)
    | 3 => decide (r.state ≤ 0xFF)
    | 4 => decide (r.key ≤ 0xFF ∧ r.state ≤ 0xFF ∧ r.value ≤ 0xFF)
    | 5 => decide ((r.state = 1 ∨ r.state = 2) ∧ 1 ≤ r.value ∧ r.value ≤ 0xFF)
    | 6 => decide (r.state ≤ 25 ∧ r.value = 0)
    | 7 => decide (1 ≤ r.key ∧ r.key ≤ 256 ∧ r.state ≤ 3 ∧ r.value ≤ 90)
    | 8 => decide (r.key = 0 ∧ (r.state = 1 ∨ r.state = 2)) && validBoard r.value
    | 9 => decide (r.key = 0 ∧ (r.state = 1 ∧ r.value ≤ 60 ∨ r.state = 2 ∧ r.value = 0))
    | 10 => decide (1 ≤ r.key ∧ r.key ≤ 4 ∧ r.state = 1 ∧ r.value = 0)
    | 11 => decide (1 ≤ r.key ∧ r.key ≤ 3 ∧ r.state = 1 ∧ r.value = 0)
    | 12 => decide (1 ≤ r.key ∧ r.key ≤ 2 ∧ r.state = 1 ∧ r.value = 0)
    | 13 => decide (1 ≤ r.key ∧ r.key ≤ 3 ∧ r.state = 1 ∧ r.value = 0)
    | 14 => decide (r.key = 1 ∧ r.state = 1 ∧ r.value = 0)
    | _ => false

/-- `valid_transient`: the records behind `count` are empty, the others have different keys. -/
def validTransient (t : TransientWire) : Bool :=
  if t.feature = 0 then decide (∀ i, transientWords t i = 0)
  else
    decide (t.feature = 1 ∧ t.file ≤ 2 ∧ t.map ≤ 255 ∧ t.epoch ≠ 0 ∧ t.revision ≠ 0
      ∧ t.count.toNat ≤ coopTransientRecords)
    && decide (∀ i, validRecord (t.records i) = true ∧
      if i.val < t.count.toNat then
        ∀ j, j < i → ¬ ((t.records j).kind = (t.records i).kind ∧ (t.records j).key = (t.records i).key)
      else (t.records i).kind = 0)

/-- The payload of an input. -/
def CoopTransientInput.payload (input : CoopTransientInput) : TransientWire where
  feature := input.enabled
  file := input.file
  map := input.map
  epoch := input.epoch
  revision := input.revision
  count := input.count
  records := input.records

/-- `valid_transient_input`. -/
def validTransientInput (input : CoopTransientInput) : Bool := validTransient input.payload

theorem validTransient_empty : validTransient {} = true := by decide

/-! ## Delivery -/

/-- `same_record`: the local record already shows the wanted one. -/
def sameRecord (a b : CoopTransientRecord) : Bool :=
  if a.kind = transientTrigger ∧ b.kind = transientTrigger ∧ a.key = b.key ∧ a.value = b.value then
    decide (b.state = 1 ∨ a.state = 2)
  else if a.kind = transientSequence ∧ b.kind = transientSequence ∧ a.key = b.key then
    decide (b.state ≤ a.state)
  else decide (a = b)

/-- `bidirectional_event`: a command that either side may give. -/
def bidirectionalEvent (r : CoopTransientRecord) : Bool :=
  if r.kind = transientTrigger then decide (r.state = 2)
  else if r.kind = transientSequence then decide (0 < r.state)
  else decide (transientMinigameSuccess ≤ r.kind ∧ r.kind ≤ coopTransientKindCount)

/-- `lobby_pad_index`: one more than the slot of a lobby pad, zero for any other object. -/
def lobbyPadIndex (map key : Word) : Nat :=
  if map = 173 ∧ key ≤ 0x03 then key.toNat + 1
  else if map = 174 ∧ 0x04 ≤ key ∧ key ≤ 0x08 then 5 + key.toNat - 0x04
  else if map = 175 ∧ key ≤ 0x04 then 10 + key.toNat
  else if map = 193 ∧ 0x02 ≤ key ∧ key ≤ 0x06 then 15 + key.toNat - 0x02
  else if map = 194 ∧ 0x10 ≤ key ∧ key ≤ 0x14 then 20 + key.toNat - 0x10
  else 0

/-- `context`: session, map, both epochs and the file. -/
structure TransientContext where
  session : Word64 := 0
  map : Word := 0
  epoch : Word := 0
  peerEpoch : Word := 0
  file : Word := 0
deriving DecidableEq

/-- `TransientSync`. -/
structure TransientSync where
  outgoing : TransientWire := {}
  output : CoopTransientResult := {}
  context : TransientContext := {}
  remoteLobbyPadState : Fin 24 → Word := fun _ => 0

/-- The first local record with the kind and key of the wanted one. -/
def currentRecord (input : CoopTransientInput) (wanted : CoopTransientRecord) :
    Option CoopTransientRecord :=
  ((List.finRange coopTransientRecords).filter fun j => j.val < input.count.toNat).map input.records
    |>.find? fun r => r.kind = wanted.kind ∧ r.key = wanted.key

/-- A lobby pad is delivered once for every time the peer saw it fire. -/
def TransientSync.observePad (s : TransientSync) (pad : Fin 24) (wanted : CoopTransientRecord)
    (deliver : Bool) : TransientSync × Bool :=
  if wanted.state = 1 then
    ({ s with remoteLobbyPadState := Function.update s.remoteLobbyPadState pad 1 }, false)
  else if wanted.state = 2 then
    ({ s with remoteLobbyPadState := Function.update s.remoteLobbyPadState pad 2 },
      s.remoteLobbyPadState pad ≠ 2)
  else (s, deliver)

/-- `pad - 1` of a trigger that fires a lobby pad. -/
def firedPad (map : Word) (wanted : CoopTransientRecord) : Option (Fin 24) :=
  let pad := if wanted.kind = transientTrigger then lobbyPadIndex map wanted.key else 0
  if h : 0 < pad ∧ pad ≤ 24 ∧ wanted.value = 2 then some ⟨pad - 1, by omega⟩ else none

def TransientSync.observe (map : Word) (s : TransientSync) (wanted : CoopTransientRecord)
    (deliver : Bool) : TransientSync × Bool :=
  match firedPad map wanted with
  | none => (s, deliver)
  | some pad => s.observePad pad wanted deliver

/-- One record of the loop over the records of the peer. -/
def TransientSync.deliverRecord (host : Bool) (input : CoopTransientInput) (map : Word)
    (s : TransientSync) (wanted : CoopTransientRecord) : TransientSync :=
  if coopTransientRecords ≤ s.output.records.length ∨ host ∧ ¬ bidirectionalEvent wanted then s
  else
    let deliver :=
      match currentRecord input wanted with
      | none => true
      | some current => !sameRecord current wanted
    let (s, deliver) := s.observe map wanted deliver
    if deliver then
      { s with output := { s.output with records := s.output.records ++ [wanted] } }
    else s

/-- What the session hands to one update. -/
structure TransientCall where
  host : Bool
  player : State
  input : CoopTransientInput
  peer : State
  remote : TransientWire
  connected : Bool
  fresh : Bool
  session : Word64

/-- Both sides show the same room. -/
def TransientCall.engaged (c : TransientCall) : Bool :=
  c.connected && c.fresh && decide (c.session ≠ 0) && validState c.player && validState c.peer
    && validTransient c.remote
    && decide (c.remote.feature ≠ 0 ∧ c.player.map = c.peer.map ∧ c.input.map = c.player.map
      ∧ c.remote.map = c.peer.map ∧ c.input.file = c.remote.file
      ∧ c.player.flags &&& (stateActive ||| stateCutscene) ≠ 0
      ∧ c.peer.flags &&& (stateActive ||| stateCutscene) ≠ 0)

/-- `next`, the context of this call. -/
def TransientCall.context (c : TransientCall) : TransientContext where
  session := c.session
  map := c.player.map
  epoch := c.player.epoch
  peerEpoch := c.peer.epoch
  file := c.input.file

/-- The records of the peer. -/
def TransientWire.listed (t : TransientWire) : List CoopTransientRecord :=
  ((List.finRange coopTransientRecords).filter fun i => i.val < t.count.toNat).map t.records

/-- `TransientSync::update`. -/
def TransientSync.update (s : TransientSync) (c : TransientCall) : TransientSync :=
  if ¬ validTransientInput c.input ∨ c.input.enabled = 0 then {}
  else
    let s : TransientSync :=
      { s with outgoing := { c.input.payload with feature := 1 }, output := { status := 1 } }
    if ¬ c.engaged then { s with context := {} }
    else
      let s : TransientSync :=
        if s.context = c.context then s
        else { s with context := c.context, remoteLobbyPadState := fun _ => 0 }
      let s : TransientSync :=
        { s with output := { s.output with map := c.player.map, epoch := c.player.epoch, status := 3 } }
      let s := c.remote.listed.foldl (TransientSync.deliverRecord c.host c.input c.remote.map) s
      if s.output.records = [] then s else { s with output := { s.output with status := 2 } }

variable {s : TransientSync} {c : TransientCall} {host : Bool} {input : CoopTransientInput}

theorem outgoing_observePad (s : TransientSync) (pad : Fin 24) (wanted : CoopTransientRecord)
    (deliver : Bool) : (s.observePad pad wanted deliver).1.outgoing = s.outgoing := by
  unfold TransientSync.observePad
  split
  · rfl
  · split <;> rfl

theorem outgoing_observe (map : Word) (s : TransientSync) (wanted : CoopTransientRecord)
    (deliver : Bool) : (s.observe map wanted deliver).1.outgoing = s.outgoing := by
  unfold TransientSync.observe
  cases firedPad map wanted with
  | none => rfl
  | some pad => exact outgoing_observePad _ _ _ _

theorem outgoing_deliverRecord (map : Word) (s : TransientSync) (wanted : CoopTransientRecord) :
    (s.deliverRecord host input map wanted).outgoing = s.outgoing := by
  unfold TransientSync.deliverRecord
  split
  · rfl
  · simp only [apply_ite TransientSync.outgoing, outgoing_observe, ite_self]

theorem outgoing_foldl (map : Word) (l : List CoopTransientRecord) (s : TransientSync) :
    (l.foldl (TransientSync.deliverRecord host input map) s).outgoing = s.outgoing := by
  induction l generalizing s with
  | nil => rfl
  | cons r l ih => rw [List.foldl_cons, ih, outgoing_deliverRecord]

/-- **What the session sends of the room is valid.** -/
theorem validTransient_update (s : TransientSync) (c : TransientCall) :
    validTransient (s.update c).outgoing = true := by
  unfold TransientSync.update
  by_cases h : ¬ validTransientInput c.input = true ∨ c.input.enabled = 0
  · rw [if_pos h]
    exact validTransient_empty
  · rw [if_neg h]
    rw [not_or, not_not] at h
    have hv : validTransient { c.input.payload with feature := 1 } = true := by
      have h1 : validTransient c.input.payload = true := h.1
      have hf : c.input.payload.feature = 1 := by
        rw [validTransient, if_neg (show ¬ c.input.payload.feature = 0 from h.2),
          Bool.and_eq_true] at h1
        exact (of_decide_eq_true h1.1).1
      rw [← hf]
      exact h1
    simp only [apply_ite TransientSync.outgoing, outgoing_foldl, ite_self]
    exact hv

end Dk64Port.Coop
