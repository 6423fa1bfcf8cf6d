import Dk64Port.Coop.Items
import Mathlib.Data.Fin.VecNotation
import Mathlib.Data.Fintype.Basic
import Mathlib.Tactic.FinCases

/-!
# The first Japes gate (`native/progress.cpp`)

The retired progress payload: one monotonic event, the first gate of Japes.

* `validProgress_progressWire`: what `progress_wire` produces is valid whatever the inputs are.
-/

namespace Dk64Port.Coop

/-- `japes_gate_feature`. -/
def japesGateFeature : Word := 1

/-- `japes_map`. -/
def japesMap : Word := 7

/-- `ProgressWire`. -/
@[ext] structure ProgressWire where
  feature : Word := 0
  file : Word := 0
  ready : Word := 0
  scope : Word := 0
  value : Word := 0
  ack : Word := 0
deriving DecidableEq

/-- `ProgressInput`. -/
structure ProgressInput where
  enabled : Word := 0
  file : Word := 0
  ready : Word := 0
  gate : Word := 0
  request : Word := 0
  seenSessionHi : Word := 0
  seenSessionLo : Word := 0
  seenScope : Word := 0

/-- The six words of a payload in the order of the packet. -/
def progressWords (p : ProgressWire) : Fin 6 → Word :=
  ![p.feature, p.file, p.ready, p.scope, p.value, p.ack]

/-- The payload of six words. -/
def progressFromWords (w : Fin 6 → Word) : ProgressWire where
  feature := w 0
  file := w 1
  ready := w 2
  scope := w 3
  value := w 4
  ack := w 5

/-- `valid_progress`. -/
def validProgress (p : ProgressWire) : Bool :=
  if p.feature = 0 then
    decide (p.file = 0 ∧ p.ready = 0 ∧ p.scope = 0 ∧ p.value = 0 ∧ p.ack = 0)
  else
    decide (p.feature = japesGateFeature ∧ p.file ≤ 3 ∧ p.ready ≤ 1 ∧ p.scope ≤ 3 ∧ p.value ≤ 1
      ∧ p.ack ≤ 1 ∧ (p.ready = 0 ∨ p.file ≠ 0)
      ∧ (p.ready ≠ 0 ∨ p.scope = 0 ∧ p.value = 0 ∧ p.ack = 0))

/-- `valid_progress_input`. -/
def validProgressInput (p : ProgressInput) : Bool :=
  decide (p.enabled ≤ 1 ∧ p.file ≤ 3 ∧ p.ready ≤ 1 ∧ p.gate ≤ 1 ∧ p.request ≤ 1 ∧ p.seenScope ≤ 3
    ∧ (p.ready = 0 ∨ p.enabled ≠ 0 ∧ p.file ≠ 0))

/-- `available`. -/
def progressAvailable (l : ProgressInput) (r : ProgressWire) (connected : Bool) : Bool :=
  validProgressInput l && decide (l.enabled ≠ 0 ∧ l.ready ≠ 0) && connected && validProgress r
    && decide (r.feature = japesGateFeature ∧ r.ready ≠ 0)

/-- `bound`. -/
def progressBound (l : ProgressInput) (r : ProgressWire) (session : Word64) : Bool :=
  decide (l.seenSessionHi = sessionHi session ∧ l.seenSessionLo = sessionLo session
    ∧ l.seenScope = r.file ∧ r.scope = r.file)

/-- `progress_wire`. -/
def progressWire (host : Bool) (l : ProgressInput) (r : ProgressWire) (connected : Bool)
    (session : Word64) : ProgressWire :=
  if ¬ validProgressInput l ∨ l.enabled = 0 then {}
  else
    let w : ProgressWire := { feature := japesGateFeature, file := l.file, ready := l.ready }
    if l.ready = 0 then w
    else if host then { w with scope := l.file, value := l.gate }
    else if ¬ progressAvailable l r connected ∨ ¬ progressBound l r session then w
    else
      { w with
        scope := r.file
        value := if l.request ≠ 0 ∧ l.gate = 0 ∧ r.value = 0 then 1 else 0
        ack := l.gate }

variable {p : ProgressWire}

theorem progressFromWords_progressWords (p : ProgressWire) :
    progressFromWords (progressWords p) = p := rfl

theorem progressWords_progressFromWords (w : Fin 6 → Word) :
    progressWords (progressFromWords w) = w := by
  funext i
  fin_cases i <;> rfl

theorem progress_eq_empty (h : validProgress p = true) (hf : p.feature = 0) : p = {} := by
  rw [validProgress, if_pos hf, decide_eq_true_eq] at h
  obtain ⟨h1, h2, h3, h4, h5⟩ := h
  exact ProgressWire.ext hf h1 h2 h3 h4 h5

/-- A valid payload carries a small value. -/
theorem progress_value_le (h : validProgress p = true) : p.value ≤ 1 := by
  by_cases hf : p.feature = 0
  · rw [progress_eq_empty h hf]
    decide
  · rw [validProgress, if_neg hf, decide_eq_true_eq] at h
    exact h.2.2.2.2.1

/-- **What is sent is valid.** -/
theorem validProgress_progressWire (host : Bool) (l : ProgressInput) (r : ProgressWire)
    (connected : Bool) (session : Word64) :
    validProgress (progressWire host l r connected session) = true := by
  unfold progressWire
  split
  · rfl
  · rename_i hv
    rw [not_or, not_not] at hv
    have hl := of_decide_eq_true hv.1
    obtain ⟨-, hfile, hready, hgate, -, -, hrf⟩ := hl
    have hw : ∀ scope value ack : Word, scope ≤ 3 → value ≤ 1 → ack ≤ 1 →
        (l.ready ≠ 0 ∨ scope = 0 ∧ value = 0 ∧ ack = 0) →
        validProgress { feature := japesGateFeature, file := l.file, ready := l.ready
                        scope := scope, value := value, ack := ack } = true := by
      intro scope value ack h1 h2 h3 h4
      rw [validProgress, if_neg (show ¬ japesGateFeature = 0 by decide), decide_eq_true_eq]
      exact ⟨rfl, hfile, hready, h1, h2, h3, hrf.imp_right And.right, h4⟩
    have hplain := hw 0 0 0 (by decide) (by decide) (by decide) (.inr ⟨rfl, rfl, rfl⟩)
    dsimp only
    split
    · exact hplain
    · rename_i hr
      split
      · exact hw _ _ 0 hfile hgate (by decide) (.inl hr)
      · split
        · exact hplain
        · rename_i ha
          rw [not_or, not_not, not_not, progressAvailable] at ha
          simp only [Bool.and_eq_true] at ha
          have hrv : validProgress r = true := ha.1.1.2
          rw [validProgress, if_neg (by rw [(of_decide_eq_true ha.1.2).1]; decide),
            decide_eq_true_eq] at hrv
          refine hw _ _ _ hrv.2.1 ?_ hgate (.inl hr)
          split <;> decide

end Dk64Port.Coop
