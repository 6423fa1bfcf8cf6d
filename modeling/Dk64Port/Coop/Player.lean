import Dk64Port.Coop.Transition
import Dk64Port.Lib.Float32
import Mathlib.Data.Fin.VecNotation
import Mathlib.Data.Fintype.Basic
import Mathlib.Tactic.FinCases

/-!
# The player record of a packet (`native/protocol.cpp`, `native/protocol.hpp`)

Floats are kept as their words: the code only compares them with constants and copies their bits.

* `stateFromWords_stateToWords` / `stateToWords_stateFromWords`: the twelve words are the record.
-/

namespace Dk64Port.Coop

/-- `State`. -/
@[ext] structure State where
  map : Word := 0
  epoch : Word := 0
  character : Word := 0
  flags : Word := 0
  x : Word := 0
  y : Word := 0
  z : Word := 0
  yaw : Word := 0
  animation : Word := 0
  animationFrame : Word := 0
  transitionTicket : Word := 0
  transitionRoute : Word := 0

/-- `active`. -/
def stateActive : Word := 1

/-- `cutscene`. -/
def stateCutscene : Word := 2

/-- `COOP_ANIMATION_ROWS`. -/
def coopAnimationRows : Word := 110

/-- `100000` as a float. -/
def float100000 : Word := 0x47C35000

/-- `coop_animation_valid_frame`: between `0.0f` and `254.0f`. -/
def animationValidFrame (frame : Word) : Bool :=
  Float32Bits.le 0 frame && Float32Bits.le frame 0x437E0000

/-- `std::isfinite(x) && std::abs(x) <= 100000`. -/
def validCoordinate (x : Word) : Bool :=
  Float32Bits.isFinite x && Float32Bits.le (Float32Bits.abs x) float100000

/-- `valid_state`. -/
def validState (s : State) : Bool :=
  decide (s.map ≤ 255 ∧ s.character < 5 ∧ s.flags &&& ~~~ (stateActive ||| stateCutscene) = 0
    ∧ s.yaw < 4096 ∧ s.animation ≤ coopAnimationRows)
  && animationValidFrame s.animationFrame
  && (decide (s.animation ≠ 0) || Float32Bits.le s.animationFrame 0 && Float32Bits.le 0 s.animationFrame)
  && validCoordinate s.x && validCoordinate s.y && validCoordinate s.z
  && transitionValid s.transitionTicket s.transitionRoute

/-- `state_words`. -/
abbrev stateWords : Nat := 12

/-- `state_to_words`. -/
def stateToWords (s : State) : Fin stateWords → Word :=
  ![s.map, s.epoch, s.character, s.flags, s.x, s.y, s.z, s.yaw, s.animation, s.animationFrame,
    s.transitionTicket, s.transitionRoute]

/-- `state_from_words`. -/
def stateFromWords (w : Fin stateWords → Word) : State where
  map := w 0
  epoch := w 1
  character := w 2
  flags := w 3
  x := w 4
  y := w 5
  z := w 6
  yaw := w 7
  animation := w 8
  animationFrame := w 9
  transitionTicket := w 10
  transitionRoute := w 11

theorem stateFromWords_stateToWords (s : State) : stateFromWords (stateToWords s) = s := rfl

theorem stateToWords_stateFromWords (w : Fin stateWords → Word) :
    stateToWords (stateFromWords w) = w := by
  funext i
  fin_cases i <;> rfl

end Dk64Port.Coop
