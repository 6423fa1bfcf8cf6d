import Mathlib.Tactic.Common
import Mathlib.Algebra.Group.Nat.Defs

/-!
# Single-precision numbers by their bits

The order of `binary32` numbers read off their words: a word is a sign and a magnitude, and because
the exponent stands above the fraction the magnitudes are ordered as their numbers are.

* `le`, `lt`: the comparisons `a <= b` and `a < b`, false when either operand is not a number.
* `isFinite_of_le`: a number between two finite ones is finite.
-/

namespace Float32Bits

/-- The exponent and the fraction. -/
def magnitude (w : BitVec 32) : Nat := w.toNat % 2 ^ 31

/-- The sign bit. -/
def negative (w : BitVec 32) : Bool := w.getLsbD 31

/-- `std::abs`. -/
def abs (w : BitVec 32) : BitVec 32 := w &&& 0x7FFFFFFF

/-- `std::isfinite`: the exponent is not all ones. -/
def isFinite (w : BitVec 32) : Bool := decide (magnitude w < 0x7F800000)

/-- An all-ones exponent with a fraction. -/
def isNaN (w : BitVec 32) : Bool := decide (0x7F800000 < magnitude w)

/-- The position of the number among all numbers; both zeros are at `0`. -/
def key (w : BitVec 32) : Int := if negative w then -(magnitude w) else magnitude w

/-- `a <= b`. -/
def le (a b : BitVec 32) : Bool := !isNaN a && !isNaN b && decide (key a ≤ key b)

/-- `a < b`. -/
def lt (a b : BitVec 32) : Bool := !isNaN a && !isNaN b && decide (key a < key b)

theorem key_cases (w : BitVec 32) : key w = magnitude w ∨ key w = -(magnitude w : Int) := by
  unfold key
  split
  · exact .inr rfl
  · exact .inl rfl

/-- A number between two finite ones is finite. -/
theorem isFinite_of_le {lo w hi : BitVec 32} (hlo : isFinite lo = true) (hhi : isFinite hi = true)
    (h1 : le lo w = true) (h2 : le w hi = true) : isFinite w = true := by
  simp only [le, isFinite, Bool.and_eq_true, decide_eq_true_eq] at hlo hhi h1 h2 ⊢
  rcases key_cases lo with e | e <;> rcases key_cases w with e' | e' <;>
    rcases key_cases hi with e'' | e'' <;> omega

-- -100000 <= -0, -0 <= 0, 0 <= 100000, and nothing is compared with a NaN
example : le 0xC7C35000 0x80000000 = true ∧ le 0x80000000 0 = true ∧ le 0 0x47C35000 = true
    ∧ le 0 0x7FC00000 = false := by decide

end Float32Bits
