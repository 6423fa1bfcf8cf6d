import Mathlib.Tactic.Common
import Mathlib.Algebra.Group.Nat.Defs

/-!
# Fields of a word

A word packed from fields with shifts and `|`, read back with shifts and masks. In both directions
the fields are digits of the number the word stands for, so what is left of a packing is a goal for
`omega`.

* `toNat_or_shiftLeft`: packing adds.
* `toNat_and_mask` / `toNat_field`: unpacking is a remainder and a quotient.
* `and_not_mask_eq_zero`: a word has no bits outside a mask when it is small.
-/

namespace BitFields

variable {n : Nat} {a b x : BitVec n} {k : Nat}

/-- The lowest `k` bits. -/
def mask (n k : Nat) : BitVec n := BitVec.ofNat n (2 ^ k - 1)

theorem toNat_mask (hk : k ≤ n) : (mask n k).toNat = 2 ^ k - 1 := by
  have hpow : 2 ^ k ≤ 2 ^ n := Nat.pow_le_pow_right (by decide) hk
  have hpos : 0 < 2 ^ k := Nat.two_pow_pos k
  rw [mask, BitVec.toNat_ofNat, Nat.mod_eq_of_lt (by omega)]

/-- Packing adds. -/
theorem toNat_or_shiftLeft (ha : a.toNat < 2 ^ k) (hb : 2 ^ k * b.toNat < 2 ^ n) :
    (a ||| (b <<< k)).toNat = a.toNat + 2 ^ k * b.toNat := by
  have hshift : b.toNat <<< k = 2 ^ k * b.toNat := by rw [Nat.shiftLeft_eq, Nat.mul_comm]
  rw [BitVec.toNat_or, BitVec.toNat_shiftLeft, hshift, Nat.mod_eq_of_lt hb, Nat.or_comm, ← hshift,
    ← Nat.shiftLeft_add_eq_or_of_lt ha, Nat.add_comm]

/-- The low field. -/
theorem toNat_and_mask (hk : k ≤ n) : (x &&& mask n k).toNat = x.toNat % 2 ^ k := by
  rw [BitVec.toNat_and, toNat_mask hk, Nat.and_two_pow_sub_one_eq_mod]

/-- A field behind `s` bits. -/
theorem toNat_field {s : Nat} (hk : k ≤ n) :
    ((x >>> s) &&& mask n k).toNat = x.toNat / 2 ^ s % 2 ^ k := by
  rw [toNat_and_mask hk, BitVec.toNat_ushiftRight, Nat.shiftRight_eq_div_pow]

/-- A word has no bits outside a mask when it is small. -/
theorem and_not_mask_eq_zero (hk : k ≤ n) : x &&& ~~~ mask n k = 0#n ↔ x.toNat < 2 ^ k := by
  have hsplit : x &&& ~~~ mask n k = 0#n ↔ x &&& mask n k = x := by
    constructor
    · intro h
      ext i hi
      have hbit : (x &&& ~~~ mask n k)[i] = false := by rw [h, BitVec.getElem_zero]
      rw [BitVec.getElem_and, BitVec.getElem_not] at hbit
      rw [BitVec.getElem_and]
      cases hx : x[i] <;> cases hm : (mask n k)[i] <;> simp_all
    · intro h
      ext i hi
      rw [← h, BitVec.getElem_and, BitVec.getElem_and, BitVec.getElem_not, BitVec.getElem_zero]
      cases x[i] <;> cases (mask n k)[i] <;> rfl
  rw [hsplit, ← BitVec.toNat_inj, toNat_and_mask hk]
  constructor
  · intro h
    rw [← h]
    exact Nat.mod_lt _ (Nat.two_pow_pos k)
  · exact Nat.mod_eq_of_lt

end BitFields
