import Mathlib.Tactic.Common
import Mathlib.Logic.Function.Basic
import Mathlib.Algebra.Group.Nat.Defs

/-!
# Reflected cyclic redundancy checks

A remainder of `n` bits takes in a byte at its low end and moves down bit by bit; a bit that falls
out adds the polynomial. The step is linear and, where the polynomial has its top bit, loses
nothing. So two streams that differ only within `n` bits in a row never have the same remainder.

* `bits_xor`, `bit_injective`: the step is linear and injective.
* `feed_eq_bits`: a window of at most `n` bits is taken in at once.
* `feed_window`: **what differs only within a window of `n` bits has another remainder.**
-/

namespace ReflectedCrc

variable {n : Nat} {poly c d : BitVec n}

/-- The remainder moves down by one bit. -/
def bit (poly c : BitVec n) : BitVec n := (c >>> 1) ^^^ if c.getLsbD 0 then poly else 0#n

/-- The remainder moves down by `k` bits. -/
def bits (poly : BitVec n) : Nat → BitVec n → BitVec n
  | 0, c => c
  | k + 1, c => bits poly k (bit poly c)

/-- One byte is taken in. -/
def feedByte (poly c : BitVec n) (b : BitVec 8) : BitVec n := bits poly 8 (c ^^^ b.setWidth n)

/-- A stream is taken in. -/
def feed (poly c : BitVec n) (l : List (BitVec 8)) : BitVec n := l.foldl (feedByte poly) c

/-! ## The step is linear and injective -/

theorem xor_xor_xor_comm (a b c d : BitVec n) : (a ^^^ b) ^^^ (c ^^^ d) = (a ^^^ c) ^^^ (b ^^^ d) := by
  ac_rfl

theorem bit_xor (poly c d : BitVec n) : bit poly (c ^^^ d) = bit poly c ^^^ bit poly d := by
  unfold bit
  rw [BitVec.ushiftRight_xor_distrib, BitVec.getLsbD_xor, xor_xor_xor_comm]
  congr 1
  cases c.getLsbD 0 <;> cases d.getLsbD 0 <;> simp

theorem bits_xor (poly : BitVec n) : ∀ (k : Nat) (c d : BitVec n),
    bits poly k (c ^^^ d) = bits poly k c ^^^ bits poly k d
  | 0, _, _ => rfl
  | k + 1, c, d => by
    rw [bits, bits, bits, bit_xor]
    exact bits_xor poly k _ _

theorem bits_add (poly : BitVec n) : ∀ (j k : Nat) (c : BitVec n),
    bits poly (j + k) c = bits poly k (bits poly j c)
  | 0, k, c => by rw [Nat.zero_add]; rfl
  | j + 1, k, c => by
    rw [Nat.add_right_comm, bits, bits]
    exact bits_add poly j k _

/-- The top bit of the result is the bit that fell out. -/
theorem msb_bit (hpoly : poly.msb = true) (c : BitVec n) : (bit poly c).msb = c.getLsbD 0 := by
  have hshift : (c >>> 1).msb = false := by
    rw [BitVec.msb_ushiftRight]
    rfl
  unfold bit
  rw [BitVec.msb_xor, hshift]
  cases c.getLsbD 0 <;> simp [hpoly]

/-- **The step loses nothing.** -/
theorem bit_injective (hpoly : poly.msb = true) : Function.Injective (bit poly) := by
  intro c d h
  have hlow : c.getLsbD 0 = d.getLsbD 0 := by
    rw [← msb_bit hpoly c, ← msb_bit hpoly d, h]
  have hhigh : c >>> 1 = d >>> 1 := by
    unfold bit at h
    rw [hlow] at h
    exact (BitVec.xor_left_inj _).mp h
  apply BitVec.eq_of_getLsbD_eq
  intro i hi
  cases i with
  | zero => exact hlow
  | succ i =>
    have := congrArg (fun x : BitVec n => x.getLsbD i) hhigh
    simpa [BitVec.getLsbD_ushiftRight, Nat.add_comm] using this

theorem bits_injective (hpoly : poly.msb = true) : ∀ k, Function.Injective (bits poly k)
  | 0 => fun _ _ h => h
  | k + 1 => fun _ _ h => bit_injective hpoly (bits_injective hpoly k h)

/-- Clear low bits fall out without a trace. -/
theorem bits_shiftLeft (poly : BitVec n) : ∀ (k : Nat) (c : BitVec n), k ≤ n →
    c.toNat < 2 ^ (n - k) → bits poly k (c <<< k) = c
  | 0, c, _, _ => by rw [BitVec.shiftLeft_zero]; rfl
  | k + 1, c, hk, hc => by
    have hlow : (c <<< (k + 1)).getLsbD 0 = false := by
      rw [BitVec.getLsbD_shiftLeft]
      simp
    have hstep : bit poly (c <<< (k + 1)) = c <<< k := by
      unfold bit
      rw [hlow, if_neg Bool.false_ne_true, BitVec.xor_zero]
      apply BitVec.eq_of_toNat_eq
      have hpow : c.toNat * 2 ^ (k + 1) < 2 ^ n := by
        calc c.toNat * 2 ^ (k + 1) < 2 ^ (n - (k + 1)) * 2 ^ (k + 1) :=
              Nat.mul_lt_mul_of_pos_right hc (Nat.two_pow_pos _)
          _ = 2 ^ n := by rw [← Nat.pow_add, Nat.sub_add_cancel hk]
      have hpow' : c.toNat * 2 ^ k < 2 ^ n := by
        refine Nat.lt_of_le_of_lt (Nat.mul_le_mul_left _ ?_) hpow
        exact Nat.pow_le_pow_right (by decide) (Nat.le_succ k)
      rw [BitVec.toNat_ushiftRight, BitVec.toNat_shiftLeft, BitVec.toNat_shiftLeft,
        Nat.shiftLeft_eq, Nat.shiftLeft_eq, Nat.mod_eq_of_lt hpow, Nat.mod_eq_of_lt hpow',
        Nat.shiftRight_eq_div_pow, Nat.pow_succ, Nat.pow_one, ← Nat.mul_assoc,
        Nat.mul_div_cancel _ (by decide)]
    rw [bits, hstep]
    exact bits_shiftLeft poly k c (by omega)
      (Nat.lt_of_lt_of_le hc (Nat.pow_le_pow_right (by decide) (by omega)))

/-! ## Windows -/

/-- The bytes of a window, the first one lowest. -/
def pack (n : Nat) : List (BitVec 8) → BitVec n
  | [] => 0#n
  | b :: l => b.setWidth n ^^^ (pack n l <<< 8)

theorem byte_toNat (hn : 8 ≤ n) (b : BitVec 8) : (b.setWidth n).toNat = b.toNat := by
  rw [BitVec.toNat_setWidth]
  refine Nat.mod_eq_of_lt (Nat.lt_of_lt_of_le b.isLt ?_)
  exact Nat.pow_le_pow_right (by decide) hn

theorem pack_lt : ∀ (l : List (BitVec 8)), 8 * l.length ≤ n →
    (pack n l).toNat < 2 ^ (8 * l.length)
  | [], _ => by
    rw [pack]
    exact Nat.two_pow_pos _
  | b :: l, h => by
    rw [List.length_cons] at h
    have ih := pack_lt l (by omega)
    rw [pack, BitVec.toNat_xor, byte_toNat (by omega), BitVec.toNat_shiftLeft, Nat.shiftLeft_eq]
    have hpow : (2 : Nat) ^ (8 * (b :: l).length) = 2 ^ (8 * l.length) * 2 ^ 8 := by
      rw [← Nat.pow_add]
      rfl
    have hb := b.isLt
    refine Nat.xor_lt_two_pow ?_ ?_
    · exact Nat.lt_of_lt_of_le hb (Nat.pow_le_pow_right (by decide) (by rw [List.length_cons]; omega))
    · refine Nat.lt_of_le_of_lt (Nat.mod_le _ _) ?_
      rw [hpow]
      exact Nat.mul_lt_mul_of_pos_right ih (by decide)

/-- **A window is taken in at once.** -/
theorem feed_eq_bits : ∀ (l : List (BitVec 8)) (c : BitVec n), 8 * l.length ≤ n →
    feed poly c l = bits poly (8 * l.length) (c ^^^ pack n l)
  | [], c, _ => by
    rw [pack, BitVec.xor_zero]
    rfl
  | b :: l, c, h => by
    rw [List.length_cons] at h
    have hlt : (pack n l).toNat < 2 ^ (n - 8) :=
      Nat.lt_of_lt_of_le (pack_lt l (by omega)) (Nat.pow_le_pow_right (by decide) (by omega))
    have hin : feedByte poly c b ^^^ pack n l = bits poly 8 (c ^^^ pack n (b :: l)) := by
      conv => lhs; rw [← bits_shiftLeft poly 8 (pack n l) (by omega) hlt]
      rw [feedByte, ← bits_xor, BitVec.xor_assoc]
      rfl
    have hfeed : feed poly c (b :: l) = feed poly (feedByte poly c b) l := rfl
    rw [hfeed, feed_eq_bits l _ (by omega), hin, ← bits_add, List.length_cons]
    congr 1
    omega

/-- A window can be read off its packing. -/
theorem pack_injective : ∀ (l m : List (BitVec 8)), l.length = m.length → 8 * l.length ≤ n →
    pack n l = pack n m → l = m
  | [], [], _, _, _ => rfl
  | [], _ :: _, h, _, _ => by cases h
  | _ :: _, [], h, _, _ => by cases h
  | a :: l, b :: m, h, hn, heq => by
    have hlen : l.length = m.length := Nat.succ.inj h
    rw [List.length_cons] at hn
    rw [pack, pack] at heq
    have hbit : ∀ i, (a.setWidth n ^^^ (pack n l <<< 8)).getLsbD i
        = (b.setWidth n ^^^ (pack n m <<< 8)).getLsbD i := fun i => by rw [heq]
    simp only [BitVec.getLsbD_xor, BitVec.getLsbD_shiftLeft, BitVec.getLsbD_setWidth] at hbit
    have hab : a = b := by
      apply BitVec.eq_of_getLsbD_eq
      intro i hi
      have := hbit i
      simpa [hi, show i < n by omega] using this
    have htail : pack n l = pack n m := by
      apply BitVec.eq_of_getLsbD_eq
      intro i hi
      by_cases hi8 : i + 8 < n
      · have := hbit (i + 8)
        have h8 : ¬ i + 8 < 8 := by omega
        simpa [hab, hi8, h8] using this
      · -- what the shift pushed out is clear
        have hl := pack_lt l (n := n) (by omega)
        have hm := pack_lt m (n := n) (by omega)
        have hpow : (2 : Nat) ^ (8 * l.length) ≤ 2 ^ i := Nat.pow_le_pow_right (by decide) (by omega)
        have hpow' : (2 : Nat) ^ (8 * m.length) ≤ 2 ^ i :=
          Nat.pow_le_pow_right (by decide) (by omega)
        rw [BitVec.getLsbD, BitVec.getLsbD, Nat.testBit_lt_two_pow (by omega),
          Nat.testBit_lt_two_pow (by omega)]
    rw [hab, pack_injective l m hlen (by omega) htail]

theorem feed_append (c : BitVec n) (l m : List (BitVec 8)) :
    feed poly c (l ++ m) = feed poly (feed poly c l) m := List.foldl_append

theorem feed_injective (hpoly : poly.msb = true) : ∀ l : List (BitVec 8),
    Function.Injective fun c => feed poly c l
  | [], _, _, h => h
  | _ :: l, _, _, h =>
    (BitVec.xor_left_inj _).mp (bits_injective hpoly 8 (feed_injective hpoly l h))

/-- **Streams that differ only within a window of `n` bits have different remainders.** -/
theorem feed_window (hpoly : poly.msb = true) {c : BitVec n} {pre u v post : List (BitVec 8)}
    (hlen : u.length = v.length) (hu : 8 * u.length ≤ n)
    (h : feed poly c (pre ++ (u ++ post)) = feed poly c (pre ++ (v ++ post))) : u = v := by
  rw [feed_append, feed_append c, feed_append, feed_append _ v] at h
  have hwindow := feed_injective hpoly post h
  rw [feed_eq_bits u _ hu, feed_eq_bits v _ (hlen ▸ hu), ← hlen] at hwindow
  have hpack := (BitVec.xor_right_inj _).mp (bits_injective hpoly _ hwindow)
  exact pack_injective u v hlen hu hpack

end ReflectedCrc
