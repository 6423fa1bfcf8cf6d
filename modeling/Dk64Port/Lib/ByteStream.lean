import Dk64Port.Lib.BitFields
import Dk64Port.Lib.ByteLayout
import Mathlib.Algebra.Group.Nat.Defs

/-!
# Big-endian fields of a byte stream

A writer appends fields, most significant byte first; a reader takes them from the front and keeps
the rest.

* `get32_put32`, `get64_put64`: a field is read back, and the rest behind it.
* `get32_injective`: four bytes can be read off their word.
-/

namespace ByteStream

open ByteLayout (Byte)

/-- `for (shift : {24, 16, 8, 0}) push_back(uint8_t(value >> shift))`. -/
def put32 (v : BitVec 32) : List Byte :=
  [(v >>> 24).setWidth 8, (v >>> 16).setWidth 8, (v >>> 8).setWidth 8, v.setWidth 8]

def put64 (v : BitVec 64) : List Byte :=
  put32 ((v >>> 32).setWidth 32) ++ put32 (v.setWidth 32)

/-- Four bytes, each below the ones before; bytes that are missing count as none. -/
def get32 (p : List Byte) : BitVec 32 × List Byte :=
  ((p.take 4).foldl (fun v b => (v <<< 8) ||| b.setWidth 32) 0, p.drop 4)

def get64 (p : List Byte) : BitVec 64 × List Byte :=
  let high := get32 p
  let low := get32 high.2
  ((high.1.setWidth 64 <<< 32) ||| low.1.setWidth 64, low.2)

@[simp] theorem length_put32 (v : BitVec 32) : (put32 v).length = 4 := rfl

@[simp] theorem length_put64 (v : BitVec 64) : (put64 v).length = 8 := rfl

/-- A word is its higher bytes and its last one. -/
theorem shift_or_byte (x : BitVec 32) :
    ((x >>> 8) <<< 8) ||| (x.setWidth 8).setWidth 32 = x := by
  ext i hi
  simp only [BitVec.getElem_or, BitVec.getElem_shiftLeft, BitVec.getElem_setWidth,
    BitVec.getLsbD_setWidth, BitVec.getElem_ushiftRight, BitVec.getLsbD_eq_getElem hi]
  by_cases h : i < 8
  · simp [h]
  · have e : 8 + (i - 8) = i := by omega
    simp [h, e, BitVec.getLsbD_eq_getElem hi]

theorem top_byte (v : BitVec 32) : ((v >>> 24).setWidth 8).setWidth 32 = v >>> 24 := by
  refine BitVec.eq_of_toNat_eq ?_
  have h := v.isLt
  simp only [BitVec.toNat_setWidth, BitVec.toNat_ushiftRight, Nat.shiftRight_eq_div_pow]
  omega

/-- A word is its four bytes. -/
theorem bytes32 (v : BitVec 32) :
    (((((0#32 <<< 8 ||| ((v >>> 24).setWidth 8).setWidth 32) <<< 8)
      ||| ((v >>> 16).setWidth 8).setWidth 32) <<< 8)
      ||| ((v >>> 8).setWidth 8).setWidth 32) <<< 8 ||| (v.setWidth 8).setWidth 32 = v := by
  have h16 := shift_or_byte (v >>> 16)
  have h8 := shift_or_byte (v >>> 8)
  rw [← BitVec.shiftRight_add] at h16 h8
  rw [top_byte, BitVec.zero_shiftLeft, BitVec.zero_or, h16, h8, shift_or_byte]

@[simp] theorem get32_put32 (v : BitVec 32) (rest : List Byte) :
    get32 (put32 v ++ rest) = (v, rest) :=
  Prod.ext (bytes32 v) rfl

@[simp] theorem get64_put64 (v : BitVec 64) (rest : List Byte) :
    get64 (put64 v ++ rest) = (v, rest) := by
  unfold get64 put64
  rw [List.append_assoc, get32_put32]
  dsimp only
  rw [get32_put32, ByteLayout.halves64]

/-- A byte is put below a word. -/
theorem toNat_shift_or {v : BitVec 32} (b : Byte) (h : v.toNat < 2 ^ 24) :
    ((v <<< 8) ||| b.setWidth 32).toNat = 256 * v.toNat + b.toNat := by
  have hb : (b.setWidth 32).toNat = b.toNat := by
    rw [BitVec.toNat_setWidth]
    exact Nat.mod_eq_of_lt (by have := b.isLt; omega)
  rw [BitVec.or_comm, BitFields.toNat_or_shiftLeft (by rw [hb]; exact b.isLt) (by omega), hb]
  omega

theorem toNat_get32 (a b c d : Byte) : (get32 [a, b, c, d]).1.toNat
    = 256 * (256 * (256 * a.toNat + b.toNat) + c.toNat) + d.toNat := by
  have ha := a.isLt
  have hb := b.isLt
  have hc := c.isLt
  have h0 : (0 : BitVec 32).toNat = 0 := rfl
  simp only [get32, List.take_succ_cons, List.take_zero, List.foldl_cons, List.foldl_nil]
  have h1 := toNat_shift_or (v := 0) a (by decide)
  have h2 := toNat_shift_or b (show ((0 : BitVec 32) <<< 8 ||| a.setWidth 32).toNat < 2 ^ 24 by omega)
  rw [toNat_shift_or d (by rw [toNat_shift_or c (by omega)]; omega), toNat_shift_or c (by omega)]
  omega

/-- Four bytes can be read off their word. -/
theorem get32_injective : ∀ {l m : List Byte}, l.length = 4 → m.length = 4 →
    (get32 l).1 = (get32 m).1 → l = m
  | [a, b, c, d], [a', b', c', d'], _, _, h => by
    have hnat := congrArg BitVec.toNat h
    rw [toNat_get32, toNat_get32] at hnat
    have ha := a.isLt
    have hb := b.isLt
    have hc := c.isLt
    have hd := d.isLt
    have ha' := a'.isLt
    have hb' := b'.isLt
    have hc' := c'.isLt
    have hd' := d'.isLt
    rw [BitVec.eq_of_toNat_eq (show a.toNat = a'.toNat by omega),
      BitVec.eq_of_toNat_eq (show b.toNat = b'.toNat by omega),
      BitVec.eq_of_toNat_eq (show c.toNat = c'.toNat by omega),
      BitVec.eq_of_toNat_eq (show d.toNat = d'.toNat by omega)]

end ByteStream
