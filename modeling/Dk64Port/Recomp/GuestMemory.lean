import Dk64Port.Lib.SwappedMemory
import Mathlib.Data.List.AList

/-!
# Guest memory in the runtime (`librecomp`)

The runtime keeps guest memory in the order of the host: a byte of the guest is at its offset with the
last two bits swapped, and a word is stored as the host stores one. A `PTR` is a guest address.

* `hostOffset`, `storeB`, `storeW`, `loadW`: `MEM_B` and `MEM_W`.
* `loadW_storeW`, `storeW_of_outside`: a word reads back, and no other byte changes.
* `zeroBlock`: the loop that clears an allocated block; `logical_zeroBlock`.
-/

namespace Dk64Port.Recomp

open ByteLayout SwappedMemory

/-- A register value of 32 bits. -/
abbrev Word := BitVec 32

/-- The host memory behind the guest's. -/
abbrev Rdram := Image

/-- The offset of a guest address, sign-extended, from `0xFFFFFFFF80000000`. -/
def hostOffset (address : Word) : Nat := (address - 0x80000000).toNat

/-- `MEM_B(0, address) = value`. -/
def storeB (m : Rdram) (off : Nat) (value : Byte) : Rdram := Function.update m (off ^^^ 3) value

/-- `MEM_W(0, address) = value`, on a little-endian host. -/
def storeW (m : Rdram) (off : Nat) (value : Word) : Rdram := fun k =>
  if k = off then value.setWidth 8
  else if k = off + 1 then (value >>> 8).setWidth 8
  else if k = off + 2 then (value >>> 16).setWidth 8
  else if k = off + 3 then (value >>> 24).setWidth 8
  else m k

/-- `MEM_W(0, address)`. -/
def loadW (m : Rdram) (off : Nat) : Word :=
  ((m (off + 3)).setWidth 32 <<< 24) ||| ((m (off + 2)).setWidth 32 <<< 16)
    ||| ((m (off + 1)).setWidth 32 <<< 8) ||| (m off).setWidth 32

/-- `for (i = 0; i < n; i++) MEM_B(i, address) = 0`. -/
def zeroBlock (m : Rdram) (off n : Nat) : Rdram :=
  (List.range n).foldl (fun m i => storeB m (off + i) 0) m

variable {m : Rdram} {off k : Nat}

/-- A word is its bytes. -/
theorem join_bytes (v : Word) : (((v >>> 24).setWidth 8).setWidth 32 <<< 24)
    ||| (((v >>> 16).setWidth 8).setWidth 32 <<< 16) ||| (((v >>> 8).setWidth 8).setWidth 32 <<< 8)
    ||| (v.setWidth 8).setWidth 32 = v := by
  have hread := get32_eq_bytes (put32 (fun _ => 0) 0 v) 0
  rw [get32_put32_self] at hread
  have h0 : put32 (fun _ => 0) 0 v 0 = (v >>> 24).setWidth 8 := high_byte_of_word v
  have h1 : put32 (fun _ => 0) 0 v (0 + 1) = (v >>> 16).setWidth 8 := second_byte_of_word v
  have h2 : put32 (fun _ => 0) 0 v (0 + 2) = (v >>> 8).setWidth 8 := third_byte_of_word v
  have h3 : put32 (fun _ => 0) 0 v (0 + 3) = v.setWidth 8 := last_byte_of_word v
  rwa [h0, h1, h2, h3] at hread

/-- **A word reads back.** -/
theorem loadW_storeW (m : Rdram) (off : Nat) (v : Word) : loadW (storeW m off v) off = v := by
  unfold loadW storeW
  rw [if_neg (by omega), if_neg (by omega), if_neg (by omega), if_pos rfl, if_neg (by omega),
    if_neg (by omega), if_pos rfl, if_neg (by omega), if_pos rfl, if_pos rfl]
  exact join_bytes v

theorem storeW_of_outside (v : Word) (h : k < off ∨ off + 4 ≤ k) : storeW m off v k = m k := by
  unfold storeW
  rw [if_neg (by omega), if_neg (by omega), if_neg (by omega), if_neg (by omega)]

theorem logical_storeB (m : Rdram) (off : Nat) (v : Byte) :
    logical (storeB m off v) = Function.update (logical m) off v :=
  logical_write m off v

/-- **A block is cleared**, and nothing else is written. -/
theorem logical_zeroBlock (m : Rdram) (off n k : Nat) :
    logical (zeroBlock m off n) k = if off ≤ k ∧ k < off + n then 0 else logical m k := by
  unfold zeroBlock
  induction n with
  | zero => rw [List.range_zero, List.foldl_nil, if_neg (by omega)]
  | succ n ih =>
    rw [List.range_succ, List.foldl_append, List.foldl_cons, List.foldl_nil, logical_storeB]
    by_cases h : k = off + n
    · rw [h, Function.update_self, if_pos (by omega)]
    · rw [Function.update_of_ne h, ih]
      by_cases hin : off ≤ k ∧ k < off + n
      · rw [if_pos hin, if_pos (by omega)]
      · rw [if_neg hin, if_neg (by omega)]

/-! ## Addresses -/

/-- The guest address of a host offset. -/
def guestAddress (off : Nat) : Word := 0x80000000 + BitVec.ofNat 32 off

theorem hostOffset_guestAddress (h : off < 2 ^ 32) : hostOffset (guestAddress off) = off := by
  unfold hostOffset guestAddress
  rw [BitVec.toNat_sub, BitVec.toNat_add, BitVec.toNat_ofNat, Nat.mod_eq_of_lt h]
  change (2 ^ 32 - 0x80000000 + (0x80000000 + off) % 2 ^ 32) % 2 ^ 32 = off
  omega

theorem guestAddress_hostOffset (address : Word) : guestAddress (hostOffset address) = address := by
  unfold hostOffset guestAddress
  rw [BitVec.ofNat_toNat, BitVec.setWidth_eq, BitVec.add_comm]
  exact BitVec.sub_add_cancel address _

end Dk64Port.Recomp
