import Dk64Port.Lib.ByteLayout
import Mathlib.Data.Nat.Bitwise
import Mathlib.Logic.Function.Basic

/-!
# Memory whose bytes are swapped within each word

A host that keeps big-endian words in its own order finds the byte of address `k` at `k ^ 3`. The
logical image is what the guest sees there.

* `logical`, `logical_write`: a byte that is written to `k ^ 3` is written to `k` of the image.
* `update_update_eq_put16`, `get32_eq_bytes`: fields that are written and read byte by byte.
* `putBytes`: an array of bytes.
* `get32_foldl_of_write`, `foldl_of_outside`: loops that write several fields at each turn.
-/

namespace SwappedMemory

open ByteLayout

/-- The byte of every address. -/
def logical (m : Image) : Image := fun k => m (k ^^^ 3)

variable {b : Image} {off k n : Nat}

theorem xor_xor (k : Nat) : k ^^^ 3 ^^^ 3 = k := by
  rw [Nat.xor_assoc, Nat.xor_self, Nat.xor_zero]

@[simp] theorem logical_logical (m : Image) : logical (logical m) = m := by
  funext k
  unfold logical
  rw [xor_xor]

theorem logical_write (m : Image) (k : Nat) (v : Byte) :
    logical (Function.update m (k ^^^ 3) v) = Function.update (logical m) k v := by
  funext j
  unfold logical
  by_cases h : j = k
  · rw [h, Function.update_self, Function.update_self]
  · have hne : j ^^^ 3 ≠ k ^^^ 3 := fun e => h (by rw [← xor_xor j, e, xor_xor])
    rw [Function.update_of_ne hne, Function.update_of_ne h]

/-- A half that is written byte by byte. -/
theorem update_update_eq_put16 (b : Image) (off : Nat) (v : BitVec 16) :
    Function.update (Function.update b off ((v >>> 8).setWidth 8)) (off + 1) (v.setWidth 8)
      = put16 b off v := by
  funext k
  unfold put16
  by_cases h0 : k = off
  · rw [if_pos h0, h0, Function.update_of_ne (by omega), Function.update_self]
  · rw [if_neg h0]
    by_cases h1 : k = off + 1
    · rw [if_pos h1, h1, Function.update_self]
    · rw [if_neg h1, Function.update_of_ne h1, Function.update_of_ne h0]

theorem widen_join (h l : BitVec 8) :
    ((h.setWidth 16 <<< 8) ||| l.setWidth 16).setWidth 32 = (h.setWidth 32 <<< 8) ||| l.setWidth 32 := by
  ext i hi
  by_cases h8 : i < 8
  · have h16 : i < 16 := by omega
    simp [h8, h16]
  · by_cases h16 : i < 16
    · simp [h8, h16]
    · have hhigh : h.getLsbD (i - 8) = false := BitVec.getLsbD_of_ge _ _ (by omega)
      simp [h8, h16, hhigh]

/-- A word that is read byte by byte. -/
theorem get32_eq_bytes (b : Image) (off : Nat) :
    ((b off).setWidth 32 <<< 24) ||| ((b (off + 1)).setWidth 32 <<< 16)
      ||| ((b (off + 2)).setWidth 32 <<< 8) ||| (b (off + 3)).setWidth 32 = get32 b off := by
  unfold get32 get16
  rw [widen_join, widen_join, BitVec.shiftLeft_or_distrib, ← BitVec.shiftLeft_add, BitVec.or_assoc,
    BitVec.or_assoc]

/-- The bytes of a word, the highest first. -/
theorem high_byte_of_word (v : BitVec 32) :
    ((v >>> 16).setWidth 16 >>> 8).setWidth 8 = (v >>> 24).setWidth 8 := by
  ext i hi
  simp
  grind

theorem second_byte_of_word (v : BitVec 32) :
    ((v >>> 16).setWidth 16).setWidth 8 = (v >>> 16).setWidth 8 := by
  ext i hi
  simp

theorem third_byte_of_word (v : BitVec 32) :
    (v.setWidth 16 >>> 8).setWidth 8 = (v >>> 8).setWidth 8 := by
  ext i hi
  simp
  grind

theorem last_byte_of_word (v : BitVec 32) : (v.setWidth 16).setWidth 8 = v.setWidth 8 := by
  ext i hi
  simp

/-! ## Loops -/

/-- Bytes that no turn of a loop touches. -/
theorem foldl_of_outside {f : Image → Fin n → Image} (h : ∀ b i, f b i k = b k) (b : Image)
    (l : List (Fin n)) : l.foldl f b k = b k := by
  induction l generalizing b with
  | nil => rfl
  | cons i l ih =>
    rw [List.foldl_cons, ih]
    exact h b i

/-- What one turn of a loop writes and the others leave alone. -/
theorem foldl_of_write {α : Type} (read : Image → α) {v : α} {f : Image → Fin n → Image} {i : Fin n}
    (hself : ∀ b, read (f b i) = v) (hother : ∀ b j, j ≠ i → read (f b j) = read b) (b : Image) :
    read ((List.finRange n).foldl f b) = v := by
  have hkeep : ∀ (l : List (Fin n)) (b : Image), read b = v → read (l.foldl f b) = v := by
    intro l
    induction l with
    | nil => exact fun _ h => h
    | cons j l ih =>
      intro b h
      refine ih _ ?_
      by_cases hj : j = i
      · rw [hj, hself]
      · rw [hother b j hj, h]
  obtain ⟨before, after, hsplit⟩ := List.append_of_mem (List.mem_finRange i)
  rw [hsplit, List.foldl_append, List.foldl_cons]
  exact hkeep after _ (hself _)

/-- `for (i = 0; i < n; i++) b[off + i] = v[i]`. -/
def putBytes (b : Image) (off : Nat) (v : Vector Byte n) : Image :=
  (List.finRange n).foldl (fun b (i : Fin n) => Function.update b (off + i) v[i]) b

theorem putBytes_of_outside (v : Vector Byte n) (h : k < off ∨ off + n ≤ k) :
    putBytes b off v k = b k :=
  foldl_of_outside (fun b i => Function.update_of_ne (by omega) _ _) b _

theorem putBytes_self (b : Image) (off : Nat) (v : Vector Byte n) (i : Fin n) :
    putBytes b off v (off + i) = v[i] :=
  foldl_of_write (fun b => b (off + i)) (fun _ => Function.update_self _ _ _)
    (fun _ j hj => Function.update_of_ne (fun h => hj (Fin.ext (by omega))) _ _) b

end SwappedMemory
