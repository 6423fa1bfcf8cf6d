import Mathlib.Tactic.Common

/-!
# Big-endian fields of a byte image

An image is a byte at every offset. `put16` / `put32` / `put64` overwrite a field most significant
byte first, `get16` / `get32` / `get64` read one back, and `putWords` / `getWords` are the loops
that store and load an array of 32-bit words.

* `get*_put*_self`: a field reads back as it was written.
* `get*_put*_of_disjoint`: a write leaves every disjoint field alone, so an encoder that writes its
  fields one after the other is read back field by field (`simp (disch := omega)`).
* `image_ext`: two images that agree on every aligned word agree on every byte.
-/

namespace ByteLayout

/-- A byte. -/
abbrev Byte := BitVec 8

/-- A byte at every offset. -/
abbrev Image := Nat → Byte

/-- `b[0] = uint8_t(v >> 8); b[1] = uint8_t(v);`. -/
def put16 (b : Image) (off : Nat) (v : BitVec 16) : Image := fun k =>
  if k = off then (v >>> 8).setWidth 8 else if k = off + 1 then v.setWidth 8 else b k

/-- The high half, then the low half. -/
def put32 (b : Image) (off : Nat) (v : BitVec 32) : Image :=
  put16 (put16 b off ((v >>> 16).setWidth 16)) (off + 2) (v.setWidth 16)

def put64 (b : Image) (off : Nat) (v : BitVec 64) : Image :=
  put32 (put32 b off ((v >>> 32).setWidth 32)) (off + 4) (v.setWidth 32)

/-- `uint16_t((uint16_t(b[0]) << 8) | b[1])`. -/
def get16 (b : Image) (off : Nat) : BitVec 16 :=
  ((b off).setWidth 16 <<< 8) ||| (b (off + 1)).setWidth 16

def get32 (b : Image) (off : Nat) : BitVec 32 :=
  ((get16 b off).setWidth 32 <<< 16) ||| (get16 b (off + 2)).setWidth 32

def get64 (b : Image) (off : Nat) : BitVec 64 :=
  ((get32 b off).setWidth 64 <<< 32) ||| (get32 b (off + 4)).setWidth 64

/-- `for (i = 0; i < n; i++) put32(b + off + 4 * i, w[i])`. -/
def putWords {n : Nat} (b : Image) (off : Nat) (w : Fin n → BitVec 32) : Image :=
  (List.finRange n).foldl (fun b (i : Fin n) => put32 b (off + 4 * i) (w i)) b

/-- `for (i = 0; i < n; i++) w[i] = get32(b + off + 4 * i)`. -/
def getWords (n : Nat) (b : Image) (off : Nat) : Fin n → BitVec 32 :=
  fun i => get32 b (off + 4 * i)

variable {b b' : Image} {off off' k n : Nat}

/-! ## Halves of a field -/

/-- A word is its two halves. -/
theorem halves32 (v : BitVec 32) :
    (((v >>> 16).setWidth 16).setWidth 32 <<< 16) ||| (v.setWidth 16).setWidth 32 = v := by
  ext i hi
  by_cases h : i < 16
  · simp [h, BitVec.getLsbD_eq_getElem hi]
  · have e : 16 + (i - 16) = i := by omega
    simp [h, e, BitVec.getLsbD_eq_getElem hi]
    omega

/-- A double word is its two halves. -/
theorem halves64 (v : BitVec 64) :
    (((v >>> 32).setWidth 32).setWidth 64 <<< 32) ||| (v.setWidth 32).setWidth 64 = v := by
  ext i hi
  by_cases h : i < 32
  · simp [h, BitVec.getLsbD_eq_getElem hi]
  · have e : 32 + (i - 32) = i := by omega
    simp [h, e, BitVec.getLsbD_eq_getElem hi]
    omega

theorem high_of_join32 (h l : BitVec 16) :
    (((h.setWidth 32 <<< 16) ||| l.setWidth 32) >>> 16).setWidth 16 = h := by
  ext i hi
  simp
  grind

theorem low_of_join32 (h l : BitVec 16) :
    ((h.setWidth 32 <<< 16) ||| l.setWidth 32).setWidth 16 = l := by
  ext i hi
  simp

theorem high_of_join64 (h l : BitVec 32) :
    (((h.setWidth 64 <<< 32) ||| l.setWidth 64) >>> 32).setWidth 32 = h := by
  ext i hi
  simp
  grind

theorem low_of_join64 (h l : BitVec 32) :
    ((h.setWidth 64 <<< 32) ||| l.setWidth 64).setWidth 32 = l := by
  ext i hi
  simp

/-! ## Reading a field back -/

theorem put16_of_outside (v : BitVec 16) (h : k < off ∨ off + 2 ≤ k) :
    put16 b off v k = b k := by
  unfold put16
  rw [if_neg (by omega), if_neg (by omega)]

theorem put32_of_outside (v : BitVec 32) (h : k < off ∨ off + 4 ≤ k) :
    put32 b off v k = b k := by
  unfold put32
  rw [put16_of_outside _ (by omega), put16_of_outside _ (by omega)]

theorem get16_congr (h : ∀ k, off ≤ k → k < off + 2 → b k = b' k) :
    get16 b off = get16 b' off := by
  unfold get16
  rw [h off (by omega) (by omega), h (off + 1) (by omega) (by omega)]

theorem get32_congr (h : ∀ k, off ≤ k → k < off + 4 → b k = b' k) :
    get32 b off = get32 b' off := by
  unfold get32
  rw [get16_congr fun k h1 h2 => h k (by omega) (by omega),
    get16_congr fun k h1 h2 => h k (by omega) (by omega)]

@[simp] theorem get16_put16_self (b : Image) (off : Nat) (v : BitVec 16) :
    get16 (put16 b off v) off = v := by
  simp only [get16, put16, if_true, Nat.succ_ne_self, if_false]
  ext i hi
  by_cases h : i < 8
  · simp [h, BitVec.getLsbD_eq_getElem hi]
  · have e : 8 + (i - 8) = i := by omega
    simp [h, e, BitVec.getLsbD_eq_getElem hi]
    omega

theorem get16_put16_of_disjoint (v : BitVec 16) (h : off + 2 ≤ off' ∨ off' + 2 ≤ off) :
    get16 (put16 b off' v) off = get16 b off :=
  get16_congr fun _ _ _ => put16_of_outside v (by omega)

theorem get16_put32_of_disjoint (v : BitVec 32) (h : off + 2 ≤ off' ∨ off' + 4 ≤ off) :
    get16 (put32 b off' v) off = get16 b off :=
  get16_congr fun _ _ _ => put32_of_outside v (by omega)

theorem get32_put16_of_disjoint (v : BitVec 16) (h : off + 4 ≤ off' ∨ off' + 2 ≤ off) :
    get32 (put16 b off' v) off = get32 b off :=
  get32_congr fun _ _ _ => put16_of_outside v (by omega)

theorem get32_put32_of_disjoint (v : BitVec 32) (h : off + 4 ≤ off' ∨ off' + 4 ≤ off) :
    get32 (put32 b off' v) off = get32 b off :=
  get32_congr fun _ _ _ => put32_of_outside v (by omega)

@[simp] theorem get32_put32_self (b : Image) (off : Nat) (v : BitVec 32) :
    get32 (put32 b off v) off = v := by
  unfold get32 put32
  rw [get16_put16_of_disjoint _ (by omega), get16_put16_self, get16_put16_self, halves32]

theorem put64_of_outside (v : BitVec 64) (h : k < off ∨ off + 8 ≤ k) :
    put64 b off v k = b k := by
  unfold put64
  rw [put32_of_outside _ (by omega), put32_of_outside _ (by omega)]

theorem get64_congr (h : ∀ k, off ≤ k → k < off + 8 → b k = b' k) :
    get64 b off = get64 b' off := by
  unfold get64
  rw [get32_congr fun k h1 h2 => h k (by omega) (by omega),
    get32_congr fun k h1 h2 => h k (by omega) (by omega)]

theorem get16_put64_of_disjoint (v : BitVec 64) (h : off + 2 ≤ off' ∨ off' + 8 ≤ off) :
    get16 (put64 b off' v) off = get16 b off :=
  get16_congr fun _ _ _ => put64_of_outside v (by omega)

theorem get32_put64_of_disjoint (v : BitVec 64) (h : off + 4 ≤ off' ∨ off' + 8 ≤ off) :
    get32 (put64 b off' v) off = get32 b off :=
  get32_congr fun _ _ _ => put64_of_outside v (by omega)

theorem get64_put32_of_disjoint (v : BitVec 32) (h : off + 8 ≤ off' ∨ off' + 4 ≤ off) :
    get64 (put32 b off' v) off = get64 b off :=
  get64_congr fun _ _ _ => put32_of_outside v (by omega)

theorem get64_put64_of_disjoint (v : BitVec 64) (h : off + 8 ≤ off' ∨ off' + 8 ≤ off) :
    get64 (put64 b off' v) off = get64 b off :=
  get64_congr fun _ _ _ => put64_of_outside v (by omega)

@[simp] theorem get64_put64_self (b : Image) (off : Nat) (v : BitVec 64) :
    get64 (put64 b off v) off = v := by
  unfold get64 put64
  rw [get32_put32_of_disjoint _ (by omega), get32_put32_self, get32_put32_self, halves64]

/-! ## Arrays of words -/

theorem foldl_put32_of_outside (w : Fin n → BitVec 32) :
    ∀ (l : List (Fin n)) (b : Image), (∀ i ∈ l, k < off + 4 * i ∨ off + 4 * i + 4 ≤ k) →
      l.foldl (fun b (i : Fin n) => put32 b (off + 4 * i) (w i)) b k = b k
  | [], _, _ => rfl
  | i :: l, b, h => by
    rw [List.foldl_cons, foldl_put32_of_outside w l _ fun j hj => h j (List.mem_cons_of_mem i hj)]
    exact put32_of_outside _ (h i List.mem_cons_self)

theorem putWords_of_outside (w : Fin n → BitVec 32) (h : k < off ∨ off + 4 * n ≤ k) :
    putWords b off w k = b k :=
  foldl_put32_of_outside w _ b fun i _ => by omega

theorem get16_putWords_of_disjoint (w : Fin n → BitVec 32)
    (h : off + 2 ≤ off' ∨ off' + 4 * n ≤ off) : get16 (putWords b off' w) off = get16 b off :=
  get16_congr fun _ _ _ => putWords_of_outside w (by omega)

theorem get32_putWords_of_disjoint (w : Fin n → BitVec 32)
    (h : off + 4 ≤ off' ∨ off' + 4 * n ≤ off) : get32 (putWords b off' w) off = get32 b off :=
  get32_congr fun _ _ _ => putWords_of_outside w (by omega)

theorem get32_foldl_put32 (w : Fin n → BitVec 32) {i : Fin n} :
    ∀ (l : List (Fin n)) (b : Image), l.Nodup → i ∈ l →
      get32 (l.foldl (fun b (i : Fin n) => put32 b (off + 4 * i) (w i)) b) (off + 4 * i) = w i
  | j :: l, b, hn, hi => by
    rw [List.nodup_cons] at hn
    rw [List.foldl_cons]
    rcases List.mem_cons.mp hi with rfl | hi
    · rw [get32_congr fun k h1 h2 => foldl_put32_of_outside w l _ fun (j : Fin n) hj => ?_, get32_put32_self]
      have : i.val ≠ j.val := fun e => hn.1 (Fin.ext e ▸ hj)
      omega
    · exact get32_foldl_put32 w l _ hn.2 hi

/-- An array reads back as it was written. -/
@[simp] theorem get32_putWords_self (b : Image) (off : Nat) (w : Fin n → BitVec 32) (i : Fin n) :
    get32 (putWords b off w) (off + 4 * i) = w i :=
  get32_foldl_put32 w _ b (List.nodup_finRange n) (List.mem_finRange i)

/-! ## Images by their words -/

theorem high_byte (b : Image) (off : Nat) : b off = (get16 b off >>> 8).setWidth 8 := by
  unfold get16
  ext i hi
  simp
  grind

theorem low_byte (b : Image) (off : Nat) : b (off + 1) = (get16 b off).setWidth 8 := by
  unfold get16
  ext i hi
  simp

theorem high_get32 (b : Image) (off : Nat) : get16 b off = (get32 b off >>> 16).setWidth 16 :=
  (high_of_join32 _ _).symm

theorem low_get32 (b : Image) (off : Nat) : get16 b (off + 2) = (get32 b off).setWidth 16 :=
  (low_of_join32 _ _).symm

theorem high_get64 (b : Image) (off : Nat) : get32 b off = (get64 b off >>> 32).setWidth 32 :=
  (high_of_join64 _ _).symm

theorem low_get64 (b : Image) (off : Nat) : get32 b (off + 4) = (get64 b off).setWidth 32 :=
  (low_of_join64 _ _).symm

/-- Equal words have equal bytes. -/
theorem bytes_eq_of_get32 (h : get32 b off = get32 b' off) (h1 : off ≤ k) (h2 : k < off + 4) :
    b k = b' k := by
  have hi : get16 b off = get16 b' off := by rw [high_get32, h, ← high_get32]
  have lo : get16 b (off + 2) = get16 b' (off + 2) := by rw [low_get32, h, ← low_get32]
  obtain rfl | rfl | rfl | rfl : k = off ∨ k = off + 1 ∨ k = off + 2 ∨ k = off + 2 + 1 := by omega
  · rw [high_byte b, hi, ← high_byte]
  · rw [low_byte b, hi, ← low_byte]
  · rw [high_byte b, lo, ← high_byte]
  · rw [low_byte b, lo, ← low_byte]

/-- Images that agree on every aligned word below `4 * n` agree on every byte below it. -/
theorem image_ext (h : ∀ j, j < n → get32 b (4 * j) = get32 b' (4 * j)) (hk : k < 4 * n) :
    b k = b' k :=
  bytes_eq_of_get32 (h (k / 4) (by omega)) (by omega) (by omega)

end ByteLayout
