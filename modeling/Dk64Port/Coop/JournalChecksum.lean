import Dk64Port.Coop.RecoveryDurable
import Dk64Port.Lib.ReflectedCrc

/-!
# The checksum of the recovery journal (`native/recovery_journal.cpp`)

The last four bytes of a record are the CRC-32 of the bytes before them. Damage to at most four
bytes in a row, all before the checksum or all inside it, leaves a file that `load` does not accept.

* `crc32_window`: damage within four bytes in a row changes the checksum.
* `damaged_rejected`: **a record that was damaged within four bytes in a row is not loaded.**
-/

namespace Dk64Port.Coop

open ByteLayout (Byte)
open ByteStream AtomicFile

variable {r : Record} {profile kind : Word} {bytes pre u v post : List Byte}

/-! ## The checksum -/

/-- `0xEDB88320`, the polynomial of the checksum. -/
def crcPolynomial : Word := 0xEDB88320

theorem crcBit_eq (crc : Word) : crcBit crc = ReflectedCrc.bit crcPolynomial crc := by
  have hlow : crc &&& 1#32 = (BitVec.ofBool (crc.getLsbD 0)).setWidth 32 :=
    BitVec.and_one_eq_setWidth_ofBool_getLsbD
  unfold crcBit ReflectedCrc.bit crcPolynomial
  congr 1
  rw [show crc &&& (1 : Word) = crc &&& 1#32 from rfl, hlow]
  cases crc.getLsbD 0 <;> rfl

theorem crcByte_eq (crc : Word) (b : Byte) :
    crcByte crc b = ReflectedCrc.feedByte crcPolynomial crc b := by
  unfold crcByte ReflectedCrc.feedByte
  rw [show List.range 8 = [0, 1, 2, 3, 4, 5, 6, 7] from rfl]
  simp only [List.foldl_cons, List.foldl_nil, crcBit_eq, ReflectedCrc.bits]

theorem crc32_eq (data : List Byte) :
    crc32 data = ~~~ ReflectedCrc.feed crcPolynomial 0xFFFFFFFF data := by
  have h : crcByte = ReflectedCrc.feedByte crcPolynomial := by
    funext crc b
    exact crcByte_eq crc b
  rw [crc32, h]
  rfl

/-- **Damage within four bytes in a row changes the checksum.** -/
theorem crc32_window (hlen : u.length = v.length) (hu : u.length ≤ 4)
    (h : crc32 (pre ++ (u ++ post)) = crc32 (pre ++ (v ++ post))) : u = v := by
  rw [crc32_eq, crc32_eq, BitVec.not_inj] at h
  exact ReflectedCrc.feed_window (by decide) hlen (by omega) h

/-! ## The file -/

/-- What `load` compares: the checksum of a file and the one at its end. -/
theorem checksum_of_parse {x : Word × Record} (h : parseRecord bytes = some x) :
    crc32 (bytes.take (bytes.length - 4)) = (get32 (bytes.drop (bytes.length - 4))).1 := by
  unfold parseRecord at h
  split at h
  · cases h
  · split at h
    · cases h
    · rename_i hok
      simp only [not_or, not_not] at hok
      exact hok.2

/-- `altered` differs from `original` within four bytes in a row, all before its last four bytes or
all inside them. -/
def Damaged (original altered : List Byte) : Prop :=
  ∃ pre u v post, original = pre ++ (u ++ post) ∧ altered = pre ++ (v ++ post)
    ∧ u.length = v.length ∧ u.length ≤ 4 ∧ u ≠ v
    ∧ (pre.length + u.length ≤ original.length - 4 ∨ original.length - 4 ≤ pre.length)

/-- The bytes of a record carry their checksum. -/
theorem checksum_recordBytes (r : Record) :
    crc32 ((recordBytes r).take 72) = (get32 ((recordBytes r).drop 72)).1 := by
  have h := checksum_of_parse (parseRecord_recordBytes r)
  have hlen : (recordBytes r).length - 4 = 72 := rfl
  rwa [hlen] at h

/-- **A damaged record is not parsed.** -/
theorem parseRecord_damaged (h : Damaged (recordBytes r) bytes) : parseRecord bytes = none := by
  obtain ⟨pre, u, v, post, horig, rfl, hlen, hu, hne, hwhere⟩ := h
  have hsize : (recordBytes r).length = 76 := length_recordBytes r
  have hsum := checksum_recordBytes r
  rw [hsize] at hwhere
  rw [horig] at hsize hsum
  simp only [List.length_append] at hsize
  have hsize' : (pre ++ (v ++ post)).length - 4 = 72 := by
    simp only [List.length_append]
    omega
  cases hp : parseRecord (pre ++ (v ++ post)) with
  | none => rfl
  | some x =>
    have hsum' := checksum_of_parse hp
    rw [hsize'] at hsum'
    refine absurd ?_ hne
    rcases hwhere with hbefore | hinside
    · -- the checksum at the end is the old one
      obtain ⟨k, hk⟩ := Nat.exists_eq_add_of_le hbefore
      have hk' : 72 = pre.length + (v.length + k) := by omega
      have hk : 72 = pre.length + (u.length + k) := by omega
      rw [hk, List.take_length_add_append, List.take_length_add_append,
        List.drop_length_add_append, List.drop_length_add_append] at hsum
      rw [hk', List.take_length_add_append, List.take_length_add_append,
        List.drop_length_add_append, List.drop_length_add_append, ← hsum] at hsum'
      exact (crc32_window hlen.symm (hlen ▸ hu) hsum').symm
    · -- the bytes before the checksum are the old ones
      rw [List.take_append_of_le_length hinside, List.drop_append_of_le_length hinside] at hsum hsum'
      have hrest : ∀ w : List Byte, w.length = u.length →
          (pre.drop 72 ++ (w ++ post)).length = 4 := by
        intro w hw
        simp only [List.length_append, List.length_drop]
        omega
      have hdrop := get32_injective (hrest u rfl) (hrest v hlen.symm) (hsum.symm.trans hsum')
      exact (List.append_inj (List.append_cancel_left hdrop) hlen).1

/-! ## Loading -/

theorem load_damaged (h : Damaged (recordBytes r) bytes) (sys : System) {w : Storage}
    (hfile : (w.disk w.path).target = some bytes) : w.load sys = (false, w.fail) := by
  unfold Storage.load
  dsimp only
  rw [hfile]
  dsimp only
  rw [loadedRecord, parseRecord_damaged h]

/-- **A record that was damaged within four bytes in a row is not loaded**: whoever committed it and
whoever finds the altered file, `load` fails and leaves the journal in memory as it was. -/
theorem damaged_rejected (sys : System) (r : Record) (w : Storage)
    (hcommit : (w.commit sys r).1 = true) :
    ∃ original, ((w.commit sys r).2.disk w.path).target = some original ∧
      ∀ altered, Damaged original altered → ∀ (sys' : System) (w' : Storage),
        (w'.disk w'.path).target = some altered → w'.load sys' = (false, w'.fail) := by
  refine ⟨recordBytes r, ?_, fun altered h sys' w' hfile => load_damaged h sys' hfile⟩
  have hsucceeds : (sys.attempts w.tried).succeeds = true := by
    rw [commit_eq] at hcommit
    split at hcommit
    · assumption
    · cases hcommit
  have htarget := write_target sys (recordBytes r) w
  rw [commit_eq]
  rw [if_pos hsucceeds] at htarget ⊢
  exact htarget

/-- The first four bytes of a committed record are turned to zero. -/
theorem damaged_rejected_magic :
    let w : Storage := { disk := fun _ => {} }
    let altered := [0, 0, 0, 0] ++ (recordBytes {}).drop 4
    ({ w with disk := fun _ => { target := some altered } } : Storage).load guestSystem
      = (false, ({ w with disk := fun _ => { target := some altered } } : Storage).fail) := by
  obtain ⟨original, horiginal, hall⟩ :=
    damaged_rejected guestSystem {} { disk := fun _ => {} } (by decide)
  have hbytes : original = recordBytes {} := by
    have := (write_target guestSystem (recordBytes {}) { disk := fun _ => {} }).symm.trans horiginal
    exact (Option.some.inj this).symm
  subst hbytes
  exact hall _ ⟨[], (recordBytes {}).take 4, [0, 0, 0, 0], (recordBytes {}).drop 4,
    (List.take_append_drop 4 _).symm, rfl, rfl, by decide, by decide, .inl (by decide)⟩
    guestSystem _ rfl

end Dk64Port.Coop
