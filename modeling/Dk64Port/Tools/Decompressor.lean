import Dk64Port.Lib.Inflate
import Dk64Port.Lib.ByteLayout
import Mathlib.Algebra.Group.Nat.Defs
import Mathlib.Algebra.GroupWithZero.Nat

/-!
# Decompressing the overlays of a ROM (`decompressor.cpp`)

`gzipDecompress` calls `inflate` with an empty buffer until the stream ends. `inflate` is a decoder
of which only the documented contract is used.

The loop goes on after `Z_BUF_ERROR`, which `inflate` returns for ever once the input is used up:
a segment that is cut short never returns.

* `gzipDecompress_whole`, `gzipDecompress_refused`: a whole stream comes out, an error is thrown.
* `gzipDecompress_cut`: **the loop spins on a segment that is cut short.**
* `decompression_returns_iff`: **exactly when the calls return.**
-/

namespace Dk64Port.Decompressor

open Inflate
open ByteLayout (Byte)

/-! ## The loop of `gzipDecompress` -/

/-- zlib: the decoder of `inflate`, and what `inflateInit2` returns. -/
structure Zlib where
  inflate : Decoder Byte
  initialized : Bool := true

/-- `BUFFER_SIZE`. -/
def bufferSize : Nat := 32768

/-- The `do` loop, as far as `fuel` passes through it; an exception carries its text. -/
def inflateLoop (z : Decoder Byte) : Nat → z.State → List Byte → List Byte →
    Option (Except String (List Byte))
  | 0, _, _, _ => none
  | fuel + 1, strm, input, decompressedData =>
    let ret := z.call strm input bufferSize
    if ret.status ≠ .ok ∧ ret.status ≠ .streamEnd ∧ ret.status ≠ .bufError then
      some (.error "Gzip decompression error encountered.")
    else
      let decompressedData := decompressedData ++ ret.output
      if ret.status ≠ .streamEnd then inflateLoop z fuel ret.state ret.rest decompressedData
      else some (.ok decompressedData)

/-- `static_cast<uInt>(compressedData.size())`: the bytes that `inflate` is given. -/
def availIn (compressedData : List Byte) : List Byte :=
  compressedData.take (compressedData.length % 2 ^ 32)

/-- `gzipDecompress`; `none` is a loop that has not ended after `fuel` passes. -/
def gzipDecompress (z : Zlib) (fuel : Nat) (compressedData : List Byte) :
    Option (Except String (List Byte)) :=
  if z.initialized = false then some (.error "Failed to initialize zlib inflation.")
  else inflateLoop z.inflate fuel z.inflate.start (availIn compressedData) []

/-! ## The overlays -/

/-- `std::fstream`: a read that falls short fails the stream, and a stream that failed stays where
it is. -/
structure RomFile where
  bytes : List Byte
  pos : Nat := 0
  failed : Bool := false

/-- `seekg`, from the beginning. -/
def RomFile.seekg (fr : RomFile) (pos : Nat) : RomFile :=
  if fr.failed then fr else { fr with pos := pos }

/-- `read` into a vector of `n` zeros. -/
def RomFile.read (fr : RomFile) (n : Nat) : List Byte × RomFile :=
  if fr.failed then (List.replicate n 0, fr)
  else
    let got := (fr.bytes.drop fr.pos).take n
    (got ++ List.replicate (n - got.length) 0,
      { fr with pos := fr.pos + got.length, failed := decide (got.length < n) })

/-- `Overlay`, with the vectors that the caller leaves empty. -/
structure Overlay where
  codeROMAddress : BitVec 32
  dataROMAddress : BitVec 32
  dataCompressedSize : BitVec 32
  codeDecompressedData : List Byte := []
  dataDecompressedData : List Byte := []

/-- `codeCompressedSize`. -/
def Overlay.codeCompressedSize (x : Overlay) : BitVec 32 := x.dataROMAddress - x.codeROMAddress

/-- The two segments of an overlay. -/
def Overlay.segments (x : Overlay) (fr : RomFile) : List Byte × List Byte × RomFile :=
  let code := (fr.seekg x.codeROMAddress.toNat).read x.codeCompressedSize.toNat
  let data := code.2.read x.dataCompressedSize.toNat
  (code.1, data.1, data.2)

/-- `readAndDecompressOverlays`; each call of `gzipDecompress` has `fuel` passes. -/
def readAndDecompressOverlays (z : Zlib) (fuel : Nat) (fr : RomFile) :
    List Overlay → Option (Except String (List Overlay))
  | [] => some (.ok [])
  | x :: overlays =>
    let (code, data, fr) := x.segments fr
    match gzipDecompress z fuel code with
    | none => none
    | some (.error e) => some (.error e)
    | some (.ok codeOut) =>
      match gzipDecompress z fuel data with
      | none => none
      | some (.error e) => some (.error e)
      | some (.ok dataOut) =>
        match readAndDecompressOverlays z fuel fr overlays with
        | none => none
        | some (.error e) => some (.error e)
        | some (.ok rest) =>
          some (.ok ({ x with codeDecompressedData := codeOut, dataDecompressedData := dataOut }
            :: rest))

/-! ## One segment -/

variable {z : Zlib} {meaning : List Byte → Verdict Byte} {data input rest out : List Byte}
  {fuel : Nat}

theorem bufferSize_pos : 0 < bufferSize := by decide

/-- One pass through the loop. -/
theorem inflateLoop_succ (z : Decoder Byte) (fuel : Nat) (st : z.State) (input out : List Byte) :
    inflateLoop z (fuel + 1) st input out =
      if (z.call st input bufferSize).status.failed = true then
        some (.error "Gzip decompression error encountered.")
      else if (z.call st input bufferSize).status = .streamEnd then
        some (.ok (out ++ (z.call st input bufferSize).output))
      else inflateLoop z fuel (z.call st input bufferSize).state
        (z.call st input bufferSize).rest (out ++ (z.call st input bufferSize).output) := by
  rw [inflateLoop]
  dsimp only
  rcases Status.cases (z.call st input bufferSize).status with h | h | h | h
  · rw [h]
    rfl
  · rw [h]
    rfl
  · rw [h]
    rfl
  · rw [if_pos h, if_pos]
    refine ⟨?_, ?_, ?_⟩ <;>
    · intro e
      rw [e] at h
      cases h

/-- More passes change nothing once the loop has ended. -/
theorem inflateLoop_mono (z : Decoder Byte) : ∀ (fuel more : Nat) (st : z.State)
    (input out : List Byte) {r : Except String (List Byte)},
    inflateLoop z fuel st input out = some r → inflateLoop z (fuel + more) st input out = some r
  | 0, _, _, _, _, _, h => by cases h
  | fuel + 1, more, st, input, out, r, h => by
    rw [Nat.add_right_comm, inflateLoop_succ]
    rw [inflateLoop_succ] at h
    split at h
    · rename_i hf
      rw [if_pos hf, h]
    · rename_i hf
      rw [if_neg hf]
      split at h
      · rename_i he
        rw [if_pos he, h]
      · rename_i he
        rw [if_neg he]
        exact inflateLoop_mono z fuel more _ _ _ h

/-- What a segment that is not cut short comes to. -/
def result : Verdict Byte → Except String (List Byte)
  | .whole out => .ok out
  | _ => .error "Gzip decompression error encountered."

/-- The segment ends before its stream does. -/
def IsCut : Verdict Byte → Prop
  | .cut _ => True
  | _ => False

instance (v : Verdict Byte) : Decidable (IsCut v) := by
  cases v <;> unfold IsCut <;> infer_instance

/-- A pass over an input that is not cut short ends the loop or brings the end nearer. -/
theorem inflateLoop_pass (h : Documented z.inflate meaning) (hcut : ¬ IsCut (meaning input))
    {st : z.inflate.State} (hs : Session z.inflate input st rest out) (fuel : Nat) :
    inflateLoop z.inflate (fuel + 1) st rest out = some (result (meaning input)) ∨
      ∃ st' rest' out', Session z.inflate input st' rest' out'
        ∧ rank meaning input rest' out' < rank meaning input rest out
        ∧ inflateLoop z.inflate (fuel + 1) st rest out = inflateLoop z.inflate fuel st' rest' out' := by
  have hc := h hs bufferSize_pos
  rw [inflateLoop_succ]
  rcases Status.cases (z.inflate.call st rest bufferSize).status with he | he | he | he
  · refine .inr ⟨_, _, _, hs.call bufferSize_pos (.inl he), h.rank_lt hs bufferSize_pos he, ?_⟩
    rw [he]
    rfl
  · left
    rw [hc.ended he, he]
    rfl
  · rw [(hc.stuck he).2.2.2] at hcut
    exact absurd trivial hcut
  · left
    rw [if_pos he, hc.failed he]
    rfl

/-- **The loop ends on an input that is not cut short.** -/
theorem inflateLoop_ends (h : Documented z.inflate meaning) (hcut : ¬ IsCut (meaning input)) :
    ∀ (n : Nat) {st : z.inflate.State} {rest out : List Byte},
      Session z.inflate input st rest out → rank meaning input rest out ≤ n →
        inflateLoop z.inflate (n + 1) st rest out = some (result (meaning input))
  | n, st, rest, out, hs, hn => by
    rcases inflateLoop_pass h hcut hs n with hend | ⟨st', rest', out', hs', hlt, hgo⟩
    · exact hend
    · obtain ⟨m, rfl⟩ := Nat.exists_eq_succ_of_ne_zero (show n ≠ 0 by omega)
      rw [hgo]
      exact inflateLoop_ends h hcut m hs' (by omega)

/-- **The loop spins on an input that is cut short.** -/
theorem inflateLoop_spins (h : Documented z.inflate meaning) (hcut : IsCut (meaning input)) :
    ∀ (fuel : Nat) {st : z.inflate.State} {rest out : List Byte},
      Session z.inflate input st rest out → inflateLoop z.inflate fuel st rest out = none
  | 0, _, _, _, _ => rfl
  | fuel + 1, st, rest, out, hs => by
    have hc := h hs bufferSize_pos
    rw [inflateLoop_succ]
    rcases Status.cases (z.inflate.call st rest bufferSize).status with he | he | he | he
    · rw [he]
      exact inflateLoop_spins h hcut fuel (hs.call bufferSize_pos (.inl he))
    · rw [hc.ended he] at hcut
      exact hcut.elim
    · rw [he]
      exact inflateLoop_spins h hcut fuel (hs.call bufferSize_pos (.inr he))
    · rw [hc.failed he] at hcut
      exact hcut.elim

/-! ## `gzipDecompress` -/

/-- The passes that are enough for a segment that is not cut short. -/
def passes (meaning : List Byte → Verdict Byte) (data : List Byte) : Nat :=
  rank meaning (availIn data) (availIn data) [] + 1

/-- What a call that returns gives. -/
def outcome (z : Zlib) (meaning : List Byte → Verdict Byte) (data : List Byte) :
    Except String (List Byte) :=
  if z.initialized = false then .error "Failed to initialize zlib inflation."
  else result (meaning (availIn data))

/-- The call does not come back: zlib was initialized and its input is cut short. -/
def CutShort (z : Zlib) (meaning : List Byte → Verdict Byte) (data : List Byte) : Prop :=
  z.initialized = true ∧ IsCut (meaning (availIn data))

instance (z : Zlib) (meaning : List Byte → Verdict Byte) (data : List Byte) :
    Decidable (CutShort z meaning data) := inferInstanceAs (Decidable (_ ∧ _))

/-- A segment that is not cut short is decompressed, or an error is thrown. -/
theorem gzipDecompress_returns (h : Documented z.inflate meaning) (hn : ¬ CutShort z meaning data)
    (hf : passes meaning data ≤ fuel) :
    gzipDecompress z fuel data = some (outcome z meaning data) := by
  unfold gzipDecompress outcome
  cases hz : z.initialized with
  | false => rfl
  | true =>
    have hcut : ¬ IsCut (meaning (availIn data)) := fun hc => hn ⟨hz, hc⟩
    have hend := inflateLoop_ends h hcut _ .start (Nat.le_refl _)
    obtain ⟨more, rfl⟩ := Nat.exists_eq_add_of_le hf
    exact inflateLoop_mono z.inflate _ more _ _ _ hend

/-- **The call spins on a segment that is cut short.** -/
theorem gzipDecompress_cut (h : Documented z.inflate meaning) (hs : CutShort z meaning data)
    (fuel : Nat) : gzipDecompress z fuel data = none := by
  unfold gzipDecompress
  rw [hs.1]
  exact inflateLoop_spins h hs.2 fuel .start

/-- A call that returns was not given a segment cut short, and returns what it should. -/
theorem of_gzipDecompress (h : Documented z.inflate meaning) {r : Except String (List Byte)}
    (hr : gzipDecompress z fuel data = some r) :
    ¬ CutShort z meaning data ∧ r = outcome z meaning data := by
  have hn : ¬ CutShort z meaning data := by
    intro hs
    rw [gzipDecompress_cut h hs fuel] at hr
    cases hr
  refine ⟨hn, ?_⟩
  have hmore : gzipDecompress z (fuel + passes meaning data) data = some r := by
    unfold gzipDecompress at hr ⊢
    split at hr
    · rename_i hz
      rw [if_pos hz, hr]
    · rename_i hz
      rw [if_neg hz]
      exact inflateLoop_mono z.inflate fuel _ _ _ _ hr
  rw [gzipDecompress_returns h hn (Nat.le_add_left _ _)] at hmore
  exact (Option.some.inj hmore).symm

/-! ## `readAndDecompressOverlays` -/

/-- The segments of the overlays, in the order they are read. -/
def segments : RomFile → List Overlay → List (List Byte)
  | _, [] => []
  | fr, x :: overlays =>
    (x.segments fr).1 :: (x.segments fr).2.1 :: segments (x.segments fr).2.2 overlays

/-- The first segment that does not come out whole is one that is refused, not one cut short. -/
def Settles (z : Zlib) (meaning : List Byte → Verdict Byte) : List (List Byte) → Prop
  | [] => True
  | data :: rest => ¬ CutShort z meaning data ∧
      ((outcome z meaning data).isOk = true → Settles z meaning rest)

/-- The passes that are enough for every segment. -/
def passesAll (meaning : List Byte → Verdict Byte) (l : List (List Byte)) : Nat :=
  (l.map (passes meaning)).sum

/-- The overlays are read and decompressed in full, or an error is thrown. -/
theorem readAndDecompressOverlays_returns (h : Documented z.inflate meaning) :
    ∀ {fr : RomFile} {overlays : List Overlay} {fuel : Nat},
      Settles z meaning (segments fr overlays) → passesAll meaning (segments fr overlays) ≤ fuel →
        ∃ r, readAndDecompressOverlays z fuel fr overlays = some r
  | _, [], _, _, _ => ⟨_, rfl⟩
  | fr, x :: overlays, fuel, hs, hf => by
    obtain ⟨hcode, hs⟩ := hs
    simp only [segments, passesAll, List.map_cons, List.sum_cons] at hf
    unfold readAndDecompressOverlays
    dsimp only
    rw [gzipDecompress_returns h hcode (by omega)]
    cases hcodeOut : outcome z meaning (x.segments fr).1 with
    | error e => exact ⟨_, rfl⟩
    | ok codeOut =>
      obtain ⟨hdata, hs⟩ := hs (by rw [hcodeOut]; rfl)
      dsimp only
      rw [gzipDecompress_returns h hdata (by omega)]
      cases hdataOut : outcome z meaning (x.segments fr).2.1 with
      | error e => exact ⟨_, rfl⟩
      | ok dataOut =>
        dsimp only
        obtain ⟨r, hr⟩ : ∃ r, readAndDecompressOverlays z fuel (x.segments fr).2.2 overlays = some r :=
          readAndDecompressOverlays_returns h (hs (by rw [hdataOut]; rfl)) (by rw [passesAll]; omega)
        rw [hr]
        cases r <;> exact ⟨_, rfl⟩

/-- What returns with some passes has no segment cut short before the first error. -/
theorem settles_of_returns (h : Documented z.inflate meaning) :
    ∀ {fr : RomFile} {overlays : List Overlay} {fuel : Nat} {r : Except String (List Overlay)},
      readAndDecompressOverlays z fuel fr overlays = some r →
        Settles z meaning (segments fr overlays)
  | _, [], _, _, _ => trivial
  | fr, x :: overlays, fuel, r, hr => by
    unfold readAndDecompressOverlays at hr
    dsimp only at hr
    cases hcode : gzipDecompress z fuel (x.segments fr).1 with
    | none =>
      rw [hcode] at hr
      cases hr
    | some c =>
      obtain ⟨hncode, hc⟩ := of_gzipDecompress h hcode
      refine ⟨hncode, fun hok => ?_⟩
      rw [hcode] at hr
      rw [← hc] at hok
      cases c with
      | error e => cases hok
      | ok codeOut =>
        dsimp only at hr
        cases hdata : gzipDecompress z fuel (x.segments fr).2.1 with
        | none =>
          rw [hdata] at hr
          cases hr
        | some d =>
          obtain ⟨hndata, hd⟩ := of_gzipDecompress h hdata
          refine ⟨hndata, fun hok => ?_⟩
          rw [hdata] at hr
          rw [← hd] at hok
          cases d with
          | error e => cases hok
          | ok dataOut =>
            dsimp only at hr
            cases hrest : readAndDecompressOverlays z fuel (x.segments fr).2.2 overlays with
            | none =>
              rw [hrest] at hr
              cases hr
            | some r' => exact settles_of_returns h hrest

/-- **When decompression returns.** A call of `gzipDecompress` returns, with the whole output or
with an error, exactly when its input is not cut short; the overlays are read to the end, or an
exception is thrown, exactly when no segment before the first error is cut short. -/
theorem decompression_returns_iff (z : Zlib) (meaning : List Byte → Verdict Byte)
    (h : Documented z.inflate meaning) :
    (∀ data, ((∃ fuel r, gzipDecompress z fuel data = some r) ↔ ¬ CutShort z meaning data) ∧
        ∀ fuel r, gzipDecompress z fuel data = some r → r = outcome z meaning data) ∧
      ∀ fr overlays, (∃ fuel r, readAndDecompressOverlays z fuel fr overlays = some r)
        ↔ Settles z meaning (segments fr overlays) := by
  refine ⟨fun data => ⟨⟨?_, fun hn => ?_⟩, fun fuel r hr => (of_gzipDecompress h hr).2⟩,
    fun fr overlays => ⟨?_, fun hs => ?_⟩⟩
  · rintro ⟨fuel, r, hr⟩
    exact (of_gzipDecompress h hr).1
  · exact ⟨passes meaning data, _, gzipDecompress_returns h hn (Nat.le_refl _)⟩
  · rintro ⟨fuel, r, hr⟩
    exact settles_of_returns h hr
  · exact ⟨_, readAndDecompressOverlays_returns h hs (Nat.le_refl _)⟩

/-! ## The member of an empty file -/

/-- `gzip` of an empty file: the header, an empty block, the checksum and the size. -/
def emptyMember : List Byte :=
  [0x1F, 0x8B, 0x08, 0x00, 0, 0, 0, 0, 0x00, 0x03, 0x03, 0x00, 0, 0, 0, 0, 0, 0, 0, 0]

/-- What `inflate` makes of that member, of what it begins with, and of anything that does not begin
like it. -/
def emptyMeaning (input : List Byte) : Verdict Byte :=
  if emptyMember.isPrefixOf input then .whole []
  else if input.isPrefixOf emptyMember then .cut []
  else .refused []

def emptyZlib : Zlib := { inflate := buffered emptyMeaning }

/-- The whole member comes out, and another byte in front of it is refused. -/
theorem decompression_returns_empty :
    (∃ fuel r, gzipDecompress emptyZlib fuel emptyMember = some r)
      ∧ ∃ fuel r, gzipDecompress emptyZlib fuel (0 :: emptyMember) = some r := by
  have h := decompression_returns_iff emptyZlib emptyMeaning (documented_buffered emptyMeaning)
  exact ⟨(h.1 emptyMember).1.mpr (by decide), (h.1 (0 :: emptyMember)).1.mpr (by decide)⟩

/-- **A member without its last byte, or no byte at all, never comes back.** -/
theorem truncated_spins : Documented emptyZlib.inflate emptyMeaning
    ∧ ¬ (∃ fuel r, gzipDecompress emptyZlib fuel emptyMember.dropLast = some r)
    ∧ ¬ (∃ fuel r, gzipDecompress emptyZlib fuel [] = some r) := by
  have h : Documented emptyZlib.inflate emptyMeaning := documented_buffered emptyMeaning
  refine ⟨h, ?_, ?_⟩
  · rintro ⟨fuel, r, hr⟩
    rw [gzipDecompress_cut h (by decide) fuel] at hr
    cases hr
  · rintro ⟨fuel, r, hr⟩
    rw [gzipDecompress_cut h (by decide) fuel] at hr
    cases hr

end Dk64Port.Decompressor
