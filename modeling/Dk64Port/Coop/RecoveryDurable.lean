import Dk64Port.Coop.RecoveryJournal
import Dk64Port.Lib.BitFields
import Dk64Port.Lib.Run
import Mathlib.Data.Fintype.Basic

/-!
# The recovery journal is durable

`load` checks what no mutator checks: that the flags, the leader and the node fit together. Every
record that is committed passes these checks, so what is on disk can be loaded again.

* `loadedRecord_recordBytes`: a record that passes is loaded as it was written.
* `Durable`: the invariant of memory and disk; `durable_step`: every call keeps it.
* `recovery_journal_durable`: **the file is whole at every point of every run, and memory is what a
  reload would give.**
-/

namespace Dk64Port.Coop

open ByteLayout (Byte)
open ByteStream AtomicFile

variable {r : Record} {profile kind : Word} {bytes : List Byte}

/-! ## Reading a record back -/

theorem length_recordBody (r : Record) : (recordBody r).length = 72 := rfl

theorem length_recordBytes (r : Record) : (recordBytes r).length = recordSize := rfl

theorem readFieldsFrom_recordFields (r : Record) (rest : List Byte) :
    readFieldsFrom 2 (recordFields r ++ rest) = r := by
  have hformat : (2 : Word) ≤ 2 := BitVec.le_refl _
  simp only [readFieldsFrom, recordFields, List.append_assoc, get32_put32, get64_put64, if_pos hformat]

/-- A committed record is parsed as it was written. -/
theorem parseRecord_recordBytes (r : Record) : parseRecord (recordBytes r) = some (2, r) := by
  have htake : (recordBytes r).take 8 = recordMagic := rfl
  have hbody : (recordBytes r).take (recordSize - 4) = recordBody r :=
    List.take_left' (length_recordBody r)
  have hcrc : (recordBytes r).drop (recordSize - 4) = put32 (crc32 (recordBody r)) :=
    List.drop_left' (length_recordBody r)
  have hfields : (recordBytes r).drop 8
      = put32 2 ++ (recordFields r ++ put32 (crc32 (recordBody r))) := by
    rw [recordBytes, recordBody, List.append_assoc, List.drop_left' (by rfl), List.append_assoc]
  have hget : (get32 (put32 (crc32 (recordBody r)))).1 = crc32 (recordBody r) := by
    rw [← List.append_nil (put32 _), get32_put32]
  have hsize : ¬ (recordSize ≠ legacyRecordSize ∧ recordSize ≠ recordSize) := by decide
  unfold parseRecord
  rw [length_recordBytes, if_neg hsize, htake, hbody, hcrc, hget, if_neg (by simp), hfields,
    get32_put32]
  dsimp only
  rw [if_pos (.inr ⟨rfl, rfl⟩), readFieldsFrom_recordFields]

/-! ## What `load` accepts -/

/-- The conditions of `load`. -/
structure Fits (profile kind : Word) (r : Record) : Prop where
  profile : r.profile = profile
  kind : r.saveKind = kind
  flags : r.flags.toNat < 8
  node : r.node ≠ 0
  promoted : r.has flagPromoted = true → r.leader = r.node
  follower : r.has flagFollower = true → r.leader ≠ 0 ∧ r.leader ≠ r.node
  exclusive : ¬ (r.has flagPromoted = true ∧ r.has flagFollower = true)

theorem accepted_iff : r.accepted profile kind = true ↔ Fits profile kind r := by
  have hmask : r.flags &&& ~~~ (flagCheckpoint ||| flagPromoted ||| flagFollower) = 0
      ↔ r.flags.toNat < 8 := BitFields.and_not_mask_eq_zero (k := 3) (by decide)
  unfold Record.accepted
  rw [Bool.not_eq_true', decide_eq_false_iff_not]
  simp only [not_or, not_and, not_not, hmask, ne_eq]
  constructor
  · rintro ⟨h1, h2, h3, h4, h5, h6, h7⟩
    exact ⟨h1, h2, h3, h4, h5, h6, fun h => h7 h.1 h.2⟩
  · rintro ⟨h1, h2, h3, h4, h5, h6, h7⟩
    exact ⟨h1, h2, h3, h4, h5, h6, fun h h' => h7 ⟨h, h'⟩⟩

/-- A record that fits is loaded as it was written. -/
theorem loadedRecord_recordBytes (h : Fits profile kind r) :
    loadedRecord profile kind (recordBytes r) = some (2, r) := by
  have hformat : ¬ ((2 : Word) = 1 ∧ r.has flagPromoted = true) := fun h => absurd h.1 (by decide)
  unfold loadedRecord
  rw [parseRecord_recordBytes]
  dsimp only
  rw [if_neg hformat, if_pos (accepted_iff.mpr h)]

theorem fits_of_loadedRecord {format : Word} (h : loadedRecord profile kind bytes = some (format, r)) :
    Fits profile kind r := by
  unfold loadedRecord at h
  cases hp : parseRecord bytes with
  | none =>
    rw [hp] at h
    cases h
  | some d =>
    obtain ⟨format', r'⟩ := d
    rw [hp] at h
    dsimp only at h
    generalize (if format' = 1 ∧ r'.has flagPromoted = true then { r' with leader := r'.node } else r')
      = candidate at h
    by_cases ha : candidate.accepted profile kind = true
    · rw [if_pos ha] at h
      obtain ⟨rfl, rfl⟩ := Prod.mk.inj (Option.some.inj h)
      exact accepted_iff.mp ha
    · rw [if_neg ha] at h
      cases h

/-! ## The mutators keep what `load` accepts -/

/-- Flags below 8 are one of eight. -/
theorem flags_cases {p : Word → Prop} (h : ∀ k : Fin 8, p (BitVec.ofNat 32 k.val)) {f : Word}
    (hf : f.toNat < 8) : p f := by
  have hp := h ⟨f.toNat, hf⟩
  rwa [BitVec.ofNat_toNat, BitVec.setWidth_eq] at hp

theorem has_congr {r' : Record} {flag : Word} (h : r'.flags &&& flag = r.flags &&& flag) :
    r'.has flag = r.has flag := by
  unfold Record.has
  rw [h]

/-- A record that differs in its checkpoint, and in nothing `load` looks at. -/
theorem Fits.of_marks {r' : Record} (h : Fits profile kind r) (hprofile : r'.profile = profile)
    (hkind : r'.saveKind = kind) (hnode : r'.node = r.node) (hleader : r'.leader = r.leader)
    (hflags : r'.flags.toNat < 8 ∧ r'.flags &&& flagPromoted = r.flags &&& flagPromoted
      ∧ r'.flags &&& flagFollower = r.flags &&& flagFollower) : Fits profile kind r' where
  profile := hprofile
  kind := hkind
  flags := hflags.1
  node := hnode ▸ h.node
  promoted := by
    rw [has_congr hflags.2.1, hnode, hleader]
    exact h.promoted
  follower := by
    rw [has_congr hflags.2.2, hnode, hleader]
    exact h.follower
  exclusive := by
    rw [has_congr hflags.2.1, has_congr hflags.2.2]
    exact h.exclusive

/-- A checkpoint is dropped. -/
theorem Fits.clear (h : Fits profile kind r) :
    Fits profile kind { r with flags := r.flags &&& ~~~ flagCheckpoint } :=
  h.of_marks h.profile h.kind rfl rfl (flags_cases (p := fun f => (f &&& ~~~ flagCheckpoint).toNat < 8
    ∧ (f &&& ~~~ flagCheckpoint) &&& flagPromoted = f &&& flagPromoted
    ∧ (f &&& ~~~ flagCheckpoint) &&& flagFollower = f &&& flagFollower) (by decide) h.flags)

/-- A checkpoint is made. -/
theorem Fits.mark (h : Fits profile kind r) (room snapshot : Word) (size hash : Word64) :
    Fits profile kind { r with
      profile := profile, saveKind := kind, flags := r.flags ||| flagCheckpoint, room := room
      snapshot := snapshot, saveSize := size, saveHash := hash } :=
  h.of_marks rfl rfl rfl rfl (flags_cases (p := fun f => (f ||| flagCheckpoint).toNat < 8
    ∧ (f ||| flagCheckpoint) &&& flagPromoted = f &&& flagPromoted
    ∧ (f ||| flagCheckpoint) &&& flagFollower = f &&& flagFollower) (by decide) h.flags)

theorem has_eq_false {flag : Word} (h : r.flags &&& flag = 0) : r.has flag = false := by
  unfold Record.has
  rw [h]
  rfl

/-- A promoted record names its own node as the leader. -/
theorem Fits.promote (h : Fits profile kind r) (room : Word) :
    Fits profile kind (r.promoted room) := by
  obtain ⟨hflags, hfollower⟩ : (r.promoted room).flags.toNat < 8
      ∧ (r.promoted room).flags &&& flagFollower = 0 :=
    flags_cases (p := fun f => ((f ||| flagPromoted) &&& ~~~ flagFollower).toNat < 8
      ∧ ((f ||| flagPromoted) &&& ~~~ flagFollower) &&& flagFollower = 0) (by decide) h.flags
  have hno := has_eq_false hfollower
  constructor
  case profile => exact h.profile
  case kind => exact h.kind
  case flags => exact hflags
  case node => exact h.node
  case promoted => exact fun _ => rfl
  case follower =>
    intro hyes
    rw [hno] at hyes
    cases hyes
  case exclusive =>
    rintro ⟨-, hyes⟩
    rw [hno] at hyes
    cases hyes

/-- A follower names another node. -/
theorem Fits.follow (h : Fits profile kind r) {term leader : Word64} (hzero : leader ≠ 0)
    (hother : leader ≠ r.node) : Fits profile kind (r.following term leader) := by
  obtain ⟨hflags, hpromoted⟩ : (r.following term leader).flags.toNat < 8
      ∧ (r.following term leader).flags &&& flagPromoted = 0 :=
    flags_cases (p := fun f =>
      ((f ||| flagFollower) &&& ~~~ (flagPromoted ||| flagCheckpoint)).toNat < 8
      ∧ ((f ||| flagFollower) &&& ~~~ (flagPromoted ||| flagCheckpoint)) &&& flagPromoted = 0)
      (by decide) h.flags
  have hno := has_eq_false hpromoted
  constructor
  case profile => exact h.profile
  case kind => exact h.kind
  case flags => exact hflags
  case node => exact h.node
  case promoted =>
    intro hyes
    rw [hno] at hyes
    cases hyes
  case follower => exact fun _ => ⟨hzero, hother⟩
  case exclusive =>
    rintro ⟨hyes, -⟩
    rw [hno] at hyes
    cases hyes

/-- A record of format 1 without a leader gets its own node. -/
theorem Fits.lead (h : Fits profile kind r) (hleader : r.leader = 0) :
    Fits profile kind { r with leader := r.node } where
  profile := h.profile
  kind := h.kind
  flags := h.flags
  node := h.node
  promoted _ := rfl
  follower hyes := absurd hleader (h.follower hyes).1
  exclusive := h.exclusive

/-! ## One commit -/

variable {sys : System} {w w' : Storage} {disk₀ : SavePath → Disk Byte} {env : Surroundings}

/-- What a commit does. -/
structure Committed (sys : System) (r : Record) (w : Storage) : Prop where
  done : (w.commit sys r).1 = true →
    (w.commit sys r).2.journal
        = { w.journal with record := r, error := false, saveAdvanced := false }
    ∧ ((w.commit sys r).2.disk w.path).target = some (recordBytes r)
  failed : (w.commit sys r).1 = false →
    (w.commit sys r).2.journal = w.journal
    ∧ ((w.commit sys r).2.disk w.path).target = (w.disk w.path).target
  other : ∀ p, p ≠ w.path → ((w.commit sys r).2.disk p) = w.disk p
  seen : ∀ d ∈ (w.commit sys r).2.seen, d ∈ w.seen ∨ ∀ p,
    (d p).target = (w.disk p).target ∨ p = w.path ∧ (d p).target = some (recordBytes r)

theorem commit_eq (sys : System) (r : Record) (w : Storage) : w.commit sys r =
    if (sys.attempts w.tried).succeeds then
      (true, { w.write sys (recordBytes r) with
        journal := { w.journal with record := r, error := false, saveAdvanced := false } })
    else (false, w.write sys (recordBytes r)) := by
  have hlength : ¬ (recordBytes r).length ≠ recordSize := not_not.mpr (length_recordBytes r)
  unfold Storage.commit
  dsimp only
  rw [if_neg hlength]
  rfl

theorem write_other (sys : System) (bytes : List Byte) (w : Storage) {p : SavePath}
    (hp : p ≠ w.path) : (w.write sys bytes).disk p = w.disk p :=
  Function.update_of_ne hp _ _

theorem write_target (sys : System) (bytes : List Byte) (w : Storage) :
    ((w.write sys bytes).disk w.path).target
      = if (sys.attempts w.tried).succeeds then some bytes else (w.disk w.path).target := by
  unfold Storage.write
  dsimp only
  rw [Function.update_self]
  cases h : (sys.attempts w.tried).succeeds with
  | true => exact replace_of_succeeds h
  | false => exact replace_of_fails h

/-- At every point of a commit each file is as it was, or all of the new record. -/
theorem write_seen (sys : System) (bytes : List Byte) (w : Storage) :
    ∀ d ∈ (w.write sys bytes).seen, d ∈ w.seen ∨ ∀ p,
      (d p).target = (w.disk p).target ∨ p = w.path ∧ (d p).target = some bytes := by
  intro d hd
  rcases List.mem_append.mp hd with hd | hd
  · obtain ⟨step, hstep, rfl⟩ := List.mem_map.mp hd
    refine .inr fun p => ?_
    by_cases hp : p = w.path
    · subst hp
      rw [Function.update_self]
      exact (target_of_mem_steps hstep).imp_right fun h => ⟨rfl, h.2⟩
    · rw [Function.update_of_ne hp]
      exact .inl rfl
  · exact .inl hd

theorem committed (sys : System) (r : Record) (w : Storage) : Committed sys r w := by
  have htarget := write_target sys (recordBytes r) w
  have hother := fun p (hp : p ≠ w.path) => write_other sys (recordBytes r) w hp
  have hseen := write_seen sys (recordBytes r) w
  have heq := commit_eq sys r w
  cases h : (sys.attempts w.tried).succeeds with
  | true =>
    rw [h, if_pos rfl] at heq htarget
    constructor <;> rw [heq]
    · exact fun _ => ⟨rfl, htarget⟩
    · exact fun h => by cases h
    · exact hother
    · exact hseen
  | false =>
    rw [h, if_neg Bool.false_ne_true] at heq htarget
    constructor <;> rw [heq]
    · exact fun h => by cases h
    · exact fun _ => ⟨rfl, htarget⟩
    · exact hother
    · exact hseen

/-! ## The invariant -/

/-- The name of the save tells its profile and kind. -/
def Named (p : SavePath) (profile kind : Word) : Prop :=
  profile < 8 ∧ kind ≤ 3 ∧ p.filename = expectedName profile kind

/-- A journal file is as it was in the beginning, or a whole record of its own save. -/
def Whole (disk₀ : SavePath → Disk Byte) (p : SavePath) (target : Option (List Byte)) : Prop :=
  target = (disk₀ p).target
  ∨ ∃ r profile kind, target = some (recordBytes r) ∧ Named p profile kind ∧ Fits profile kind r

/-- What is on disk, now and at every point so far. -/
structure Stored (disk₀ : SavePath → Disk Byte) (w : Storage) : Prop where
  disk : ∀ p, Whole disk₀ p (w.disk p).target
  seen : ∀ d ∈ w.seen, ∀ p, Whole disk₀ p (d p).target

/-- The record in memory is the one on disk, unless an error is flagged. -/
def Held (w : Storage) : Prop :=
  w.journal.error = false →
    Fits w.journal.config.profile w.journal.config.saveKind w.journal.record
    ∧ ∃ bytes format, (w.disk w.path).target = some bytes ∧ format ≠ 1
      ∧ loadedRecord w.journal.config.profile w.journal.config.saveKind bytes
        = some (format, w.journal.record)

/-- The configuration names its save. -/
def Storage.Bound (w : Storage) : Prop :=
  Named w.path w.journal.config.profile w.journal.config.saveKind

/-- The invariant of memory and disk. -/
structure Durable (disk₀ : SavePath → Disk Byte) (w : Storage) : Prop where
  stored : Stored disk₀ w
  configured : w.journal.configured = true → w.Bound ∧ Held w

/-- A record that fits is committed, or nothing but the error flag changes. -/
structure Recorded (disk₀ : SavePath → Disk Byte) (w w' : Storage) : Prop where
  config : w'.journal.config = w.journal.config
  configured : w'.journal.configured = w.journal.configured
  stored : Stored disk₀ w'
  held : Held w'
  failed : w'.journal.error = true →
    w'.journal.record = w.journal.record ∧ ∀ p, (w'.disk p).target = (w.disk p).target

theorem commitOrFail_spec (sys : System) (hstored : Stored disk₀ w) (hbound : w.Bound)
    (hfits : Fits w.journal.config.profile w.journal.config.saveKind r) :
    Recorded disk₀ w (w.commitOrFail sys r).2
    ∧ ((w.commitOrFail sys r).1 = false → (w.commitOrFail sys r).2.journal.error = true)
    ∧ ((w.commitOrFail sys r).1 = true → (w.commitOrFail sys r).2.journal.error = false
      ∧ (w.commitOrFail sys r).2.journal.record = r) := by
  obtain ⟨hdone, hfailed, hother, hseen⟩ := committed sys r w
  have hnew : Whole disk₀ w.path (some (recordBytes r)) :=
    .inr ⟨r, w.journal.config.profile, w.journal.config.saveKind, rfl, hbound, hfits⟩
  have hseen' : ∀ d ∈ (w.commit sys r).2.seen, ∀ p, Whole disk₀ p (d p).target := by
    intro d hd p
    rcases hseen d hd with hd | hd
    · exact hstored.seen d hd p
    · rcases hd p with hsame | ⟨rfl, htarget⟩
      · rw [hsame]
        exact hstored.disk p
      · rw [htarget]
        exact hnew
  unfold Storage.commitOrFail
  dsimp only
  generalize w.commit sys r = result at *
  obtain ⟨ok, w'⟩ := result
  dsimp only at *
  cases ok with
  | true =>
    obtain ⟨hjournal, htarget⟩ := hdone rfl
    have hconfig : w'.journal.config = w.journal.config := by rw [hjournal]
    have hpath : w'.path = w.path := by rw [Storage.path, hconfig, Storage.path]
    have herror : w'.journal.error = false := by rw [hjournal]
    have hrecord : w'.journal.record = r := by rw [hjournal]
    rw [if_pos rfl]
    refine ⟨⟨hconfig, by rw [hjournal], ⟨fun p => ?_, hseen'⟩, fun _ => ?_, fun h => ?_⟩,
      (fun h => by cases h), fun _ => ⟨herror, hrecord⟩⟩
    · by_cases hp : p = w.path
      · subst hp
        rw [htarget]
        exact hnew
      · rw [hother p hp]
        exact hstored.disk p
    · rw [hconfig, hrecord, hpath]
      exact ⟨hfits, _, 2, htarget, by decide, loadedRecord_recordBytes hfits⟩
    · rw [herror] at h
      cases h
  | false =>
    obtain ⟨hjournal, htarget⟩ := hfailed rfl
    have hsame : ∀ p, (w'.disk p).target = (w.disk p).target := by
      intro p
      by_cases hp : p = w.path
      · subst hp
        exact htarget
      · rw [hother p hp]
    rw [if_neg Bool.false_ne_true]
    refine ⟨?_, fun _ => rfl, (fun h => by cases h)⟩
    constructor
    case config =>
      change w'.journal.config = _
      rw [hjournal]
    case configured =>
      change w'.journal.configured = _
      rw [hjournal]
    case stored =>
      refine ⟨fun p => ?_, hseen'⟩
      change Whole disk₀ p (w'.disk p).target
      rw [hsame]
      exact hstored.disk p
    case held =>
      intro herror
      cases herror
    case failed =>
      refine fun _ => ⟨?_, hsame⟩
      change w'.journal.record = _
      rw [hjournal]

theorem Stored.of_disk (h : Stored disk₀ w) (hdisk : w'.disk = w.disk) (hseen : w'.seen = w.seen) :
    Stored disk₀ w' := by
  refine ⟨?_, ?_⟩
  · rw [hdisk]
    exact h.disk
  · rw [hseen]
    exact h.seen

theorem held_of_error (h : w.journal.error = true) : Held w := by
  intro hno
  rw [h] at hno
  cases hno

/-! ## The calls -/

theorem has_zero (flag : Word) (h : r.flags = 0) : r.has flag = false := by
  have hand : r.flags &&& flag = 0 := by rw [h]; exact BitVec.zero_and
  exact has_eq_false hand

/-- A fresh record with a node fits. -/
theorem fits_fresh (hprofile : r.profile = profile) (hkind : r.saveKind = kind) (hflags : r.flags = 0)
    (hnode : r.node ≠ 0) : Fits profile kind r where
  profile := hprofile
  kind := hkind
  flags := by
    rw [hflags]
    decide
  node := hnode
  promoted hyes := by
    rw [has_zero _ hflags] at hyes
    cases hyes
  follower hyes := by
    rw [has_zero _ hflags] at hyes
    cases hyes
  exclusive hyes := by
    rw [has_zero _ hflags] at hyes
    cases hyes.1

theorem randomNode_ne_zero (sys : System) (w : Storage) : sys.randomNode w ≠ 0 := by
  unfold System.randomNode
  split
  · decide
  · assumption

/-- What `load` leaves behind: an error, the record of the file, or a fresh record without a file. -/
structure Loaded (disk₀ : SavePath → Disk Byte) (w : Storage) (result : Bool × Storage) : Prop where
  config : result.2.journal.config = w.journal.config
  configured : result.2.journal.configured = w.journal.configured
  stored : Stored disk₀ result.2
  failed : result.1 = false → result.2.journal.error = true
  done : result.1 = true → result.2.journal.error = false
    ∧ result.2.journal.record.node ≠ 0 ∧ (Held result.2 ∧ (result.2.disk w.path).target ≠ none
      ∨ (result.2.disk w.path).target = none ∧ result.2.journal.record.flags = 0)

theorem load_spec (sys : System) (hstored : Stored disk₀ w) (hbound : w.Bound)
    (herror : w.journal.error = false) (hflags : w.journal.record.flags = 0) : Loaded disk₀ w (w.load sys) := by
  unfold Storage.load
  dsimp only
  cases htarget : (w.disk w.path).target with
  | none =>
    constructor
    case config => rfl
    case configured => rfl
    case stored => exact hstored.of_disk rfl rfl
    case failed => exact fun h => by cases h
    case done => exact fun _ => ⟨herror, randomNode_ne_zero sys w, .inr ⟨htarget, hflags⟩⟩
  | some bytes =>
    dsimp only
    cases hloaded : loadedRecord w.journal.config.profile w.journal.config.saveKind bytes with
    | none =>
      constructor
      case config => rfl
      case configured => rfl
      case stored => exact hstored.of_disk rfl rfl
      case failed => exact fun _ => rfl
      case done => exact fun h => by cases h
    | some d =>
      obtain ⟨format, candidate⟩ := d
      have hfits := fits_of_loadedRecord hloaded
      dsimp only
      by_cases hformat : format = 1
      · rw [if_pos hformat]
        generalize hr : (if candidate.leader = 0 then { candidate with leader := candidate.node }
          else candidate) = r
        have hfits' : Fits w.journal.config.profile w.journal.config.saveKind r := by
          by_cases hleader : candidate.leader = 0
          · rw [if_pos hleader] at hr
            exact hr ▸ hfits.lead hleader
          · rw [if_neg hleader] at hr
            exact hr ▸ hfits
        obtain ⟨hrecorded, hfailed, hdone⟩ := commitOrFail_spec (w := w.setRecord r) (r := r) sys
          (hstored.of_disk rfl rfl) hbound hfits'
        constructor
        case config => exact hrecorded.config
        case configured => exact hrecorded.configured
        case stored => exact hrecorded.stored
        case failed => exact hfailed
        case done =>
          intro hok
          obtain ⟨herror, -⟩ := hdone hok
          obtain ⟨hfits, bytes, -, htarget, -⟩ := hrecorded.held herror
          rw [Storage.path, hrecorded.config] at htarget
          refine ⟨herror, hfits.node, .inl ⟨hrecorded.held, ?_⟩⟩
          change (((w.setRecord r).commitOrFail sys r).2.disk (w.setRecord r).path).target ≠ none
          rw [Storage.path, htarget]
          exact Option.some_ne_none _
      · rw [if_neg hformat]
        constructor
        case config => rfl
        case configured => rfl
        case stored => exact hstored.of_disk rfl rfl
        case failed => exact fun h => by cases h
        case done =>
          intro _
          refine ⟨herror, hfits.node,
            .inl ⟨fun _ => ⟨hfits, bytes, format, htarget, hformat, hloaded⟩, ?_⟩⟩
          change (w.disk w.path).target ≠ none
          rw [htarget]
          exact Option.some_ne_none _

theorem drawNode_eq (sys : System) (h : w.journal.record.node ≠ 0) : w.drawNode sys = w := by
  unfold Storage.drawNode
  rw [if_neg h]

/-- The outcome of a call, as far as the invariant goes. -/
structure Outcome (disk₀ : SavePath → Disk Byte) (c : RecoveryJournalConfig) (w : Storage) :
    Prop where
  config : w.journal.config = c
  stored : Stored disk₀ w
  held : Held w

theorem Outcome.durable {c : RecoveryJournalConfig} (h : Outcome disk₀ c w)
    (hbound : Named c.savePath c.profile c.saveKind) : Durable disk₀ w where
  stored := h.stored
  configured _ := by
    refine ⟨?_, h.held⟩
    unfold Storage.Bound Storage.path
    rw [h.config]
    exact hbound

theorem Recorded.outcome (h : Recorded disk₀ w w') : Outcome disk₀ w.journal.config w' :=
  ⟨h.config, h.stored, h.held⟩

/-- A journal that has just been loaded gets its file, if it had none. -/
theorem create_spec (sys : System) (hstored : Stored disk₀ w) (hbound : w.Bound)
    (herror : w.journal.error = false) (hnode : w.journal.record.node ≠ 0)
    (h : Held w ∧ (w.disk w.path).target ≠ none
      ∨ (w.disk w.path).target = none ∧ w.journal.record.flags = 0) :
    Outcome disk₀ w.journal.config (w.create sys).2
    ∧ ((w.create sys).1 = true → (w.create sys).2.journal.error = false) := by
  unfold Storage.create
  dsimp only
  rcases h with ⟨hheld, htarget⟩ | ⟨htarget, hflags⟩
  · rw [if_neg (fun h => htarget (Option.isNone_iff_eq_none.mp h))]
    exact ⟨⟨rfl, hstored, hheld⟩, fun _ => herror⟩
  · rw [if_pos (Option.isNone_iff_eq_none.mpr htarget)]
    generalize hr : ({ w.journal.record with
      profile := w.journal.config.profile, saveKind := w.journal.config.saveKind
      room := w.journal.config.room, leader := w.journal.record.node } : Record) = r
    have hfits : Fits w.journal.config.profile w.journal.config.saveKind r := by
      subst hr
      exact fits_fresh rfl rfl hflags hnode
    obtain ⟨hrecorded, -, hdone⟩ := commitOrFail_spec (w := w.setRecord r) (r := r) sys
      (hstored.of_disk rfl rfl) hbound hfits
    exact ⟨⟨hrecorded.config, hrecorded.stored, hrecorded.held⟩, fun hok => (hdone hok).1⟩

theorem verify_spec (sys : System) (env : Surroundings) (hstored : Stored disk₀ w) (hbound : w.Bound)
    (hheld : Held w) (herror : w.journal.error = false) :
    Outcome disk₀ w.journal.config (w.verify sys env) := by
  have hidle : Outcome disk₀ w.journal.config w := ⟨rfl, hstored, hheld⟩
  obtain ⟨hfits, -⟩ := hheld herror
  unfold Storage.verify
  dsimp only
  by_cases hmark : w.journal.record.has flagCheckpoint = true
  · rw [if_pos hmark]
    cases digest env with
    | none => exact ⟨rfl, hstored.of_disk rfl rfl, held_of_error rfl⟩
    | some d =>
      obtain ⟨size, hash⟩ := d
      dsimp only
      by_cases hsame : size ≠ w.journal.record.saveSize ∨ hash ≠ w.journal.record.saveHash
      · rw [if_pos hsame]
        obtain ⟨hrecorded, -⟩ := commitOrFail_spec sys hstored hbound hfits.clear
        generalize w.commitOrFail sys _ = result at hrecorded
        split
        · exact ⟨hrecorded.config, hrecorded.stored.of_disk rfl rfl, hrecorded.held⟩
        · exact hrecorded.outcome
      · rw [if_neg hsame]
        exact hidle
  · rw [if_neg hmark]
    exact hidle

theorem valid_iff {c : RecoveryJournalConfig} (h : c.valid env = true) :
    Named c.savePath c.profile c.saveKind := by
  unfold RecoveryJournalConfig.valid at h
  rw [Bool.not_eq_true', decide_eq_false_iff_not] at h
  simp only [not_or, not_not, BitVec.not_le, BitVec.not_lt] at h
  exact ⟨h.1, h.2.1, h.2.2.2.2.2.2.1⟩

theorem durable_configure (sys : System) (env : Surroundings) (c : RecoveryJournalConfig)
    (hstored : Stored disk₀ w) : Durable disk₀ (w.configure sys env c) := by
  unfold Storage.configure
  dsimp only
  by_cases hvalid : ¬ c.valid env = true ∨ env.irregular = true
  · rw [if_pos hvalid]
    exact ⟨hstored.of_disk rfl rfl, fun h => by cases h⟩
  rw [if_neg hvalid]
  rw [not_or, not_not] at hvalid
  have hbound := valid_iff hvalid.1
  split
  · exact ⟨hstored.of_disk rfl rfl, fun h => by cases h⟩
  generalize hw₀ : ({ w with journal := { config := c, configured := true } } : Storage) = w₀
  have hconfig : w₀.journal.config = c := hw₀ ▸ rfl
  have hbound₀ : w₀.Bound := hw₀ ▸ hbound
  have hloaded : Loaded disk₀ w₀ (w₀.load sys) :=
    load_spec sys (hw₀ ▸ hstored.of_disk rfl rfl) hbound₀ (hw₀ ▸ rfl) (hw₀ ▸ rfl)
  obtain ⟨hconfig₁, -, hstored₁, hfailed₁, hdone₁⟩ := hloaded
  generalize w₀.load sys = loaded at *
  obtain ⟨ok₁, w₁⟩ := loaded
  dsimp only at *
  rw [hconfig] at hconfig₁
  cases ok₁ with
  | false =>
    rw [if_pos (by decide)]
    exact ⟨hstored₁, fun _ => ⟨by rw [Storage.Bound, Storage.path, hconfig₁]; exact hbound,
      held_of_error (hfailed₁ rfl)⟩⟩
  | true =>
    rw [if_neg (by decide)]
    obtain ⟨herror₁, hnode₁, hrest₁⟩ := hdone₁ rfl
    have hpath : w₀.path = w₁.path := by rw [Storage.path, Storage.path, hconfig, hconfig₁]
    rw [hpath] at hrest₁
    have hbound₁ : w₁.Bound := by
      rw [Storage.Bound, Storage.path, hconfig₁]
      exact hbound
    rw [drawNode_eq sys hnode₁]
    obtain ⟨⟨hconfig₂, hstored₂, hheld₂⟩, hclean₂⟩ :=
      create_spec sys hstored₁ hbound₁ herror₁ hnode₁ hrest₁
    rw [hconfig₁] at hconfig₂
    generalize w₁.create sys = created at *
    obtain ⟨ok₂, w₂⟩ := created
    dsimp only at *
    have hbound₂ : w₂.Bound := by
      rw [Storage.Bound, Storage.path, hconfig₂]
      exact hbound
    cases ok₂ with
    | false =>
      rw [if_pos (by decide)]
      exact ⟨hstored₂, fun _ => ⟨hbound₂, hheld₂⟩⟩
    | true =>
      rw [if_neg (by decide)]
      have houtcome := verify_spec sys env hstored₂ hbound₂ hheld₂ (hclean₂ rfl)
      rw [hconfig₂] at houtcome
      exact houtcome.durable hbound

theorem Recorded.durable (h : Recorded disk₀ w w') (hdurable : Durable disk₀ w) : Durable disk₀ w' where
  stored := h.stored
  configured hconfigured := by
    refine ⟨?_, h.held⟩
    unfold Storage.Bound Storage.path
    rw [h.config]
    exact (hdurable.configured (h.configured ▸ hconfigured)).1

theorem recorded_fail (h : Stored disk₀ w) : Recorded disk₀ w w.fail where
  config := rfl
  configured := rfl
  stored := h.of_disk rfl rfl
  held := held_of_error rfl
  failed _ := ⟨rfl, fun _ => rfl⟩

theorem recorded_commit (sys : System) (h : Durable disk₀ w) (hconfigured : w.journal.configured = true)
    (hfits : Fits w.journal.config.profile w.journal.config.saveKind r) :
    Recorded disk₀ w (w.commitOrFail sys r).2 :=
  (commitOrFail_spec sys h.stored (h.configured hconfigured).1 hfits).1

/-- `observe` changes nothing, or commits a record that fits, or fails. -/
theorem observe_spec (sys : System) (env : Surroundings) (checkpoint persistSafe : Bool)
    (snapshot room : Word) (h : Durable disk₀ w) :
    w.observe sys env checkpoint persistSafe snapshot room = w
    ∨ Recorded disk₀ w (w.observe sys env checkpoint persistSafe snapshot room) := by
  unfold Storage.observe
  dsimp only
  by_cases hoff : ¬ w.journal.configured = true ∨ w.journal.error = true
  · rw [if_pos hoff]
    exact .inl rfl
  rw [if_neg hoff]
  rw [not_or, not_not, Bool.not_eq_true] at hoff
  obtain ⟨hconfigured, herror⟩ := hoff
  obtain ⟨hfits, -⟩ := (h.configured hconfigured).2 herror
  by_cases hcheckpoint : ¬ checkpoint = true
  · rw [if_pos hcheckpoint]
    split
    · exact .inr (recorded_commit sys h hconfigured hfits.clear)
    · exact .inl rfl
  rw [if_neg hcheckpoint]
  by_cases hsafe : ¬ persistSafe = true
  · rw [if_pos hsafe]
    exact .inl rfl
  rw [if_neg hsafe]
  split
  · exact .inl rfl
  · cases digest env with
    | none => exact .inr (recorded_fail h.stored)
    | some d =>
      obtain ⟨size, hash⟩ := d
      dsimp only
      rw [if_neg hfits.node, if_neg hfits.node]
      exact .inr (recorded_commit sys h hconfigured (hfits.mark room snapshot size hash))

theorem promote_spec (sys : System) (room : Word) (h : Durable disk₀ w) :
    (w.promote sys room).2 = w ∨ Recorded disk₀ w (w.promote sys room).2 := by
  unfold Storage.promote
  dsimp only
  by_cases hoff : ¬ w.journal.configured = true ∨ w.journal.error = true
      ∨ ¬ w.journal.record.has flagCheckpoint = true
  · rw [if_pos hoff]
    exact .inl rfl
  rw [if_neg hoff]
  rw [not_or, not_or, not_not, Bool.not_eq_true] at hoff
  obtain ⟨hfits, -⟩ := (h.configured hoff.1).2 hoff.2.1
  exact .inr (recorded_commit sys h hoff.1 (hfits.promote room))

theorem follow_spec (sys : System) (term leader : Word64) (h : Durable disk₀ w) :
    (w.follow sys term leader).2 = w ∨ Recorded disk₀ w (w.follow sys term leader).2 := by
  unfold Storage.follow
  dsimp only
  by_cases hoff : ¬ w.journal.configured = true ∨ w.journal.error = true ∨ leader = 0
      ∨ leader = w.journal.record.node
  · rw [if_pos hoff]
    exact .inl rfl
  rw [if_neg hoff]
  rw [not_or, not_or, not_or, not_not, Bool.not_eq_true] at hoff
  obtain ⟨hconfigured, herror, hzero, hother⟩ := hoff
  obtain ⟨hfits, -⟩ := (h.configured hconfigured).2 herror
  split
  · exact .inl rfl
  · exact .inr (recorded_commit sys h hconfigured (hfits.follow hzero hother))

/-- The calls that change a journal that is configured. -/
def Call.Mutates : Call → Prop
  | .reset | .configure _ _ => False
  | .observe _ _ _ _ _ | .promote _ | .follow _ _ => True

theorem mutate_spec (sys : System) (h : Durable disk₀ w) {call : Call} (hcall : call.Mutates) :
    w.step sys call = w ∨ Recorded disk₀ w (w.step sys call) := by
  cases call with
  | reset => exact absurd hcall id
  | configure => exact absurd hcall id
  | observe env checkpoint persistSafe snapshot room => exact observe_spec sys env _ _ _ _ h
  | promote room => exact promote_spec sys room h
  | follow term leader => exact follow_spec sys term leader h

/-- **Every call keeps the invariant.** -/
theorem durable_step (sys : System) (h : Durable disk₀ w) (call : Call) :
    Durable disk₀ (w.step sys call) := by
  have hmutate : call.Mutates → Durable disk₀ (w.step sys call) := by
    intro hcall
    rcases mutate_spec sys h hcall with hsame | hrecorded
    · rw [hsame]
      exact h
    · exact hrecorded.durable h
  cases call with
  | reset => exact ⟨h.stored.of_disk rfl rfl, fun hno => by cases hno⟩
  | configure env c => exact durable_configure sys env c h.stored
  | observe => exact hmutate trivial
  | promote => exact hmutate trivial
  | follow => exact hmutate trivial

theorem durable_run (sys : System) (disk₀ : SavePath → Disk Byte) (calls : List Call) :
    Durable disk₀ (Run.run (Storage.step sys) { disk := disk₀ } calls) :=
  Run.run_invariant_of_steps (I := Durable disk₀) (fun _ call h => durable_step sys h call)
    ⟨⟨fun _ => .inl rfl, fun _ hd => by cases hd⟩, fun h => by cases h⟩ calls

/-! ## What is on disk -/

/-- Where there is a file, `load` accepts it. -/
def Readable (profile kind : Word) (target : Option (List Byte)) : Prop :=
  ∀ bytes, target = some bytes → (loadedRecord profile kind bytes).isSome = true

/-- The profile and the kind that the letters of a name tell. -/
def nameParts (name : List Char) : Nat × Nat :=
  let items := decide (name.head? = some 'i')
  let name := name.drop (if items then 6 else 10)
  let host := decide (name.head? = some 'h')
  let campaign := (name.drop (if host then 7 else 8)).drop 9
  let profile := if campaign.length = 0 then 0 else ((campaign.head?.getD '0').toNat - '1'.toNat)
  (profile, (if items then 2 else 0) + if host then 1 else 0)

theorem nameParts_expectedName (h : profile < 8) (hk : kind ≤ 3) :
    nameParts (expectedName profile kind).toList = (profile.toNat, kind.toNat) := by
  have hall : ∀ (a : Fin 8) (c : Fin 4),
      nameParts (expectedName (BitVec.ofNat 32 a.val) (BitVec.ofNat 32 c.val)).toList
        = (a.val, c.val) := by
    decide +kernel
  have hname := hall ⟨profile.toNat, h⟩ ⟨kind.toNat, Nat.lt_succ_of_le hk⟩
  simpa only [BitVec.ofNat_toNat, BitVec.setWidth_eq] using hname

/-- A save has one profile and one kind. -/
theorem expectedName_injective {profile' kind' : Word} (h : profile < 8) (hk : kind ≤ 3)
    (h' : profile' < 8) (hk' : kind' ≤ 3)
    (heq : expectedName profile kind = expectedName profile' kind') :
    profile = profile' ∧ kind = kind' := by
  have hparts := nameParts_expectedName h hk
  rw [heq, nameParts_expectedName h' hk'] at hparts
  obtain ⟨hprofile, hkind⟩ := Prod.mk.inj hparts
  exact ⟨BitVec.eq_of_toNat_eq hprofile.symm, BitVec.eq_of_toNat_eq hkind.symm⟩

/-- A file that could be read in the beginning can be read now. -/
theorem Whole.readable {p : SavePath} {target : Option (List Byte)} (h : Whole disk₀ p target)
    (hname : Named p profile kind) (h₀ : Readable profile kind (disk₀ p).target) :
    Readable profile kind target := by
  rcases h with rfl | ⟨r, profile', kind', rfl, hname', hfits⟩
  · exact h₀
  · obtain ⟨rfl, rfl⟩ := expectedName_injective hname.1 hname.2.1 hname'.1 hname'.2.1
      (hname.2.2.symm.trans hname'.2.2)
    intro bytes hbytes
    obtain rfl := Option.some.inj hbytes
    rw [loadedRecord_recordBytes hfits]
    rfl

theorem Whole.exists {p : SavePath} {target : Option (List Byte)} (h : Whole disk₀ p target)
    (h₀ : (disk₀ p).target ≠ none) : target ≠ none := by
  rcases h with rfl | ⟨r, _, _, rfl, -⟩
  · exact h₀
  · exact Option.some_ne_none _

/-- The journal that loads its file again. -/
def Storage.reload (sys : System) (w : Storage) : Bool × Storage :=
  Storage.load sys { w with journal := { config := w.journal.config, configured := true } }

theorem reload_spec (sys : System) (hheld : Held w) (herror : w.journal.error = false) :
    (w.reload sys).1 = true ∧ (w.reload sys).2.journal.record = w.journal.record
    ∧ (w.reload sys).2.journal.error = false ∧ (w.reload sys).2.disk = w.disk := by
  obtain ⟨-, bytes, format, htarget, hformat, hloaded⟩ := hheld herror
  have hreload : w.reload sys = (true,
      Storage.setRecord w.journal.record
        { w with journal := { config := w.journal.config, configured := true } }) := by
    unfold Storage.reload Storage.load
    dsimp only
    rw [show Storage.path { w with journal := { config := w.journal.config, configured := true } }
      = w.path from rfl, htarget]
    dsimp only
    rw [hloaded]
    dsimp only
    rw [if_neg hformat]
  rw [hreload]
  exact ⟨rfl, rfl, rfl, rfl⟩

/-- **The recovery journal is durable.** Over every run of calls, whatever becomes of each commit:

* at every point of every commit a journal file is one that `load` accepts for the profile and the
  kind its save is named after, if it was so in the beginning, and it never goes missing;
* a commit that fails changes neither memory nor any journal file;
* a call of `observe`, `promote` or `follow` that ends in an error has changed neither the record
  nor any journal file;
* while no error is flagged, a reload of a configured journal gives the record in memory. -/
theorem recovery_journal_durable (sys : System) (disk₀ : SavePath → Disk Byte) (calls : List Call) :
    let w := Run.run (Storage.step sys) { disk := disk₀ } calls
    (∀ d ∈ w.disk :: w.seen, ∀ p profile kind, Named p profile kind →
      (Readable profile kind (disk₀ p).target → Readable profile kind (d p).target)
      ∧ ((disk₀ p).target ≠ none → (d p).target ≠ none))
    ∧ (∀ (w' : Storage) (r : Record), (w'.commit sys r).1 = false →
        (w'.commit sys r).2.journal = w'.journal
        ∧ ∀ p, ((w'.commit sys r).2.disk p).target = (w'.disk p).target)
    ∧ (∀ call : Call, call.Mutates → (w.step sys call).journal.error = true →
        (w.step sys call).journal.record = w.journal.record
        ∧ ∀ p, ((w.step sys call).disk p).target = (w.disk p).target)
    ∧ (w.journal.configured = true → w.journal.error = false →
        (w.reload sys).1 = true ∧ (w.reload sys).2.journal.record = w.journal.record
        ∧ (w.reload sys).2.journal.error = false ∧ (w.reload sys).2.disk = w.disk) := by
  intro w
  have hdurable : Durable disk₀ w := durable_run sys disk₀ calls
  refine ⟨?_, ?_, ?_, ?_⟩
  · intro d hd p profile kind hname
    have hwhole : Whole disk₀ p (d p).target := by
      rcases List.mem_cons.mp hd with rfl | hd
      · exact hdurable.stored.disk p
      · exact hdurable.stored.seen d hd p
    exact ⟨hwhole.readable hname, hwhole.exists⟩
  · intro w' r hfailed
    obtain ⟨hjournal, htarget⟩ := (committed sys r w').failed hfailed
    refine ⟨hjournal, fun p => ?_⟩
    by_cases hp : p = w'.path
    · subst hp
      exact htarget
    · rw [(committed sys r w').other p hp]
  · intro call hcall herror
    rcases mutate_spec sys hdurable hcall with hsame | hrecorded
    · rw [hsame]
      exact ⟨rfl, fun _ => rfl⟩
    · exact hrecorded.failed herror
  · intro hconfigured herror
    exact reload_spec sys (hdurable.configured hconfigured).2 herror

/-- A guest with the node 5 that has a save of one byte. -/
def guestSystem : System where
  entropy _ := 5
  attempts _ := {}

def guestSave : SavePath where
  directory := "saves"
  filename := "items_guest_v6_campaign2.bin"
  absolute := true
  normal := true

def guestSurroundings : Surroundings := { save := .regular [1] }

/-- It is configured, follows a host, and shares a checkpoint with it. -/
def guestCalls (term leader : Word64) : List Call :=
  [.configure guestSurroundings
      { savePath := guestSave, profile := 1, saveKind := 2, room := 123456 },
    .follow term leader, .observe guestSurroundings true true 7 123456]

/-- The checkpoint of the guest is on disk. -/
theorem recovery_journal_durable_guest :
    let w := Run.run (Storage.step guestSystem) { disk := fun _ => {} } (guestCalls 7 9)
    (w.reload guestSystem).1 = true ∧ (w.reload guestSystem).2.journal.record = w.journal.record := by
  have h := recovery_journal_durable guestSystem (fun _ => {}) (guestCalls 7 9)
  obtain ⟨hok, hrecord, -⟩ := h.2.2.2 (by decide) (by decide)
  exact ⟨hok, hrecord⟩

end Dk64Port.Coop
