import Dk64Port.Coop.ItemIds
import Dk64Port.Lib.AtomicFile
import Dk64Port.Lib.ByteStream
import Mathlib.Logic.Function.Basic

/-!
# The recovery journal (`native/recovery_journal.cpp`)

Beside the save a guest keeps a small record: who it is, which authority it knows, and whether the
save is a checkpoint shared with the host. The record is written to a temporary file and renamed.
What the system does comes from a `System`: random numbers, and how far each commit gets.

* `recordBytes`, `parseRecord`: format 2 of the file, and the two formats that are read.
* `Storage.configure`, `Storage.observe`, `Storage.promote`, `Storage.follow`: the calls of the
  source, over the journal in memory and the files on disk.
* `Storage.seen`: the disk after every single step of every commit.
-/

namespace Dk64Port.Coop

open ByteLayout (Byte)
open ByteStream AtomicFile

/-- `RecoveryJournal::Record`. -/
structure Record where
  profile : Word := 0
  saveKind : Word := 0
  flags : Word := 0
  room : Word := 0
  snapshot : Word := 0
  term : Word64 := 0
  node : Word64 := 0
  leader : Word64 := 0
  saveSize : Word64 := 0
  saveHash : Word64 := 0
deriving DecidableEq

/-- What `configure` reads of a path. -/
structure SavePath where
  directory : String := ""
  filename : String := ""
  absolute : Bool := false
  /-- `lexically_normal() == save_path`. -/
  normal : Bool := false
deriving DecidableEq

/-- `RecoveryJournalConfig`. -/
structure RecoveryJournalConfig where
  savePath : SavePath := {}
  profile : Word := 0
  saveKind : Word := 0
  room : Word := 0

/-- `RecoveryJournal`. -/
structure RecoveryJournal where
  config : RecoveryJournalConfig := {}
  record : Record := {}
  configured : Bool := false
  error : Bool := false
  saveAdvanced : Bool := false

/-- The save file. -/
inductive SaveFile where
  | missing
  /-- A symbolic link, or no regular file. -/
  | irregular
  | unreadable
  | regular (bytes : List Byte)

/-- What a call finds on disk besides the journal. -/
structure Surroundings where
  /-- The directory of the save exists. -/
  isDirectory : Bool := true
  /-- The journal file, where it exists, is a regular file. -/
  plain : Bool := true
  save : SaveFile := .missing

/-! ## The record on disk -/

def flagCheckpoint : Word := 1

def flagPromoted : Word := 2

def flagFollower : Word := 4

def recordSize : Nat := 76

def legacyRecordSize : Nat := 68

/-- `"DK64CRJ1"`. -/
def recordMagic : List Byte := [0x44, 0x4B, 0x36, 0x34, 0x43, 0x52, 0x4A, 0x31]

/-- One bit of the checksum. -/
def crcBit (crc : Word) : Word := (crc >>> 1) ^^^ (0xEDB88320 &&& (0 - (crc &&& 1)))

/-- One byte of the checksum. -/
def crcByte (crc : Word) (b : Byte) : Word :=
  (List.range 8).foldl (fun crc _ => crcBit crc) (crc ^^^ b.setWidth 32)

/-- `crc32`. -/
def crc32 (data : List Byte) : Word := ~~~ data.foldl crcByte 0xFFFFFFFF

/-- The fields behind the magic number and the format. -/
def recordFields (r : Record) : List Byte :=
  put32 r.profile ++ (put32 r.saveKind ++ (put32 r.flags ++ (put32 r.room ++ (put32 r.snapshot
    ++ (put64 r.term ++ (put64 r.node ++ (put64 r.leader ++ (put64 r.saveSize
      ++ put64 r.saveHash))))))))

/-- The record without its checksum. -/
def recordBody (r : Record) : List Byte := recordMagic ++ (put32 2 ++ recordFields r)

/-- The bytes of a commit. -/
def recordBytes (r : Record) : List Byte := recordBody r ++ put32 (crc32 (recordBody r))

/-- The fields of a record of format `format`, read from behind it. -/
def readFieldsFrom (format : Word) (p : List Byte) : Record :=
  let profile := get32 p
  let saveKind := get32 profile.2
  let flags := get32 saveKind.2
  let room := get32 flags.2
  let snapshot := get32 room.2
  let term := get64 snapshot.2
  let node := get64 term.2
  let leader := if 2 ≤ format then get64 node.2 else (0, node.2)
  let saveSize := get64 leader.2
  let saveHash := get64 saveSize.2
  { profile := profile.1, saveKind := saveKind.1, flags := flags.1, room := room.1
    snapshot := snapshot.1, term := term.1, node := node.1, leader := leader.1
    saveSize := saveSize.1, saveHash := saveHash.1 }

/-- The first half of `load`: the format and the record of a file that is whole. -/
def parseRecord (bytes : List Byte) : Option (Word × Record) :=
  if bytes.length ≠ legacyRecordSize ∧ bytes.length ≠ recordSize then none
  else if bytes.take 8 ≠ recordMagic
      ∨ crc32 (bytes.take (bytes.length - 4)) ≠ (get32 (bytes.drop (bytes.length - 4))).1 then none
  else
    let format := get32 (bytes.drop 8)
    if format.1 = 1 ∧ bytes.length = legacyRecordSize ∨ format.1 = 2 ∧ bytes.length = recordSize then
      some (format.1, readFieldsFrom format.1 format.2)
    else none

/-- `flags & flag`. -/
def Record.has (r : Record) (flag : Word) : Bool := decide (r.flags &&& flag ≠ 0)

/-- The second half of `load`: what the record must be like. -/
def Record.accepted (profile saveKind : Word) (r : Record) : Bool :=
  ! decide (r.profile ≠ profile ∨ r.saveKind ≠ saveKind
    ∨ r.flags &&& ~~~ (flagCheckpoint ||| flagPromoted ||| flagFollower) ≠ 0 ∨ r.node = 0
    ∨ (r.has flagPromoted ∧ r.leader ≠ r.node)
    ∨ (r.has flagFollower ∧ (r.leader = 0 ∨ r.leader = r.node))
    ∨ (r.has flagPromoted ∧ r.has flagFollower))

/-- The candidate of `load`. -/
def loadedRecord (profile saveKind : Word) (bytes : List Byte) : Option (Word × Record) :=
  match parseRecord bytes with
  | none => none
  | some (format, r) =>
    let candidate := if format = 1 ∧ r.has flagPromoted then { r with leader := r.node } else r
    if candidate.accepted profile saveKind then some (format, candidate) else none

/-! ## The files -/

/-- Random numbers, and how far each commit gets. -/
structure System where
  entropy : Nat → Word64
  attempts : Nat → Attempt

/-- The journal in memory and the journal files, each under the path of its save. -/
structure Storage where
  journal : RecoveryJournal := {}
  disk : SavePath → Disk Byte
  /-- Random numbers used so far. -/
  drawn : Nat := 0
  /-- Commits tried so far. -/
  tried : Nat := 0
  /-- The disk after every step so far. -/
  seen : List (SavePath → Disk Byte) := []

/-- `random_node`. -/
def System.randomNode (sys : System) (w : Storage) : Word64 :=
  if sys.entropy w.drawn = 0 then 1 else sys.entropy w.drawn

/-- `expected_name`. -/
def expectedName (profile kind : Word) : String :=
  let name := if kind &&& 2 ≠ 0 then "items_" else "prototype_"
  let name := name ++ if kind &&& 1 ≠ 0 then "host_" else "guest_"
  let name := name ++ if kind &&& 2 ≠ 0 then "v6" else "v1"
  let name := if profile ≠ 0 then name ++ "_campaign" ++ toString (profile + 1).toNat else name
  name ++ ".bin"

/-- `journal_path_`. -/
def Storage.path (w : Storage) : SavePath := w.journal.config.savePath

/-- The steps of a commit on disk. -/
def Storage.write (sys : System) (bytes : List Byte) (w : Storage) : Storage :=
  let attempt := sys.attempts w.tried
  { w with
    tried := w.tried + 1
    disk := Function.update w.disk w.path ((w.disk w.path).replace attempt bytes)
    seen := ((w.disk w.path).steps attempt bytes).map (Function.update w.disk w.path) ++ w.seen }

/-- `commit`. -/
def Storage.commit (sys : System) (r : Record) (w : Storage) : Bool × Storage :=
  let bytes := recordBytes r
  if bytes.length ≠ recordSize then (false, w)
  else
    let w' := w.write sys bytes
    if (sys.attempts w.tried).succeeds then
      (true, { w' with
        journal := { w'.journal with record := r, error := false, saveAdvanced := false } })
    else (false, w')

/-- `error_ = true`. -/
def Storage.fail (w : Storage) : Storage := { w with journal := { w.journal with error := true } }

/-- A commit whose failure is an error. -/
def Storage.commitOrFail (sys : System) (r : Record) (w : Storage) : Bool × Storage :=
  let result := w.commit sys r
  if result.1 then result else (false, result.2.fail)

def Storage.setRecord (r : Record) (w : Storage) : Storage :=
  { w with journal := { w.journal with record := r } }

/-- `load`. A record of format 1 is written again at once. -/
def Storage.load (sys : System) (w : Storage) : Bool × Storage :=
  let c := w.journal.config
  match (w.disk w.path).target with
  | none =>
    let w' := w.setRecord { w.journal.record with
      profile := c.profile, saveKind := c.saveKind, room := c.room, node := sys.randomNode w }
    (true, { w' with drawn := w.drawn + 1 })
  | some bytes =>
    match loadedRecord c.profile c.saveKind bytes with
    | none => (false, w.fail)
    | some (format, candidate) =>
      if format = 1 then
        let r := if candidate.leader = 0 then { candidate with leader := candidate.node } else candidate
        (w.setRecord r).commitOrFail sys r
      else (true, w.setRecord candidate)

/-- One byte of the hash of the save. -/
def hashByte (hash : Word64) (b : Byte) : Word64 := (hash ^^^ b.setWidth 64) * 1099511628211

/-- `digest`: the size and the hash of the save. -/
def digest (env : Surroundings) : Option (Word64 × Word64) :=
  match env.save with
  | .regular bytes =>
    if BitVec.ofNat 64 bytes.length = 0 then none
    else some (BitVec.ofNat 64 bytes.length, bytes.foldl hashByte 1469598103934665603)
  | _ => none

/-! ## The calls -/

/-- The configuration names the save it says it is for. -/
def RecoveryJournalConfig.valid (c : RecoveryJournalConfig) (env : Surroundings) : Bool :=
  ! decide (8 ≤ c.profile ∨ 3 < c.saveKind ∨ c.room < 100000 ∨ 999999 < c.room
    ∨ c.savePath.absolute = false ∨ c.savePath.normal = false
    ∨ c.savePath.filename ≠ expectedName c.profile c.saveKind ∨ env.isDirectory = false)

/-- The save exists and is no regular file. -/
def Surroundings.irregular (env : Surroundings) : Bool :=
  match env.save with
  | .irregular => true
  | _ => false

/-- A journal without a file gets one. -/
def Storage.create (sys : System) (w : Storage) : Bool × Storage :=
  if (w.disk w.path).target.isNone then
    let c := w.journal.config
    let r := { w.journal.record with
      profile := c.profile, saveKind := c.saveKind, room := c.room, leader := w.journal.record.node }
    (w.setRecord r).commitOrFail sys r
  else (true, w)

/-- A checkpoint holds as long as the save is the one it was made of. -/
def Storage.verify (sys : System) (env : Surroundings) (w : Storage) : Storage :=
  let r := w.journal.record
  if r.has flagCheckpoint then
    match digest env with
    | none =>
      (w.setRecord { r with flags := r.flags &&& ~~~ (flagCheckpoint ||| flagPromoted) }).fail
    | some (size, hash) =>
      if size ≠ r.saveSize ∨ hash ≠ r.saveHash then
        let result := w.commitOrFail sys { r with flags := r.flags &&& ~~~ flagCheckpoint }
        if result.1 then
          { result.2 with journal := { result.2.journal with saveAdvanced := true } }
        else result.2
      else w
  else w

/-- A record without a node draws one. -/
def Storage.drawNode (sys : System) (w : Storage) : Storage :=
  if w.journal.record.node = 0 then
    let w' := w.setRecord { w.journal.record with node := sys.randomNode w }
    { w' with drawn := w.drawn + 1 }
  else w

/-- `configure`. -/
def Storage.configure (sys : System) (env : Surroundings) (c : RecoveryJournalConfig)
    (w : Storage) : Storage :=
  let w : Storage := { w with journal := {} }
  if ¬ c.valid env ∨ env.irregular then w.fail
  else
    let w : Storage := { w with journal := { config := c } }
    if (w.disk w.path).target.isSome ∧ ¬ env.plain then w.fail
    else
      let w : Storage := { w with journal := { w.journal with configured := true } }
      let loaded := w.load sys
      if ¬ loaded.1 then loaded.2
      else
        let created := (loaded.2.drawNode sys).create sys
        if ¬ created.1 then created.2
        else created.2.verify sys env

/-- `reset`. -/
def Storage.reset (w : Storage) : Storage := { w with journal := {} }

/-- `observe`. -/
def Storage.observe (sys : System) (env : Surroundings) (checkpoint persistSafe : Bool)
    (snapshot room : Word) (w : Storage) : Storage :=
  let j := w.journal
  if ¬ j.configured ∨ j.error then w
  else if ¬ checkpoint then
    if j.record.has flagCheckpoint then
      (w.commitOrFail sys { j.record with flags := j.record.flags &&& ~~~ flagCheckpoint }).2
    else w
  else if ¬ persistSafe then w
  else if j.record.has flagCheckpoint ∧ j.record.snapshot = snapshot ∧ j.record.room = room
      ∧ ¬ j.saveAdvanced then w
  else
    match digest env with
    | none => w.fail
    | some (size, hash) =>
      let r := { j.record with
        profile := j.config.profile, saveKind := j.config.saveKind
        flags := j.record.flags ||| flagCheckpoint, room := room, snapshot := snapshot
        saveSize := size, saveHash := hash }
      let w' : Storage := if r.node = 0 then { w with drawn := w.drawn + 1 } else w
      let r := if r.node = 0 then { r with node := sys.randomNode w } else r
      (w'.commitOrFail sys r).2

/-- The record a promotion writes. The term stays at its largest value. -/
def Record.promoted (room : Word) (r : Record) : Record :=
  let term := if r.term = 0xFFFFFFFFFFFFFFFF then 0xFFFFFFFFFFFFFFFF else r.term + 1
  { r with
    flags := (r.flags ||| flagPromoted) &&& ~~~ flagFollower
    room := room
    leader := r.node
    term := if term = 0 then 1 else term }

/-- `promote`. -/
def Storage.promote (sys : System) (room : Word) (w : Storage) : Bool × Storage :=
  let j := w.journal
  if ¬ j.configured ∨ j.error ∨ ¬ j.record.has flagCheckpoint then (false, w)
  else w.commitOrFail sys (j.record.promoted room)

/-- The record of a follower. -/
def Record.following (term leader : Word64) (r : Record) : Record :=
  { r with
    flags := (r.flags ||| flagFollower) &&& ~~~ (flagPromoted ||| flagCheckpoint)
    term := term
    leader := leader }

/-- `follow`. -/
def Storage.follow (sys : System) (term leader : Word64) (w : Storage) : Bool × Storage :=
  let j := w.journal
  if ¬ j.configured ∨ j.error ∨ leader = 0 ∨ leader = j.record.node then (false, w)
  else if j.record.has flagFollower ∧ j.record.term = term ∧ j.record.leader = leader then (true, w)
  else w.commitOrFail sys (j.record.following term leader)

/-- `status`. -/
def RecoveryJournal.status (j : RecoveryJournal) : Word :=
  (if j.configured then 1 else 0)
  ||| (if j.record.has flagCheckpoint then 2 else 0)
  ||| (if j.record.has flagPromoted then 4 else 0)
  ||| (if j.record.has flagFollower then 32 else 0)
  ||| (if j.saveAdvanced then 8 else 0)
  ||| (if j.error then 16 else 0)

/-- `authority_node`. -/
def RecoveryJournal.authorityNode (j : RecoveryJournal) : Word64 :=
  if j.record.has (flagPromoted ||| flagFollower) then j.record.leader else 0

/-- A call of the journal. -/
inductive Call where
  | reset
  | configure (env : Surroundings) (c : RecoveryJournalConfig)
  | observe (env : Surroundings) (checkpoint persistSafe : Bool) (snapshot room : Word)
  | promote (room : Word)
  | follow (term leader : Word64)

/-- One call. -/
def Storage.step (sys : System) (w : Storage) : Call → Storage
  | .reset => w.reset
  | .configure env c => w.configure sys env c
  | .observe env checkpoint persistSafe snapshot room =>
    w.observe sys env checkpoint persistSafe snapshot room
  | .promote room => (w.promote sys room).2
  | .follow term leader => (w.follow sys term leader).2

end Dk64Port.Coop
