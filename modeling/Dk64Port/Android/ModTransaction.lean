import Dk64Port.Lib.ByteLayout
import Dk64Port.Lib.CrashLogic
import Mathlib.Data.List.Sort
import Mathlib.Data.String.Basic
import Mathlib.Logic.Function.Basic

/-!
# Changing the mods (`ModTransaction.java`, `DriverArchive.java`, `ModArchive.java`)

A change of the mods directory is prepared in a directory of its own: the files that will be
overwritten, the new ones, and a journal that says which names existed. With the journal in place the
names are changed one by one. A marker says that all of them are, and the journal is retired.

* `Files`: the mods directory and the transaction directory.
* `copySynced`, `replace`, `finish`, `recover`, `install`, `apply`: the programs, with one step for each
  change of the file system.
* `ModCall`, `ModCall.killedStep`: a process that recovers or applies, and is killed after some steps.
-/

namespace Dk64Port.Android

open ByteLayout (Byte)
open CrashLogic

/-! ## The files -/

/-- What is under a name of the mods directory: a regular file, or a directory or symbolic link. -/
inductive Entry where
  | file (bytes : List Byte)
  | other

/-- The mods directory. -/
abbrev Mods := String → Option Entry

/-- The two directories in the transaction directory. -/
inductive Part where
  | backup
  | payload
deriving DecidableEq

/-- A directory of files. -/
abbrev Folder := List (String × List Byte)

/-- `mod-transaction`. -/
structure TransactionDir where
  folders : Part → Option Folder := fun _ => none
  journalTmp : Option (List Byte) := none
  journal : Option (List Byte) := none
  committed : Option (List Byte) := none
  writeTmp : Option (List Byte) := none

/-- The files, and how often the marker was created (nothing reads it). -/
structure Files where
  mods : Mods
  transaction : Option TransactionDir := none
  marks : Nat := 0

/-- The file of a name. -/
def Folder.find (folder : Folder) (name : String) : Option (List Byte) :=
  (folder.find? fun e => e.1 = name).map (·.2)

/-- A file is created or overwritten. -/
def Folder.write (folder : Folder) (name : String) (bytes : List Byte) : Folder :=
  folder.filter (fun e => e.1 ≠ name) ++ [(name, bytes)]

namespace TransactionDir

/-- A file of a part. -/
def find (tx : TransactionDir) (part : Part) (name : String) : Option (List Byte) :=
  (tx.folders part).bind (·.find name)

def setFolder (tx : TransactionDir) (part : Part) (folder : Option Folder) : TransactionDir :=
  { tx with folders := Function.update tx.folders part folder }

def write (tx : TransactionDir) (part : Part) (name : String) (bytes : List Byte) : TransactionDir :=
  tx.setFolder part ((tx.folders part).map (·.write name bytes))

/-- No entry is left. -/
def isEmpty (tx : TransactionDir) : Bool :=
  (tx.folders .backup).isNone && (tx.folders .payload).isNone && tx.journalTmp.isNone
    && tx.journal.isNone && tx.committed.isNone && tx.writeTmp.isNone

end TransactionDir

namespace Files

def onTransaction (f : TransactionDir → TransactionDir) (s : Files) : Files :=
  { s with transaction := s.transaction.map f }

def setMod (name : String) (entry : Option Entry) (s : Files) : Files :=
  { s with mods := Function.update s.mods name entry }

end Files

/-- A program over the files; it throws a message. -/
abbrev FileProgram (α : Type) := Prog Files String α

/-- What the runtime decides: how a file is cut into reads, what the JSON library makes of a text
(`none` where a value is no boolean), and whether the checkpoint throws. -/
structure JavaRuntime where
  chunks : List Byte → List (List Byte)
  flatten_chunks : ∀ bytes, (chunks bytes).flatten = bytes
  parse : List Byte → Option (List (String × Option Bool))
  checkpoint : Nat → Bool := fun _ => false

/-! ## Names -/

/-- `isMod`. -/
def isMod (name : List Char) : Bool :=
  let lower := name.map Char.toLower
  ".nrm".toList.isSuffixOf lower || ".rtz".toList.isSuffixOf lower

/-- A character of the pattern behind the first. -/
def nameChar (c : Char) : Bool :=
  c.isAlphanum || c = '_' || c = '.' || c = ' ' || c = '(' || c = ')' || c = '-'

/-- The pattern of `target`. -/
def validName (name : String) : Bool :=
  match name.toList with
  | [] => false
  | c :: rest =>
    (c.isAlphanum || c = '_') && decide (rest.length ≤ 179) && rest.all nameChar
      && (isMod (c :: rest) || ".so".toList.isSuffixOf (c :: rest))

/-- `target`. -/
def target (name : String) : FileProgram Unit := do
  Prog.failIf (!validName name) "Invalid mod transaction filename."
  let s ← Prog.get
  match s.mods name with
  | some .other => Prog.fail "Mod transaction cannot replace a directory or symbolic link."
  | _ => pure ()

/-! ## Files are copied and replaced -/

/-- `MAX_INPUT`. -/
def maxInput : Nat := 512 * 1024 * 1024

/-- The loop of `copyBounded`, with what is `written` so far. -/
def copyBounded (write : List Byte → Files → Files) : (written : List Byte) → List (List Byte) →
    FileProgram Unit
  | _, [] => pure ()
  | written, chunk :: chunks =>
    if maxInput < (written ++ chunk).length then
      Prog.fail "Mod file exceeds the import size limit."
    else do
      Prog.step (write (written ++ chunk))
      copyBounded write (written ++ chunk) chunks

/-- `copySynced`: `write` sets what is in the output. -/
def copySynced (rt : JavaRuntime) (source : Option (List Byte)) (write : List Byte → Files → Files) :
    FileProgram Unit :=
  match source with
  | none => Prog.fail "Missing mod transaction input."
  | some bytes => do
    Prog.step (write [])
    copyBounded write [] (rt.chunks bytes)

/-- `write.tmp`. -/
def writeTemporary (bytes : List Byte) : Files → Files :=
  Files.onTransaction fun tx => { tx with writeTmp := some bytes }

/-- The atomic move of `write.tmp`. -/
def moveTemporary (name : String) (s : Files) : Files :=
  match s.transaction with
  | some tx =>
    match tx.writeTmp with
    | some bytes => (s.setMod name (some (.file bytes))).onTransaction fun tx => { tx with writeTmp := none }
    | none => s
  | none => s

/-- `replace`. -/
def replace (rt : JavaRuntime) (source : Option (List Byte)) (name : String) : FileProgram Unit := do
  copySynced rt source writeTemporary
  Prog.step (moveTemporary name)

/-- `replace(part.resolve(name), target(name))`. -/
def replaceFrom (rt : JavaRuntime) (part : Part) (name : String) : FileProgram Unit := do
  target name
  let s ← Prog.get
  replace rt (s.transaction.bind (·.find part name)) name

/-- `Files.deleteIfExists(target(name))`. -/
def deleteTarget (name : String) : FileProgram Unit := do
  target name
  Prog.step (Files.setMod name none)

/-! ## The directory is removed -/

/-- `deleteIfExists`, where there is a file. -/
def deleteIf (present : Bool) (f : TransactionDir → TransactionDir) : FileProgram Unit :=
  if present then Prog.step (Files.onTransaction f) else pure ()

/-- A file of a part is deleted. -/
def deleteFile (part : Part) (name : String) : FileProgram Unit :=
  Prog.step (Files.onTransaction fun tx =>
    tx.setFolder part ((tx.folders part).map (·.filter fun e => e.1 ≠ name)))

/-- A part is deleted, where it is empty. -/
def deleteFolder (part : Part) : FileProgram Unit := do
  let s ← Prog.get
  if ((s.transaction.bind (·.folders part)).getD []).isEmpty then
    Prog.step (Files.onTransaction (·.setFolder part none))
  else Prog.fail "DirectoryNotEmptyException"

/-- The names of a folder, the last one first. -/
def Folder.reversedNames (folder : Folder) : List String :=
  ((folder.map (·.1)).mergeSort (fun a b => decide (a ≤ b))).reverse

/-- A part of the walk: its files in the reverse order, and the directory. -/
def removeFolder (part : Part) : Option Folder → FileProgram Unit
  | none => pure ()
  | some folder => do
    Prog.forEach folder.reversedNames (deleteFile part)
    deleteFolder part

/-- The paths of the walk below the directory, in the reverse order. -/
def removeEntries (tx : TransactionDir) : FileProgram Unit := do
  deleteIf tx.writeTmp.isSome fun tx => { tx with writeTmp := none }
  removeFolder .payload (tx.folders .payload)
  deleteIf tx.journalTmp.isSome fun tx => { tx with journalTmp := none }
  deleteIf tx.journal.isSome fun tx => { tx with journal := none }
  deleteIf tx.committed.isSome fun tx => { tx with committed := none }
  removeFolder .backup (tx.folders .backup)

/-- The directory itself, which has to be empty. -/
def removeDirectory : FileProgram Unit := do
  let s ← Prog.get
  if s.transaction.all (·.isEmpty) then Prog.step fun s => { s with transaction := none }
  else Prog.fail "DirectoryNotEmptyException"

/-- `removePrivateTree`. -/
def removePrivateTree : FileProgram Unit := do
  let s ← Prog.get
  match s.transaction with
  | none => Prog.fail "NoSuchFileException"
  | some tx => do
    removeEntries tx
    removeDirectory

/-- `finish`. -/
def finish : FileProgram Unit := do
  Prog.step (Files.onTransaction fun tx => { tx with journal := none })
  removePrivateTree

/-! ## Recovery -/

/-- One name of the journal is checked. -/
def checkBefore (tx : TransactionDir) (e : String × Option Bool) : FileProgram Unit := do
  target e.1
  match e.2 with
  | none => Prog.fail "Invalid mod recovery state."
  | some true => Prog.failIf (tx.find .backup e.1).isNone "Missing mod recovery backup."
  | some false => pure ()

/-- One name of the journal is put back. -/
def restore (rt : JavaRuntime) (e : String × Option Bool) : FileProgram Unit :=
  if e.2 = some true then replaceFrom rt .backup e.1 else deleteTarget e.1

/-- What `recover` does with a journal. -/
def rollBack (rt : JavaRuntime) (tx : TransactionDir) (journal : List Byte) : FileProgram Unit :=
  if 65536 < journal.length then
    Prog.fail "Invalid mod recovery journal; refusing to start with a partial installation."
  else
    match rt.parse journal with
    | none => Prog.fail "Cannot read mod recovery journal."
    | some before =>
      if 8 < before.length then Prog.fail "Oversized mod recovery journal."
      else do
        Prog.forEach before (checkBefore tx)
        Prog.forEach before (restore rt)

/-- `recover`. -/
def recover (rt : JavaRuntime) : FileProgram Unit := do
  let s ← Prog.get
  match s.transaction with
  | none => pure ()
  | some tx =>
    match tx.journal, tx.committed with
    | some journal, none => do
      rollBack rt tx journal
      finish
    | _, _ => finish

/-! ## A change -/

/-- The arguments of `apply`: a map and a set. -/
structure Changes where
  replacements : List (String × List Byte)
  removals : List String
  replacements_nodup : (replacements.map (·.1)).Nodup
  removals_nodup : removals.Nodup

namespace Changes

/-- `affected`. -/
def affected (c : Changes) : List String :=
  c.removals ++ (c.replacements.map (·.1)).filter fun name => decide (name ∉ c.removals)

/-- The file that replaces a name. -/
def replacement (c : Changes) (name : String) : Option (List Byte) :=
  (c.replacements.find? fun e => e.1 = name).map (·.2)

end Changes

/-- `before.toString()`: an object of booleans; the names need no escapes. -/
def journalChars (before : List (String × Bool)) : List Char :=
  ['{'] ++ (List.intercalate [','] (before.map fun e =>
    '"' :: e.1.toList ++ '"' :: ':' :: (if e.2 then "true" else "false").toList)) ++ ['}']

def journalBytes (before : List (String × Bool)) : List Byte :=
  (journalChars before).map fun c => BitVec.ofNat 8 c.toNat

/-- A file of a part is written. -/
def writePart (part : Part) (name : String) (bytes : List Byte) : Files → Files :=
  Files.onTransaction (·.write part name bytes)

/-- Whether a name exists, and its backup. -/
def backUp (rt : JavaRuntime) (name : String) : FileProgram (String × Bool) := do
  target name
  let s ← Prog.get
  match s.mods name with
  | none => pure (name, false)
  | some (.file bytes) => do
    copySynced rt (some bytes) (writePart .backup name)
    pure (name, true)
  | some .other => do
    copySynced rt none (writePart .backup name)
    pure (name, true)

/-- One name is changed; `index` counts from 1. -/
def change (rt : JavaRuntime) (c : Changes) (e : String × Nat) : FileProgram Unit := do
  (if (c.replacement e.1).isSome then replaceFrom rt .payload e.1 else deleteTarget e.1)
  Prog.failIf (rt.checkpoint e.2) "checkpoint"

/-- The body of the `try` of `apply`. -/
def install (rt : JavaRuntime) (c : Changes) : FileProgram Unit := do
  let before ← Prog.collect c.affected (backUp rt)
  Prog.forEach c.replacements fun e => copySynced rt (some e.2) (writePart .payload e.1)
  Prog.step (Files.onTransaction fun tx => { tx with journalTmp := some [] })
  Prog.step (Files.onTransaction fun tx => { tx with journalTmp := some (journalBytes before) })
  Prog.step (Files.onTransaction fun tx => { tx with journal := tx.journalTmp, journalTmp := none })
  Prog.forEach (c.affected.zipIdx 1) (change rt c)
  Prog.step fun s =>
    { s.onTransaction fun tx => { tx with committed := some [] } with marks := s.marks + 1 }
  Prog.step (Files.onTransaction fun tx => { tx with committed := some [1] })

/-- `apply`. -/
def apply (rt : JavaRuntime) (c : Changes) : FileProgram Unit := do
  recover rt
  Prog.failIf (decide (8 < c.affected.length)) "Too many files in mod transaction."
  Prog.forEach c.affected target
  Prog.step fun s => { s with transaction := some {} }
  Prog.step (Files.onTransaction (·.setFolder .backup (some [])))
  Prog.step (Files.onTransaction (·.setFolder .payload (some [])))
  Prog.tryCatch (install rt c) fun _ => do
    Prog.tryCatch (recover rt) fun _ => pure ()
    Prog.fail "Mod installation failed; recovery is required before the next game launch."
  finish

/-! ## Processes -/

/-- What a process does with the files. -/
inductive ModCall where
  | recover
  | apply (c : Changes)

/-- The program of a call. -/
def ModCall.program (rt : JavaRuntime) : ModCall → FileProgram Unit
  | .recover => Android.recover rt
  | .apply c => Android.apply rt c

/-- A process that is killed after `e.2` steps, or ends before. -/
def ModCall.killedStep (rt : JavaRuntime) (s : Files) (e : ModCall × Nat) : Files :=
  (e.1.program rt).killed e.2 s

/-- The mods directory after a change. -/
def Changes.applied (c : Changes) (mods : Mods) : Mods := fun name =>
  if name ∈ c.affected then (c.replacement name).map .file else mods name

end Dk64Port.Android
