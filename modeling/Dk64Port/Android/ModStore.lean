import Dk64Port.Android.ModTransaction
import Mathlib.Data.List.Dedup
import Mathlib.Algebra.Group.Nat.Defs
import Mathlib.Algebra.GroupWithZero.Nat

/-!
# The mod library (`ModStore.java`, `ModArchive.java`, `NativeMod.java`)

An import is scanned and unpacked into a private directory, and becomes a `Pending`. `install` compares
it with the mods that are listed and changes the mods directory in one transaction. A mod has the id of
its manifest; a texture pack without one has the stem of its file name.

* `scan`, `ModArchive.prepare`, `ModStore.prepare`: an import.
* `describe`, `list`: what is listed of the mods directory.
* `checkInstall`, `ModStore.install`: the checks, and the transaction.
-/

namespace Dk64Port.Android

open ByteLayout (Byte)
open CrashLogic

/-- A value of `org.json`. -/
inductive JsonValue where
  | string (value : String)
  | boolean (value : Bool)
  | array (values : List JsonValue)
  | object (fields : List (String × JsonValue))
  | other

/-- `JSONObject`. -/
abbrev JsonObject := List (String × JsonValue)

/-- An entry of an archive: its name, what the directory says of it, and its bytes. -/
structure ZipEntry where
  name : String
  size : Int
  crc : BitVec 32
  bytes : List Byte

/-- What the libraries and the file system decide: how an archive and a manifest are read, letters, where
a link leads, the order of a directory, `mods.json`. Of `NativeMod.validate`, the checks of the ELF header
and sections of a library, only the verdict is taken: an installation uses nothing else of it. -/
structure StoreRuntime extends JavaRuntime where
  zip : List Byte → Except String (List ZipEntry)
  crc32 : List Byte → BitVec 32
  parseObject : List Byte → Except String JsonObject
  jsonError : String → String
  lower : String → String
  upperChar : Char → Char
  lowerChar : Char → Char
  validate : List Byte → Except String Unit
  linkExists : String → Bool
  entries : Mods → List String
  config : Except String (List String × List String)

/-- A check that throws. -/
def throwIf (condition : Bool) (message : String) : Except String Unit :=
  if condition then .error message else .ok ()

/-! ## Names -/

/-- `toLowerCase(Locale.ROOT).endsWith(suffix)`, for the suffixes that are used. -/
def endsWithLower (name suffix : String) : Bool :=
  suffix.toList.isSuffixOf (name.toList.map Char.toLower)

/-- `equalsIgnoreCase`. -/
def equalsIgnoreCase (rt : StoreRuntime) (a b : String) : Bool :=
  let same (c d : Char) : Bool := c = d || rt.upperChar c = rt.upperChar d
    || rt.lowerChar (rt.upperChar c) = rt.lowerChar (rt.upperChar d)
  a.toList.length = b.toList.length && (a.toList.zip b.toList).all fun p => same p.1 p.2

/-- `length()`: the UTF-16 units. -/
def javaLength (s : String) : Nat := (s.toList.map fun c => if c.toNat < 0x10000 then 1 else 2).sum

/-- `substring(0, length() - 4)`. -/
def stem (name : String) : String := String.ofList (name.toList.take (name.toList.length - 4))

/-- `substring(length() - 4)`. -/
def extension (name : String) : List Char := name.toList.drop (name.toList.length - 4)

/-- The pattern of `checkFilename`. -/
def filenamePattern (name : String) : Bool :=
  match name.toList with
  | [] => false
  | c :: rest => (c.isAlphanum || c = '_') && rest.all nameChar

/-- `checkFilename`. -/
def checkFilename (name : String) : Except String Unit :=
  throwIf (180 < javaLength name || !filenamePattern name || endsWithLower name ".offline.nrm")
    "Unsupported filename or offline/native mod. Use a standard .nrm or .rtz package."

/-! ## Native libraries -/

/-- The value of a key. -/
def JsonObject.opt (json : JsonObject) (key : String) : Option JsonValue :=
  (json.find? fun field => field.1 = key).map (·.2)

/-- A name of letters, digits and underscores, at most `limit` of them behind the first. -/
def identifier (limit : Nat) (name : String) : Bool :=
  match name.toList with
  | [] => false
  | c :: rest => (c.isAlpha || c = '_') && decide (rest.length ≤ limit) &&
      rest.all fun c => c.isAlphanum || c = '_'

/-- The names of the exports: strings, identifiers, no two the same. -/
def validExports : List JsonValue → Bool
  | [] => true
  | .string name :: rest => identifier 127 name && validExports rest &&
      !rest.any fun value => match value with
        | .string other => name = other
        | _ => false
  | _ :: _ => false

/-- The exports of a library are checked. -/
def checkExports : JsonValue → Except String Unit
  | .array values => do
    throwIf (256 < values.length) "Too many native exports."
    throwIf (!validExports values) "Invalid or duplicate native export."
  | _ => .error "Native exports must be an array."

/-- The loop over the libraries. -/
def libraryNames : JsonObject → Except String (List String)
  | [] => .ok []
  | (stem, exports) :: rest => do
    throwIf (!identifier 95 stem) "Unsafe native library name."
    checkExports exports
    let names ← libraryNames rest
    return (stem ++ ".so") :: names

/-- `NativeMod.libraries`. -/
def nativeLibraries (rt : StoreRuntime) : Option (List Byte) → Except String (List String)
  | none => .ok []
  | some manifest => do
    let json ← rt.parseObject manifest
    match json.opt "native_libraries" with
    | none => return []
    | some (.object libraries) =>
      throwIf (1 < libraries.length) "Android bundles currently support one native bridge per mod."
      libraryNames libraries
    | some _ => throw "Invalid native_libraries manifest field."

/-! ## Archives -/

def maxExpanded : Nat := 2 * 1024 * 1024 * 1024
def maxEntries : Nat := 32768
def maxManifest : Nat := 256 * 1024
def maxLibrary : Nat := 64 * 1024 * 1024

/-- `Scan` and `Budget`, and the names that were seen. -/
structure Scan where
  manifest : Option (List Byte) := none
  textures : Bool := false
  mods : List String := []
  libraries : List String := []
  bytes : Nat := 0
  entries : Nat := 0
  seen : List String := []

/-- `name.split("/")`: empty strings at the end are dropped. -/
def pathParts (name : String) : List (List Char) :=
  ((name.toList.splitOn '/').reverse.dropWhile (·.isEmpty)).reverse

/-- A path that is refused. -/
def unsafePath (name : String) : Bool :=
  name.toList.isEmpty || 512 < javaLength name || "/".toList.isPrefixOf name.toList
    || name.toList.contains '\\' || name.toList.contains ':'
    || (name.toList.any fun c => c.toNat ≤ 0x1F || (0x7F ≤ c.toNat && c.toNat ≤ 0x9F))
    || (pathParts name).any fun part => part.isEmpty || part = ['.'] || part = ['.', '.']

/-- `isDirectory`. -/
def ZipEntry.isDirectory (e : ZipEntry) : Bool := "/".toList.isSuffixOf e.name.toList

/-- `.so` and its like. -/
def nativeName (name : String) : Bool :=
  endsWithLower name ".dll" || endsWithLower name ".dylib" || endsWithLower name ".so"
    || (name.toList.map Char.toLower).tails.any fun text => ".so.".toList.isPrefixOf text

/-- The names of the archive: the first half of a turn of the loop of `scan`. -/
def scanName (rt : StoreRuntime) (allowCompanions : Bool) (s : Scan) (e : ZipEntry) : Except String Scan := do
  throwIf (maxEntries < s.entries + 1) "Too many entries in mod package."
  throwIf (unsafePath e.name) "Unsafe path in mod package."
  throwIf (rt.lower e.name ∈ s.seen) "Duplicate path in mod package."
  throwIf (nativeName e.name && (!allowCompanions || !".so".toList.isSuffixOf e.name.toList || e.isDirectory))
    "Use an Android ZIP with the .so beside the .nrm. Embedded, desktop and versioned native libraries are unsupported."
  throwIf (nativeName e.name && (maxLibrary : Int) < e.size) "Native bridge is too large."
  return { s with
    entries := s.entries + 1
    seen := rt.lower e.name :: s.seen
    libraries := if nativeName e.name then s.libraries ++ [e.name] else s.libraries }

/-- The bytes of an entry: the second half. -/
def scanBytes (rt : StoreRuntime) (s : Scan) (e : ZipEntry) : Except String Scan := do
  throwIf (e.size < 0 || (maxExpanded : Int) - s.bytes < e.size) "Expanded mod package is too large."
  throwIf (e.name = "mod.json" && (maxManifest : Int) < e.size) "Mod manifest is too large."
  throwIf (maxExpanded < s.bytes + e.bytes.length || (e.name = "mod.json" && maxManifest < e.bytes.length))
    "Expanded mod package is too large."
  throwIf ((e.bytes.length : Int) ≠ e.size || rt.crc32 e.bytes ≠ e.crc) "Corrupt mod package entry."
  return { s with
    bytes := s.bytes + e.bytes.length
    manifest := if e.name = "mod.json" then some e.bytes else s.manifest
    textures := s.textures || e.name = "rt64.json"
    mods := if isMod e.name.toList then s.mods ++ [e.name] else s.mods }

/-- One turn of the loop of `scan`. -/
def scanEntry (rt : StoreRuntime) (allowCompanions : Bool) (s : Scan) (e : ZipEntry) : Except String Scan := do
  let s ← scanName rt allowCompanions s e
  if e.isDirectory then return s else scanBytes rt s e

/-- `scan`, with the budget of the scans before. -/
def scan (rt : StoreRuntime) (source : List Byte) (budget : Nat × Nat) (allowCompanions : Bool) :
    Except String Scan := do
  let entries ← rt.zip source
  entries.foldlM (scanEntry rt allowCompanions) { bytes := budget.1, entries := budget.2 }

/-- `Candidate`: the file, its name, the manifest and the libraries. -/
structure Candidate where
  file : List Byte
  filename : String
  manifest : Option (List Byte)
  libraries : List (String × List Byte) := []
deriving DecidableEq

/-- `candidate`. -/
def candidate (file : List Byte) (name : String) (scan : Scan) : Except String Candidate :=
  if scan.manifest.isNone && (!endsWithLower name ".rtz" || !scan.textures) then
    .error "Not a recomp mod: missing root mod.json (or rt64.json for textures)."
  else
    .ok ⟨file, String.ofList ((stem name).toList ++ (extension name).map Char.toLower), scan.manifest, []⟩

/-- `copyBounded` into a new file. -/
def copyNew (bytes : List Byte) (limit : Nat) : Except String (List Byte) :=
  if limit < bytes.length then .error "Mod file exceeds the import size limit." else .ok bytes

/-- `zip.getInputStream(zip.getEntry(name))`. -/
def openEntry (entries : List ZipEntry) (name : String) : Except String (List Byte) :=
  match entries.find? fun e => e.name = name with
  | some e => .ok e.bytes
  | none => .error "NullPointerException"

/-- The loop over the libraries that the manifest declares. -/
def copyLibraries (rt : StoreRuntime) (entries : List ZipEntry) (parent : String) :
    List String → Except String (List (String × List Byte))
  | [] => .ok []
  | library :: rest => do
    let stream ← openEntry entries (parent ++ library)
    let bytes ← copyNew stream maxLibrary
    rt.validate bytes
    let copied ← copyLibraries rt entries parent rest
    return (library, bytes) :: copied

/-- `entryName.substring(entryName.lastIndexOf('/') + 1)`. -/
def lastPart (name : String) : String :=
  String.ofList (name.toList.reverse.takeWhile (· ≠ '/')).reverse

/-- `ModArchive.prepare` of a mod. -/
def prepareMod (rt : StoreRuntime) (source : List Byte) (name : String) (scanned : Scan) :
    Except String Candidate := do
  let result ← candidate source name scanned
  let libraries ← nativeLibraries rt result.manifest
  throwIf (!libraries.isEmpty)
    "Import the Android ZIP containing this .nrm and its native .so bridge together."
  return result

/-- `ModArchive.prepare` of the one mod in a ZIP. -/
def prepareZip (rt : StoreRuntime) (source : List Byte) (scanned : Scan) (entryName : String) :
    Except String Candidate := do
  let filename := lastPart entryName
  checkFilename filename
  let entries ← rt.zip source
  let stream ← openEntry entries entryName
  let extracted ← copyNew stream maxInput
  let inner ← scan rt extracted (scanned.bytes, scanned.entries) false
  let result ← candidate extracted filename inner
  let expected ← nativeLibraries rt result.manifest
  let parent := String.ofList (entryName.toList.take (entryName.toList.length - filename.toList.length))
  throwIf (!(expected.all fun library => scanned.libraries.contains (parent ++ library))
      || !(scanned.libraries.all fun path => expected.any fun library => parent ++ library = path))
    "ZIP must contain exactly the declared Android .so bridge beside the .nrm, with no extra native libraries."
  let libraries ← copyLibraries rt entries parent expected
  return { result with libraries := libraries }

/-- `ModArchive.prepare`. -/
def prepareArchive (rt : StoreRuntime) (input : List Byte) (name : String) : Except String Candidate := do
  checkFilename name
  throwIf (!isMod name.toList && !endsWithLower name ".zip")
    "Choose a .nrm, .rtz or mod ZIP. ROMs, drivers and .apworld files are not recomp mods."
  let source ← copyNew input maxInput
  let scanned ← scan rt source (0, 0) (!isMod name.toList)
  if isMod name.toList then prepareMod rt source name scanned
  else match scanned.mods with
    | [entryName] => prepareZip rt source scanned entryName
    | _ => .error ("The ZIP must contain exactly one .nrm or .rtz. For a multi-mod bundle, import its mods "
        ++ "separately.")

/-- `readManifest`. -/
def readManifest (rt : StoreRuntime) (filename : String) (file : List Byte) :
    Except String (Option (List Byte)) := do
  let entries ← rt.zip file
  match entries.find? fun e => e.name = "mod.json" with
  | none =>
    if endsWithLower filename ".rtz" && entries.any fun e => e.name = "rt64.json" then return none
    else .error "Missing mod manifest."
  | some e => return some (← copyNew e.bytes maxManifest)

/-! ## Mods -/

/-- `Mod`; the file is a name of the mods directory. -/
structure Mod where
  file : String
  id : String
  name : String
  version : String
  defaultEnabled : Bool
  error : Option String := none
  libraries : List String := []
  enabled : Bool := false
deriving DecidableEq

/-- A field that is a string, and not empty. -/
def jsonString (rt : StoreRuntime) (json : JsonObject) (key : String) : Except String String :=
  match json.opt key with
  | none => .error (rt.jsonError key)
  | some (.string value) => if value = "" then .error ("Invalid mod field: " ++ key) else .ok value
  | some _ => .error ("Invalid mod field: " ++ key)

/-- The pattern of an id. -/
def validId (id : String) : Bool :=
  match id.toList with
  | [] => false
  | c :: rest => (c.isAlphanum || c = '_') && decide (rest.length ≤ 127) &&
      rest.all fun c => c.isAlphanum || c = '_' || c = '.' || c = '-'

/-- `[0-9]+`, and what is behind it. -/
def digits (text : List Char) : Option (List Char) :=
  match text with
  | c :: rest => if c.isDigit then some (rest.dropWhile Char.isDigit) else none
  | [] => none

/-- The character that comes next. -/
def expectChar (c : Char) : List Char → Option (List Char)
  | d :: rest => if d = c then some rest else none
  | [] => none

/-- `versionPattern`. -/
def validVersion (version : String) : Bool :=
  let rest := digits version.toList >>= expectChar '.' >>= digits >>= expectChar '.' >>= digits
  match rest with
  | none => false
  | some [] => true
  | some (c :: suffix) => (c = '-' || c = '+') && !suffix.isEmpty &&
      suffix.all fun c => c.isAlphanum || c = '.' || c = '+' || c = '-'

/-- `authors`. -/
def checkAuthors (rt : StoreRuntime) (json : JsonObject) : Except String Unit :=
  match json.opt "authors" with
  | some (.array authors) =>
    throwIf (!authors.all fun author => match author with
      | .string _ => true
      | _ => false) "Invalid mod authors."
  | _ => .error (rt.jsonError "authors")

/-- `enabled_by_default`. -/
def enabledByDefault (json : JsonObject) : Except String Bool :=
  match json.opt "enabled_by_default" with
  | none => .ok true
  | some (.boolean enabled) => .ok enabled
  | some _ => .error "Invalid enabled_by_default field."

/-- `describe` of a manifest. -/
def describeManifest (rt : StoreRuntime) (file : String) (bytes : List Byte) : Except String Mod := do
  let json ← rt.parseObject bytes
  let gameId ← jsonString rt json "game_id"
  throwIf (gameId ≠ "dk64") "This mod is for another game, not DK64."
  let id ← jsonString rt json "id"
  throwIf (!validId id) "Unsupported mod ID."
  let name ← jsonString rt json "display_name"
  let version ← jsonString rt json "version"
  let minimum ← jsonString rt json "minimum_recomp_version"
  throwIf (!validVersion version || !validVersion minimum) "Invalid version in mod manifest."
  checkAuthors rt json
  let libraries ← nativeLibraries rt (some bytes)
  let enabled ← enabledByDefault json
  return ⟨file, id, name, version, enabled, none, libraries, false⟩

/-- `describe`. -/
def describe (rt : StoreRuntime) (file : String) : Option (List Byte) → Except String Mod
  | none => .ok ⟨file, stem file, stem file, "Texture pack", true, none, [], false⟩
  | some bytes => describeManifest rt file bytes

/-- `isRegularFile`. -/
def regularFile (mods : Mods) (name : String) : Option (List Byte) :=
  match mods name with
  | some (.file bytes) => some bytes
  | _ => none

/-- What is read of a file that is listed. -/
def readMod (rt : StoreRuntime) (name : String) (bytes : List Byte) : Except String Mod := do
  let manifest ← readManifest rt name bytes
  describe rt name manifest

/-- One turn of the loop of `list`. -/
def listMod (rt : StoreRuntime) (mods : Mods) (name : String) (bytes : List Byte) : Mod :=
  match readMod rt name bytes with
  | .error message => ⟨name, "", name, "", false, some message, [], false⟩
  | .ok mod =>
    if mod.libraries.all fun library => (regularFile mods library).isSome then mod
    else { mod with error := some "Missing native bridge. Reimport the complete Android ZIP." }

/-- A mod is enabled, or it is new and enabled by default. -/
def Mod.withEnabled (mod : Mod) (enabled order : List String) : Mod :=
  { mod with
    enabled := mod.error.isNone && (enabled.contains mod.id || (!order.contains mod.id && mod.defaultEnabled)) }

/-- `list`. -/
def list (rt : StoreRuntime) (mods : Mods) : Except String (List Mod) := do
  let (enabled, order) ← rt.config
  let listed := (rt.entries mods).filterMap fun name =>
    if isMod name.toList then (regularFile mods name).map fun bytes =>
      (listMod rt mods name bytes).withEnabled enabled order
    else none
  return listed.mergeSort fun a b => decide (rt.lower a.name ≤ rt.lower b.name)

/-- `Pending`. -/
structure Pending where
  candidate : Candidate
  mod : Mod
deriving DecidableEq

/-- `prepare`. -/
def prepare (rt : StoreRuntime) (input : List Byte) (filename : String) : Except String Pending := do
  let candidate ← prepareArchive rt input filename
  let mod ← describe rt candidate.filename candidate.manifest
  return ⟨candidate, mod⟩

/-! ## An installation -/

/-- `checkLibraryOwnership`. -/
def checkLibraryOwnership (rt : StoreRuntime) (libraries : List String) (owner : Option String)
    (installed : List Mod) : Except String Unit :=
  match installed.find? fun other => some other.file ≠ owner && libraries.any fun library =>
      other.libraries.any fun occupied => equalsIgnoreCase rt library occupied with
  | some other => .error ("Native bridge filename is also used by " ++ other.name
      ++ ". Shared companion files are unsupported.")
  | none => .ok ()

/-- `Files.exists`, which follows links. -/
def existsFollowing (rt : StoreRuntime) (mods : Mods) (name : String) : Bool :=
  match mods name with
  | none => false
  | some (.file _) => true
  | some .other => rt.linkExists name

/-- The loop over the libraries of the pending mod. -/
def checkLibraries (rt : StoreRuntime) (mods : Mods) (candidate : Candidate) (old : List String) :
    List String → Except String Unit
  | [] => .ok ()
  | name :: rest => do
    rt.validate (((candidate.libraries.find? fun e => e.1 = name).map (·.2)).getD [])
    throwIf (!old.contains name && (mods name).isSome)
      ("A native library with this filename already exists. It will not be overwritten: " ++ name)
    checkLibraries rt mods candidate old rest

/-- An entry of a `LinkedHashMap` is put. -/
def putFile (map : List (String × List Byte)) (name : String) (bytes : List Byte) : List (String × List Byte) :=
  if name ∈ map.map (·.1) then map.map fun e => if e.1 = name then (name, bytes) else e
  else map ++ [(name, bytes)]

theorem putFile_nodup {map : List (String × List Byte)} (h : (map.map (·.1)).Nodup) (name : String)
    (bytes : List Byte) : ((putFile map name bytes).map (·.1)).Nodup := by
  unfold putFile
  split
  · have hnames : (map.map fun e => if e.1 = name then (name, bytes) else e).map (·.1) = map.map (·.1) := by
      rw [List.map_map]
      refine List.map_congr_left fun e _ => ?_
      simp only [Function.comp]
      split
      · rename_i heq
        exact heq.symm
      · rfl
    rwa [hnames]
  · rename_i hnew
    rw [List.map_append, List.nodup_append]
    refine ⟨h, List.nodup_singleton _, ?_⟩
    rintro a ha b hb rfl
    rw [List.map_singleton, List.mem_singleton] at hb
    rw [hb] at ha
    exact hnew ha

/-- A map with these entries. -/
def putFiles (files : List (String × List Byte)) : List (String × List Byte) :=
  files.foldl (fun map e => putFile map e.1 e.2) []

theorem putFiles_nodup (files : List (String × List Byte)) : ((putFiles files).map (·.1)).Nodup :=
  List.foldlRecOn files (fun map e => putFile map e.1 e.2) (motive := fun map => (map.map (·.1)).Nodup)
    List.nodup_nil fun _ h e _ => putFile_nodup h e.1 e.2

/-- The arguments of `transaction.apply`: the libraries and the file, and the libraries that go. -/
def changesOf (candidate : Candidate) (target : String) (old new : List String) : Changes where
  replacements := putFile (putFiles candidate.libraries) target candidate.file
  removals := (old.filter fun name => !new.contains name).dedup
  replacements_nodup := putFile_nodup (putFiles_nodup _) _ _
  removals_nodup := List.nodup_dedup _

/-- No other entry of the directory has one of the names in other letters. -/
def checkCase (rt : StoreRuntime) (mods : Mods) (newNames : List String) : Except String Unit :=
  match (rt.entries mods).findSome? fun existing => newNames.find? fun name =>
      existing ≠ name && equalsIgnoreCase rt existing name with
  | some name => .error ("Case-conflicting installed filename: " ++ name)
  | none => .ok ()

/-- The checks of `install`, and what is to be changed. -/
def checkInstall (rt : StoreRuntime) (mods : Mods) (pending : Pending) : Except String Changes := do
  let installed ← list rt mods
  let matching := installed.filter fun mod => mod.id = pending.mod.id
  let previous := matching.getLast?
  let target := (previous.map (·.file)).getD pending.candidate.filename
  throwIf (1 < matching.length) "Duplicate installed mod IDs. Remove duplicate versions first."
  throwIf (matching.length = 1 && !(extension pending.candidate.filename).isSuffixOf target.toList)
      "This update changes the mod container type. Remove the old version first."
  throwIf (existsFollowing rt mods target && matching.length = 0)
      "A different mod already uses that filename. Rename your import or remove that file first."
  let new := pending.mod.libraries
  let provided := pending.candidate.libraries.map (·.1)
  throwIf (!new.all provided.contains || !provided.all new.contains) "Incomplete native bundle."
  let old := (previous.map (·.libraries)).getD []
  checkLibraryOwnership rt (old ++ new) (previous.map (·.file)) installed
  checkLibraries rt mods pending.candidate old new
  checkCase rt mods (new ++ [target])
  return changesOf pending.candidate target old new

/-- `install`. -/
def ModStore.install (rt : StoreRuntime) (pending : Pending) : FileProgram Unit := do
  let s ← Prog.get
  match checkInstall rt s.mods pending with
  | .error message => Prog.fail message
  | .ok changes => apply rt.toJavaRuntime changes

end Dk64Port.Android
