import Dk64Port.Android.ModAtomic
import Dk64Port.Android.ModStore

/-!
# The library across installations (`ModStore.java`)

* `Consistent`: the ids of the mods that can be read differ, and so do their libraries.
* `Installed`: what an installation should leave.
* `Pending.Prepared`: what `prepare` promises of an import.
* `install_iff`: **an installation leaves that exactly unless a texture pack without a manifest takes the
  file of a mod with another stem.**
* `texture_pack_loses_id`: what happens otherwise.
-/

namespace Dk64Port.Android

open ByteLayout (Byte)
open CrashLogic

variable {rt : StoreRuntime}

/-! ## What `prepare` promises -/

/-- What is known of an import. -/
structure Pending.Prepared (rt : StoreRuntime) (p : Pending) : Prop where
  described : describe rt p.candidate.filename p.candidate.manifest = .ok p.mod
  /-- The file name has a stem and one of the two extensions. -/
  stemmed : ∃ c rest, p.candidate.filename.toList = (c :: rest) ++ extension p.candidate.filename
  typed : extension p.candidate.filename = ".nrm".toList ∨ extension p.candidate.filename = ".rtz".toList
  /-- The manifest is found again under every name with the extension. -/
  reread : ∀ name, extension name = extension p.candidate.filename →
    readManifest rt name p.candidate.file = .ok p.candidate.manifest

theorem bind_ok {α β : Type} {x : Except String α} {f : α → Except String β} {b : β}
    (h : x >>= f = .ok b) : ∃ a, x = .ok a ∧ f a = .ok b := by
  cases x with
  | error e => nomatch h
  | ok a => exact ⟨a, rfl, h⟩

theorem throwIf_ok {c : Bool} {message : String} (h : throwIf c message = .ok ()) : c = false := by
  unfold throwIf at h
  cases c with
  | true => nomatch h
  | false => rfl

/-- A check that does not throw. -/
theorem guard_ok {α : Type} {c : Bool} {message : String} {f : Unit → Except String α} {a : α}
    (h : throwIf c message >>= f = .ok a) : c = false ∧ f () = .ok a := by
  obtain ⟨_, hcheck, hnext⟩ := bind_ok h
  exact ⟨throwIf_ok hcheck, hnext⟩

/-- What a scan has found of the entries so far. -/
structure Scanned (rt : StoreRuntime) (es : List ZipEntry) (s : Scan) : Prop where
  seen : ∀ e ∈ es, rt.lower e.name ∈ s.seen
  manifest : s.manifest = (es.find? fun e => e.name = "mod.json").map (·.bytes)
  textures : s.textures = es.any fun e => e.name = "rt64.json"
  small : ∀ bytes, s.manifest = some bytes → bytes.length ≤ maxManifest
  mods : ∀ name ∈ s.mods, isMod name.toList = true

/-- One more entry, and what is known of it. -/
theorem Scanned.snoc {es : List ZipEntry} {s s' : Scan} {e : ZipEntry} (h : Scanned rt es s)
    (hnew : rt.lower e.name ∉ s.seen) (hseen : s'.seen = rt.lower e.name :: s.seen)
    (hmanifest : s'.manifest = if e.name = "mod.json" then some e.bytes else s.manifest)
    (htextures : s'.textures = (s.textures || e.name = "rt64.json"))
    (hsmall : e.name = "mod.json" → e.bytes.length ≤ maxManifest)
    (hmods : ∀ name ∈ s'.mods, isMod name.toList = true) : Scanned rt (es ++ [e]) s' where
  mods := hmods
  seen := by
    rw [hseen]
    refine fun e' he' => (List.mem_append.mp he').elim (fun hin => List.mem_cons_of_mem _ (h.seen e' hin))
      fun hin => ?_
    rw [List.mem_singleton.mp hin]
    exact List.mem_cons_self
  manifest := by
    rw [hmanifest, List.find?_append, h.manifest]
    by_cases hmod : e.name = "mod.json"
    · -- the name is new, so no manifest was there
      have hnone : (es.find? fun e => e.name = "mod.json") = none := by
        refine List.find?_eq_none.mpr fun e' he' hmod' => hnew ?_
        rw [hmod, ← of_decide_eq_true hmod']
        exact h.seen e' he'
      rw [if_pos hmod, hnone, List.find?_singleton, if_pos (decide_eq_true hmod)]
      rfl
    · rw [if_neg hmod, List.find?_singleton, if_neg (by simpa using hmod), Option.or_none]
  textures := by
    rw [htextures, List.any_append, h.textures, List.any_cons, List.any_nil, Bool.or_false]
  small := by
    intro bytes hbytes
    rw [hmanifest] at hbytes
    by_cases hmod : e.name = "mod.json"
    · rw [if_pos hmod] at hbytes
      rw [← Option.some.inj hbytes]
      exact hsmall hmod
    · rw [if_neg hmod] at hbytes
      exact h.small bytes hbytes

/-- A directory is no manifest. -/
theorem name_ne_of_isDirectory {e : ZipEntry} (h : e.isDirectory = true) :
    e.name ≠ "mod.json" ∧ e.name ≠ "rt64.json" := by
  unfold ZipEntry.isDirectory at h
  refine ⟨fun hname => ?_, fun hname => ?_⟩
  · rw [hname] at h
    exact absurd h (by decide)
  · rw [hname] at h
    exact absurd h (by decide)

/-- A turn of the loop. -/
theorem scanned_entry {es : List ZipEntry} {s s' : Scan} {allow : Bool} {e : ZipEntry} (h : Scanned rt es s)
    (hscan : scanEntry rt allow s e = .ok s') : Scanned rt (es ++ [e]) s' := by
  obtain ⟨s₁, hname, hscan⟩ := bind_ok hscan
  obtain ⟨-, hname⟩ := guard_ok hname
  obtain ⟨-, hname⟩ := guard_ok hname
  obtain ⟨hseen, hname⟩ := guard_ok hname
  obtain ⟨-, hname⟩ := guard_ok hname
  obtain ⟨-, hname⟩ := guard_ok hname
  obtain rfl := Except.ok.inj hname
  have hnew : rt.lower e.name ∉ s.seen := of_decide_eq_false hseen
  by_cases hdirectory : e.isDirectory = true
  · rw [if_pos hdirectory] at hscan
    obtain rfl := Except.ok.inj hscan
    obtain ⟨hmod, htexture⟩ := name_ne_of_isDirectory hdirectory
    refine h.snoc hnew rfl (if_neg hmod).symm ?_ (fun hmod' => absurd hmod' hmod) h.mods
    rw [decide_eq_false htexture, Bool.or_false]
  · rw [if_neg hdirectory] at hscan
    obtain ⟨-, hscan⟩ := guard_ok hscan
    obtain ⟨-, hscan⟩ := guard_ok hscan
    obtain ⟨hlarge, hscan⟩ := guard_ok hscan
    obtain ⟨-, hscan⟩ := guard_ok hscan
    obtain rfl := Except.ok.inj hscan
    refine h.snoc hnew rfl rfl rfl (fun hmod => ?_) fun name hin => ?_
    rotate_left
    · dsimp only at hin
      split at hin
      · rename_i hmod
        rcases List.mem_append.mp hin with hold | hone
        · exact h.mods name hold
        · rwa [List.mem_singleton.mp hone]
      · exact h.mods name hin
    have hsmall := (Bool.or_eq_false_iff.mp hlarge).2
    rw [decide_eq_true hmod, Bool.true_and] at hsmall
    exact Nat.le_of_not_lt (of_decide_eq_false hsmall)

/-- **A scan finds the manifest** that is read later. -/
theorem scanned_scan {source : List Byte} {budget : Nat × Nat} {allow : Bool} {s : Scan}
    (h : scan rt source budget allow = .ok s) : ∃ es, rt.zip source = .ok es ∧ Scanned rt es s := by
  obtain ⟨es, hzip, hfold⟩ := bind_ok h
  have hall : ∀ (rest pre : List ZipEntry) (s₀ : Scan), Scanned rt pre s₀ →
      rest.foldlM (scanEntry rt allow) s₀ = .ok s → Scanned rt (pre ++ rest) s := by
    intro rest
    induction rest with
    | nil =>
      intro pre s₀ h₀ hfold
      rw [List.append_nil]
      exact Except.ok.inj hfold ▸ h₀
    | cons e rest ih =>
      intro pre s₀ h₀ hfold
      rw [List.foldlM_cons] at hfold
      obtain ⟨s₁, hentry, hrest⟩ := bind_ok hfold
      have hmore := ih (pre ++ [e]) s₁ (scanned_entry h₀ hentry) hrest
      rwa [List.append_assoc] at hmore
  exact ⟨es, hzip, hall es [] _ ⟨nofun, rfl, rfl, by rintro bytes ⟨⟩, by rintro name ⟨⟩⟩ hfold⟩

/-- A suffix of four characters is the extension. -/
theorem endsWithLower_iff {name suffix : String} (hsuffix : suffix.toList.length = 4) :
    endsWithLower name suffix = true ↔ suffix.toList = (extension name).map Char.toLower := by
  unfold endsWithLower extension
  rw [List.isSuffixOf_iff_suffix, List.suffix_iff_eq_drop, List.length_map, hsuffix, List.map_drop]

theorem extension_of_isSuffixOf {a : String} {suffix : List Char} (h : suffix.isSuffixOf a.toList = true)
    (hlength : suffix.length = 4) : extension a = suffix := by
  unfold extension
  rw [List.isSuffixOf_iff_suffix, List.suffix_iff_eq_drop, hlength] at h
  exact h.symm

theorem isMod_iff (name : String) : isMod name.toList = true ↔
    (extension name).map Char.toLower = ".nrm".toList ∨ (extension name).map Char.toLower = ".rtz".toList := by
  have heither : isMod name.toList = (endsWithLower name ".nrm" || endsWithLower name ".rtz") := rfl
  rw [heither, Bool.or_eq_true, endsWithLower_iff rfl, endsWithLower_iff rfl]
  exact or_congr eq_comm eq_comm

/-- The first character of a name that is allowed is no dot. -/
theorem toLower_ne_dot {c : Char} (h : (c.isAlphanum || c = '_') = true) : c.toLower ≠ '.' := by
  intro hdot
  unfold Char.toLower at hdot
  split at hdot
  · rename_i hupper
    have hval := congrArg UInt32.toNat (congrArg Char.val hdot)
    have hlow := UInt32.le_iff_toNat_le.mp hupper.1
    have hhigh := UInt32.le_iff_toNat_le.mp hupper.2
    change 65 ≤ c.val.toNat at hlow
    change c.val.toNat ≤ 90 at hhigh
    change (c.val.toNat + 32) % 2 ^ 32 = 46 at hval
    omega
  · rw [hdot] at h
    exact absurd h (by decide)

/-- What a name is made of that `checkFilename` lets through. -/
theorem checkFilename_ok {name : String} (h : checkFilename name = .ok ()) (hmod : isMod name.toList = true) :
    ∃ c rest, name.toList = (c :: rest) ++ extension name := by
  have hpattern : filenamePattern name = true := by
    have hvalid := (Bool.or_eq_false_iff.mp (Bool.or_eq_false_iff.mp (throwIf_ok h)).1).2
    rwa [Bool.not_eq_false'] at hvalid
  unfold filenamePattern at hpattern
  have hsplit : name.toList = name.toList.take (name.toList.length - 4) ++ extension name :=
    (List.take_append_drop _ _).symm
  cases hstem : name.toList.take (name.toList.length - 4) with
  | cons c rest => exact ⟨c, rest, by rw [← hstem]; exact hsplit⟩
  | nil =>
    rw [hstem, List.nil_append] at hsplit
    have hlower := (isMod_iff name).mp hmod
    rw [← hsplit] at hlower
    cases hname : name.toList with
    | nil =>
      rw [hname] at hpattern
      nomatch hpattern
    | cons c rest =>
      rw [hname] at hpattern hlower
      have hdot : c.toLower = '.' := by
        rcases hlower with h | h
        · exact (List.cons.inj h).1
        · exact (List.cons.inj h).1
      exact absurd hdot (toLower_ne_dot (Bool.and_eq_true_iff.mp hpattern).1)

/-- What `candidate` makes of a scan. -/
theorem candidate_ok {file : List Byte} {name : String} {s : Scan} {c : Candidate}
    (h : candidate file name s = .ok c) (hmod : isMod name.toList = true)
    (hname : checkFilename name = .ok ()) {es : List ZipEntry} (hzip : rt.zip file = .ok es)
    (hscanned : Scanned rt es s) :
    c.file = file ∧ c.manifest = s.manifest ∧
      (∃ first rest, c.filename.toList = (first :: rest) ++ extension c.filename) ∧
      (extension c.filename = ".nrm".toList ∨ extension c.filename = ".rtz".toList) ∧
      ∀ other, extension other = extension c.filename → readManifest rt other file = .ok s.manifest := by
  unfold candidate at h
  split at h
  · nomatch h
  · rename_i hfound
    obtain rfl := Except.ok.inj h
    have hlower := (isMod_iff name).mp hmod
    have hfour : ((extension name).map Char.toLower).length = 4 := by
      rcases hlower with h | h
      · rw [h]
        rfl
      · rw [h]
        rfl
    have hext : extension (String.ofList ((stem name).toList ++ (extension name).map Char.toLower))
        = (extension name).map Char.toLower := by
      refine extension_of_isSuffixOf ?_ hfour
      rw [String.toList_ofList, List.isSuffixOf_iff_suffix]
      exact List.suffix_append _ _
    obtain ⟨first, rest, hsplit⟩ := checkFilename_ok hname hmod
    refine ⟨rfl, rfl, ⟨first, rest, ?_⟩, ?_, fun other hother => ?_⟩
    · have hstem : (stem name).toList = first :: rest := by
        unfold stem
        rw [String.toList_ofList]
        have hlength : name.toList.length - 4 = (first :: rest).length := by
          have hlen := congrArg List.length hsplit
          rw [List.length_append, show (extension name).length = 4 by rw [← hfour, List.length_map]] at hlen
          omega
        rw [hlength, hsplit, List.take_left]
      change (String.ofList _).toList = _
      dsimp only
      rw [hext, String.toList_ofList, hstem]
    · dsimp only
      rw [hext]
      exact hlower
    · dsimp only at hother
      rw [hext] at hother
      unfold readManifest
      rw [hzip]
      dsimp only [bind, Except.bind]
      cases hfind : es.find? fun e => e.name = "mod.json" with
      | none =>
        have hmanifest : s.manifest = none := by
          rw [hscanned.manifest, hfind]
          rfl
        rw [hmanifest] at hfound ⊢
        have hrtz : endsWithLower name ".rtz" = true ∧ s.textures = true := by
          rw [Option.isNone_none, Bool.true_and, Bool.not_eq_true, Bool.or_eq_false_iff, Bool.not_eq_false',
            Bool.not_eq_false'] at hfound
          exact hfound
        have hends : endsWithLower other ".rtz" = true := by
          rw [endsWithLower_iff rfl, hother, ← (endsWithLower_iff rfl).mp hrtz.1]
          rfl
        have hany : (es.any fun e => e.name = "rt64.json") = true := hscanned.textures.symm.trans hrtz.2
        rw [hends, hany]
        rfl
      | some e =>
        have hmanifest : s.manifest = some e.bytes := by
          rw [hscanned.manifest, hfind]
          rfl
        rw [hmanifest]
        change (copyNew e.bytes maxManifest >>= _) = _
        unfold copyNew
        rw [if_neg (Nat.not_lt.mpr (hscanned.small _ hmanifest))]
        rfl

/-- The last part of a path has the extension. -/
theorem extension_lastPart {name : String} (hmod : isMod name.toList = true) :
    extension (lastPart name) = extension name := by
  have hslash : ∀ c ∈ extension name, c ≠ '/' := by
    rintro c hc rfl
    have hin : '/' ∈ (extension name).map Char.toLower := List.mem_map.mpr ⟨'/', hc, by decide⟩
    rcases (isMod_iff name).mp hmod with h | h
    · rw [h] at hin
      exact absurd hin (by decide)
    · rw [h] at hin
      exact absurd hin (by decide)
  have hlength : (extension name).length = 4 := by
    rw [← List.length_map Char.toLower]
    rcases (isMod_iff name).mp hmod with h | h
    · rw [h]
      rfl
    · rw [h]
      rfl
  refine extension_of_isSuffixOf ?_ hlength
  rw [List.isSuffixOf_iff_suffix]
  unfold lastPart
  rw [String.toList_ofList]
  have hsplit : name.toList = name.toList.take (name.toList.length - 4) ++ extension name :=
    (List.take_append_drop _ _).symm
  rw [hsplit, List.reverse_append, List.takeWhile_append_of_pos, List.reverse_append, List.reverse_reverse]
  · exact List.suffix_append _ _
  · intro c hc
    exact decide_eq_true (hslash c (List.mem_reverse.mp hc))

theorem isMod_lastPart {name : String} (hmod : isMod name.toList = true) :
    isMod (lastPart name).toList = true := by
  rw [isMod_iff, extension_lastPart hmod]
  exact (isMod_iff name).mp hmod

/-- **An import can be read again** where it is put. -/
theorem prepared_of_prepare {input : List Byte} {filename : String} {p : Pending}
    (h : prepare rt input filename = .ok p) : p.Prepared rt := by
  obtain ⟨c, hprepare, h⟩ := bind_ok h
  obtain ⟨mod, hdescribe, h⟩ := bind_ok h
  obtain rfl := Except.ok.inj h
  obtain ⟨_, hname, hprepare⟩ := bind_ok hprepare
  obtain ⟨-, hprepare⟩ := guard_ok hprepare
  obtain ⟨source, -, hprepare⟩ := bind_ok hprepare
  obtain ⟨scanned, hscan, hprepare⟩ := bind_ok hprepare
  obtain ⟨es, hzip, hscanned⟩ := scanned_scan hscan
  by_cases hmod : isMod filename.toList = true
  · rw [if_pos hmod] at hprepare
    obtain ⟨result, hcandidate, hprepare⟩ := bind_ok hprepare
    obtain ⟨libraries, -, hprepare⟩ := bind_ok hprepare
    obtain ⟨-, hprepare⟩ := guard_ok hprepare
    obtain rfl := Except.ok.inj hprepare
    obtain ⟨hfile, hmanifest, hstem, hextension, hreread⟩ := candidate_ok hcandidate hmod hname hzip hscanned
    exact ⟨hdescribe, hstem, hextension, fun other hother => by rw [hfile, hmanifest, hreread other hother]⟩
  · rw [if_neg hmod] at hprepare
    split at hprepare
    · rename_i entryName hmods
      have hentry : isMod entryName.toList = true :=
        hscanned.mods entryName (by rw [hmods]; exact List.mem_singleton_self _)
      obtain ⟨_, hinner, hprepare⟩ := bind_ok hprepare
      obtain ⟨entries, -, hprepare⟩ := bind_ok hprepare
      obtain ⟨stream, -, hprepare⟩ := bind_ok hprepare
      obtain ⟨extracted, -, hprepare⟩ := bind_ok hprepare
      obtain ⟨inner, hscan', hprepare⟩ := bind_ok hprepare
      obtain ⟨result, hcandidate, hprepare⟩ := bind_ok hprepare
      obtain ⟨expected, -, hprepare⟩ := bind_ok hprepare
      obtain ⟨-, hprepare⟩ := guard_ok hprepare
      obtain ⟨libraries, -, hprepare⟩ := bind_ok hprepare
      obtain rfl := Except.ok.inj hprepare
      obtain ⟨es', hzip', hscanned'⟩ := scanned_scan hscan'
      obtain ⟨hfile, hmanifest, hstem, hextension, hreread⟩ :=
        candidate_ok hcandidate (isMod_lastPart hentry) hinner hzip' hscanned'
      exact ⟨hdescribe, hstem, hextension, fun other hother => by
        change readManifest rt other result.file = .ok result.manifest
        rw [hfile, hmanifest, hreread other hother]⟩
    · nomatch hprepare

/-! ## What a description says -/

/-- The names of the libraries. -/
theorem libraryNames_so {json : JsonObject} {names : List String} (h : libraryNames json = .ok names) :
    ∀ name ∈ names, ".so".toList.isSuffixOf name.toList = true := by
  induction json generalizing names with
  | nil =>
    obtain rfl := Except.ok.inj h
    nofun
  | cons field rest ih =>
    obtain ⟨-, h⟩ := guard_ok h
    obtain ⟨_, -, h⟩ := bind_ok h
    obtain ⟨others, hothers, h⟩ := bind_ok h
    obtain rfl := Except.ok.inj h
    refine List.forall_mem_cons.mpr ⟨?_, ih hothers⟩
    rw [String.toList_append, List.isSuffixOf_iff_suffix]
    exact List.suffix_append _ _

theorem nativeLibraries_so {bytes : List Byte} {names : List String}
    (h : nativeLibraries rt (some bytes) = .ok names) :
    ∀ name ∈ names, ".so".toList.isSuffixOf name.toList = true := by
  obtain ⟨json, -, h⟩ := bind_ok h
  split at h
  · obtain rfl := Except.ok.inj h
    nofun
  · obtain ⟨-, h⟩ := guard_ok h
    exact libraryNames_so h
  · nomatch h

/-- **A manifest describes a mod** under every file name. -/
theorem describeManifest_ok {file : String} {bytes : List Byte} {mod : Mod}
    (h : describeManifest rt file bytes = .ok mod) :
    mod.file = file ∧ mod.error = none ∧ mod.id ≠ "" ∧
      (∀ library ∈ mod.libraries, ".so".toList.isSuffixOf library.toList = true) ∧
      ∀ other, describeManifest rt other bytes = .ok { mod with file := other } := by
  obtain ⟨json, hjson, h⟩ := bind_ok h
  obtain ⟨gameId, hgame, h⟩ := bind_ok h
  obtain ⟨hdk, h⟩ := guard_ok h
  obtain ⟨id, hid, h⟩ := bind_ok h
  obtain ⟨hvalid, h⟩ := guard_ok h
  obtain ⟨name, hname, h⟩ := bind_ok h
  obtain ⟨version, hversion, h⟩ := bind_ok h
  obtain ⟨minimum, hminimum, h⟩ := bind_ok h
  obtain ⟨hversions, h⟩ := guard_ok h
  obtain ⟨_, hauthors, h⟩ := bind_ok h
  obtain ⟨libraries, hlibraries, h⟩ := bind_ok h
  obtain ⟨enabled, henabled, h⟩ := bind_ok h
  obtain rfl := Except.ok.inj h
  refine ⟨rfl, rfl, ?_, nativeLibraries_so hlibraries, fun other => ?_⟩
  · rintro rfl
    exact absurd hvalid (by decide)
  · unfold describeManifest throwIf
    simp only [bind, Except.bind, hjson, hgame, hdk, hid, hvalid, hname, hversion, hminimum, hversions,
      hauthors, hlibraries, henabled]
    rfl

/-! ## The listing -/

/-- A file of the directory that is listed. -/
def Listed (mods : Mods) (name : String) (bytes : List Byte) : Prop :=
  isMod name.toList = true ∧ mods name = some (.file bytes)

/-- The directory is enumerated. -/
def Enumerates (rt : StoreRuntime) (mods : Mods) : Prop := ∀ name, name ∈ rt.entries mods ↔ mods name ≠ none

variable {mods mods' : Mods} {name : String} {bytes : List Byte}

theorem regularFile_eq_some : regularFile mods name = some bytes ↔ mods name = some (.file bytes) := by
  unfold regularFile
  split
  · rename_i content hfile
    rw [hfile, Option.some.injEq, Option.some.injEq, Entry.file.injEq]
  · rename_i hother
    exact ⟨nofun, fun hfile => absurd hfile (hother bytes)⟩

/-- What the list holds. -/
theorem mem_list (henumerates : Enumerates rt mods) {installed : List Mod} (h : list rt mods = .ok installed) :
    ∃ enabled order, ∀ mod, mod ∈ installed ↔
      ∃ name bytes, Listed mods name bytes ∧ mod = (listMod rt mods name bytes).withEnabled enabled order := by
  obtain ⟨⟨enabled, order⟩, -, h⟩ := bind_ok h
  obtain rfl := Except.ok.inj h
  refine ⟨enabled, order, fun mod => ?_⟩
  rw [List.mem_mergeSort, List.mem_filterMap]
  constructor
  · rintro ⟨name, -, hname⟩
    split at hname
    · rename_i hmod
      obtain ⟨bytes, hfile, rfl⟩ := Option.map_eq_some_iff.mp hname
      exact ⟨name, bytes, ⟨hmod, regularFile_eq_some.mp hfile⟩, rfl⟩
    · nomatch hname
  · rintro ⟨name, bytes, ⟨hmod, hfile⟩, rfl⟩
    refine ⟨name, (henumerates name).mpr (by rw [hfile]; nofun), ?_⟩
    rw [if_pos hmod, regularFile_eq_some.mpr hfile]
    rfl

theorem readMod_file {mod : Mod} (h : readMod rt name bytes = .ok mod) :
    mod.file = name ∧ mod.error = none ∧
      ∀ library ∈ mod.libraries, ".so".toList.isSuffixOf library.toList = true := by
  obtain ⟨manifest, -, h⟩ := bind_ok h
  cases manifest with
  | none =>
    obtain rfl := Except.ok.inj h
    exact ⟨rfl, rfl, nofun⟩
  | some manifest =>
    obtain ⟨hfile, herror, -, hlibraries, -⟩ := describeManifest_ok h
    exact ⟨hfile, herror, hlibraries⟩

/-- What a file that is listed has of its description. -/
theorem listMod_ok (mods : Mods) {mod : Mod} (h : readMod rt name bytes = .ok mod) :
    (listMod rt mods name bytes).id = mod.id ∧ (listMod rt mods name bytes).libraries = mod.libraries ∧
      ((listMod rt mods name bytes).error = none ↔
        ∀ library ∈ mod.libraries, (regularFile mods library).isSome = true) := by
  unfold listMod
  rw [h]
  dsimp only
  by_cases hall : (mod.libraries.all fun library => (regularFile mods library).isSome) = true
  · rw [if_pos hall]
    exact ⟨rfl, rfl, iff_of_true (readMod_file h).2.1 (List.all_eq_true.mp hall)⟩
  · rw [if_neg hall]
    exact ⟨rfl, rfl, iff_of_false nofun fun hlibraries => hall (List.all_eq_true.mpr hlibraries)⟩

theorem listMod_file : (listMod rt mods name bytes).file = name := by
  cases h : readMod rt name bytes with
  | error message =>
    unfold listMod
    rw [h]
  | ok mod =>
    unfold listMod
    rw [h]
    dsimp only
    split
    · exact (readMod_file h).1
    · exact (readMod_file h).1

/-- A file that cannot be read has no id and no libraries. -/
theorem listMod_error {message : String} (h : readMod rt name bytes = .error message) :
    (listMod rt mods name bytes).id = "" ∧ (listMod rt mods name bytes).libraries = [] := by
  unfold listMod
  rw [h]
  exact ⟨rfl, rfl⟩

/-- The listing of a file depends on its libraries alone. -/
theorem listMod_congr (h : ∀ library ∈ (listMod rt mods name bytes).libraries,
    mods' library = mods library) : listMod rt mods' name bytes = listMod rt mods name bytes := by
  cases hread : readMod rt name bytes with
  | error message =>
    unfold listMod
    rw [hread]
  | ok mod =>
    rw [(listMod_ok mods hread).2.1] at h
    have hall : (mod.libraries.all fun library => (regularFile mods' library).isSome)
        = mod.libraries.all fun library => (regularFile mods library).isSome := by
      rw [Bool.eq_iff_iff, List.all_eq_true, List.all_eq_true]
      refine forall₂_congr fun library hin => ?_
      unfold regularFile
      rw [h library hin]
    unfold listMod
    rw [hread]
    dsimp only
    rw [hall]

/-! ## What an installation should leave -/

/-- The mods that can be read have different ids, and libraries of their own. -/
def Consistent (rt : StoreRuntime) (mods : Mods) : Prop :=
  ∀ a b contentA contentB modA modB, Listed mods a contentA → Listed mods b contentB → a ≠ b →
    readMod rt a contentA = .ok modA → readMod rt b contentB = .ok modB →
      modA.id ≠ modB.id ∧
        ∀ libraryA ∈ modA.libraries, ∀ libraryB ∈ modB.libraries, equalsIgnoreCase rt libraryA libraryB = false

/-- The library after an installation. -/
structure Installed (rt : StoreRuntime) (mods mods' : Mods) (p : Pending) : Prop where
  /-- One listed mod has the id, without an error. -/
  one : ∃ name bytes, Listed mods' name bytes ∧ (listMod rt mods' name bytes).id = p.mod.id ∧
    (listMod rt mods' name bytes).error = none ∧
    ∀ other content, Listed mods' other content → (listMod rt mods' other content).id = p.mod.id → other = name
  consistent : Consistent rt mods'
  /-- The other mods are listed as before. -/
  others : ∀ name bytes, Listed mods name bytes → (listMod rt mods name bytes).id ≠ p.mod.id →
    Listed mods' name bytes ∧ listMod rt mods' name bytes = listMod rt mods name bytes
  /-- What was overwritten or removed belonged to the version before. -/
  owned : ∀ name entry, mods name = some entry → mods' name ≠ some entry → ∃ previous bytes,
    Listed mods previous bytes ∧ (listMod rt mods previous bytes).id = p.mod.id ∧
      (name = previous ∨ name ∈ (listMod rt mods previous bytes).libraries)

/-- A texture pack without a manifest does not take the file of a mod with another stem. -/
def KeepsId (rt : StoreRuntime) (mods : Mods) (p : Pending) : Prop :=
  p.candidate.manifest = none → ∀ previous bytes, Listed mods previous bytes →
    (listMod rt mods previous bytes).id = p.mod.id → stem previous = p.mod.id

/-! ## What is changed -/

theorem find?_putFile {map : List (String × List Byte)} {key other : String} {content : List Byte} :
    ((putFile map key content).find? fun e => e.1 = other).map (·.2)
      = if other = key then some content else (map.find? fun e => e.1 = other).map (·.2) := by
  unfold putFile
  split
  · rename_i hin
    rw [List.find?_map]
    have hsame : (fun e : String × List Byte => decide (e.1 = other)) ∘
        (fun e => if e.1 = key then (key, content) else e) = fun e => decide (e.1 = other) := by
      funext e
      simp only [Function.comp]
      split
      · rename_i heq
        rw [heq]
      · rfl
    rw [hsame]
    by_cases ho : other = key
    · rw [if_pos ho, ho]
      cases hfind : map.find? fun e => decide (e.1 = key) with
      | none =>
        obtain ⟨e, he, hkey⟩ := List.mem_map.mp hin
        exact absurd (decide_eq_true hkey) (List.find?_eq_none.mp hfind e he)
      | some e =>
        have hfound := List.find?_some hfind
        have hkey : e.1 = key := of_decide_eq_true hfound
        rw [Option.map_some, Option.map_some, if_pos hkey]
    · rw [if_neg ho]
      cases hfind : map.find? fun e => decide (e.1 = other) with
      | none => rfl
      | some e =>
        have hfound := List.find?_some hfind
        have hother : e.1 = other := of_decide_eq_true hfound
        rw [Option.map_some, if_neg (by rw [hother]; exact ho)]
  · rename_i hnew
    rw [List.find?_append, List.find?_singleton]
    by_cases ho : other = key
    · have hnone : (map.find? fun e => decide (e.1 = other)) = none :=
        List.find?_eq_none.mpr fun e he heq =>
          hnew (List.mem_map.mpr ⟨e, he, (of_decide_eq_true heq).trans ho⟩)
      rw [hnone, if_pos ho, if_pos (decide_eq_true ho.symm)]
      rfl
    · rw [if_neg ho, if_neg (fun heq => ho (of_decide_eq_true heq).symm), Option.or_none]

theorem find?_putFiles_isSome {files : List (String × List Byte)} :
    (((putFiles files).find? fun e => e.1 = name).map (·.2)).isSome = true ↔ name ∈ files.map (·.1) := by
  have hall : ∀ (files map : List (String × List Byte)),
      (((files.foldl (fun map e => putFile map e.1 e.2) map).find? fun e => e.1 = name).map (·.2)).isSome = true
        ↔ name ∈ files.map (·.1) ∨ ((map.find? fun e => e.1 = name).map (·.2)).isSome = true := by
    intro files
    induction files with
    | nil => exact fun map => ⟨.inr, fun h => h.resolve_left nofun⟩
    | cons e files ih =>
      intro map
      rw [List.foldl_cons, ih, find?_putFile, List.map_cons, List.mem_cons]
      by_cases he : name = e.1
      · rw [if_pos he]
        exact iff_of_true (.inr rfl) (.inl (.inl he))
      · rw [if_neg he, or_iff_right he]
  exact (hall files []).trans (or_iff_left nofun)

/-- The directory after the changes of an installation. -/
theorem applied_changesOf (mods : Mods) (candidate : Candidate) (target : String) (old new : List String)
    (hprovided : ∀ library, library ∈ new ↔ library ∈ candidate.libraries.map (·.1)) :
    (changesOf candidate target old new).applied mods target = some (.file candidate.file) ∧
      (∀ name ∈ new, name ≠ target →
        ∃ bytes, (changesOf candidate target old new).applied mods name = some (.file bytes)) ∧
      ∀ name, name ≠ target → name ∉ new → name ∉ old →
        (changesOf candidate target old new).applied mods name = mods name := by
  have hreplacement : ∀ name, (changesOf candidate target old new).replacement name
      = if name = target then some candidate.file
        else ((putFiles candidate.libraries).find? fun e => e.1 = name).map (·.2) := fun _ => find?_putFile
  have haffected : ∀ name, name ∈ (changesOf candidate target old new).affected ↔
      (name ∈ old ∧ name ∉ new) ∨ ((changesOf candidate target old new).replacement name).isSome = true := by
    intro name
    have hremoved : name ∈ (changesOf candidate target old new).removals ↔ name ∈ old ∧ name ∉ new := by
      unfold changesOf
      rw [List.mem_dedup, List.mem_filter, Bool.not_eq_true', List.contains_eq_mem, decide_eq_false_iff_not]
    have hkey : ((changesOf candidate target old new).replacement name).isSome = true ↔
        name ∈ (changesOf candidate target old new).replacements.map (·.1) := by
      unfold Changes.replacement
      rw [Option.isSome_map, List.find?_isSome, List.mem_map]
      exact exists_congr fun e => and_congr_right fun _ => decide_eq_true_iff
    unfold Changes.affected
    rw [List.mem_append, hremoved, List.mem_filter, hkey]
    constructor
    · rintro (h | ⟨h, -⟩)
      · exact .inl h
      · exact .inr h
    · rintro (h | h)
      · exact .inl h
      · by_cases hr : name ∈ old ∧ name ∉ new
        · exact .inl hr
        · exact .inr ⟨h, decide_eq_true fun hin => hr (hremoved.mp hin)⟩
  unfold Changes.applied
  refine ⟨?_, fun name hnew hne => ?_, fun name hne hnew hold => ?_⟩
  · rw [if_pos ((haffected _).mpr (.inr (by rw [hreplacement, if_pos rfl]; rfl))), hreplacement, if_pos rfl]
    rfl
  · have hsome : ((changesOf candidate target old new).replacement name).isSome = true := by
      rw [hreplacement, if_neg hne]
      exact find?_putFiles_isSome.mpr ((hprovided name).mp hnew)
    obtain ⟨bytes, hbytes⟩ := Option.isSome_iff_exists.mp hsome
    refine ⟨bytes, ?_⟩
    rw [if_pos ((haffected _).mpr (.inr hsome)), hbytes]
    rfl
  · refine if_neg fun hin => ?_
    rcases (haffected name).mp hin with h | h
    · exact hold h.1
    · rw [hreplacement, if_neg hne] at h
      exact hnew ((hprovided name).mpr (find?_putFiles_isSome.mp h))

/-! ## What the checks promise -/

theorem equalsIgnoreCase_self (name : String) : equalsIgnoreCase rt name name = true := by
  unfold equalsIgnoreCase
  rw [decide_eq_true rfl, Bool.true_and, List.all_eq_true]
  rintro ⟨c, d⟩ hmem
  have hsame : c = d := by
    have hzip : ∀ l : List Char, ∀ p ∈ l.zip l, p.1 = p.2 := by
      intro l
      induction l with
      | nil => nofun
      | cons a l ih => exact List.forall_mem_cons.mpr ⟨rfl, ih⟩
    exact hzip _ _ hmem
  rw [hsame]
  simp

theorem equalsIgnoreCase_comm (a b : String) : equalsIgnoreCase rt a b = equalsIgnoreCase rt b a := by
  unfold equalsIgnoreCase
  have hlength : (decide (a.toList.length = b.toList.length)) = decide (b.toList.length = a.toList.length) :=
    decide_eq_decide.mpr eq_comm
  dsimp only
  rw [hlength]
  congr 1
  have hswap : ∀ l m : List Char, ∀ f g : Char × Char → Bool, (∀ c d, f (c, d) = g (d, c)) →
      (l.zip m).all f = (m.zip l).all g := by
    intro l
    induction l with
    | nil => exact fun m f g _ => by rw [List.zip_nil_left, List.zip_nil_right, List.all_nil, List.all_nil]
    | cons c l ih =>
      intro m f g h
      cases m with
      | nil => rfl
      | cons d m =>
        rw [List.zip_cons_cons, List.zip_cons_cons, List.all_cons, List.all_cons, h, ih m f g h]
  refine hswap _ _ _ _ fun c d => ?_
  dsimp only
  congr 1
  · congr 1
    · exact decide_eq_decide.mpr eq_comm
    · exact decide_eq_decide.mpr eq_comm
  · exact decide_eq_decide.mpr eq_comm

/-- An installation that passed its checks; `previous` is the file of the version before. -/
structure Checked (rt : StoreRuntime) (mods : Mods) (p : Pending) (previous : Option String)
    (old : List String) : Prop where
  unique : ∀ name bytes, Listed mods name bytes →
    ((listMod rt mods name bytes).id = p.mod.id ↔ previous = some name)
  replaces : ∀ name, previous = some name → extension name = extension p.candidate.filename ∧
    ∃ bytes, Listed mods name bytes ∧ old = (listMod rt mods name bytes).libraries
  adds : previous = none → old = [] ∧ existsFollowing rt mods p.candidate.filename = false
  provided : ∀ library, library ∈ p.mod.libraries ↔ library ∈ p.candidate.libraries.map (·.1)
  unshared : ∀ name bytes, Listed mods name bytes → previous ≠ some name →
    ∀ library ∈ old ++ p.mod.libraries, ∀ occupied ∈ (listMod rt mods name bytes).libraries,
      equalsIgnoreCase rt library occupied = false
  fresh : ∀ library ∈ p.mod.libraries, library ∈ old ∨ mods library = none

theorem checkLibraries_ok {candidate : Candidate} {old names : List String}
    (h : checkLibraries rt mods candidate old names = .ok ()) :
    ∀ name ∈ names, name ∈ old ∨ mods name = none := by
  induction names with
  | nil => nofun
  | cons name names ih =>
    obtain ⟨_, -, h⟩ := bind_ok h
    obtain ⟨hnew, h⟩ := guard_ok h
    refine List.forall_mem_cons.mpr ⟨?_, ih h⟩
    rw [Bool.and_eq_false_iff, Bool.not_eq_false', List.contains_iff_mem] at hnew
    exact hnew.imp_right fun hnone => Option.not_isSome_iff_eq_none.mp (by rw [hnone]; decide)

theorem checkLibraryOwnership_ok {libraries : List String} {owner : Option String} {installed : List Mod}
    (h : checkLibraryOwnership rt libraries owner installed = .ok ()) :
    ∀ other ∈ installed, some other.file ≠ owner → ∀ library ∈ libraries, ∀ occupied ∈ other.libraries,
      equalsIgnoreCase rt library occupied = false := by
  unfold checkLibraryOwnership at h
  split at h
  · nomatch h
  · rename_i hnone
    intro other hin howner library hlibrary occupied hoccupied
    rw [Bool.eq_false_iff]
    intro hequal
    refine List.find?_eq_none.mp hnone other hin ?_
    rw [Bool.and_eq_true_iff]
    exact ⟨decide_eq_true howner, List.any_eq_true.mpr ⟨library, hlibrary, List.any_eq_true.mpr
      ⟨occupied, hoccupied, hequal⟩⟩⟩

/-- **What the checks promise.** -/
theorem checkInstall_ok (henumerates : Enumerates rt mods) {p : Pending}
    (htyped : (extension p.candidate.filename).length = 4) {c : Changes}
    (h : checkInstall rt mods p = .ok c) : ∃ previous old, Checked rt mods p previous old ∧
      c = changesOf p.candidate (previous.getD p.candidate.filename) old p.mod.libraries := by
  obtain ⟨installed, hlist, h⟩ := bind_ok h
  obtain ⟨enabled, order, hmem⟩ := mem_list henumerates hlist
  obtain ⟨hfew, h⟩ := guard_ok h
  obtain ⟨htype, h⟩ := guard_ok h
  obtain ⟨hexists, h⟩ := guard_ok h
  obtain ⟨hprovided, h⟩ := guard_ok h
  obtain ⟨_, hownership, h⟩ := bind_ok h
  obtain ⟨_, hfresh, h⟩ := bind_ok h
  obtain ⟨_, -, h⟩ := bind_ok h
  obtain rfl := Except.ok.inj h
  have hin : ∀ mod, mod ∈ installed.filter (fun mod => mod.id = p.mod.id) ↔
      mod ∈ installed ∧ mod.id = p.mod.id := by
    intro mod
    rw [List.mem_filter, decide_eq_true_iff]
  generalize installed.filter (fun mod => mod.id = p.mod.id) = matching at *
  have hlisted : ∀ name bytes, Listed mods name bytes →
      (listMod rt mods name bytes).withEnabled enabled order ∈ installed :=
    fun name bytes hlisted => (hmem _).mpr ⟨name, bytes, hlisted, rfl⟩
  have hshare := checkLibraryOwnership_ok hownership
  have hsets : ∀ library, library ∈ p.mod.libraries ↔ library ∈ p.candidate.libraries.map (·.1) := by
    rw [Bool.or_eq_false_iff, Bool.not_eq_false', Bool.not_eq_false', List.all_eq_true, List.all_eq_true]
      at hprovided
    exact fun library => ⟨fun h => List.contains_iff_mem.mp (hprovided.1 library h),
      fun h => List.contains_iff_mem.mp (hprovided.2 library h)⟩
  cases matching with
  | nil =>
    refine ⟨none, [], ⟨fun name bytes hfile => iff_of_false (fun hid => ?_) nofun, nofun, fun _ => ⟨rfl, ?_⟩,
      hsets, fun name bytes hfile _ library hlibrary => ?_, checkLibraries_ok hfresh⟩, rfl⟩
    · nomatch (hin _).mpr ⟨hlisted name bytes hfile, hid⟩
    · rw [List.length_nil, decide_eq_true rfl, Bool.and_true] at hexists
      exact hexists
    · exact hshare _ (hlisted name bytes hfile) nofun library hlibrary
  | cons mod rest =>
    cases rest with
    | cons mod' rest => exact absurd (of_decide_eq_false hfew) (by rw [List.length_cons, List.length_cons]; omega)
    | nil =>
      obtain ⟨hmod, hid⟩ := (hin mod).mp (List.mem_singleton_self mod)
      obtain ⟨name₀, bytes₀, hfile₀, rfl⟩ := (hmem mod).mp hmod
      have hsame : ∀ name bytes, Listed mods name bytes → (listMod rt mods name bytes).id = p.mod.id →
          name₀ = name := by
        intro name bytes hfile hid'
        have hone := List.mem_singleton.mp ((hin _).mpr ⟨hlisted name bytes hfile, hid'⟩)
        have hfiles := congrArg Mod.file hone
        exact (listMod_file.symm.trans (hfiles.symm.trans listMod_file))
      have hfile : (listMod rt mods name₀ bytes₀).file = name₀ := listMod_file
      change (decide (1 = 1) && !(extension p.candidate.filename).isSuffixOf
        (listMod rt mods name₀ bytes₀).file.toList) = false at htype
      rw [hfile, decide_eq_true rfl, Bool.true_and, Bool.not_eq_false'] at htype
      refine ⟨some name₀, (listMod rt mods name₀ bytes₀).libraries,
        ⟨fun name bytes hlisted' => ⟨fun hid' => congrArg some (hsame name bytes hlisted' hid'), ?_⟩,
          ?_, nofun, hsets, fun name bytes hlisted' hne library hlibrary => ?_, checkLibraries_ok hfresh⟩, ?_⟩
      · intro hname
        obtain rfl := Option.some.inj hname
        obtain rfl : bytes = bytes₀ :=
          Entry.file.inj (Option.some.inj (hlisted'.2.symm.trans hfile₀.2))
        exact hid
      · intro name hname
        obtain rfl := Option.some.inj hname
        exact ⟨extension_of_isSuffixOf htype htyped, bytes₀, hfile₀, rfl⟩
      · refine hshare _ (hlisted name bytes hlisted') (fun hfile' => hne ?_) library hlibrary
        have hnames := Option.some.inj hfile'
        change (listMod rt mods name bytes).file = (listMod rt mods name₀ bytes₀).file at hnames
        rw [listMod_file, listMod_file] at hnames
        rw [hnames]
      · change changesOf p.candidate (listMod rt mods name₀ bytes₀).file _ _ = _
        rw [hfile]
        rfl

/-! ## The library after an installation -/

/-- A mod is not a library. -/
theorem isMod_of_so {name : String} (h : ".so".toList.isSuffixOf name.toList = true) :
    isMod name.toList = false := by
  rw [Bool.eq_false_iff]
  intro hmod
  have hlower := (isMod_iff name).mp hmod
  have hlast : ∀ l : List Char, (∃ c, l = c :: ".so".toList) → l.map Char.toLower ≠ ".nrm".toList ∧
      l.map Char.toLower ≠ ".rtz".toList := by
    rintro l ⟨c, rfl⟩
    exact ⟨fun h => absurd (List.cons.inj h).2 (by decide), fun h => absurd (List.cons.inj h).2 (by decide)⟩
  have hlength : (extension name).length = 4 := by
    rw [← List.length_map Char.toLower]
    rcases hlower with h | h
    · rw [h]
      rfl
    · rw [h]
      rfl
  have hsuffix : ".so".toList <:+ extension name :=
    List.suffix_of_suffix_length_le (List.isSuffixOf_iff_suffix.mp h) (List.drop_suffix _ _)
      (by rw [hlength]; decide)
  obtain ⟨pre, hpre⟩ := hsuffix
  have hone : pre.length = 1 := by
    have hlen := congrArg List.length hpre
    rw [List.length_append, hlength] at hlen
    change pre.length + 3 = 4 at hlen
    omega
  obtain ⟨c, rfl⟩ := List.length_eq_one_iff.mp hone
  obtain ⟨hnrm, hrtz⟩ := hlast _ ⟨c, hpre.symm⟩
  exact hlower.elim hnrm hrtz

theorem listMod_so {library : String} (h : library ∈ (listMod rt mods name bytes).libraries) :
    ".so".toList.isSuffixOf library.toList = true := by
  cases hread : readMod rt name bytes with
  | error message =>
    rw [(listMod_error hread).2] at h
    nomatch h
  | ok mod =>
    rw [(listMod_ok mods hread).2.1] at h
    exact (readMod_file hread).2.2 library h

variable {p : Pending}

/-- The id and the libraries of an import. -/
theorem prepared_mod (h : p.Prepared rt) : p.mod.id ≠ "" ∧
    (∀ library ∈ p.mod.libraries, ".so".toList.isSuffixOf library.toList = true) ∧
    (p.candidate.manifest = none → p.mod.id = stem p.candidate.filename) ∧
    ∀ target, extension target = extension p.candidate.filename →
      ∃ mod, readMod rt target p.candidate.file = .ok mod ∧ mod.libraries = p.mod.libraries ∧
        (mod.id = p.mod.id ↔ (p.candidate.manifest = none → stem target = p.mod.id)) := by
  have hdescribed := h.described
  cases hmanifest : p.candidate.manifest with
  | none =>
    rw [hmanifest] at hdescribed
    have hmod := Except.ok.inj hdescribed
    obtain ⟨c, rest, hstem⟩ := h.stemmed
    have hid : p.mod.id = stem p.candidate.filename := by rw [← hmod]
    have hlibraries : p.mod.libraries = [] := by rw [← hmod]
    refine ⟨?_, by rw [hlibraries]; nofun, fun _ => hid, fun target htarget => ?_⟩
    · rw [hid]
      intro hempty
      have hchars := congrArg String.toList hempty
      unfold stem at hchars
      rw [String.toList_ofList] at hchars
      have hlength := congrArg List.length hchars
      have hall := congrArg List.length hstem
      rw [List.length_take] at hlength
      rw [List.length_append, List.length_cons] at hall
      change min _ _ = 0 at hlength
      have hfour : (extension p.candidate.filename).length = 4 := by
        rcases h.typed with h | h
        · rw [h]
          rfl
        · rw [h]
          rfl
      omega
    · refine ⟨⟨target, stem target, stem target, "Texture pack", true, none, [], false⟩, ?_, hlibraries.symm, ?_⟩
      · have hread := h.reread target htarget
        rw [hmanifest] at hread
        change (readManifest rt target p.candidate.file >>= _) = _
        rw [hread]
        rfl
      · exact ⟨fun hsame _ => hsame, fun hsame => hsame rfl⟩
  | some bytes =>
    rw [hmanifest] at hdescribed
    obtain ⟨-, -, hid, hlibraries, hother⟩ := describeManifest_ok hdescribed
    refine ⟨hid, hlibraries, nofun, fun target htarget => ⟨{ p.mod with file := target }, ?_, rfl, ?_⟩⟩
    · have hread := h.reread target htarget
      rw [hmanifest] at hread
      change (readManifest rt target p.candidate.file >>= _) = _
      rw [hread]
      exact hother target
    · exact iff_of_true rfl nofun

/-- The directory with the import in it, as the file `target`. -/
structure Replaced (rt : StoreRuntime) (mods mods' : Mods) (p : Pending) (previous : Option String)
    (old : List String) (target : String) : Prop where
  checked : Checked rt mods p previous old
  typed : isMod target.toList = true
  version : ∀ name, previous = some name → name = target
  before : ∀ bytes, Listed mods target bytes → previous = some target
  free : previous = none → mods target = none
  /-- No library has the name of a mod. -/
  apart : ∀ name, isMod name.toList = true → name ∉ p.mod.libraries ∧ name ∉ old
  file : mods' target = some (.file p.candidate.file)
  added : ∀ name ∈ p.mod.libraries, name ≠ target → ∃ bytes, mods' name = some (.file bytes)
  kept : ∀ name, name ≠ target → name ∉ p.mod.libraries → name ∉ old → mods' name = mods name

theorem target_extension {previous : Option String} {old : List String}
    (h : Checked rt mods p previous old) :
    extension (previous.getD p.candidate.filename) = extension p.candidate.filename := by
  cases previous with
  | none => rfl
  | some name => exact (h.replaces name rfl).1

theorem old_so {previous : Option String} {old : List String} (h : Checked rt mods p previous old)
    {library : String} (hin : library ∈ old) : ".so".toList.isSuffixOf library.toList = true := by
  cases previous with
  | none =>
    rw [(h.adds rfl).1] at hin
    nomatch hin
  | some name =>
    obtain ⟨-, bytes, -, holdLibraries⟩ := h.replaces name rfl
    rw [holdLibraries] at hin
    exact listMod_so hin

/-- The changes put the import in its place. -/
theorem replaced_changesOf {previous : Option String} {old : List String} (h : Checked rt mods p previous old)
    (hprepared : p.Prepared rt) (hplain : mods (previous.getD p.candidate.filename) ≠ some .other) :
    Replaced rt mods ((changesOf p.candidate (previous.getD p.candidate.filename) old p.mod.libraries).applied
      mods) p previous old (previous.getD p.candidate.filename) := by
  obtain ⟨-, hlibraries, -, -⟩ := prepared_mod hprepared
  obtain ⟨hfile, hadded, hkept⟩ := applied_changesOf mods p.candidate (previous.getD p.candidate.filename) old
    p.mod.libraries h.provided
  have hisMod : isMod (previous.getD p.candidate.filename).toList = true := by
    rw [isMod_iff, target_extension h]
    rcases hprepared.typed with h | h
    · rw [h]
      exact .inl (by decide)
    · rw [h]
      exact .inr (by decide)
  -- the file of the version before, or a name that was free
  have hbefore : ∀ bytes, Listed mods (previous.getD p.candidate.filename) bytes →
      previous = some (previous.getD p.candidate.filename) := by
    intro bytes hlisted
    cases previous with
    | none =>
      have hexists := (h.adds rfl).2
      unfold existsFollowing at hexists
      rw [show mods p.candidate.filename = some (.file bytes) from hlisted.2] at hexists
      nomatch hexists
    | some name => rfl
  refine ⟨h, hisMod, fun name hname => by rw [hname]; rfl, hbefore, fun hnone => ?_, fun name hmod => ⟨?_, ?_⟩,
    hfile, hadded, hkept⟩
  · cases hentry : mods (previous.getD p.candidate.filename) with
    | none => rfl
    | some entry =>
      cases entry with
      | other => exact absurd hentry hplain
      | file bytes => nomatch hnone.symm.trans (hbefore bytes ⟨hisMod, hentry⟩)
  · intro hin
    rw [isMod_of_so (hlibraries name hin)] at hmod
    nomatch hmod
  · intro hin
    rw [isMod_of_so (old_so h hin)] at hmod
    nomatch hmod

section Replaced

variable {previous : Option String} {old : List String} {target : String} {mod other : Mod}

/-- The others are listed as before. -/
theorem Replaced.listed_iff (h : Replaced rt mods mods' p previous old target) (hne : name ≠ target) :
    Listed mods' name bytes ↔ Listed mods name bytes := by
  refine and_congr_right fun hmod => ?_
  obtain ⟨hnew, hold⟩ := h.apart name hmod
  rw [h.kept name hne hnew hold]

theorem Replaced.ne_previous (h : Replaced rt mods mods' p previous old target) (hne : name ≠ target) :
    previous ≠ some name :=
  fun hsome => hne (h.version name hsome)

theorem Replaced.listMod_eq (h : Replaced rt mods mods' p previous old target) (hne : name ≠ target)
    (hfile : Listed mods name bytes) : listMod rt mods' name bytes = listMod rt mods name bytes := by
  refine listMod_congr fun library hin => ?_
  have hunshared : library ∉ old ++ p.mod.libraries := by
    intro hshared
    have hdiffer := h.checked.unshared name bytes hfile (h.ne_previous hne) library hshared library hin
    rw [equalsIgnoreCase_self] at hdiffer
    nomatch hdiffer
  rw [List.mem_append, not_or] at hunshared
  refine h.kept library ?_ hunshared.2 hunshared.1
  rintro rfl
  have hmod := h.typed
  rw [isMod_of_so (listMod_so hin)] at hmod
  nomatch hmod

theorem Replaced.id_ne (h : Replaced rt mods mods' p previous old target) (hne : name ≠ target)
    (hfile : Listed mods name bytes) : (listMod rt mods name bytes).id ≠ p.mod.id :=
  fun hsame => h.ne_previous hne ((h.checked.unique name bytes hfile).mp hsame)

theorem Replaced.content_eq (h : Replaced rt mods mods' p previous old target)
    (hlisted : Listed mods' target bytes) : bytes = p.candidate.file :=
  Entry.file.inj (Option.some.inj (hlisted.2.symm.trans h.file))

/-- The new mod against another one. -/
theorem Replaced.apart_other (h : Replaced rt mods mods' p previous old target) (hid : mod.id = p.mod.id)
    (hlibraries : mod.libraries = p.mod.libraries) (hne : name ≠ target) (hfile : Listed mods name bytes)
    (hread : readMod rt name bytes = .ok other) :
    mod.id ≠ other.id ∧ ∀ library ∈ mod.libraries, ∀ occupied ∈ other.libraries,
      equalsIgnoreCase rt library occupied = false := by
  obtain ⟨hotherId, hotherLibraries, -⟩ := listMod_ok mods hread
  refine ⟨fun hsame => h.id_ne hne hfile (hotherId.trans (hsame.symm.trans hid)), ?_⟩
  intro library hin occupied hoccupied
  refine h.checked.unshared name bytes hfile (h.ne_previous hne) library ?_ occupied ?_
  · exact List.mem_append_right _ (hlibraries ▸ hin)
  · rw [hotherLibraries]
    exact hoccupied

theorem Replaced.consistent (h : Replaced rt mods mods' p previous old target)
    (hconsistent : Consistent rt mods)
    (hmod : readMod rt target p.candidate.file = .ok mod) (hid : mod.id = p.mod.id)
    (hlibraries : mod.libraries = p.mod.libraries) : Consistent rt mods' := by
  intro a b contentA contentB modA modB ha hb hne hreadA hreadB
  by_cases hat : a = target
  · have hbt : b ≠ target := fun hbt => hne (hat.trans hbt.symm)
    subst hat
    obtain rfl := h.content_eq ha
    obtain rfl := Except.ok.inj (hmod.symm.trans hreadA)
    exact h.apart_other hid hlibraries hbt ((h.listed_iff hbt).mp hb) hreadB
  · have hlistedA := (h.listed_iff hat).mp ha
    by_cases hbt : b = target
    · subst hbt
      obtain rfl := h.content_eq hb
      obtain rfl := Except.ok.inj (hmod.symm.trans hreadB)
      obtain ⟨hids, hunshared⟩ := h.apart_other hid hlibraries hat hlistedA hreadA
      refine ⟨hids.symm, fun libraryA hA libraryB hB => ?_⟩
      rw [equalsIgnoreCase_comm]
      exact hunshared libraryB hB libraryA hA
    · exact hconsistent a b contentA contentB modA modB hlistedA ((h.listed_iff hbt).mp hb) hne hreadA hreadB

/-- What is changed was the file of the version before, or one of its libraries. -/
theorem Replaced.changed (h : Replaced rt mods mods' p previous old target) {entry : Entry}
    (hentry : mods name = some entry) (hchanged : mods' name ≠ some entry) :
    ∃ version, previous = some version ∧ (name = version ∨ name ∈ old) := by
  have hnew : name ∈ p.mod.libraries → name ∈ old := by
    intro hin
    rcases h.checked.fresh name hin with hold | hnone
    · exact hold
    · nomatch hnone.symm.trans hentry
  have htouched : name = target ∨ name ∈ old := by
    by_contra hno
    rw [not_or] at hno
    exact hchanged ((h.kept name hno.1 (fun hin => hno.2 (hnew hin)) hno.2).trans hentry)
  cases hversion : previous with
  | none =>
    rcases htouched with rfl | hold
    · nomatch (h.free hversion).symm.trans hentry
    · rw [(h.checked.adds hversion).1] at hold
      nomatch hold
  | some version =>
    refine ⟨version, rfl, htouched.imp_left fun heq => ?_⟩
    rw [heq, h.version version hversion]

theorem Replaced.keepsId_iff (h : Replaced rt mods mods' p previous old target)
    (hadds : previous = none → target = p.candidate.filename)
    (hstem : p.candidate.manifest = none → p.mod.id = stem p.candidate.filename) :
    KeepsId rt mods p ↔ (p.candidate.manifest = none → stem target = p.mod.id) := by
  refine ⟨fun hkeeps hnone => ?_, fun hkeeps hnone name bytes hlisted hsame => ?_⟩
  · cases hversion : previous with
    | none => rw [hadds hversion, hstem hnone]
    | some name =>
      obtain ⟨-, bytes, hlisted, -⟩ := h.checked.replaces name hversion
      rw [← h.version name hversion]
      exact hkeeps hnone name bytes hlisted ((h.checked.unique name bytes hlisted).mpr hversion)
  · rw [h.version name ((h.checked.unique name bytes hlisted).mp hsame)]
    exact hkeeps hnone

/-- The library is well installed where the mod keeps the id. -/
theorem Replaced.installed (h : Replaced rt mods mods' p previous old target)
    (hconsistent : Consistent rt mods)
    (hmod : readMod rt target p.candidate.file = .ok mod) (hid : mod.id = p.mod.id)
    (hlibraries : mod.libraries = p.mod.libraries) : Installed rt mods mods' p := by
  have hself := listMod_ok mods' hmod
  refine ⟨⟨target, p.candidate.file, ⟨h.typed, h.file⟩, hself.1.trans hid, ?_, ?_⟩,
    h.consistent hconsistent hmod hid hlibraries, ?_, ?_⟩
  · refine hself.2.2.mpr fun library hin => ?_
    rw [hlibraries] at hin
    have hne : library ≠ target := by
      rintro rfl
      exact (h.apart library h.typed).1 hin
    obtain ⟨bytes, hbytes⟩ := h.added library hin hne
    rw [regularFile_eq_some.mpr hbytes]
    rfl
  · intro other content hfile' hsame
    by_contra hne
    have hfile := (h.listed_iff hne).mp hfile'
    rw [h.listMod_eq hne hfile] at hsame
    exact h.id_ne hne hfile hsame
  · intro name bytes hname hdiffer
    have hne : name ≠ target := by
      rintro rfl
      exact hdiffer ((h.checked.unique name bytes hname).mpr (h.before bytes hname))
    exact ⟨(h.listed_iff hne).mpr hname, h.listMod_eq hne hname⟩
  · intro name entry hentry hchanged
    obtain ⟨version, hversion, hwhich⟩ := h.changed hentry hchanged
    obtain ⟨-, bytes, hfile, holdLibraries⟩ := h.checked.replaces version hversion
    exact ⟨version, bytes, hfile, (h.checked.unique version bytes hfile).mpr hversion, holdLibraries ▸ hwhich⟩

/-- And only there. -/
theorem Replaced.id_of_installed (h : Replaced rt mods mods' p previous old target)
    (hmod : readMod rt target p.candidate.file = .ok mod) (hinstalled : Installed rt mods mods' p) :
    mod.id = p.mod.id := by
  obtain ⟨name, bytes, hname, hsame, -, -⟩ := hinstalled.one
  by_cases hne : name = target
  · subst hne
    obtain rfl := h.content_eq hname
    rwa [(listMod_ok mods' hmod).1] at hsame
  · have hname' := (h.listed_iff hne).mp hname
    rw [h.listMod_eq hne hname'] at hsame
    exact absurd hsame (h.id_ne hne hname')

end Replaced

/-- **The library after the changes**, exactly where the id stays. -/
theorem installed_iff {previous : Option String} {old : List String} (h : Checked rt mods p previous old)
    (hprepared : p.Prepared rt) (hconsistent : Consistent rt mods)
    (hplain : mods (previous.getD p.candidate.filename) ≠ some .other) :
    Installed rt mods ((changesOf p.candidate (previous.getD p.candidate.filename) old p.mod.libraries).applied
      mods) p ↔ KeepsId rt mods p := by
  obtain ⟨-, -, hstem, hread⟩ := prepared_mod hprepared
  obtain ⟨mod, hmod, hlibraries, hid⟩ := hread _ (target_extension h)
  have hreplaced := replaced_changesOf h hprepared hplain
  rw [hreplaced.keepsId_iff (fun hnone => by rw [hnone]; rfl) hstem, ← hid]
  exact ⟨hreplaced.id_of_installed hmod, fun hsame => hreplaced.installed hconsistent hmod hsame hlibraries⟩

/-! ## The transaction -/

/-- A transaction that ends well replaced no directory and no link. -/
theorem apply_targets (java : JavaRuntime) (c : Changes) (mods : Mods) (k : Nat) :
    Spec (Clean mods k) (fun _ => True) (apply java c)
      (fun _ _ => ∀ name ∈ c.affected, mods name ≠ some .other) (fun _ _ => True) := by
  refine ((recover_spec java mods k).weaken (fun _ h => .inl h) (fun _ _ => trivial) (fun _ _ h => h)
    fun _ _ _ => trivial).bind fun _ => ?_
  refine ((Spec.failIf (P := Clean mods k) (E := fun _ _ => True) fun _ _ _ => trivial).weaken
    (fun _ h => h) (fun _ h => h) (fun _ _ h => h.1) fun _ _ h => h).bind fun _ => ?_
  refine (targets_spec.weaken (fun _ h => h) (fun _ h => h) (fun _ _ h => h) fun _ _ _ => trivial).bind
    fun _ => Spec.fact fun hchecked s _ => ⟨fun _ _ => trivial, ?_⟩
  split
  · exact fun name hname => (hchecked name hname).2
  · trivial

/-- The target is among what is changed. -/
theorem target_mem_affected (candidate : Candidate) (target : String) (old new : List String) :
    target ∈ (changesOf candidate target old new).affected := by
  have hfind : (changesOf candidate target old new).replacement target = some candidate.file :=
    find?_putFile.trans (if_pos rfl)
  exact Changes.mem_affected (Changes.replacement_mem hfind)

section Install

variable {input : List Byte} {filename : String} {k : Nat}

/-- What `install` runs. -/
theorem install_eq : ModStore.install rt p { mods := mods, marks := k } =
    (match checkInstall rt mods p with
      | .error message => (Prog.fail message : FileProgram Unit)
      | .ok changes => apply rt.toJavaRuntime changes) { mods := mods, marks := k } := rfl

/-- **An installation that throws** changes nothing. -/
theorem install_fails (hreads : ∀ c, checkInstall rt mods p = .ok c → ReadsJournals rt.toJavaRuntime c)
    {message : String} (h : (ModStore.install rt p { mods := mods, marks := k }).result = .error message) :
    (ModStore.install rt p { mods := mods, marks := k }).final.mods = mods := by
  rw [install_eq] at h ⊢
  cases hcheck : checkInstall rt mods p with
  | error message => rfl
  | ok c =>
    have hspec : Spec (Rests rt.toJavaRuntime mods k) _ (apply rt.toJavaRuntime c) _ _ :=
      apply_spec (hreads c hcheck)
    obtain ⟨-, hend⟩ := hspec { mods := mods, marks := k } (.inl rfl)
    rw [hcheck] at h
    rw [h] at hend
    dsimp only at hend ⊢
    rw [hend]

/-- **An installation that succeeds** leaves the library as it should, or loses the id. -/
theorem install_succeeds (henumerates : Enumerates rt mods) (hconsistent : Consistent rt mods)
    (hprepare : prepare rt input filename = .ok p)
    (hreads : ∀ c, checkInstall rt mods p = .ok c → ReadsJournals rt.toJavaRuntime c)
    (h : (ModStore.install rt p { mods := mods, marks := k }).result = .ok ()) :
    Installed rt mods (ModStore.install rt p { mods := mods, marks := k }).final.mods p
      ↔ KeepsId rt mods p := by
  rw [install_eq] at h ⊢
  cases hcheck : checkInstall rt mods p with
  | error message =>
    rw [hcheck] at h
    nomatch h
  | ok c =>
    have hspec : Spec (Rests rt.toJavaRuntime mods k) _ (apply rt.toJavaRuntime c) _ _ :=
      apply_spec (hreads c hcheck)
    obtain ⟨-, hend⟩ := hspec { mods := mods, marks := k } (.inl rfl)
    obtain ⟨-, htargets⟩ := apply_targets rt.toJavaRuntime c mods k { mods := mods, marks := k } rfl
    rw [hcheck] at h
    rw [h] at hend htargets
    dsimp only at hend htargets ⊢
    rw [hend]
    have hprepared := prepared_of_prepare hprepare
    have hfour : (extension p.candidate.filename).length = 4 := by
      rcases hprepared.typed with h | h
      · rw [h]
        rfl
      · rw [h]
        rfl
    obtain ⟨previous, old, hchecked, rfl⟩ := checkInstall_ok henumerates hfour hcheck
    exact installed_iff hchecked hprepared hconsistent (htargets _ (target_mem_affected _ _ _ _))

end Install

/-- **The mod library across an installation.** An installation that throws leaves the directory as it
was. One that succeeds leaves the library as it should, exactly where no texture pack without a manifest
takes the file of a mod with another stem. -/
theorem install_iff (rt : StoreRuntime) (mods : Mods) (k : Nat) (input : List Byte) (filename : String)
    (p : Pending) (henumerates : Enumerates rt mods) (hconsistent : Consistent rt mods)
    (hprepare : prepare rt input filename = .ok p)
    (hreads : ∀ c, checkInstall rt mods p = .ok c → ReadsJournals rt.toJavaRuntime c) :
    (∀ message, (ModStore.install rt p { mods := mods, marks := k }).result = .error message →
        (ModStore.install rt p { mods := mods, marks := k }).final.mods = mods) ∧
      ((ModStore.install rt p { mods := mods, marks := k }).result = .ok () →
        (Installed rt mods (ModStore.install rt p { mods := mods, marks := k }).final.mods p
          ↔ KeepsId rt mods p)) :=
  ⟨fun _ => install_fails hreads, install_succeeds henumerates hconsistent hprepare hreads⟩

/-! ## A texture pack -/

/-- A runtime that reads a file at once, and the journals of one name. -/
def oneNameRuntime (name : String) : JavaRuntime where
  chunks bytes := [bytes]
  flatten_chunks bytes := List.append_nil bytes
  parse bytes :=
    if bytes = journalBytes [(name, false)] then some [(name, some false)]
    else if bytes = journalBytes [(name, true)] then some [(name, some true)]
    else none

/-- Archive `[1]` has a manifest, archive `[2]` is a texture pack; the directory has one name at most. -/
def oneModRuntime (name : String) : StoreRuntime where
  toJavaRuntime := oneNameRuntime name
  zip := fun bytes =>
    if bytes = [1] then .ok [⟨"mod.json", 1, 0, [10]⟩]
    else if bytes = [2] then .ok [⟨"rt64.json", 0, 0, []⟩]
    else .error "not an archive"
  crc32 := fun _ => 0
  parseObject := fun _ => .ok [("game_id", .string "dk64"), ("id", .string "Foo"),
    ("display_name", .string "Foo"), ("version", .string "1.0.0"),
    ("minimum_recomp_version", .string "1.0.0"), ("authors", .array [])]
  jsonError := fun key => key
  lower := id
  upperChar := Char.toUpper
  lowerChar := Char.toLower
  validate := fun _ => .ok ()
  linkExists := fun _ => false
  entries := fun mods => if (mods name).isSome then [name] else []
  config := .ok ([], [])

/-- The texture pack `Foo.rtz`. -/
def texturePack : Pending :=
  ⟨⟨[2], "Foo.rtz", none, []⟩, ⟨"Foo.rtz", "Foo", "Foo", "Texture pack", true, none, [], false⟩⟩

theorem ok_of_toOption {α : Type} {x : Except String α} {a : α} (h : x.toOption = some a) : x = .ok a := by
  cases x with
  | error e => nomatch h
  | ok b => exact congrArg Except.ok (Option.some.inj h)

theorem ok_of_toBool {x : Except String Unit} (h : x.toBool = true) : x = .ok () := by
  cases x with
  | error e => nomatch h
  | ok _ => rfl

/-- The directory with `Bar.rtz`, a mod with the id `Foo`. -/
def barMods : Mods := Function.update (fun _ => none) "Bar.rtz" (some (.file [1]))

theorem listed_barMods {name : String} {bytes : List Byte} (h : Listed barMods name bytes) :
    name = "Bar.rtz" ∧ bytes = [1] := by
  have hfile := h.2
  unfold barMods at hfile
  by_cases hname : name = "Bar.rtz"
  · rw [hname, Function.update_self] at hfile
    exact ⟨hname, (Entry.file.inj (Option.some.inj hfile)).symm⟩
  · rw [Function.update_of_ne hname] at hfile
    nomatch hfile

theorem oneNameRuntime_reads {name : String} {c : Changes} (h : c.affected = [name]) :
    ReadsJournals (oneNameRuntime name) c := by
  intro _ _ existed
  rw [h]
  change ∃ before, (oneNameRuntime name).parse (journalBytes [(name, existed name)]) = some before
    ∧ before.Perm [(name, some (existed name))]
  have hlength : ∀ b : Bool, (journalBytes [(name, b)]).length = name.toList.length + if b then 9 else 10 := by
    intro b
    unfold journalBytes journalChars
    cases b <;> simp
  unfold oneNameRuntime
  dsimp only
  cases existed name with
  | false => exact ⟨[(name, some false)], if_pos rfl, .refl _⟩
  | true =>
    refine ⟨[(name, some true)], ?_, .refl _⟩
    rw [if_neg fun heq => ?_, if_pos rfl]
    have hlengths := congrArg List.length heq
    rw [hlength, hlength] at hlengths
    simp at hlengths

/-- **A texture pack takes the file of a mod that has its id by its manifest**: the id is gone. -/
theorem texture_pack_loses_id :
    Consistent (oneModRuntime "Bar.rtz") barMods ∧
      prepare (oneModRuntime "Bar.rtz") [2] "Foo.rtz" = .ok texturePack ∧
      (ModStore.install (oneModRuntime "Bar.rtz") texturePack { mods := barMods }).result = .ok () ∧
      ¬ Installed (oneModRuntime "Bar.rtz") barMods
        (ModStore.install (oneModRuntime "Bar.rtz") texturePack { mods := barMods }).final.mods texturePack := by
  have hconsistent : Consistent (oneModRuntime "Bar.rtz") barMods := fun a b _ _ _ _ ha hb hne =>
    absurd ((listed_barMods ha).1.trans (listed_barMods hb).1.symm) hne
  have hprepare : prepare (oneModRuntime "Bar.rtz") [2] "Foo.rtz" = .ok texturePack :=
    ok_of_toOption (by decide +kernel)
  have hresult : (ModStore.install (oneModRuntime "Bar.rtz") texturePack { mods := barMods }).result = .ok () :=
    ok_of_toBool (by decide +kernel)
  have hbar : Listed barMods "Bar.rtz" [1] := ⟨by decide, Function.update_self _ _ _⟩
  have hid : (listMod (oneModRuntime "Bar.rtz") barMods "Bar.rtz" [1]).id = "Foo" := by decide
  have henumerates : Enumerates (oneModRuntime "Bar.rtz") barMods := by
    intro name
    change name ∈ ["Bar.rtz"] ↔ _
    rw [List.mem_singleton]
    unfold barMods
    by_cases hname : name = "Bar.rtz"
    · rw [hname, Function.update_self]
      exact iff_of_true rfl nofun
    · rw [Function.update_of_ne hname]
      exact iff_of_false hname fun h => h rfl
  refine ⟨hconsistent, hprepare, hresult, fun hinstalled => ?_⟩
  have hkeeps := (install_succeeds henumerates hconsistent hprepare ?_ hresult).mp hinstalled
  · exact absurd (hkeeps rfl "Bar.rtz" [1] hbar hid) (by decide)
  · intro c hcheck
    obtain ⟨previous, old, hchecked, rfl⟩ := checkInstall_ok henumerates rfl hcheck
    obtain rfl := (hchecked.unique "Bar.rtz" [1] hbar).mp hid
    obtain ⟨-, bytes, hlisted, rfl⟩ := hchecked.replaces "Bar.rtz" rfl
    obtain rfl := (listed_barMods hlisted).2
    exact oneNameRuntime_reads (by decide)

/-! ## A bundle replaces the version before -/

/-- An archive with a bundle, its mod, and the mod of the version before. -/
def bundleRuntime : StoreRuntime where
  toJavaRuntime := threeNamesRuntime "old.so" "new.so" "Foo.nrm"
  zip := fun bytes =>
    if bytes = [9] then .ok [⟨"Foo.nrm", 1, 0, [3]⟩, ⟨"new.so", 1, 0, [6]⟩]
    else if bytes = [3] then .ok [⟨"mod.json", 1, 0, [11]⟩]
    else if bytes = [1] then .ok [⟨"mod.json", 1, 0, [10]⟩]
    else .error "not an archive"
  crc32 := fun _ => 0
  parseObject := fun bytes => .ok [("game_id", .string "dk64"), ("id", .string "Foo"),
    ("display_name", .string "Foo"), ("version", .string (if bytes = [11] then "2.0.0" else "1.0.0")),
    ("minimum_recomp_version", .string "1.0.0"), ("authors", .array []),
    ("native_libraries", .object [(if bytes = [11] then "new" else "old", .array [])])]
  jsonError := fun key => key
  lower := id
  upperChar := Char.toUpper
  lowerChar := Char.toLower
  validate := fun _ => .ok ()
  linkExists := fun _ => false
  entries := fun mods => ["Foo.nrm", "old.so", "new.so"].filter fun name => (mods name).isSome
  config := .ok ([], [])

/-- The version before, with its library. -/
def fooMods : Mods := fun name =>
  if name = "Foo.nrm" then some (.file [1]) else if name = "old.so" then some (.file [5]) else none

/-- The new version, with another library. -/
def fooBundle : Pending :=
  ⟨⟨[3], "Foo.nrm", some [11], [("new.so", [6])]⟩,
    ⟨"Foo.nrm", "Foo", "Foo", "2.0.0", true, none, ["new.so"], false⟩⟩

theorem listed_fooMods {name : String} {bytes : List Byte} (h : Listed fooMods name bytes) :
    name = "Foo.nrm" ∧ bytes = [1] := by
  obtain ⟨hmod, hfile⟩ := h
  unfold fooMods at hfile
  by_cases hfoo : name = "Foo.nrm"
  · rw [if_pos hfoo] at hfile
    exact ⟨hfoo, (Entry.file.inj (Option.some.inj hfile)).symm⟩
  · rw [if_neg hfoo] at hfile
    by_cases hold : name = "old.so"
    · rw [hold] at hmod
      exact absurd hmod (by decide)
    · rw [if_neg hold] at hfile
      nomatch hfile

theorem fooMods_regular (name : String) : fooMods name ≠ some .other := by
  unfold fooMods
  split
  · nofun
  · split <;> nofun

theorem enumerates_fooMods : Enumerates bundleRuntime fooMods := by
  intro name
  change name ∈ ["Foo.nrm", "old.so", "new.so"].filter (fun name => (fooMods name).isSome) ↔ _
  rw [List.mem_filter, Option.isSome_iff_ne_none, and_iff_right_iff_imp]
  intro hsome
  unfold fooMods at hsome
  by_cases hfoo : name = "Foo.nrm"
  · simp [hfoo]
  · by_cases hold : name = "old.so"
    · simp [hold]
    · rw [if_neg hfoo, if_neg hold] at hsome
      exact absurd rfl hsome

/-- What the bundle changes. -/
def fooChanges : Changes := changesOf fooBundle.candidate "Foo.nrm" ["old.so"] ["new.so"]

theorem checkInstall_fooBundle : checkInstall bundleRuntime fooMods fooBundle = .ok fooChanges := by
  have hok : (checkInstall bundleRuntime fooMods fooBundle).toBool = true := by decide +kernel
  cases hcheck : checkInstall bundleRuntime fooMods fooBundle with
  | error message =>
    rw [hcheck] at hok
    nomatch hok
  | ok c =>
    obtain ⟨previous, old, hchecked, rfl⟩ := checkInstall_ok enumerates_fooMods rfl hcheck
    have hlisted : Listed fooMods "Foo.nrm" [1] := ⟨by decide, rfl⟩
    obtain rfl := (hchecked.unique "Foo.nrm" [1] hlisted).mp (by decide)
    obtain ⟨-, bytes, hfile, rfl⟩ := hchecked.replaces "Foo.nrm" rfl
    obtain rfl := (listed_fooMods hfile).2
    have hold : (listMod bundleRuntime fooMods "Foo.nrm" [1]).libraries = ["old.so"] := by decide
    rw [hold]
    rfl

/-- A bundle replaces the version before and its library, and is installed as it should. -/
theorem install_iff_bundle :
    fooChanges.affected = ["old.so", "new.so", "Foo.nrm"] ∧
    (ModStore.install bundleRuntime fooBundle { mods := fooMods }).result = .ok () ∧
      Installed bundleRuntime fooMods
        (ModStore.install bundleRuntime fooBundle { mods := fooMods }).final.mods fooBundle := by
  have haffected : fooChanges.affected = ["old.so", "new.so", "Foo.nrm"] := by decide
  have hreads : ReadsJournals bundleRuntime.toJavaRuntime fooChanges :=
    threeNamesRuntime_reads haffected (by decide +kernel)
  have hconsistent : Consistent bundleRuntime fooMods := fun a b _ _ _ _ ha hb hne =>
    absurd ((listed_fooMods ha).1.trans (listed_fooMods hb).1.symm) hne
  have hprepare : prepare bundleRuntime [9] "Pack.zip" = .ok fooBundle :=
    ok_of_toOption (by decide)
  have hresult : (ModStore.install bundleRuntime fooBundle { mods := fooMods }).result = .ok () := by
    rw [install_eq, checkInstall_fooBundle]
    have hfew : fooChanges.affected.length ≤ 8 := by
      rw [haffected]
      decide
    refine apply_ok rfl hfew ?_ (ok_of_toBool (by decide))
      (by decide)
    have hnames : ∀ name ∈ fooChanges.affected, validName name = true := by
      rw [haffected]
      decide
    exact fun name hname => ⟨hnames name hname, fooMods_regular name⟩
  refine ⟨haffected, hresult, ((install_iff bundleRuntime fooMods 0 [9] "Pack.zip" fooBundle enumerates_fooMods
    hconsistent hprepare ?_).2 hresult).mpr nofun⟩
  intro c hcheck
  obtain rfl := Except.ok.inj (checkInstall_fooBundle.symm.trans hcheck)
  exact hreads

end Dk64Port.Android
