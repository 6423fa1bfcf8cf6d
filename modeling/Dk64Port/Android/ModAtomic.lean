import Dk64Port.Android.ModRecovery
import Dk64Port.Lib.Run

/-!
# Changes of the mods are crash-atomic

A change first copies what it will overwrite, then what it will write, and only then puts the journal in
place; up to there the mods are as before. With the journal every file is changed under a backup. The
marker turns the change into the one that recovery keeps.

* `ReadsJournals`: the JSON library reads back the journal of a change.
* `install_spec`, `apply_spec`: **what a kill leaves rests on the mods before, or, with the marker, on
  the mods after.**
* `apply_ok`: a change that can be installed is completed.
* `mod_installation_crash_atomic`: **after any kills of any calls, recovery gives the one or the other.**
-/

namespace Dk64Port.Android

open ByteLayout (Byte)
open CrashLogic

/-- The JSON library reads back, in any order, the entries of a journal that the change writes. -/
def ReadsJournals (rt : JavaRuntime) (c : Changes) : Prop :=
  c.affected.length ≤ 8 → (∀ name ∈ c.affected, validName name = true) → ∀ existed : String → Bool,
    ∃ before, rt.parse (journalBytes (c.affected.map fun name => (name, existed name))) = some before
      ∧ before.Perm (c.affected.map fun name => (name, some (existed name)))

variable {rt : JavaRuntime} {m : Mods} {k : Nat} {C : Files → Prop}

/-! ## The arguments -/

theorem Changes.affected_nodup (c : Changes) : c.affected.Nodup := by
  refine c.removals_nodup.append (c.replacements_nodup.filter _) fun name hremoved hreplaced => ?_
  have hnot := of_decide_eq_true (List.mem_filter.mp hreplaced).2
  exact hnot hremoved

theorem Changes.mem_affected {c : Changes} {e : String × List Byte} (he : e ∈ c.replacements) :
    e.1 ∈ c.affected := by
  by_cases hremoved : e.1 ∈ c.removals
  · exact List.mem_append_left _ hremoved
  · exact List.mem_append_right _ (List.mem_filter.mpr ⟨List.mem_map_of_mem he, decide_eq_true hremoved⟩)

theorem Changes.replacement_mem {c : Changes} {name : String} {bytes : List Byte}
    (h : c.replacement name = some bytes) : (name, bytes) ∈ c.replacements := by
  unfold Changes.replacement at h
  obtain ⟨e, he, rfl⟩ := Option.map_eq_some_iff.mp h
  have hname : e.1 = name :=
    of_decide_eq_true (List.find?_some (p := fun e : String × List Byte => decide (e.1 = name)) he)
  rw [← hname]
  exact List.mem_of_find?_eq_some he

/-! ## The size of a journal -/

theorem validName_length {name : String} (h : validName name = true) : name.toList.length ≤ 180 := by
  unfold validName at h
  cases hchars : name.toList with
  | nil => exact Nat.zero_le _
  | cons c rest =>
    rw [hchars] at h
    have hrest : rest.length ≤ 179 := by simp_all
    rw [List.length_cons]
    omega

theorem intercalate_length {n : Nat} : ∀ texts : List (List Char), (∀ text ∈ texts, text.length ≤ n) →
    (List.intercalate [','] texts).length ≤ texts.length * (n + 1)
  | [], _ => Nat.zero_le _
  | [text], h => by
    have := h text List.mem_cons_self
    simp [List.intercalate]
    omega
  | text :: next :: texts, h => by
    have hfirst := h text List.mem_cons_self
    have hrest := intercalate_length (next :: texts) fun t ht => h t (List.mem_cons_of_mem _ ht)
    have hcons : List.intercalate [','] (text :: next :: texts)
        = text ++ [','] ++ List.intercalate [','] (next :: texts) := by
      simp [List.intercalate]
    rw [hcons, List.length_append, List.length_append, List.length_cons]
    rw [List.length_cons] at hrest ⊢
    change text.length + 1 + _ ≤ (texts.length + 1 + 1) * (n + 1)
    rw [Nat.succ_mul]
    omega

/-- **A journal of a change is never too long for recovery.** -/
theorem journalBytes_length (before : List (String × Bool)) (hfew : before.length ≤ 8)
    (hvalid : ∀ e ∈ before, validName e.1 = true) : (journalBytes before).length ≤ 65536 := by
  have htexts := intercalate_length (n := 188) (before.map fun e =>
    '"' :: e.1.toList ++ '"' :: ':' :: (if e.2 then "true" else "false").toList) fun text ht => by
      obtain ⟨e, he, rfl⟩ := List.mem_map.mp ht
      have hname := validName_length (hvalid e he)
      have hflag : (if e.2 then "true" else "false").toList.length ≤ 5 := by
        cases e.2 <;> decide
      simp only [List.cons_append, List.length_cons, List.length_append]
      omega
  rw [List.length_map] at htexts
  unfold journalBytes journalChars
  rw [List.length_map, List.length_append, List.length_append]
  have hmul := Nat.mul_le_mul_right 189 hfew
  simp only [List.length_cons, List.length_nil]
  omega

/-! ## The copies -/

theorem Folder.find_write_self (folder : Folder) (name : String) (bytes : List Byte) :
    (folder.write name bytes).find name = some bytes := by
  have hnone : (folder.filter fun e => decide (e.1 ≠ name)).find? (fun e => decide (e.1 = name)) = none := by
    refine List.find?_eq_none.mpr fun e he => ?_
    simpa using (List.mem_filter.mp he).2
  unfold Folder.find Folder.write
  rw [List.find?_append, hnone]
  simp

theorem Folder.find_write_of_ne (folder : Folder) {name name' : String} (hne : name' ≠ name)
    (bytes : List Byte) : (folder.write name bytes).find name' = folder.find name' := by
  have hfilter : (folder.filter fun e => decide (e.1 ≠ name)).find? (fun e => decide (e.1 = name'))
      = folder.find? fun e => decide (e.1 = name') := by
    rw [List.find?_filter]
    congr 1
    funext e
    by_cases h : e.1 = name'
    · simp [h, hne]
    · simp [h]
  have hlast : [(name, bytes)].find? (fun e => decide (e.1 = name')) = none := by
    simp [hne.symm]
  unfold Folder.find Folder.write
  rw [List.find?_append, hfilter, hlast, Option.or_none]

theorem TransactionDir.find_write_self {tx : TransactionDir} {part : Part} (name : String)
    (bytes : List Byte) (h : (tx.folders part).isSome = true) :
    (tx.write part name bytes).find part name = some bytes := by
  obtain ⟨folder, hfolder⟩ := Option.isSome_iff_exists.mp h
  unfold TransactionDir.write TransactionDir.find
  rw [TransactionDir.setFolder_folders, hfolder]
  exact folder.find_write_self name bytes

theorem TransactionDir.find_write_of_ne (tx : TransactionDir) {part part' : Part} {name name' : String}
    (bytes : List Byte) (hne : part' = part → name' ≠ name) :
    (tx.write part name bytes).find part' name' = tx.find part' name' := by
  unfold TransactionDir.write TransactionDir.find
  by_cases hpart : part' = part
  · subst hpart
    rw [TransactionDir.setFolder_folders]
    cases tx.folders part' with
    | none => rfl
    | some folder => exact folder.find_write_of_ne (hne rfl) bytes
  · have hother : (tx.setFolder part ((tx.folders part).map (·.write name bytes))).folders part'
        = tx.folders part' := Function.update_of_ne hpart _ _
    rw [hother]

theorem TransactionDir.write_isSome {tx : TransactionDir} {part : Part} (name : String)
    (bytes : List Byte) (h : ∀ part, (tx.folders part).isSome = true) (part' : Part) :
    ((tx.write part name bytes).folders part').isSome = true := by
  unfold TransactionDir.write
  by_cases hpart : part' = part
  · subst hpart
    rw [TransactionDir.setFolder_folders, Option.isSome_map]
    exact h part'
  · have hother : (tx.setFolder part ((tx.folders part).map (·.write name bytes))).folders part'
        = tx.folders part' := Function.update_of_ne hpart _ _
    rw [hother]
    exact h part'

/-- What is copied before the journal: backups of `names`, and `payload`. -/
structure Prepared (m : Mods) (names : List String) (payload : List (String × List Byte))
    (tx : TransactionDir) : Prop where
  journal : tx.journal = none
  committed : tx.committed = none
  folders : ∀ part, (tx.folders part).isSome = true
  backups : ∀ name ∈ names, m name = none ∨ ∃ bytes,
    m name = some (.file bytes) ∧ bytes.length ≤ maxInput ∧ tx.find .backup name = some bytes
  payloads : ∀ e ∈ payload, e.2.length ≤ maxInput ∧ tx.find .payload e.1 = some e.2

variable {names : List String} {payload : List (String × List Byte)} {name : String}

/-- A file of a part that is not among them is written. -/
theorem Prepared.write {tx : TransactionDir} (h : Prepared m names payload tx) (part : Part)
    (bytes : List Byte) (hbackup : part = .backup → name ∉ names)
    (hpayload : part = .payload → name ∉ payload.map (·.1)) :
    Prepared m names payload (tx.write part name bytes) := by
  refine ⟨h.journal, h.committed, TransactionDir.write_isSome name bytes h.folders,
    fun name' hname' => ?_, fun e he => ?_⟩
  · rw [tx.find_write_of_ne bytes fun hpart (heq : name' = name) => hbackup hpart.symm (heq ▸ hname')]
    exact h.backups name' hname'
  · rw [tx.find_write_of_ne bytes fun hpart (heq : e.1 = name) =>
      hpayload hpart.symm (heq ▸ List.mem_map_of_mem he)]
    exact h.payloads e he

/-- A file is copied to a part, or is too long. -/
theorem copyPart_spec (part : Part) (bytes : List Byte) (hbackup : part = .backup → name ∉ names)
    (hpayload : part = .payload → name ∉ payload.map (·.1)) (hC : ∀ s, Staged m k s → C s) :
    Spec (fun s => ∃ tx, s = around m k tx ∧ Prepared m names payload tx) C
      (copySynced rt (some bytes) (writePart part name))
      (fun _ s => ∃ tx, s = around m k tx ∧ Prepared m names payload tx
        ∧ bytes.length ≤ maxInput ∧ tx.find part name = some bytes)
      (fun _ => Staged m k) := by
  have hwrite : ∀ bytes s, (∃ tx, s = around m k tx ∧ Prepared m names payload tx) →
      ∃ tx, writePart part name bytes s = around m k tx ∧ Prepared m names payload tx
        ∧ tx.find part name = some bytes := by
    rintro bytes _ ⟨tx, rfl, h⟩
    exact ⟨_, rfl, h.write part bytes hbackup hpayload,
      TransactionDir.find_write_self name bytes (h.folders part)⟩
  refine (copySynced_spec rt (C := C) _ (W := fun bytes s => ∃ tx, s = around m k tx
    ∧ Prepared m names payload tx ∧ tx.find part name = some bytes) bytes (hwrite [])
    (fun _ bytes' s ⟨tx, hs, h, _⟩ => hwrite bytes' s ⟨tx, hs, h⟩)
    (fun _ s ⟨tx, hs, h, _⟩ => hC s ⟨tx, h.journal, hs⟩)).weaken (fun _ h => h) (fun _ h => h)
    (fun _ s hs => ?_) fun _ s hs => ?_
  · obtain ⟨⟨tx, hs, h, hfind⟩, hlen⟩ := hs
    exact ⟨tx, hs, h, hlen, hfind⟩
  · obtain ⟨⟨_, tx, hs, h, -⟩, -⟩ := hs
    exact ⟨tx, h.journal, hs⟩

/-- A name is backed up. -/
theorem backUp_spec (hname : name ∉ names) (hC : ∀ s, Staged m k s → C s) :
    Spec (fun s => ∃ tx, s = around m k tx ∧ Prepared m names [] tx) C (backUp rt name)
      (fun e s => e = (name, (m name).isSome)
        ∧ ∃ tx, s = around m k tx ∧ Prepared m (names ++ [name]) [] tx)
      (fun _ => Staged m k) := by
  refine (target_throws name fun _ s ⟨tx, hs, h⟩ => ⟨tx, h.journal, hs⟩).bind fun _ =>
    Spec.get fun s ⟨⟨tx, hs, h⟩, _, hfile⟩ => ?_
  have hmods : s.mods name = m name := by rw [hs]; rfl
  rw [hmods] at hfile ⊢
  have hmore : ∀ {tx}, Prepared m names [] tx → (m name = none ∨ ∃ bytes, m name = some (.file bytes)
      ∧ bytes.length ≤ maxInput ∧ tx.find .backup name = some bytes) →
      Prepared m (names ++ [name]) [] tx := fun {tx} h hentry => by
    refine ⟨h.journal, h.committed, h.folders, fun name' hname' => ?_, h.payloads⟩
    rcases List.mem_append.mp hname' with h' | h'
    · exact h.backups name' h'
    · rw [List.mem_singleton.mp h']
      exact hentry
  cases hentry : m name with
  | none => exact Spec.pure fun t ht => ⟨rfl, tx, ht.trans hs, hmore h (.inl hentry)⟩
  | some entry =>
    cases entry with
    | other => exact absurd hentry hfile
    | file bytes =>
      have hcopy : Spec (fun s => ∃ tx, s = around m k tx ∧ Prepared m names [] tx) C
          (copySynced rt (some bytes) (writePart .backup name)) _ _ :=
        copyPart_spec .backup bytes (fun _ => hname) (fun _ => List.not_mem_nil) hC
      refine (hcopy.weaken (fun t ht => ⟨tx, ht.trans hs, h⟩) (fun _ h => h) (fun _ _ h => h)
        fun _ _ h => h).bind fun _ => ?_
      exact Spec.pure fun t ⟨tx', ht, h', hlen, hfind⟩ =>
        ⟨rfl, tx', ht, hmore h' (.inr ⟨bytes, hentry, hlen, hfind⟩)⟩

/-! ## The change -/

variable {c : Changes}

/-- The mods before stay what recovery leads to, until the marker is there. -/
def Between (rt : JavaRuntime) (c : Changes) (m : Mods) (k : Nat) (s : Files) : Prop :=
  Rests rt m k s ∨ Rests rt (c.applied m) (k + 1) s

/-- **A name is changed**; where the checkpoint throws, the journal is still open. -/
theorem change_spec {tx : TransactionDir} {seen : List String} {e : String × Nat}
    (hprepared : ∀ e ∈ c.replacements, e.2.length ≤ maxInput ∧ tx.find .payload e.1 = some e.2)
    (hvalid : ∀ name ∈ c.affected, validName name = true) (he : e.1 ∈ c.affected)
    (hnames : ∀ name, name ∈ names ↔ name ∈ c.affected)
    (hC : ∀ seen s, Towards m (c.applied m) k tx names seen s → C s)
    {E : String → Files → Prop} (hE : ∀ e seen s, Towards m (c.applied m) k tx names seen s → E e s) :
    Spec (Towards m (c.applied m) k tx names seen) C (change rt c e)
      (fun _ => Towards m (c.applied m) k tx names (seen ++ [e.1])) E := by
  have hgoal : c.applied m e.1 = (c.replacement e.1).map .file := if_pos he
  have hfirst : Spec (Towards m (c.applied m) k tx names seen) C
      (if (c.replacement e.1).isSome then replaceFrom rt .payload e.1 else deleteTarget e.1)
      (fun _ => Towards m (c.applied m) k tx names (seen ++ [e.1])) E := by
    cases hreplacement : c.replacement e.1 with
    | none =>
      rw [hreplacement] at hgoal
      exact (deleteTarget_spec (hvalid _ he) ((hnames _).mpr he) hgoal hC).weaken (fun _ h => h)
        (fun _ h => h) (fun _ _ h => h) fun _ _ h => absurd h id
    | some bytes =>
      rw [hreplacement] at hgoal
      obtain ⟨hlen, hfind⟩ := hprepared _ (Changes.replacement_mem hreplacement)
      exact (replaceFrom_spec (hvalid _ he) ((hnames _).mpr he) hfind hlen hgoal hC).weaken
        (fun _ h => h) (fun _ h => h) (fun _ _ h => h) fun _ _ h => absurd h id
  unfold change
  refine hfirst.bind fun _ => ?_
  exact (Spec.failIf fun s hs _ => hE _ _ s hs).weaken (fun _ h => h) (fun _ h => h)
    (fun _ _ h => h.1) fun _ _ h => h

/-- With the backups there, a journal that can be read is open. -/
theorem Prepared.openJournal {tx : TransactionDir} {journal : List Byte}
    {before : List (String × Option Bool)} (h : Prepared m c.affected payload tx)
    (hfew : c.affected.length ≤ 8) (hvalid : ∀ name ∈ c.affected, validName name = true)
    (hlen : journal.length ≤ 65536) (hparse : rt.parse journal = some before)
    (hperm : before.Perm (c.affected.map fun name => (name, some (m name).isSome))) :
    OpenJournal rt m { tx with journal := some journal, journalTmp := none } before := by
  refine ⟨⟨journal, rfl, hlen, hparse⟩, h.committed, ?_, fun e he => ?_, fun e he => ?_⟩
  · rwa [hperm.length_eq, List.length_map]
  · obtain ⟨name, hname, rfl⟩ := List.mem_map.mp (hperm.mem_iff.mp he)
    exact hvalid name hname
  · obtain ⟨name, hname, rfl⟩ := List.mem_map.mp (hperm.mem_iff.mp he)
    rcases h.backups name hname with hnone | ⟨bytes, hbytes, hlen, hfind⟩
    · exact .inl ⟨by rw [hnone]; rfl, hnone⟩
    · exact .inr ⟨by rw [hbytes]; rfl, bytes, hbytes, hlen, hfind⟩

/-- From an open journal to the marker. -/
theorem changes_spec {tx : TransactionDir} {before : List (String × Option Bool)}
    (hopen : OpenJournal rt m tx before) (hnames : ∀ name, name ∈ before.map (·.1) ↔ name ∈ c.affected)
    (hvalid : ∀ name ∈ c.affected, validName name = true)
    (hfiles : ∀ name ∈ c.affected, m name ≠ some .other)
    (hpayloads : ∀ e ∈ c.replacements, e.2.length ≤ maxInput ∧ tx.find .payload e.1 = some e.2) :
    Spec (· = around m k tx) (Between rt c m k) (Prog.forEach (c.affected.zipIdx 1) (change rt c))
      (fun _ s => ∃ tx, s = around (c.applied m) k tx) (fun _ => Rests rt m k) := by
  have hrests : ∀ seen s, Towards m (c.applied m) k tx (before.map (·.1)) seen s → Rests rt m k s :=
    fun _ s ⟨⟨_, h⟩, _⟩ => .inr (.inr (.inl ⟨_, before, hopen.writeTmp _, h⟩))
  have hloop := Spec.forEach (l := c.affected.zipIdx 1) (C := Between rt c m k)
    (E := fun _ => Rests rt m k) (f := change rt c)
    (fun seen => Towards m (c.applied m) k tx (before.map (·.1)) (seen.map (·.1))) fun seen e rest hl => by
      have he : e.1 ∈ c.affected := by
        rw [← List.zipIdx_map_fst 1 c.affected, hl]
        exact List.mem_map_of_mem (List.mem_append_right _ List.mem_cons_self)
      rw [List.map_append]
      exact change_spec hpayloads hvalid he hnames (fun seen s hs => .inl (hrests seen s hs))
        fun _ seen s hs => hrests seen s hs
  refine hloop.weaken (fun s hs => ⟨⟨tx.writeTmp, ?_⟩, nofun⟩) (fun _ h => h) (fun _ s hs => ?_)
    fun _ _ h => h
  · rw [hs]
    exact ⟨rfl, rfl, fun name hname => hfiles name ((hnames name).mp hname), fun _ _ => rfl⟩
  · rw [List.zipIdx_map_fst] at hs
    have hall : Towards m (c.applied m) k tx (before.map (·.1)) (before.map (·.1)) s :=
      ⟨hs.1, fun name hname => hs.2 name ((hnames name).mp hname)⟩
    obtain ⟨tx', -, hs⟩ := hall.around fun name hname => if_neg fun h => hname ((hnames name).mpr h)
    exact ⟨tx', hs⟩

/-- The backups are made, name by name. -/
theorem backups_spec (hC : ∀ s, Staged m k s → C s) :
    Spec (fun s => ∃ tx, s = around m k tx ∧ Prepared m [] [] tx) C
      (Prog.collect c.affected (backUp rt))
      (fun before s => before = (c.affected.map fun name => (name, (m name).isSome))
        ∧ ∃ tx, s = around m k tx ∧ Prepared m c.affected [] tx)
      (fun _ => Staged m k) := by
  have hloop := Spec.collect (l := c.affected) (C := C) (E := fun _ => Staged m k) (f := backUp rt)
    (fun seen given s => given = (seen.map fun name => (name, (m name).isSome))
      ∧ ∃ tx, s = around m k tx ∧ Prepared m seen [] tx) fun seen name rest given hl => by
    have hnodup := c.affected_nodup
    rw [hl] at hnodup
    have hname : name ∉ seen := fun hmem =>
      (List.nodup_append.mp hnodup).2.2 name hmem name List.mem_cons_self rfl
    refine Spec.fact fun hgiven => (backUp_spec hname hC).weaken (fun _ h => h) (fun _ h => h)
      (fun e s ⟨he, hs⟩ => ⟨?_, hs⟩) fun _ _ h => h
    rw [List.map_append, hgiven, he]
    rfl
  exact hloop.weaken (fun s hs => ⟨rfl, hs⟩) (fun _ h => h) (fun _ _ h => h) fun _ _ h => h

/-- The new files are copied, one by one. -/
theorem payloads_spec (hC : ∀ s, Staged m k s → C s) :
    Spec (fun s => ∃ tx, s = around m k tx ∧ Prepared m names [] tx) C
      (Prog.forEach c.replacements fun e => copySynced rt (some e.2) (writePart .payload e.1))
      (fun _ s => ∃ tx, s = around m k tx ∧ Prepared m names c.replacements tx)
      (fun _ => Staged m k) := by
  refine Spec.forEach (l := c.replacements)
    (fun seen s => ∃ tx, s = around m k tx ∧ Prepared m names seen tx) fun seen e rest hl => ?_
  have hnodup := c.replacements_nodup
  rw [hl, List.map_append, List.map_cons] at hnodup
  have hname : e.1 ∉ seen.map (·.1) := fun hmem =>
    (List.nodup_append.mp hnodup).2.2 e.1 hmem e.1 List.mem_cons_self rfl
  refine (copyPart_spec .payload e.2 nofun (fun _ => hname) hC).weaken (fun _ h => h) (fun _ h => h)
    (fun _ s ⟨tx, hs, h, hlen, hfind⟩ => ⟨tx, hs, h.journal, h.committed, h.folders, h.backups,
      fun e' he' => ?_⟩) fun _ _ h => h
  rcases List.mem_append.mp he' with h' | h'
  · exact h.payloads e' h'
  · rw [List.mem_singleton.mp h']
    exact ⟨hlen, hfind⟩

/-- **A change, up to the marker**: what a kill leaves rests on the mods before or, with the marker, on
the mods after; an error leaves the mods before. -/
theorem install_spec (hreads : ReadsJournals rt c) (hfew : c.affected.length ≤ 8)
    (hvalid : ∀ name ∈ c.affected, validName name = true)
    (hfiles : ∀ name ∈ c.affected, m name ≠ some .other) :
    Spec (fun s => ∃ tx, s = around m k tx ∧ Prepared m [] [] tx) (Between rt c m k) (install rt c)
      (fun _ s => ∃ tx, s = around (c.applied m) (k + 1) tx) (fun _ => Rests rt m k) := by
  have hstaged : ∀ s, Staged m k s → Between rt c m k s := fun s hs => .inl (.inr (.inl hs))
  have herror : ∀ (_ : String) s, Staged m k s → Rests rt m k s := fun _ s hs => .inr (.inl hs)
  refine ((backups_spec hstaged).weaken (fun _ h => h) (fun _ h => h) (fun _ _ h => h) herror).bind
    fun given => Spec.fact fun hgiven => ?_
  refine ((payloads_spec hstaged).weaken (fun _ h => h) (fun _ h => h) (fun _ _ h => h) herror).bind
    fun _ => Spec.exists_intro fun tx => ?_
  refine (Spec.fact (P := (· = around m k tx)) fun h => ?_).weaken (fun _ hs => ⟨hs.2, hs.1⟩)
    (fun _ h => h) (fun _ _ h => h) fun _ _ h => h
  have hlen := journalBytes_length given (by rwa [hgiven, List.length_map]) fun e he => by
    rw [hgiven] at he
    obtain ⟨name, hname, rfl⟩ := List.mem_map.mp he
    exact hvalid name hname
  obtain ⟨before, hparse, hperm⟩ := hreads hfew hvalid fun name => (m name).isSome
  rw [← hgiven] at hparse
  refine (onTransaction_spec tx (f := fun tx => { tx with journalTmp := some [] })
    (hstaged _ ⟨{ tx with journalTmp := some [] }, h.journal, rfl⟩)).bind fun _ => ?_
  refine (onTransaction_spec { tx with journalTmp := some [] }
    (f := fun tx => { tx with journalTmp := some (journalBytes given) })
    (hstaged _ ⟨{ tx with journalTmp := some (journalBytes given) }, h.journal, rfl⟩)).bind fun _ => ?_
  -- The journal is in place.
  have hopen := h.openJournal hfew hvalid hlen hparse hperm
  have hnames : ∀ name, name ∈ before.map (·.1) ↔ name ∈ c.affected := by
    intro name
    have hmap : (c.affected.map fun name => (name, some (m name).isSome)).map (·.1) = c.affected := by
      rw [List.map_map]
      exact List.map_id _
    rw [(hperm.map (·.1)).mem_iff, hmap]
  refine (onTransaction_spec { tx with journalTmp := some (journalBytes given) }
    (f := fun tx => { tx with journal := tx.journalTmp, journalTmp := none })
    (.inl (.inr (.inr (.inl ⟨_, before, hopen, rfl, rfl,
      fun name hname => hfiles name ((hnames name).mp hname), fun _ _ => rfl⟩))))).bind fun _ => ?_
  refine (changes_spec hopen hnames hvalid hfiles h.payloads).bind fun _ => ?_
  -- The marker.
  have hcommitted : ∀ s, Committed (c.applied m) (k + 1) s → Between rt c m k s :=
    fun s hs => .inr (.inr (.inr (.inr hs)))
  have hmark : ∀ s, (∃ tx, s = around (c.applied m) k tx) → ∃ tx, tx.committed.isSome = true ∧
      { s.onTransaction fun tx => { tx with committed := some [] } with marks := s.marks + 1 }
        = around (c.applied m) (k + 1) tx := by
    rintro _ ⟨tx, rfl⟩
    exact ⟨{ tx with committed := some [] }, rfl, rfl⟩
  refine (Spec.step (Q := fun _ s => ∃ tx, s = around (c.applied m) (k + 1) tx)
    (fun s hs => hcommitted _ (hmark s hs)) fun s hs => ?_).bind fun _ => ?_
  · obtain ⟨tx, -, hs⟩ := hmark s hs
    exact ⟨tx, hs⟩
  · refine Spec.step (fun s hs => ?_) fun s hs => ?_
    · obtain ⟨tx, rfl⟩ := hs
      exact hcommitted _ ⟨{ tx with committed := some [1] }, rfl, rfl⟩
    · obtain ⟨tx, rfl⟩ := hs
      exact ⟨{ tx with committed := some [1] }, rfl⟩

/-- The names of a change are checked. -/
theorem targets_spec :
    Spec (Clean m k) C (Prog.forEach c.affected target)
      (fun _ s => (∀ name ∈ c.affected, validName name = true ∧ m name ≠ some .other) ∧ Clean m k s)
      (fun _ => Clean m k) := by
  have hloop := Spec.forEach (l := c.affected) (C := C) (E := fun _ => Clean m k) (f := target)
    (fun seen s => (∀ name ∈ seen, validName name = true ∧ m name ≠ some .other) ∧ Clean m k s)
    fun seen name _ _ => by
      refine (target_throws name fun _ s hs => hs.2).weaken (fun _ h => h) (fun _ h => h)
        (fun _ s ⟨⟨hseen, hs⟩, hvalid, hfile⟩ => ⟨fun name' hname' => ?_, hs⟩) fun _ _ h => h
      rcases List.mem_append.mp hname' with h' | h'
      · exact hseen name' h'
      · rw [List.mem_singleton.mp h']
        have hmods : s.mods = m := by rw [hs]
        exact ⟨hvalid, by rwa [hmods] at hfile⟩
  exact hloop.weaken (fun s hs => ⟨nofun, hs⟩) (fun _ h => h) (fun _ _ h => h) fun _ _ h => h

/-- A change that throws is rolled back. -/
theorem rescue_spec {E : String → Files → Prop} (hE : ∀ e s, Clean m k s → E e s) :
    Spec (Rests rt m k) (Between rt c m k)
      (do
        Prog.tryCatch (recover rt) fun _ => pure ()
        Prog.fail "Mod installation failed; recovery is required before the next game launch." :
        FileProgram Unit) (fun _ _ => False) E := by
  have hrecover : Spec (Rests rt m k) (Rests rt m k) (Prog.tryCatch (recover rt) fun _ => pure ())
      (fun _ => Clean m k) E :=
    Spec.tryCatch (recover_spec rt m k) fun _ => Spec.pure fun s hs => absurd hs id
  refine (hrecover.weaken (fun _ h => h) (fun _ h => .inl h) (fun _ _ h => h) fun _ _ h => h).bind
    fun _ => Spec.fail fun s hs => hE _ s hs

/-- **A change**: what a kill leaves rests on the mods before or after; an error leaves the mods
before, and the end is the mods after. -/
theorem apply_spec (hreads : ReadsJournals rt c) :
    Spec (Rests rt m k) (Between rt c m k) (apply rt c) (fun _ => Clean (c.applied m) (k + 1))
      (fun _ => Clean m k) := by
  have hstaged : ∀ tx, tx.journal = none → Between rt c m k (around m k tx) :=
    fun tx h => .inl (.inr (.inl ⟨tx, h, rfl⟩))
  refine ((recover_spec rt m k).weaken (fun _ h => h) (fun _ h => .inl h) (fun _ _ h => h)
    fun _ _ h => absurd h id).bind fun _ => ?_
  refine ((Spec.failIf (P := Clean m k) (E := fun _ => Clean m k) fun s hs _ => hs).weaken
    (fun _ h => h) (fun _ h => h) (fun _ _ h => h.symm) fun _ _ h => h).bind
    fun _ => Spec.fact fun hfew => ?_
  have hfew : c.affected.length ≤ 8 := Nat.le_of_not_lt (of_decide_eq_false hfew)
  refine targets_spec.bind fun _ => Spec.fact fun hchecked => ?_
  -- The directories.
  refine (Spec.step (Q := fun _ s => s = around m k {}) (fun s hs => ?_) fun s hs => ?_).bind
    fun _ => ?_
  · rw [hs]
    exact hstaged {} rfl
  · rw [hs]
    rfl
  refine (onTransaction_spec {} (f := (·.setFolder .backup (some []))) (hstaged _ rfl)).bind
    fun _ => ?_
  refine (onTransaction_spec (TransactionDir.setFolder {} .backup (some []))
    (f := (·.setFolder .payload (some []))) (hstaged _ rfl)).bind fun _ => ?_
  have hprepared : Prepared m [] []
      ((TransactionDir.setFolder {} .backup (some [])).setFolder .payload (some [])) :=
    ⟨rfl, rfl, fun part => by cases part <;> rfl, nofun, nofun⟩
  have hinstall := (install_spec (k := k) hreads hfew (fun name hname => (hchecked name hname).1)
    fun name hname => (hchecked name hname).2).weaken
    (fun s (hs : s = around m k _) => ⟨_, hs, hprepared⟩) (fun _ h => h) (fun _ _ h => h) fun _ _ h => h
  refine (Spec.tryCatch hinstall fun _ => (rescue_spec fun _ _ hs => hs).weaken (fun _ h => h)
    (fun _ h => h) (fun _ _ h => absurd h id) fun _ _ h => h).bind fun _ => Spec.exists_intro fun tx => ?_
  exact finish_spec (fun s hs => .inr (.inr (.inl hs))) (.inr (.inl rfl))

/-! ## Processes that are killed -/

theorem Rests.marks {s : Files} (h : Rests rt m k s) : s.marks = k := by
  rcases h with hs | ⟨_, _, hs⟩ | ⟨_, _, _, hs⟩ | ⟨_, _, hs⟩
  · rw [hs]
  · rw [hs]
    rfl
  · exact hs.marks
  · rw [hs]
    rfl

/-- Recovery of what rests on some mods. -/
theorem recover_eq {s : Files} (h : Rests rt m k s) :
    (recover rt s).result = .ok () ∧ (recover rt s).final = { mods := m, marks := k } := by
  obtain ⟨-, hend⟩ := recover_spec rt m k s h
  cases hresult : (recover rt s).result with
  | ok a =>
    rw [hresult] at hend
    exact ⟨rfl, hend⟩
  | error e =>
    rw [hresult] at hend
    exact absurd hend id

/-- A kill of recovery changes nothing of what it leads to. -/
theorem recover_killed {s : Files} (h : Rests rt m k s) (n : Nat) :
    Rests rt m k ((recover rt).killed n s) := by
  rcases (recover_spec rt m k).killed h n with heq | hrests | heq
  · rwa [heq]
  · exact hrests
  · rw [heq, (recover_eq h).2]
    exact .inl rfl

/-- A kill of a change leaves the mods before or after. -/
theorem apply_killed (hreads : ReadsJournals rt c) {s : Files} (h : Rests rt m k s) (n : Nat) :
    Between rt c m k ((apply rt c).killed n s) := by
  rcases (apply_spec hreads).killed h n with heq | hbetween | heq
  · rw [heq]
    exact .inl h
  · exact hbetween
  · obtain ⟨-, hend⟩ := apply_spec hreads s h
    rw [heq]
    cases hresult : (apply rt c s).result with
    | ok a =>
      rw [hresult] at hend
      exact .inr (.inl hend)
    | error e =>
      rw [hresult] at hend
      exact .inl (.inl hend)

/-- Whatever was killed before, the files rest on some mods. -/
theorem killedStep_rests {s : Files} {e : ModCall × Nat}
    (hreads : ∀ c, e.1 = .apply c → ReadsJournals rt c) (h : ∃ m k, Rests rt m k s) :
    ∃ m k, Rests rt m k (ModCall.killedStep rt s e) := by
  obtain ⟨m, k, h⟩ := h
  obtain ⟨call, n⟩ := e
  cases call with
  | recover => exact ⟨m, k, recover_killed h n⟩
  | apply c =>
    rcases apply_killed (hreads c rfl) h n with h' | h'
    · exact ⟨m, k, h'⟩
    · exact ⟨c.applied m, k + 1, h'⟩

/-- **Mod installation is crash-atomic.** After any killed calls, a change is killed, and recoveries are
killed; the recovery that completes gives the mods before the change, or, where the marker was created,
the mods after it, and leaves no transaction directory. -/
theorem mod_installation_crash_atomic (rt : JavaRuntime) (mods : Mods) (history : List (ModCall × Nat))
    (c : Changes) (n : Nat) (recoveries : List Nat)
    (hhistory : ∀ e ∈ history, ∀ c, e.1 = .apply c → ReadsJournals rt c) (hreads : ReadsJournals rt c) :
    let x := Run.run (ModCall.killedStep rt) { mods := mods } history
    let y := Run.run (fun s n => (recover rt).killed n s) ((apply rt c).killed n x) recoveries
    (recover rt x).result = .ok () ∧ (recover rt y).result = .ok () ∧
      (recover rt y).final.transaction = none ∧
      ((recover rt y).final.mods = (recover rt x).final.mods ∧ y.marks = x.marks ∨
        (recover rt y).final.mods = c.applied (recover rt x).final.mods ∧ y.marks = x.marks + 1) := by
  intro x y
  obtain ⟨m, k, hx⟩ : ∃ m k, Rests rt m k x :=
    Run.invariant (I := fun s => ∃ m k, Rests rt m k s) (fun _ _ hreads h => killedStep_rests hreads h)
      ⟨mods, 0, .inl rfl⟩
      (Run.along_of_forall hhistory)
  obtain ⟨hok, hbefore⟩ := recover_eq hx
  have hmore : ∀ {m k s}, Rests rt m k s →
      Rests rt m k (Run.run (fun s n => (recover rt).killed n s) s recoveries) :=
    fun {m k _} h => Run.run_invariant_of_steps (I := Rests rt m k) (fun _ n h => recover_killed h n) h
      recoveries
  rcases apply_killed hreads hx n with h | h
  · obtain ⟨hok', hafter⟩ := recover_eq (hmore h)
    refine ⟨hok, hok', ?_, .inl ⟨?_, ?_⟩⟩
    · rw [hafter]
    · rw [hafter, hbefore]
    · rw [(hmore h).marks, hx.marks]
  · obtain ⟨hok', hafter⟩ := recover_eq (hmore h)
    refine ⟨hok, hok', ?_, .inr ⟨?_, ?_⟩⟩
    · rw [hafter]
    · rw [hafter, hbefore]
    · rw [(hmore h).marks, hx.marks]

/-! ## A change that nothing hinders -/

theorem forEach_target {names : List String} {s : Files}
    (h : ∀ name ∈ names, validName name = true ∧ s.mods name ≠ some .other) :
    Prog.forEach names target s = ⟨[], s, .ok ()⟩ := by
  induction names with
  | nil => rfl
  | cons name names ih =>
    obtain ⟨⟨hvalid, hfile⟩, hrest⟩ := List.forall_mem_cons.mp h
    have htarget : target name s = ⟨[], s, .ok ()⟩ := by
      unfold target
      rw [hvalid, Bool.not_true, Prog.failIf_false, Prog.pure_bind_apply, Prog.get_bind_apply]
      cases hentry : s.mods name with
      | none => rfl
      | some entry =>
        cases entry with
        | file _ => rfl
        | other => exact absurd hentry hfile
    rw [Prog.forEach, Prog.bind_apply, htarget]
    dsimp only
    rw [ih hrest]
    rfl

/-- The transaction directory before an installation. -/
def Files.opened (s : Files) : Files :=
  let tx : TransactionDir := {}
  { s with transaction := some ((tx.setFolder .backup (some [])).setFolder .payload (some [])) }

theorem finish_ok {s : Files} (h : s.transaction.isSome = true) : (finish s).result = .ok () := by
  obtain ⟨tx, htx⟩ := Option.isSome_iff_exists.mp h
  have hspec : Spec (· = around s.mods s.marks tx) (fun _ => True) finish
      (fun _ => Clean s.mods s.marks) Never := finish_spec (fun _ _ => trivial) trivial
  have hs : s = around s.mods s.marks tx := by
    cases s
    cases htx
    rfl
  obtain ⟨-, hend⟩ := hspec s hs
  cases hresult : (finish s).result with
  | ok _ => rfl
  | error e =>
    rw [hresult] at hend
    exact hend.elim

/-- **A change that can be installed is completed.** -/
theorem apply_ok {c : Changes} {s : Files} (hnone : s.transaction = none)
    (hfew : c.affected.length ≤ 8)
    (htargets : ∀ name ∈ c.affected, validName name = true ∧ s.mods name ≠ some .other)
    (hinstall : (install rt c s.opened).result = .ok ())
    (hopen : (install rt c s.opened).final.transaction.isSome = true) :
    (apply rt c s).result = .ok () := by
  have hrecover : recover rt s = ⟨[], s, .ok ()⟩ := by
    unfold recover
    rw [Prog.get_bind_apply, hnone]
    rfl
  unfold apply
  rw [Prog.bind_apply, hrecover]
  dsimp only
  rw [Prog.bind_apply, decide_eq_false (Nat.not_lt.mpr hfew)]
  dsimp only [Prog.failIf]
  rw [if_neg Bool.false_ne_true]
  change (((Prog.forEach c.affected target >>= fun _ => _) : FileProgram Unit) s).result = _
  rw [Prog.bind_apply, forEach_target htargets]
  dsimp only
  change (((Prog.tryCatch (install rt c) _ >>= fun _ => finish) : FileProgram Unit)
    s.opened).result = _
  rw [Prog.bind_apply]
  have htry : ∀ handler, Prog.tryCatch (install rt c) handler s.opened =
      ⟨(install rt c s.opened).states, (install rt c s.opened).final, .ok ()⟩ := by
    intro handler
    unfold Prog.tryCatch
    rw [hinstall]
  rw [htry]
  exact finish_ok hopen

/-! ## An upgrade that is killed -/

/-- The journal of a change of three names. -/
def threeEntries (x y z : String) (a b c : Bool) : List (String × Bool) := [(x, a), (y, b), (z, c)]

/-- A runtime that reads a file at once, and the journals of three names. -/
def threeNamesRuntime (x y z : String) : JavaRuntime where
  chunks bytes := [bytes]
  flatten_chunks bytes := List.append_nil bytes
  parse bytes :=
    (([false, true].flatMap fun a => [false, true].flatMap fun b =>
        [false, true].map (threeEntries x y z a b)).find? fun entries => journalBytes entries = bytes).map
      fun entries => entries.map fun e => (e.1, some e.2)

theorem threeNamesRuntime_reads {x y z : String} {c : Changes} (haffected : c.affected = [x, y, z])
    (hparse : ∀ i j k : Bool, (threeNamesRuntime x y z).parse (journalBytes (threeEntries x y z i j k)) =
      some [(x, some i), (y, some j), (z, some k)]) : ReadsJournals (threeNamesRuntime x y z) c := by
  intro _ _ existed
  rw [haffected]
  exact ⟨_, hparse (existed x) (existed y) (existed z), .refl _⟩

/-- Two mods. -/
def twoMods : Mods := fun name =>
  if name = "a.nrm" then some (.file [1]) else if name = "b.nrm" then some (.file [2]) else none

/-- A mod is removed, one is replaced and one is added. -/
def upgrade : Changes := ⟨[("a.nrm", [3]), ("c.nrm", [4])], ["b.nrm"], by decide, by decide⟩

def upgradeRuntime : JavaRuntime := threeNamesRuntime "b.nrm" "a.nrm" "c.nrm"

theorem readsJournals_upgrade : ReadsJournals upgradeRuntime upgrade :=
  threeNamesRuntime_reads (by decide) (by decide)

/-- A process is killed in the upgrade, another in the recovery, and so on. -/
def killedHistory : List (ModCall × Nat) :=
  [(.apply upgrade, 19), (.recover, 3), (.apply upgrade, 30), (.recover, 2)]

/-- The upgrade is killed with a mod removed and one replaced, and so are two recoveries: the mods are
rolled back. Killed behind the marker, the upgrade is kept. After a longer history it is the one or the
other. -/
theorem mod_installation_crash_atomic_upgrade :
    let x : Files := { mods := twoMods }
    let y := fun n => Run.run (fun s n => (recover upgradeRuntime).killed n s)
      ((apply upgradeRuntime upgrade).killed n x) [1, 0]
    let z := Run.run (ModCall.killedStep upgradeRuntime) x killedHistory
    ((apply upgradeRuntime upgrade).killed 19 x).mods "b.nrm" = none
      ∧ (recover upgradeRuntime (y 19)).final.mods = twoMods
      ∧ (recover upgradeRuntime (y 22)).final.mods = upgrade.applied twoMods
      ∧ (recover upgradeRuntime z).result = .ok () := by
  intro x y z
  have hhistory : ∀ e ∈ killedHistory, ∀ c, e.1 = .apply c → ReadsJournals upgradeRuntime c := by
    intro e he c hc
    simp only [killedHistory, List.mem_cons, List.not_mem_nil, or_false] at he
    rcases he with rfl | rfl | rfl | rfl <;> cases hc <;> exact readsJournals_upgrade
  have hstart : (recover upgradeRuntime x).final.mods = twoMods := rfl
  have hfresh : ∀ n,
      (recover upgradeRuntime (y n)).final.mods = (recover upgradeRuntime x).final.mods
          ∧ (y n).marks = x.marks
        ∨ (recover upgradeRuntime (y n)).final.mods
            = upgrade.applied (recover upgradeRuntime x).final.mods
          ∧ (y n).marks = x.marks + 1 := fun n =>
    (mod_installation_crash_atomic upgradeRuntime twoMods [] upgrade n [1, 0]
      (fun _ h => absurd h List.not_mem_nil) readsJournals_upgrade).2.2.2
  rw [hstart] at hfresh
  refine ⟨Option.isNone_iff_eq_none.mp (by decide), ?_, ?_,
    (mod_installation_crash_atomic upgradeRuntime twoMods killedHistory upgrade 0 [] hhistory
      readsJournals_upgrade).1⟩
  · obtain ⟨hback, -⟩ | ⟨-, hmarks⟩ := hfresh 19
    · exact hback
    · exact absurd hmarks (by decide)
  · obtain ⟨-, hmarks⟩ | ⟨hkept, -⟩ := hfresh 22
    · exact absurd hmarks (by decide)
    · exact hkept

end Dk64Port.Android
