import Dk64Port.Android.ModTransaction

/-!
# Recovery of the mods

What a kill can leave is one of four: no transaction, a transaction without a journal, an open journal
with the backups it names, and a journal with the marker. From each of them recovery leads to the same
mods, and so does a recovery that is killed on its way and run again.

* `Rests`: what recovery leads to.
* `finish_spec`, `rollBack_spec`, `recover_spec`: **recovery gets there from wherever it starts, and
  stays on the way at every step.**
-/

namespace Dk64Port.Android

open ByteLayout (Byte)
open CrashLogic

variable {rt : JavaRuntime} {m : Mods} {k : Nat} {C : Files → Prop}

/-! ## What a kill can leave -/

/-- The files around a transaction directory. -/
def around (m : Mods) (k : Nat) (tx : TransactionDir) : Files :=
  { mods := m, transaction := some tx, marks := k }

/-- No transaction. -/
def Clean (m : Mods) (k : Nat) (s : Files) : Prop := s = { mods := m, marks := k }

/-- A transaction without a journal. -/
def Staged (m : Mods) (k : Nat) (s : Files) : Prop := ∃ tx, tx.journal = none ∧ s = around m k tx

/-- A transaction with the marker. -/
def Committed (m : Mods) (k : Nat) (s : Files) : Prop :=
  ∃ tx, tx.committed.isSome = true ∧ s = around m k tx

/-- An open journal: it can be read, and names the files that were there before, each with its
backup. -/
structure OpenJournal (rt : JavaRuntime) (m : Mods) (tx : TransactionDir)
    (before : List (String × Option Bool)) : Prop where
  journal : ∃ bytes, tx.journal = some bytes ∧ bytes.length ≤ 65536 ∧ rt.parse bytes = some before
  committed : tx.committed = none
  few : before.length ≤ 8
  valid : ∀ e ∈ before, validName e.1 = true
  entries : ∀ e ∈ before, e.2 = some false ∧ m e.1 = none ∨ e.2 = some true ∧ ∃ bytes,
    m e.1 = some (.file bytes) ∧ bytes.length ≤ maxInput ∧ tx.find .backup e.1 = some bytes

/-- Only files under these names are changed. -/
structure Changing (m : Mods) (k : Nat) (tx : TransactionDir) (names : List String) (s : Files) :
    Prop where
  marks : s.marks = k
  transaction : s.transaction = some tx
  files : ∀ name ∈ names, s.mods name ≠ some .other
  others : ∀ name, name ∉ names → s.mods name = m name

/-- An open journal over changed files. -/
def Open (rt : JavaRuntime) (m : Mods) (k : Nat) (s : Files) : Prop :=
  ∃ tx before, OpenJournal rt m tx before ∧ Changing m k tx (before.map (·.1)) s

/-- Recovery leads to these mods. -/
def Rests (rt : JavaRuntime) (m : Mods) (k : Nat) (s : Files) : Prop :=
  Clean m k s ∨ Staged m k s ∨ Open rt m k s ∨ Committed m k s

theorem OpenJournal.writeTmp {tx : TransactionDir} {before : List (String × Option Bool)}
    (h : OpenJournal rt m tx before) (temporary : Option (List Byte)) :
    OpenJournal rt m { tx with writeTmp := temporary } before :=
  ⟨h.journal, h.committed, h.few, h.valid, h.entries⟩

/-! ## Reading names, copying files -/

/-- `target` throws for a name that is not valid, or no file. -/
theorem target_throws {P : Files → Prop} {E : String → Files → Prop} (name : String)
    (hE : ∀ e s, P s → E e s) :
    Spec P C (target name) (fun _ s => P s ∧ validName name = true ∧ s.mods name ≠ some .other) E := by
  unfold target
  refine (Spec.failIf fun s hs _ => hE _ s hs).bind fun _ => Spec.get fun s ⟨hs, hvalid⟩ => ?_
  rw [Bool.not_eq_false'] at hvalid
  cases hentry : s.mods name with
  | none => exact Spec.pure fun _ h => h ▸ ⟨hs, hvalid, by rw [hentry]; nofun⟩
  | some entry =>
    cases entry with
    | file bytes => exact Spec.pure fun _ h => h ▸ ⟨hs, hvalid, by rw [hentry]; nofun⟩
    | other => exact Spec.fail fun _ h => h ▸ hE _ s hs

/-- `target` of a valid name that is a file or nothing. -/
theorem target_spec {P : Files → Prop} {E : String → Files → Prop} {name : String}
    (hvalid : validName name = true) (hfile : ∀ s, P s → s.mods name ≠ some .other) :
    Spec P C (target name) (fun _ => P) E := by
  unfold target
  rw [hvalid]
  refine (Spec.failIf fun s _ h => absurd h (by decide)).bind fun _ => Spec.get fun s ⟨hs, _⟩ => ?_
  cases hentry : s.mods name with
  | none => exact Spec.pure fun _ h => h ▸ hs
  | some entry =>
    cases entry with
    | file bytes => exact Spec.pure fun _ h => h ▸ hs
    | other => exact absurd hentry (hfile s hs)

/-- The loop of `copyBounded`: `W bytes` says that the output holds `bytes`. -/
theorem copyBounded_spec {write : List Byte → Files → Files} {W : List Byte → Files → Prop}
    (hnext : ∀ bytes bytes' s, W bytes s → W bytes' (write bytes' s)) (hC : ∀ bytes s, W bytes s → C s)
    (chunks : List (List Byte)) : ∀ written : List Byte, written.length ≤ maxInput →
      Spec (W written) C (copyBounded write written chunks)
        (fun _ s => W (written ++ chunks.flatten) s
          ∧ (written ++ chunks.flatten).length ≤ maxInput)
        (fun _ s => (∃ bytes, W bytes s) ∧ maxInput < (written ++ chunks.flatten).length) := by
  induction chunks with
  | nil =>
    intro written hlen
    rw [List.flatten_nil, List.append_nil]
    exact Spec.pure fun s hs => ⟨hs, hlen⟩
  | cons chunk chunks ih =>
    intro written hlen
    rw [List.flatten_cons, ← List.append_assoc]
    unfold copyBounded
    split
    · rename_i hlong
      refine Spec.fail fun s hs => ⟨⟨written, hs⟩, ?_⟩
      rw [List.length_append]
      omega
    · rename_i hshort
      exact (Spec.step (fun s hs => hC _ _ (hnext _ _ s hs)) fun s hs => hnext _ _ s hs).bind
        fun _ => ih (written ++ chunk) (Nat.le_of_not_lt hshort)

/-- A file is copied whole, or is too long. -/
theorem copySynced_spec (rt : JavaRuntime) {P : Files → Prop} (write : List Byte → Files → Files)
    {W : List Byte → Files → Prop} (bytes : List Byte) (hstart : ∀ s, P s → W [] (write [] s))
    (hnext : ∀ bytes bytes' s, W bytes s → W bytes' (write bytes' s)) (hC : ∀ bytes s, W bytes s → C s) :
    Spec P C (copySynced rt (some bytes) write) (fun _ s => W bytes s ∧ bytes.length ≤ maxInput)
      (fun _ s => (∃ bytes, W bytes s) ∧ maxInput < bytes.length) := by
  have hloop := copyBounded_spec hnext hC (rt.chunks bytes) [] (Nat.zero_le _)
  rw [rt.flatten_chunks, List.nil_append] at hloop
  exact (Spec.step (fun s hs => hC _ _ (hstart s hs)) hstart).bind fun _ => hloop

/-! ## The directory is removed -/

@[simp] theorem TransactionDir.setFolder_folders (tx : TransactionDir) (part : Part)
    (folder : Option Folder) : (tx.setFolder part folder).folders part = folder := by
  change Function.update tx.folders part folder part = folder
  rw [Function.update_self]

@[simp] theorem TransactionDir.setFolder_setFolder (tx : TransactionDir) (part : Part)
    (folder folder' : Option Folder) :
    (tx.setFolder part folder).setFolder part folder' = tx.setFolder part folder' := by
  unfold TransactionDir.setFolder
  rw [Function.update_idem]

theorem TransactionDir.setFolder_self {tx : TransactionDir} {part : Part} {folder : Option Folder}
    (h : tx.folders part = folder) : tx.setFolder part folder = tx := by
  unfold TransactionDir.setFolder
  rw [← h, Function.update_eq_self]

/-- A step on the transaction directory. -/
theorem onTransaction_spec {E : String → Files → Prop} (tx : TransactionDir)
    {f : TransactionDir → TransactionDir} (hC : C (around m k (f tx))) :
    Spec (· = around m k tx) C (Prog.step (Files.onTransaction f))
      (fun _ s => s = around m k (f tx)) E := by
  refine Spec.step (fun s hs => ?_) fun s hs => ?_
  · rw [hs]
    exact hC
  · rw [hs]
    rfl

/-- An entry is deleted where it is there. -/
theorem deleteIf_spec {E : String → Files → Prop} (tx : TransactionDir) {present : Bool}
    {f : TransactionDir → TransactionDir} (hC : C (around m k (f tx)))
    (habsent : present = false → f tx = tx) :
    Spec (· = around m k tx) C (deleteIf present f) (fun _ s => s = around m k (f tx)) E := by
  unfold deleteIf
  cases present with
  | true => exact onTransaction_spec _ hC
  | false =>
    refine Spec.pure fun s hs => ?_
    rw [hs, habsent rfl]

/-- The files of a part are deleted. -/
theorem deleteFiles_spec {E : String → Files → Prop} {tx : TransactionDir} {part : Part} {folder : Folder}
    (hfolder : tx.folders part = some folder) (names : List String)
    (hC : ∀ folder, C (around m k (tx.setFolder part folder))) :
    Spec (· = around m k tx) C (Prog.forEach names (deleteFile part))
      (fun _ s => s = around m k (tx.setFolder part (some (folder.filter fun e => e.1 ∉ names)))) E := by
  have hloop := Spec.forEach (l := names) (C := C) (E := E) (f := deleteFile part)
    (fun seen s => s = around m k (tx.setFolder part (some (folder.filter fun e => e.1 ∉ seen))))
    (fun seen name rest _ => by
      refine (onTransaction_spec _ ?_).weaken (fun _ h => h) (fun _ h => h) (fun _ s hs => ?_)
        fun _ _ h => h
      · rw [TransactionDir.setFolder_setFolder]
        exact hC _
      · rw [hs, TransactionDir.setFolder_setFolder, TransactionDir.setFolder_folders, Option.map_some,
          List.filter_filter]
        simp only [List.mem_append, List.mem_singleton, not_or, Bool.decide_and, Bool.and_comm])
  refine hloop.weaken (fun s hs => ?_) (fun _ h => h) (fun _ _ h => h) fun _ _ h => h
  have hall : folder.filter (fun e => decide (e.1 ∉ ([] : List String))) = folder := by simp
  rw [hs, hall, TransactionDir.setFolder_self hfolder]

/-- An empty part is deleted. -/
theorem deleteFolder_spec {E : String → Files → Prop} {tx : TransactionDir} {part : Part}
    (hempty : tx.folders part = some []) (hC : C (around m k (tx.setFolder part none))) :
    Spec (· = around m k tx) C (deleteFolder part)
      (fun _ s => s = around m k (tx.setFolder part none)) E := by
  refine Spec.get fun s hs => ?_
  have hread : ((s.transaction.bind (·.folders part)).getD []).isEmpty = true := by
    rw [hs]
    change ((tx.folders part).getD []).isEmpty = true
    rw [hempty]
    rfl
  rw [hread, hs]
  exact onTransaction_spec _ hC

/-- A directory is emptied and deleted. -/
theorem removeFolder_spec {E : String → Files → Prop} {tx : TransactionDir} {part : Part}
    (hC : ∀ folder, C (around m k (tx.setFolder part folder))) :
    Spec (· = around m k tx) C (removeFolder part (tx.folders part))
      (fun _ s => s = around m k (tx.setFolder part none)) E := by
  cases hfolder : tx.folders part with
  | none =>
    refine Spec.pure fun s hs => ?_
    rw [hs, TransactionDir.setFolder_self hfolder]
  | some folder =>
    refine (deleteFiles_spec hfolder folder.reversedNames hC).bind fun _ => ?_
    have hnone : folder.filter (fun e => decide (e.1 ∉ folder.reversedNames)) = [] := by
      refine List.filter_eq_nil_iff.mpr fun e he => ?_
      have hmem : e.1 ∈ folder.reversedNames := by
        unfold Folder.reversedNames
        rw [List.mem_reverse, List.mem_mergeSort]
        exact List.mem_map_of_mem he
      simpa using hmem
    rw [hnone]
    have hdelete := deleteFolder_spec (m := m) (k := k) (C := C) (E := E)
      (tx.setFolder_folders part (some [])) (by rw [tx.setFolder_setFolder]; exact hC none)
    rwa [tx.setFolder_setFolder] at hdelete

/-- The entries are deleted one after the other. -/
theorem removeEntries_spec {E : String → Files → Prop} {tx : TransactionDir} (hjournal : tx.journal = none)
    (hC : ∀ tx : TransactionDir, tx.journal = none → C (around m k tx)) :
    Spec (· = around m k tx) C (removeEntries tx)
      (fun _ s => ∃ tx, tx.journal = none ∧ tx.isEmpty = true ∧ s = around m k tx) E := by
  have habsent : ∀ {o : Option (List Byte)}, o.isSome = false → none = o :=
    fun h => (Option.isSome_eq_false_iff.mp h |> Option.isNone_iff_eq_none.mp).symm
  let tx₁ : TransactionDir := { tx with writeTmp := none }
  let tx₂ := tx₁.setFolder .payload none
  let tx₃ : TransactionDir := { tx₂ with journalTmp := none }
  let tx₄ : TransactionDir := { tx₃ with journal := none }
  let tx₅ : TransactionDir := { tx₄ with committed := none }
  let tx₆ := tx₅.setFolder .backup none
  refine (deleteIf_spec tx (hC tx₁ hjournal) fun h => ?_).bind fun _ => ?_
  · rw [habsent h]
  refine (removeFolder_spec fun folder => hC (tx₁.setFolder .payload folder) hjournal).bind fun _ => ?_
  refine (deleteIf_spec tx₂ (hC tx₃ hjournal) fun h => ?_).bind fun _ => ?_
  · rw [habsent (o := tx₂.journalTmp) h]
  refine (deleteIf_spec tx₃ (hC tx₄ rfl) fun h => ?_).bind fun _ => ?_
  · rw [habsent (o := tx₃.journal) h]
  refine (deleteIf_spec tx₄ (hC tx₅ rfl) fun h => ?_).bind fun _ => ?_
  · rw [habsent (o := tx₄.committed) h]
  have hbackup : tx₅.folders .backup = tx.folders .backup := rfl
  rw [← hbackup]
  refine (removeFolder_spec fun folder => hC (tx₅.setFolder .backup folder) rfl).weaken
    (fun _ h => h) (fun _ h => h) (fun _ s hs => ⟨tx₆, rfl, rfl, hs⟩) fun _ _ h => h

/-- **The transaction directory is removed**, whatever is in it but a journal. -/
theorem removePrivateTree_spec {E : String → Files → Prop} (hstaged : ∀ s, Staged m k s → C s)
    (hclean : C { mods := m, marks := k }) :
    Spec (Staged m k) C removePrivateTree (fun _ => Clean m k) E := by
  refine Spec.get fun s hs => ?_
  obtain ⟨tx, hjournal, rfl⟩ := hs
  refine (removeEntries_spec hjournal fun tx h => hstaged _ ⟨tx, h, rfl⟩).bind fun _ => ?_
  refine Spec.get fun s hs => ?_
  obtain ⟨tx, -, hempty, rfl⟩ := hs
  have hread : (around m k tx).transaction.all (·.isEmpty) = true := hempty
  rw [if_pos hread]
  exact Spec.step (fun s hs => hs ▸ hclean) fun s hs => hs ▸ rfl

/-- **A journal is retired.** -/
theorem finish_spec {E : String → Files → Prop} {tx : TransactionDir} (hstaged : ∀ s, Staged m k s → C s)
    (hclean : C { mods := m, marks := k }) :
    Spec (· = around m k tx) C finish (fun _ => Clean m k) E :=
  (onTransaction_spec tx (hstaged _ ⟨_, rfl, rfl⟩)).bind fun _ =>
    (removePrivateTree_spec hstaged hclean).weaken (fun _ hs => ⟨_, rfl, hs⟩) (fun _ h => h)
      (fun _ _ h => h) fun _ _ h => h

/-! ## The journal is rolled back -/

/-- Nothing that the programs throw is thrown. -/
def Never : String → Files → Prop := fun _ _ => False

/-- A name of the journal passes its check. -/
theorem checkBefore_spec {tx : TransactionDir} {before : List (String × Option Bool)}
    (hopen : OpenJournal rt m tx before) {e : String × Option Bool} (he : e ∈ before) :
    Spec (Changing m k tx (before.map (·.1))) C (checkBefore tx e)
      (fun _ => Changing m k tx (before.map (·.1))) Never := by
  refine (target_spec (hopen.valid e he) fun s hs => hs.files _ (List.mem_map_of_mem he)).bind
    fun _ => ?_
  rcases hopen.entries e he with ⟨hfalse, -⟩ | ⟨htrue, bytes, -, -, hbackup⟩
  · rw [hfalse]
    exact Spec.pure fun s hs => hs
  · rw [htrue, hbackup]
    exact Spec.pure fun s hs => hs

/-- With something in `write.tmp`, the names of `seen` have what they have in `goal`. -/
def Towards (m goal : Mods) (k : Nat) (tx : TransactionDir) (names seen : List String) (s : Files) :
    Prop :=
  (∃ temporary, Changing m k { tx with writeTmp := temporary } names s)
    ∧ ∀ name ∈ seen, s.mods name = goal name

section Towards

variable {goal : Mods} {tx : TransactionDir} {names seen : List String} {s : Files} {name : String}

theorem Towards.files (h : Towards m goal k tx names seen s) (hname : name ∈ names) :
    s.mods name ≠ some .other :=
  let ⟨⟨_, h⟩, _⟩ := h
  h.files name hname

/-- A name gets what it has in `goal`. -/
theorem Towards.setMod (h : Towards m goal k tx names seen s) (hname : name ∈ names)
    (hfile : goal name ≠ some .other) :
    Towards m goal k tx names (seen ++ [name]) (s.setMod name (goal name)) := by
  obtain ⟨⟨temporary, hmarks, htransaction, hfiles, hothers⟩, hseen⟩ := h
  have hsame : (s.setMod name (goal name)).mods name = goal name := by
    change Function.update s.mods name (goal name) name = goal name
    rw [Function.update_self]
  have hother : ∀ name', name' ≠ name → (s.setMod name (goal name)).mods name' = s.mods name' :=
    fun name' hne => Function.update_of_ne hne _ _
  refine ⟨⟨temporary, hmarks, htransaction, fun name' hname' => ?_, fun name' hname' => ?_⟩,
    fun name' hname' => ?_⟩
  · by_cases heq : name' = name
    · rwa [heq, hsame]
    · rw [hother _ heq]
      exact hfiles name' hname'
  · rw [hother _ fun heq : name' = name => hname' (heq ▸ hname)]
    exact hothers name' hname'
  · by_cases heq : name' = name
    · rw [heq, hsame]
    · rw [hother _ heq]
      rcases List.mem_append.mp hname' with h' | h'
      · exact hseen name' h'
      · exact absurd (List.mem_singleton.mp h') heq

/-- `write.tmp` is set. -/
theorem Towards.onTransaction (h : Towards m goal k tx names seen s) (temporary : Option (List Byte)) :
    Towards m goal k tx names seen (s.onTransaction fun tx => { tx with writeTmp := temporary }) := by
  obtain ⟨⟨_, hmarks, htransaction, hfiles, hothers⟩, hseen⟩ := h
  refine ⟨⟨temporary, hmarks, ?_, hfiles, hothers⟩, hseen⟩
  change s.transaction.map _ = _
  rw [htransaction]
  rfl

/-- **A name is replaced with the file of a part.** -/
theorem replaceFrom_spec {part : Part} {bytes : List Byte} (hvalid : validName name = true)
    (hname : name ∈ names) (hfind : tx.find part name = some bytes) (hlen : bytes.length ≤ maxInput)
    (hgoal : goal name = some (.file bytes)) (hC : ∀ seen s, Towards m goal k tx names seen s → C s) :
    Spec (Towards m goal k tx names seen) C (replaceFrom rt part name)
      (fun _ => Towards m goal k tx names (seen ++ [name])) Never := by
  unfold replaceFrom
  refine (target_spec hvalid fun s hs => hs.files hname).bind fun _ => Spec.get fun s hs => ?_
  have hsource : s.transaction.bind (·.find part name) = some bytes := by
    obtain ⟨⟨_, h⟩, -⟩ := hs
    rw [h.transaction]
    exact hfind
  rw [hsource]
  -- While the copy goes on, the temporary file holds a part of the bytes.
  have hcopy := copySynced_spec rt (C := C) (P := (· = s)) writeTemporary
    (W := fun bytes t => Towards m goal k tx names seen t ∧ ∃ tx, t.transaction = some tx
      ∧ tx.writeTmp = some bytes) bytes
    (fun t ht => by
      obtain ⟨_, h⟩ := hs.1
      refine ht ▸ ⟨hs.onTransaction (some []), { tx with writeTmp := some [] }, ?_, rfl⟩
      change s.transaction.map _ = _
      rw [h.transaction]
      rfl)
    (fun _ bytes' t ⟨ht, tx', htx, _⟩ => by
      refine ⟨ht.onTransaction (some bytes'), { tx' with writeTmp := some bytes' }, ?_, rfl⟩
      change t.transaction.map _ = _
      rw [htx]
      rfl)
    (fun _ t ht => hC _ t ht.1)
  refine (hcopy.weaken (fun _ h => h) (fun _ h => h) (fun _ _ h => h)
    fun _ _ h => absurd h.2 (Nat.not_lt.mpr hlen)).bind fun _ => ?_
  have hmove : ∀ t, ((Towards m goal k tx names seen t ∧ ∃ tx, t.transaction = some tx
      ∧ tx.writeTmp = some bytes) ∧ bytes.length ≤ maxInput) →
      Towards m goal k tx names (seen ++ [name]) (moveTemporary name t) := by
    rintro t ⟨⟨ht, tx', htx, htemporary⟩, -⟩
    have hset := (ht.setMod hname (by rw [hgoal]; nofun)).onTransaction none
    rw [hgoal] at hset
    unfold moveTemporary
    simp only [htx, htemporary]
    exact hset
  exact Spec.step (fun t ht => hC _ _ (hmove t ht)) hmove

/-- **A name is deleted.** -/
theorem deleteTarget_spec (hvalid : validName name = true) (hname : name ∈ names)
    (hgoal : goal name = none) (hC : ∀ seen s, Towards m goal k tx names seen s → C s) :
    Spec (Towards m goal k tx names seen) C (deleteTarget name)
      (fun _ => Towards m goal k tx names (seen ++ [name])) Never := by
  refine (target_spec hvalid fun s hs => hs.files hname).bind fun _ => ?_
  have hset : ∀ s, Towards m goal k tx names seen s →
      Towards m goal k tx names (seen ++ [name]) (s.setMod name none) := by
    intro s hs
    have h := hs.setMod hname (by rw [hgoal]; nofun)
    rwa [hgoal] at h
  exact Spec.step (fun s hs => hC _ _ (hset s hs)) hset

end Towards

/-- **A name of the journal is put back.** -/
theorem restore_spec {tx : TransactionDir} {before : List (String × Option Bool)} {seen : List String}
    (hopen : OpenJournal rt m tx before) (hC : ∀ s, Open rt m k s → C s)
    {e : String × Option Bool} (he : e ∈ before) :
    Spec (Towards m m k tx (before.map (·.1)) seen) C (restore rt e)
      (fun _ => Towards m m k tx (before.map (·.1)) (seen ++ [e.1])) Never := by
  have hcrash : ∀ seen s, Towards m m k tx (before.map (·.1)) seen s → C s :=
    fun _ s ⟨⟨_, h⟩, _⟩ => hC s ⟨_, before, hopen.writeTmp _, h⟩
  have hname := List.mem_map_of_mem (f := (·.1)) he
  unfold restore
  rcases hopen.entries e he with ⟨hfalse, hnone⟩ | ⟨htrue, bytes, hbytes, hlen, hbackup⟩
  · rw [if_neg (by rw [hfalse]; decide)]
    exact deleteTarget_spec (hopen.valid e he) hname hnone hcrash
  · rw [if_pos htrue]
    exact replaceFrom_spec (hopen.valid e he) hname hbackup hlen hbytes hcrash

/-- Where every name has what it has in `goal`, these are the mods. -/
theorem Towards.around {goal : Mods} {tx : TransactionDir} {names : List String} {s : Files}
    (h : Towards m goal k tx names names s) (hothers : ∀ name, name ∉ names → goal name = m name) :
    ∃ tx', tx'.journal = tx.journal ∧ s = Android.around goal k tx' := by
  obtain ⟨⟨temporary, hmarks, htransaction, -, hmods⟩, hseen⟩ := h
  have hgoal : s.mods = goal := by
    funext name
    by_cases hname : name ∈ names
    · exact hseen name hname
    · rw [hmods name hname, hothers name hname]
  refine ⟨{ tx with writeTmp := temporary }, rfl, ?_⟩
  cases s
  cases hgoal
  cases hmarks
  cases htransaction
  rfl

/-- **An open journal is rolled back.** -/
theorem rollBack_spec {tx : TransactionDir} {before : List (String × Option Bool)} {bytes : List Byte}
    (hopen : OpenJournal rt m tx before) (hbytes : tx.journal = some bytes)
    (hC : ∀ s, Open rt m k s → C s) :
    Spec (Changing m k tx (before.map (·.1))) C (rollBack rt tx bytes)
      (fun _ s => ∃ tx, s = around m k tx) Never := by
  obtain ⟨bytes', hjournal, hlen, hparse⟩ := hopen.journal
  obtain rfl : bytes = bytes' := Option.some.inj (hbytes.symm.trans hjournal)
  unfold rollBack
  rw [if_neg (Nat.not_lt.mpr hlen), hparse]
  change Spec _ C (if 8 < before.length then _ else _) _ _
  rw [if_neg (Nat.not_lt.mpr hopen.few)]
  have hmem : ∀ {seen e rest}, before = seen ++ e :: rest → e ∈ before := by
    rintro seen e rest rfl
    exact List.mem_append_right _ List.mem_cons_self
  have hcheck := Spec.forEach (l := before) (C := C) (E := Never) (f := checkBefore tx)
    (fun _ => Changing m k tx (before.map (·.1))) fun _ _ _ hl => checkBefore_spec hopen (hmem hl)
  refine hcheck.bind fun _ => ?_
  have hrestore := Spec.forEach (l := before) (C := C) (E := Never) (f := restore rt)
    (fun seen => Towards m m k tx (before.map (·.1)) (seen.map (·.1))) fun seen e rest hl => by
      rw [List.map_append]
      exact restore_spec hopen hC (hmem hl)
  refine hrestore.weaken (fun s hs => ⟨⟨tx.writeTmp, hs⟩, nofun⟩) (fun _ h => h) (fun _ s hs => ?_)
    fun _ _ h => h
  obtain ⟨tx', -, hs⟩ := hs.around fun _ _ => rfl
  exact ⟨tx', hs⟩

/-- **Recovery leads to the mods a state rests on, never throws, and stays on the way.** -/
theorem recover_spec (rt : JavaRuntime) (m : Mods) (k : Nat) :
    Spec (Rests rt m k) (Rests rt m k) (recover rt) (fun _ => Clean m k) Never := by
  have hfinish : ∀ tx, Spec (· = around m k tx) (Rests rt m k) finish (fun _ => Clean m k) Never :=
    fun tx => finish_spec (fun s hs => .inr (.inl hs)) (.inl rfl)
  refine Spec.get fun s hs => ?_
  rcases hs with hs | ⟨tx, hjournal, rfl⟩ | ⟨tx, before, hopen, hs⟩ | ⟨tx, hcommitted, rfl⟩
  · rw [hs]
    exact Spec.pure fun _ h => h
  · have htransaction : (around m k tx).transaction = some tx := rfl
    simp only [htransaction, hjournal]
    exact hfinish tx
  · obtain ⟨bytes, hjournal, -⟩ := hopen.journal
    simp only [hs.transaction, hjournal, hopen.committed]
    have hback := rollBack_spec (k := k) (C := Rests rt m k) hopen hjournal
      fun s hs => .inr (.inr (.inl hs))
    refine Spec.bind (hback.weaken (fun t ht => ht ▸ hs) (fun _ h => h) (fun _ _ h => h)
      fun _ _ h => h) fun _ => ?_
    rintro t ⟨tx', rfl⟩
    exact hfinish tx' _ rfl
  · obtain ⟨marker, hmarker⟩ := Option.isSome_iff_exists.mp hcommitted
    have htransaction : (around m k tx).transaction = some tx := rfl
    cases hjournal : tx.journal with
    | none =>
      simp only [htransaction, hjournal]
      exact hfinish tx
    | some journal =>
      simp only [htransaction, hjournal, hmarker]
      exact hfinish tx

end Dk64Port.Android
