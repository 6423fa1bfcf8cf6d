import Dk64Port.Archipelago.StageNative
import Dk64Port.Lib.Run

/-!
# The campaign journal is append-only and reloadable

Every call of `receive` and `record` writes the whole document before it publishes the change, and
the constructor validates what it reads. The two have to fit in every state that can be reached.

* `Sound`: what the mutators keep; `loadDocument_document` turns it into what the loader accepts.
* `Kept`: what one call may do to the memory and to the file.
* `receive_kept`, `record_kept`: the two calls.
* `campaign_journal_durable`: every run, with commits that fail wherever they like before the rename.
-/

namespace Dk64Port.Archipelago

open ByteLayout (Byte)
open AtomicFile

variable {pf : Platform} {cat : Catalog} {t : LocationTable} {seed : CampaignSeed}

/-! ## What the loader reads back -/

theorem integer_number {low high n : Int} (hlow : low ≤ n) (hhigh : n ≤ high) :
    Json.integer low high (.number n) = some n := by
  rw [Json.integer, if_pos ⟨hlow, hhigh⟩]

theorem catalogued_range {id : Int} (h : cat.catalogued id) : 0 ≤ id ∧ id ≤ 4294967295 := by
  obtain ⟨item, -, rfl⟩ := h
  have := item.id.isLt
  omega

/-- An item that passed the validation is read back. -/
theorem storedItem_stored {item : Item} (h : checkReceipt cat item = .ok ()) :
    storedItem item.stored = some item := by
  obtain ⟨hp, hp', hf, hf', hcat⟩ := checkReceipt_ok h
  obtain ⟨hi, hi'⟩ := catalogued_range hcat
  obtain ⟨item, location, player, flags, fits⟩ := item
  have hrange := fits
  rw [fitsInt64, Bool.and_eq_true, decide_eq_true_eq, decide_eq_true_eq] at hrange
  simp only [Item.stored, storedItem]
  rw [integer_number hi hi', Option.bind_some, integer_number hrange.1 (by omega),
    Option.bind_some, integer_number hp hp', Option.bind_some, integer_number hf hf',
    Option.bind_some]
  exact dif_pos fits

theorem mapM_storedItem :
    ∀ {items : List Item}, (∀ item ∈ items, checkReceipt cat item = .ok ()) →
      (items.map Item.stored).mapM storedItem = some items
  | [], _ => rfl
  | item :: items, h => by
    rw [List.forall_mem_cons] at h
    rw [List.map_cons, List.mapM_cons, storedItem_stored h.1, mapM_storedItem h.2]
    rfl

/-- One stored check adds the location it was stored for. -/
theorem storedCheck_idAt {selected acc : CheckSet} {i : Nat} {id : Word}
    (hid : t.index id = some i) (hsel : selected.getLsbD i = true) (hacc : acc.getLsbD i = false) :
    storedCheck t selected acc (.number id.toNat) = some (acc ||| 1#896 <<< i) := by
  have hlt := id.isLt
  have hword : BitVec.ofInt 32 (id.toNat : Int) = id := by simp
  unfold storedCheck
  rw [integer_number (by omega) (by omega), Option.bind_some]
  simp only [hword, LocationTable.has_of_index hid, hsel, hacc, LocationTable.add_of_index hid]
  rfl

/-- Storing the locations of a list and reading them back adds exactly these. -/
theorem foldlM_storedCheck {selected : CheckSet} :
    ∀ {l : List Nat} {acc : CheckSet}, l.Nodup →
      (∀ i ∈ l, i < t.count ∧ selected.getLsbD i = true ∧ acc.getLsbD i = false) →
      ∃ set, ((l.filterMap t.idAt).map fun id => Json.number id.toNat).foldlM
          (storedCheck t selected) acc = some set ∧
        ∀ j, set.getLsbD j = (acc.getLsbD j || decide (j ∈ l))
  | [], acc, _, _ => ⟨acc, rfl, by simp⟩
  | i :: l, acc, hnodup, h => by
    rw [List.nodup_cons] at hnodup
    rw [List.forall_mem_cons] at h
    obtain ⟨⟨hlt, hsel, hacc⟩, hrest⟩ := h
    obtain ⟨id, hid, hindex⟩ := LocationTable.exists_idAt hlt
    have hbits : ∀ j ∈ l, j < t.count ∧ selected.getLsbD j = true ∧
        (acc ||| 1#896 <<< i).getLsbD j = false := by
      intro j hj
      have hne : j ≠ i := fun e => hnodup.1 (e ▸ hj)
      obtain ⟨h1, h2, h3⟩ := hrest j hj
      exact ⟨h1, h2, by rw [LocationTable.getLsbD_add_bit hlt, h3, decide_eq_false hne]; rfl⟩
    obtain ⟨set, hfold, hset⟩ := foldlM_storedCheck hnodup.2 hbits
    refine ⟨set, ?_, fun j => ?_⟩
    · rw [List.filterMap_cons_some hid, List.map_cons, List.foldlM_cons,
        storedCheck_idAt hindex hsel hacc]
      exact hfold
    · rw [hset, LocationTable.getLsbD_add_bit hlt, Bool.or_assoc]
      by_cases hj : j = i <;> simp [hj]

/-- A set of selected locations is read back from its ids. -/
theorem foldlM_ids {selected observed : CheckSet} (h : t.subset observed selected) :
    ((t.ids observed).map fun id => Json.number id.toNat).foldlM (storedCheck t selected) 0 =
      some observed := by
  obtain ⟨hvalid, hsub⟩ := LocationTable.subset_iff.mp h
  have hmembers : ∀ i ∈ t.members observed, i < t.count ∧ selected.getLsbD i = true ∧
      (0 : CheckSet).getLsbD i = false := by
    intro i hi
    obtain ⟨hlt, hbit⟩ := LocationTable.mem_members.mp hi
    exact ⟨hlt, hsub i hbit, BitVec.getLsbD_zero⟩
  obtain ⟨set, hfold, hset⟩ :=
    foldlM_storedCheck (LocationTable.members_nodup t observed) hmembers
  have hzero : ∀ j, (0 : CheckSet).getLsbD j = false := fun _ => BitVec.getLsbD_zero
  have heq : set = observed := by
    apply BitVec.eq_of_getLsbD_eq
    intro j _
    rw [hset, hzero, Bool.false_or]
    by_cases hlt : j < t.count
    · cases hbit : observed.getLsbD j <;> simp [LocationTable.mem_members, hlt, hbit]
    · rw [LocationTable.valid_iff.mp hvalid j (by omega)]
      simp [LocationTable.mem_members, hlt]
  rw [LocationTable.ids, hfold, heq]

/-! ## What the mutators keep -/

theorem foldlM_size :
    ∀ {locations : List Int} {acc selected : CheckSet},
      locations.foldlM (fun selected id =>
        if id < 0 ∨ 4294967295 < id then none else t.add selected (BitVec.ofInt 32 id)) acc =
          some selected → t.size selected ≤ t.size acc + locations.length
  | [], acc, selected, h => by
    obtain rfl := Option.some.inj h
    exact Nat.le_refl _
  | id :: locations, acc, selected, h => by
    rw [List.foldlM_cons] at h
    obtain ⟨next, hnext, h⟩ := Option.bind_eq_some_iff.mp h
    simp only [Option.ite_none_left_eq_some] at hnext
    have h1 := LocationTable.size_add hnext.2
    have h2 := foldlM_size h
    rw [List.length_cons]
    omega

theorem size_zero (t : LocationTable) : t.size 0 = 0 := by
  rw [LocationTable.size, List.length_eq_zero_iff, List.eq_nil_iff_forall_not_mem]
  intro i hi
  obtain ⟨-, hbit⟩ := LocationTable.mem_members.mp hi
  exact absurd (hbit.symm.trans BitVec.getLsbD_zero) (by decide)

/-- What holds of the memory: the validators of both mutators have passed for all of it. -/
structure Sound (cat : Catalog) (t : LocationTable) (state : CampaignJournalState) : Prop where
  selected : selectedChecks t state.seed = some state.selected
  receipts : campaignReceipts cat state.items = .ok ()
  observed : t.subset state.observed state.selected

/-- **The loader accepts what the mutators write**, and reads the same memory. -/
theorem loadDocument_document {state : CampaignJournalState} (h : Sound cat t state) :
    loadDocument cat t state.seed state.selected (state.document t) =
      some (state.items, state.observed) := by
  obtain ⟨hfew, hall⟩ := campaignReceipts_eq_ok_iff.mp h.receipts
  have hsize : t.size state.selected ≤ state.seed.locations.length := by
    have := foldlM_size h.selected
    rw [size_zero] at this
    omega
  have hchecks : ((t.ids state.observed).map fun id => Json.number id.toNat).length ≤
      state.seed.locations.length := by
    rw [List.length_map]
    exact (LocationTable.ids_length t _).trans
      ((LocationTable.size_mono h.observed).trans hsize)
  have hitems : (state.items.map Item.stored).length ≤ itemLimit := by
    rw [List.length_map]
    exact hfew
  unfold CampaignJournalState.document journalDocument loadDocument
  simp only [List.length_cons, List.length_nil, Nat.zero_add, Nat.reduceAdd, ne_eq, not_true,
    if_false, Json.field, String.reduceEq, if_true]
  rw [if_neg (by simp only [false_or]; omega), mapM_storedItem hall, Option.bind_some]
  simp only [h.receipts, foldlM_ids h.observed, Option.map_some]

/-! ## One commit -/

/-- A commit publishes all of the document, or leaves the file as it was. -/
theorem commit_cases (hsettled : ∀ n, pf.settled n = true) (data : Json) (w : JournalStorage) :
    (w.commit pf data).2.state = w.state ∧
      ((w.commit pf data).1 = true ∧ (w.commit pf data).2.disk.target = some (pf.dump data) ∧
          (pf.dump data).length ≤ messageLimit ∨
        (w.commit pf data).1 = false ∧ (w.commit pf data).2.disk.target = w.disk.target) := by
  unfold JournalStorage.commit
  by_cases hlong : (pf.dump data).length > messageLimit
  · rw [if_pos hlong]
    exact ⟨rfl, .inr ⟨rfl, rfl⟩⟩
  · rw [if_neg hlong]
    refine ⟨rfl, ?_⟩
    simp only [hsettled, Bool.and_true]
    cases hsucceeds : ({ pf.attempts w.tried with removed := false } : Attempt).succeeds with
    | true => exact .inl ⟨rfl, replace_of_succeeds hsucceeds, by omega⟩
    | false => exact .inr ⟨rfl, replace_of_fails hsucceeds⟩

/-! ## The two mutators -/

/-- A call into the journal. -/
inductive JournalCall where
  | receive (index : Nat) (incoming : List Item)
  | record (observed : CheckSet)
deriving DecidableEq

/-- What the call returns, and what it leaves. -/
def JournalCall.perform (pf : Platform) (cat : Catalog) (t : LocationTable) (w : JournalStorage) :
    JournalCall → Except Thrown Bool × JournalStorage
  | receive index incoming => w.receive pf cat t index incoming
  | record observed => w.record pf t observed

/-- The journal as a machine over its calls. -/
def journalStep (pf : Platform) (cat : Catalog) (t : LocationTable) (w : JournalStorage)
    (call : JournalCall) : JournalStorage := (call.perform pf cat t w).2

/-- What a call that is not refused makes of the memory. -/
def JournalCall.Accepts (cat : Catalog) (t : LocationTable) (before after : CampaignJournalState) :
    JournalCall → Prop
  | receive index incoming =>
    campaignReceipts cat incoming = .ok () ∧ index + incoming.length ≤ itemLimit ∧
      index ≤ before.items.length ∧ incoming <+: after.items.drop index ∧
      after = { before with
        items := before.items ++ incoming.drop (before.items.length - index) }
  | record observed =>
    t.subset observed before.selected ∧
      after = { before with observed := before.observed ||| observed }

/-- How a call ends. -/
inductive Ends (pf : Platform) (t : LocationTable) (accepts : CampaignJournalState → Prop)
    (w : JournalStorage) : Except Thrown Bool × JournalStorage → Prop
  | refused (e : Thrown) (r : JournalStorage) (hstate : r.state = w.state)
      (hdisk : r.disk.target = w.disk.target) : Ends pf t accepts w (.error e, r)
  | unchanged (hstate : accepts w.state) : Ends pf t accepts w (.ok false, w)
  | published (r : JournalStorage) (hstate : accepts r.state)
      (hdisk : r.disk.target = some (pf.dump (r.state.document t)))
      (hfits : (pf.dump (r.state.document t)).length ≤ messageLimit) :
      Ends pf t accepts w (.ok true, r)

/-- The end of a call that persists a change and then publishes it. -/
theorem persist_ends (hsettled : ∀ n, pf.settled n = true) {w : JournalStorage}
    {items : List Item} {observed : CheckSet} {accepts : CampaignJournalState → Prop}
    (publish : CampaignJournalState → CampaignJournalState) (haccepts : accepts (publish w.state))
    (hdocument : journalDocument t w.state.seed items observed = (publish w.state).document t) :
    Ends pf t accepts w
      (if (w.persist pf t items observed).1 then
        (return true, { (w.persist pf t items observed).2 with
          state := publish (w.persist pf t items observed).2.state })
      else (throw (.failure .storage), (w.persist pf t items observed).2)) := by
  obtain ⟨hstate, ⟨hok, hdisk, hfits⟩ | ⟨hok, hdisk⟩⟩ :=
    commit_cases hsettled (journalDocument t w.state.seed items observed) w
  · rw [JournalStorage.persist, if_pos hok, hstate]
    rw [hdocument] at hdisk hfits
    exact .published _ haccepts (by rw [hdocument]; exact hdisk) hfits
  · rw [JournalStorage.persist, if_neg (by rw [hok]; decide)]
    exact .refused _ _ hstate hdisk

/-- What an accepted list and the list it is laid over have in common. -/
theorem prefix_of_overlap {items incoming : List Item} {index : Nat}
    (h : incoming.take (min incoming.length (items.length - index)) =
      (items.drop index).take (min incoming.length (items.length - index)))
    (hindex : index ≤ items.length) :
    incoming <+: (items ++ incoming.drop (items.length - index)).drop index := by
  rw [List.drop_append_of_le_length hindex]
  rcases Nat.le_total incoming.length (items.length - index) with hle | hle
  · rw [Nat.min_eq_left hle, List.take_length] at h
    rw [List.drop_eq_nil_of_le hle, List.append_nil, h]
    exact List.take_prefix _ _
  · have hlen : (items.drop index).length = items.length - index := List.length_drop
    rw [Nat.min_eq_right hle, ← hlen, List.take_length, hlen] at h
    rw [← h, List.take_append_drop]

theorem receive_ends (hsettled : ∀ n, pf.settled n = true) (index : Nat) (incoming : List Item)
    (w : JournalStorage) :
    Ends pf t ((JournalCall.receive index incoming).Accepts cat t w.state) w
      (w.receive pf cat t index incoming) := by
  unfold JournalStorage.receive
  split
  · exact .refused _ _ rfl rfl
  rename_i hlimit
  split
  · exact .refused _ _ rfl rfl
  rename_i hreceipts
  simp only
  split
  · exact .refused _ _ rfl rfl
  rename_i hindex
  split
  · exact .refused _ _ rfl rfl
  rename_i hoverlap
  have hle : index ≤ w.state.items.length := by omega
  have hdrop : incoming.drop (min incoming.length (w.state.items.length - index)) =
      incoming.drop (w.state.items.length - index) := by
    rcases Nat.le_total incoming.length (w.state.items.length - index) with h | h
    · rw [Nat.min_eq_left h, List.drop_eq_nil_of_le (Nat.le_refl _), List.drop_eq_nil_of_le h]
    · rw [Nat.min_eq_right h]
  have hprefix := prefix_of_overlap (not_not.mp hoverlap) hle
  have haccepts : (JournalCall.receive index incoming).Accepts cat t w.state
      { w.state with items := w.state.items ++ incoming.drop (w.state.items.length - index) } :=
    ⟨hreceipts, by omega, hle, hprefix, rfl⟩
  rw [hdrop]
  split
  · rename_i hsame
    rw [hsame] at haccepts
    exact .unchanged haccepts
  · exact persist_ends hsettled (fun state => { state with items := _ }) haccepts rfl

theorem record_ends (hsettled : ∀ n, pf.settled n = true) (observed : CheckSet)
    (w : JournalStorage) :
    Ends pf t ((JournalCall.record observed).Accepts cat t w.state) w
      (w.record pf t observed) := by
  unfold JournalStorage.record
  split
  · exact .refused _ _ rfl rfl
  rename_i hsubset
  rw [Bool.not_eq_true, Bool.not_eq_false'] at hsubset
  have haccepts : (JournalCall.record observed).Accepts cat t w.state
      { w.state with observed := w.state.observed ||| observed } := ⟨hsubset, rfl⟩
  simp only
  split
  · rename_i hsame
    rw [hsame] at haccepts
    exact .unchanged haccepts
  · exact persist_ends hsettled (fun state => { state with observed := _ }) haccepts rfl

/-! ## Every reachable memory is one the loader accepts -/

/-- What the loader reads is inside the selected locations. -/
theorem storedCheck_subset {selected acc set : CheckSet} {value : Json}
    (h : t.subset acc selected) (hvalue : storedCheck t selected acc value = some set) :
    t.subset set selected := by
  obtain ⟨id, -, hid⟩ := Option.bind_eq_some_iff.mp hvalue
  simp only [Option.ite_none_left_eq_some] at hid
  obtain ⟨hfresh, hid⟩ := hid
  rw [Bool.or_eq_true, not_or, Bool.not_eq_true, Bool.not_eq_false'] at hfresh
  obtain ⟨i, hindex, rfl⟩ := Option.map_eq_some_iff.mp hid
  obtain ⟨hvalid, hbits⟩ := LocationTable.subset_iff.mp h
  have hlt := LocationTable.index_lt hindex
  have hhas := hfresh.1
  rw [LocationTable.has_of_index hindex] at hhas
  refine LocationTable.subset_iff.mpr ⟨LocationTable.valid_iff.mpr fun j hj => ?_, fun j hj => ?_⟩
  · rw [LocationTable.getLsbD_add_bit hlt, LocationTable.valid_iff.mp hvalid j hj,
      decide_eq_false (by omega : j ≠ i)]
    rfl
  · rw [LocationTable.getLsbD_add_bit hlt, Bool.or_eq_true, decide_eq_true_eq] at hj
    rcases hj with hj | rfl
    · exact hbits j hj
    · exact hhas

theorem foldlM_storedCheck_subset {selected : CheckSet} :
    ∀ {values : List Json} {acc set : CheckSet}, t.subset acc selected →
      values.foldlM (storedCheck t selected) acc = some set → t.subset set selected
  | [], acc, set, h, hfold => Option.some.inj hfold ▸ h
  | value :: values, acc, set, h, hfold => by
    rw [List.foldlM_cons] at hfold
    obtain ⟨next, hnext, hfold⟩ := Option.bind_eq_some_iff.mp hfold
    exact foldlM_storedCheck_subset (storedCheck_subset h hnext) hfold

theorem loadDocument_sound {selected observed : CheckSet} {items : List Item} {saved : Json}
    (h : loadDocument cat t seed selected saved = some (items, observed)) :
    campaignReceipts cat items = .ok () ∧ t.subset observed selected := by
  unfold loadDocument at h
  split at h
  · split at h
    · cases h
    split at h
    · split at h
      · cases h
      obtain ⟨loaded, -, h⟩ := Option.bind_eq_some_iff.mp h
      split at h
      · cases h
      rename_i hreceipts
      obtain ⟨set, hfold, heq⟩ := Option.map_eq_some_iff.mp h
      cases heq
      exact ⟨hreceipts, foldlM_storedCheck_subset (LocationTable.subset_zero t selected) hfold⟩
    · cases h
  · cases h

namespace JournalCall

variable {before after : CampaignJournalState} {call : JournalCall}

theorem Accepts.sound (h : call.Accepts cat t before after) (hb : Sound cat t before) :
    Sound cat t after := by
  cases call with
  | receive index incoming =>
    obtain ⟨hreceipts, hlimit, hindex, -, rfl⟩ := h
    obtain ⟨hlen, hall⟩ := campaignReceipts_eq_ok_iff.mp hb.receipts
    obtain ⟨-, hall'⟩ := campaignReceipts_eq_ok_iff.mp hreceipts
    refine ⟨hb.selected, campaignReceipts_eq_ok_iff.mpr ⟨?_, fun receipt hmem => ?_⟩, hb.observed⟩
    · show (before.items ++ incoming.drop (before.items.length - index)).length ≤ itemLimit
      rw [List.length_append, List.length_drop]
      omega
    · rcases List.mem_append.mp hmem with hmem | hmem
      · exact hall receipt hmem
      · exact hall' receipt (List.mem_of_mem_drop hmem)
  | record observed =>
    obtain ⟨hsubset, rfl⟩ := h
    exact ⟨hb.selected, hb.receipts, LocationTable.subset_or hb.observed hsubset⟩

theorem Accepts.items (h : call.Accepts cat t before after) : before.items <+: after.items := by
  cases call with
  | receive index incoming =>
    obtain ⟨-, -, -, -, rfl⟩ := h
    exact List.prefix_append _ _
  | record observed =>
    obtain ⟨-, rfl⟩ := h
    exact List.prefix_rfl

theorem Accepts.observed (h : call.Accepts cat t before after) (hb : Sound cat t before) :
    t.subset before.observed after.observed := by
  have hvalid := LocationTable.subset_valid hb.observed
  cases call with
  | receive index incoming =>
    obtain ⟨-, -, -, -, rfl⟩ := h
    exact LocationTable.subset_iff.mpr ⟨hvalid, fun _ hi => hi⟩
  | record observed =>
    obtain ⟨-, rfl⟩ := h
    refine LocationTable.subset_iff.mpr ⟨hvalid, fun i hi => ?_⟩
    rw [BitVec.getLsbD_or, hi, Bool.true_or]

theorem Accepts.seed_eq (h : call.Accepts cat t before after) :
    after.seed = before.seed ∧ after.selected = before.selected := by
  cases call with
  | receive index incoming =>
    obtain ⟨-, -, -, -, rfl⟩ := h
    exact ⟨rfl, rfl⟩
  | record observed =>
    obtain ⟨-, rfl⟩ := h
    exact ⟨rfl, rfl⟩

end JournalCall

/-! ## Reloading -/

/-- Constructing the state from the file gives the memory. -/
def Reloads (pf : Platform) (cat : Catalog) (t : LocationTable) (w : JournalStorage) : Prop :=
  (JournalStorage.opened pf cat t w.state.seed w.disk).map (·.state) = some w.state

/-- The JSON library reads back the document of the memory. -/
def ReadsBack (pf : Platform) (t : LocationTable) (state : CampaignJournalState) : Prop :=
  pf.parse (pf.dump (state.document t)) = some (state.document t)

/-- The file holds a document that the loader reads as the memory. -/
structure Held (pf : Platform) (cat : Catalog) (t : LocationTable) (w : JournalStorage) : Prop where
  sound : Sound cat t w.state
  file : ∃ saved, saved ≠ .null ∧ JournalStorage.load pf w.disk.target = some saved ∧
    loadDocument cat t w.state.seed w.state.selected saved = some (w.state.items, w.state.observed)

theorem Held.reloads {w : JournalStorage} (h : Held pf cat t w) : Reloads pf cat t w := by
  obtain ⟨hsound, saved, hnull, hload, hsaved⟩ := h
  unfold Reloads JournalStorage.opened
  rw [hsound.selected, Option.bind_some, hload]
  cases saved with
  | null => exact absurd rfl hnull
  | _ => simp only [hsaved, Option.map_some]

theorem held_of_document {w : JournalStorage} (hsound : Sound cat t w.state)
    (hread : ReadsBack pf t w.state) (hdisk : w.disk.target = some (pf.dump (w.state.document t)))
    (hfits : (pf.dump (w.state.document t)).length ≤ messageLimit) : Held pf cat t w := by
  refine ⟨hsound, w.state.document t, (fun h => nomatch h), ?_, loadDocument_document hsound⟩
  rw [hdisk, JournalStorage.load]
  simp only [if_neg (Nat.not_lt.mpr hfits)]
  exact hread

/-- The constructor leaves a file that it reads back. -/
theorem opened_held (hsettled : ∀ n, pf.settled n = true) {disk : Disk Byte} {w : JournalStorage}
    (hopen : JournalStorage.opened pf cat t seed disk = some w) (hread : ReadsBack pf t w.state) :
    Held pf cat t w := by
  obtain ⟨selected, hselected, hopen⟩ := Option.bind_eq_some_iff.mp hopen
  simp only at hopen
  split at hopen
  · cases hopen
  · obtain ⟨hstate, ⟨hok, hdisk, hfits⟩ | ⟨hok, hdisk⟩⟩ := commit_cases hsettled
      (journalDocument t seed [] 0) { state := { seed := seed, selected := selected }, disk := disk }
    · rw [JournalStorage.persist, if_pos hok] at hopen
      obtain rfl := Option.some.inj hopen
      refine held_of_document ?_ hread ?_ ?_
      · rw [hstate]
        exact ⟨hselected, rfl, LocationTable.subset_zero t selected⟩
      · rw [hdisk, hstate]
        rfl
      · rw [hstate]
        exact hfits
    · rw [JournalStorage.persist, if_neg (by rw [hok]; decide)] at hopen
      cases hopen
  · rename_i saved hnull hload
    obtain ⟨loaded, hloaded, rfl⟩ := Option.map_eq_some_iff.mp hopen
    obtain ⟨hreceipts, hobserved⟩ := loadDocument_sound hloaded
    exact ⟨⟨hselected, hreceipts, hobserved⟩, saved, fun h => hnull h, hload, hloaded⟩

/-! ## Every run -/

/-- What one call keeps. -/
structure Kept (pf : Platform) (cat : Catalog) (t : LocationTable) (w : JournalStorage)
    (call : JournalCall) : Prop where
  /-- The list so far is a prefix of the new one. -/
  items : w.state.items <+: (journalStep pf cat t w call).state.items
  /-- An accepted list is the list at its index. -/
  accepted : ∀ index incoming changed, call = .receive index incoming →
    (call.perform pf cat t w).1 = .ok changed →
      incoming <+: (journalStep pf cat t w call).state.items.drop index
  /-- An accepted set of checks is recorded. -/
  recorded : ∀ observed changed, call = .record observed →
    (call.perform pf cat t w).1 = .ok changed →
      t.subset observed (journalStep pf cat t w call).state.observed
  grows : t.subset w.state.observed (journalStep pf cat t w call).state.observed
  selected : t.subset (journalStep pf cat t w call).state.observed w.state.selected
  binding : (journalStep pf cat t w call).state.seed = w.state.seed ∧
    (journalStep pf cat t w call).state.selected = w.state.selected
  /-- A refused call leaves the memory and the file. -/
  refused : ∀ e, (call.perform pf cat t w).1 = .error e →
    (journalStep pf cat t w call).state = w.state ∧
      (journalStep pf cat t w call).disk.target = w.disk.target
  /-- The file holds the memory. -/
  reloads : Reloads pf cat t (journalStep pf cat t w call)

theorem perform_ends (hsettled : ∀ n, pf.settled n = true) (w : JournalStorage) :
    ∀ call : JournalCall,
      Ends pf t (call.Accepts cat t w.state) w (call.perform pf cat t w)
  | .receive index incoming => receive_ends hsettled index incoming w
  | .record observed => record_ends hsettled observed w

namespace Ends

variable {accepts : CampaignJournalState → Prop} {w : JournalStorage}
  {r : Except Thrown Bool × JournalStorage}

theorem accepted (h : Ends pf t accepts w r) {changed : Bool} (hok : r.1 = .ok changed) :
    accepts r.2.state := by
  cases h with
  | refused => cases hok
  | unchanged hstate => exact hstate
  | published _ hstate => exact hstate

theorem same (h : Ends pf t accepts w r) {e : Thrown} (herror : r.1 = .error e) :
    r.2.state = w.state ∧ r.2.disk.target = w.disk.target := by
  cases h with
  | refused _ _ hstate hdisk => exact ⟨hstate, hdisk⟩
  | unchanged => cases herror
  | published => cases herror

theorem state (h : Ends pf t accepts w r) : r.2.state = w.state ∨ accepts r.2.state := by
  cases h with
  | refused _ _ hstate => exact .inl hstate
  | unchanged => exact .inl rfl
  | published _ hstate => exact .inr hstate

theorem held (h : Ends pf t accepts w r) (hw : Held pf cat t w)
    (hsound : ∀ after, accepts after → Sound cat t after) (hread : ReadsBack pf t r.2.state) :
    Held pf cat t r.2 := by
  cases h with
  | refused _ _ hstate hdisk =>
    obtain ⟨hsound, hfile⟩ := hw
    rw [← hstate] at hsound
    simp only [← hstate, ← hdisk] at hfile
    exact ⟨hsound, hfile⟩
  | unchanged => exact hw
  | published _ hstate hdisk hfits => exact held_of_document (hsound _ hstate) hread hdisk hfits

end Ends

/-- The file holds the memory after a call. -/
theorem step_held (hsettled : ∀ n, pf.settled n = true) {w : JournalStorage} {call : JournalCall}
    (h : Held pf cat t w) (hread : ReadsBack pf t (journalStep pf cat t w call).state) :
    Held pf cat t (journalStep pf cat t w call) :=
  (perform_ends hsettled w call).held h (fun _ ha => ha.sound h.sound) hread

/-- No call touches the seed, nor the checks it selects. -/
theorem step_seed (hsettled : ∀ n, pf.settled n = true) (w : JournalStorage) (call : JournalCall) :
    (journalStep pf cat t w call).state.seed = w.state.seed ∧
      (journalStep pf cat t w call).state.selected = w.state.selected := by
  rcases (perform_ends hsettled w call).state with hstate | haccepts
  · rw [journalStep, hstate]
    exact ⟨rfl, rfl⟩
  · exact haccepts.seed_eq

/-- **One call.** -/
theorem step_kept (hsettled : ∀ n, pf.settled n = true) {w : JournalStorage} {call : JournalCall}
    (h : Held pf cat t w) (hread : ReadsBack pf t (journalStep pf cat t w call).state) :
    Kept pf cat t w call := by
  have hends : Ends pf t (call.Accepts cat t w.state) w (call.perform pf cat t w) :=
    perform_ends hsettled w call
  have hheld := step_held hsettled h hread
  have hvalid := LocationTable.subset_valid h.sound.observed
  have hsame : (journalStep pf cat t w call).state.seed = w.state.seed ∧
      (journalStep pf cat t w call).state.selected = w.state.selected := step_seed hsettled w call
  refine ⟨?_, ?_, ?_, ?_, hsame.2 ▸ hheld.sound.observed, hsame, fun e he => hends.same he,
    hheld.reloads⟩
  · rcases hends.state with hstate | haccepts
    · rw [journalStep, hstate]
    · exact haccepts.items
  · rintro index incoming changed rfl hok
    obtain ⟨-, -, -, hprefix, -⟩ := hends.accepted hok
    exact hprefix
  · rintro observed changed rfl hok
    obtain ⟨hsubset, hstate⟩ := hends.accepted hok
    rw [journalStep, hstate]
    refine LocationTable.subset_iff.mpr ⟨LocationTable.subset_valid hsubset, fun i hi => ?_⟩
    rw [BitVec.getLsbD_or, hi, Bool.or_true]
  · rcases hends.state with hstate | haccepts
    · rw [journalStep, hstate]
      exact LocationTable.subset_iff.mpr ⟨hvalid, fun _ hi => hi⟩
    · exact haccepts.observed h.sound

/-- Every call of a run, from a file that holds the memory. -/
theorem along_kept (hsettled : ∀ n, pf.settled n = true) :
    ∀ {calls : List JournalCall} {w : JournalStorage}, Held pf cat t w →
      (∀ pre, pre <+: calls → ReadsBack pf t (Run.run (journalStep pf cat t) w pre).state) →
      Run.Along (journalStep pf cat t) (Kept pf cat t) w calls
  | [], _, _, _ => trivial
  | call :: calls, w, h, hread => by
    have hone := hread [call] (List.cons_prefix_cons.mpr ⟨rfl, List.nil_prefix⟩)
    refine ⟨step_kept hsettled h hone, along_kept hsettled (step_held hsettled h hone) ?_⟩
    intro pre hpre
    exact hread (call :: pre) (List.cons_prefix_cons.mpr ⟨rfl, hpre⟩)

/-- **The journal is append-only and reloadable**: in every run of calls, with commits that fail
wherever they like before the rename, every call keeps what is in the list and in the set of
checks, a refused call changes nothing, and the file holds the memory. -/
theorem campaign_journal_durable (pf : Platform) (cat : Catalog) (t : LocationTable)
    (seed : CampaignSeed) (disk : Disk Byte) (w : JournalStorage) (calls : List JournalCall)
    (hsettled : ∀ n, pf.settled n = true)
    (hopen : JournalStorage.opened pf cat t seed disk = some w)
    (hjson : ∀ pre, pre <+: calls →
      ReadsBack pf t (Run.run (journalStep pf cat t) w pre).state) :
    Reloads pf cat t w ∧ Run.Along (journalStep pf cat t) (Kept pf cat t) w calls := by
  have hheld : Held pf cat t w := opened_held hsettled hopen (hjson [] List.nil_prefix)
  exact ⟨hheld.reloads, along_kept hsettled hheld hjson⟩

/-! ## A run on a fresh file -/

mutual

/-- `Json::dump`, for strings without escapes. -/
def Json.text : Json → List Char
  | .null => "null".toList
  | .boolean value => (toString value).toList
  | .number value => (toString value).toList
  | .string value => '"' :: value.toList ++ ['"']
  | .array values => '[' :: Json.valueTexts values ++ [']']
  | .object fields => '\x7b' :: Json.fieldTexts fields ++ ['\x7d']

/-- The values of an array. -/
def Json.valueTexts : List Json → List Char
  | [] => []
  | [value] => value.text
  | value :: values => value.text ++ ',' :: Json.valueTexts values

/-- The fields of an object. -/
def Json.fieldTexts : List (String × Json) → List Char
  | [] => []
  | [(key, value)] => '"' :: key.toList ++ '"' :: ':' :: value.text
  | (key, value) :: fields =>
    '"' :: key.toList ++ '"' :: ':' :: value.text ++ ',' :: Json.fieldTexts fields

end

/-- The text of a document. -/
def Json.bytes (json : Json) : List Byte := json.text.map fun c => BitVec.ofNat 8 c.toNat

/-- The journal of `victoryJournal` before its receipt. -/
def emptyJournal : CampaignJournalState := { seed := victoryJournal.seed }

/-- A library that reads the documents of the run back, and commits that succeed. -/
def pocketPlatform : Platform where
  dump := Json.bytes
  parse bytes :=
    if bytes = (emptyJournal.document emptyTable).bytes then some (emptyJournal.document emptyTable)
    else if bytes = (victoryJournal.document emptyTable).bytes then
      some (victoryJournal.document emptyTable)
    else none
  attempts _ := {}

/-- The fresh file. -/
def pocketStorage : JournalStorage where
  state := emptyJournal
  disk := { target := some (emptyJournal.document emptyTable).bytes }
  tried := 1

/-! ## A run with an overlap and a failing commit -/

/-- A table of two locations. -/
def durableTable : LocationTable :=
  ⟨[⟨14041001, 100, .stockFlag⟩, ⟨14041002, 101, .event⟩], [], by decide, by decide⟩

/-- A seed that selects both. -/
def durableSeed : CampaignSeed := ⟨Vector.replicate 16 0, [14041001, 14041002]⟩

/-- Victory, Climbing, and a golden banana. -/
def durableItem (i : Nat) : Item :=
  ⟨[14041088, 14041100].getD i 14041270, 14041140, 1, 0, fits_pocket⟩

/-- The second list overlaps the first, and what the fourth call brings is not written. -/
def durableCalls : List JournalCall :=
  [.receive 0 [durableItem 0], .receive 0 [durableItem 0, durableItem 1], .record 1,
    .receive 2 [durableItem 2], .receive 1 [durableItem 1, durableItem 2]]

/-- What the journal holds, call by call. -/
def durableRecords : List (List Item × CheckSet) :=
  [([], 0), ([durableItem 0], 0), ([durableItem 0, durableItem 1], 0),
    ([durableItem 0, durableItem 1], 1), ([durableItem 0, durableItem 1, durableItem 2], 1)]

/-- The document with a record. -/
def durableDocument (r : List Item × CheckSet) : Json :=
  journalDocument durableTable durableSeed r.1 r.2

/-- A library that reads the documents of the run back; the fifth commit is not renamed. -/
def durablePlatform : Platform where
  dump := Json.bytes
  parse bytes :=
    (durableRecords.find? fun r => (durableDocument r).bytes = bytes).map durableDocument
  attempts n := { renamed := n ≠ 4 }

/-- The fresh file. -/
def durableStorage : JournalStorage where
  state := { seed := durableSeed, selected := 3 }
  disk := { target := some (durableDocument ([], 0)).bytes }
  tried := 1

theorem find?_distinct {α β : Type} [DecidableEq β] {f : α → β} {as : List α} (h : (as.map f).Nodup) :
    ∀ a ∈ as, as.find? (fun x => f x = f a) = some a := by
  induction as with
  | nil => exact fun _ ha => absurd ha List.not_mem_nil
  | cons b bs ih =>
    rw [List.map_cons, List.nodup_cons] at h
    intro a ha
    rcases List.mem_cons.mp ha with rfl | ha
    · exact List.find?_cons_of_pos (by simp)
    · rw [List.find?_cons_of_neg, ih h.2 a ha]
      intro heq
      exact h.1 (List.mem_map.mpr ⟨a, ha, (of_decide_eq_true heq).symm⟩)

/-- A commit that nothing hinders. -/
theorem commit_fits {data : Json} {w : JournalStorage} (hfits : (pf.dump data).length ≤ messageLimit)
    (hattempt : pf.attempts w.tried = {}) (hsettled : pf.settled w.tried = true) :
    w.commit pf data =
      (true, { w with disk := { target := some (pf.dump data) }, tried := w.tried + 1 }) := by
  unfold JournalStorage.commit
  rw [hattempt, hsettled]
  exact if_neg (Nat.not_lt.mpr hfits)

theorem opened_durableStorage :
    JournalStorage.opened durablePlatform pocketCatalog durableTable durableSeed {} =
      some durableStorage := by
  have hselected : selectedChecks durableTable durableSeed = some 3 := by decide +kernel
  have hcommit : JournalStorage.persist durablePlatform durableTable [] 0
      { state := { seed := durableSeed, selected := 3 }, disk := {} } = (true, durableStorage) :=
    commit_fits (by decide +kernel) rfl rfl
  unfold JournalStorage.opened
  rw [hselected, Option.bind_some]
  simp only [JournalStorage.load]
  rw [hcommit]
  rfl

theorem seed_durable (calls : List JournalCall) :
    (Run.run (journalStep durablePlatform pocketCatalog durableTable) durableStorage calls).state.seed =
      durableSeed :=
  Run.run_invariant_of_steps
    (I := fun w : JournalStorage => w.state.seed = durableSeed)
    (fun w call h => (step_seed (fun _ => rfl) w call).1.trans h) rfl calls

theorem readsBack_record {state : CampaignJournalState} (hseed : state.seed = durableSeed)
    (hrecord : (state.items, state.observed) ∈ durableRecords) :
    ReadsBack durablePlatform durableTable state := by
  have hdistinct : (durableRecords.map fun r => (durableDocument r).bytes).Nodup := by decide +kernel
  have hread := find?_distinct hdistinct _ hrecord
  have hdocument : state.document durableTable = durableDocument (state.items, state.observed) := by
    rw [CampaignJournalState.document, durableDocument, hseed]
  rw [ReadsBack, hdocument]
  unfold durablePlatform
  simp only [hread, Option.map_some]

theorem readsBack_durable (pre : List JournalCall) (h : pre <+: durableCalls) :
    ReadsBack durablePlatform durableTable
      (Run.run (journalStep durablePlatform pocketCatalog durableTable) durableStorage pre).state := by
  have hall : ∀ pre ∈ durableCalls.inits,
      ((Run.run (journalStep durablePlatform pocketCatalog durableTable) durableStorage pre).state.items,
        (Run.run (journalStep durablePlatform pocketCatalog durableTable) durableStorage
          pre).state.observed) ∈ durableRecords := by
    decide +kernel
  exact readsBack_record (seed_durable pre) (hall pre ((List.mem_inits _ _).mpr h))

/-- The journal on its way: the overlap is not stored twice, and the failing commit leaves no trace. -/
theorem campaign_journal_durable_overlap :
    durableCalls.inits.map (fun pre =>
      let w := Run.run (journalStep durablePlatform pocketCatalog durableTable) durableStorage pre
      (w.state.items.length, w.state.observed.toNat)) =
        [(0, 0), (1, 0), (2, 0), (2, 1), (2, 1), (3, 1)] ∧
      Reloads durablePlatform pocketCatalog durableTable durableStorage ∧
      Run.Along (journalStep durablePlatform pocketCatalog durableTable)
        (Kept durablePlatform pocketCatalog durableTable) durableStorage durableCalls :=
  ⟨by decide +kernel,
    campaign_journal_durable durablePlatform pocketCatalog durableTable durableSeed {} durableStorage
      durableCalls (fun _ => rfl) opened_durableStorage readsBack_durable⟩

end Dk64Port.Archipelago
