import Dk64Port.Coop.TransientCapture
import Mathlib.Algebra.Group.Nat.Defs

/-!
# The sources of a room (`mod/transient_game.h`)

Every source lists valid records of its own kind and key, and no two sources of a room share both.
The sampled frame of a page is therefore the records of its present sources, in order.

* `visitAll_spec`: a pass over sources lists those of its page that are present.
* `sources_sound`, `sources_nodup`: what holds of every source of a room.
* `sampleRoom_spec`: the sampled page.
-/

namespace Dk64Port.Coop

/-- What the receiver tells two records of a frame apart by. -/
def CoopTransientRecord.id (r : CoopTransientRecord) : Word × Word := (r.kind, r.key)

namespace Source

/-- Kind and key. -/
def id (src : Source) : Word × Word := (src.kind, src.key)

/-- The source would be sampled now. -/
def present (src : Source) : Bool := (src.sample {}).1.isSome

/-- A source lists valid records of its own kind and key only, and the passage latch does not
decide whether it does. -/
structure Sound (src : Source) : Prop where
  valid : ∀ p r q, src.sample p = (some r, q) → r.id = src.id ∧ validRecord r = true
  steady : ∀ p, (src.sample p).1.isSome = src.present

end Source

/-! ## A pass over the sources -/

variable {room : GameRoom} {page : Nat} {s : Sampling} {l : List Source} {src : Source}

/-- The sources of the page that list a record, when the first ordinal is `n`. -/
def listed (page n : Nat) (l : List Source) : List Source :=
  ((l.zipIdx n).filter fun e => e.2 / coopTransientRecords == page && e.1.present).map (·.1)

theorem listed_cons (page n : Nat) (src : Source) (l : List Source) :
    listed page n (src :: l) =
      if n / coopTransientRecords = page ∧ src.present = true then src :: listed page (n + 1) l
      else listed page (n + 1) l := by
  rw [listed, List.zipIdx_cons, List.filter_cons]
  by_cases h : n / coopTransientRecords = page ∧ src.present = true
  · rw [if_pos h, if_pos (by simpa using h), List.map_cons, listed]
  · rw [if_neg h, if_neg (by simpa using h), listed]

theorem listed_sublist : ∀ (n : Nat) (l : List Source), (listed page n l).Sublist l
  | _, [] => List.Sublist.refl _
  | n, src :: l => by
    rw [listed_cons]
    split
    · exact (listed_sublist (n + 1) l).cons_cons _
    · exact (listed_sublist (n + 1) l).cons _

theorem mem_listed {i n : Nat} (hi : l[i]? = some src)
    (hp : (n + i) / coopTransientRecords = page) (hs : src.present = true) :
    src ∈ listed page n l := by
  refine List.mem_map.mpr ⟨(src, n + i), List.mem_filter.mpr ⟨?_, by simp [hp, hs]⟩, rfl⟩
  exact List.mem_zipIdx_iff_le_and_getElem?_sub.mpr ⟨by omega, by simpa using hi⟩

/-- The frame never holds more than the ordinals of the page given out so far. -/
def Sampling.Fits (page : Nat) (s : Sampling) : Prop :=
  s.frame.records.length ≤ s.ordinal - coopTransientRecords * page

/-- The records added to a frame by the sources `l`. -/
structure Adds (l : List Source) (f f' : Frame) (added : List CoopTransientRecord) : Prop where
  records : f'.records = f.records ++ added
  ids : added.map (·.id) = l.map (·.id)
  valid : ∀ r ∈ added, validRecord r = true

/-- **One ordinal**: the source is listed exactly when it is present and on the page. -/
theorem visit_spec (hs : src.Sound) (hf : Sampling.Fits page s) :
    (s.visit page src.sample).ordinal = s.ordinal + 1 ∧
      Sampling.Fits page (s.visit page src.sample) ∧
      ∃ added, Adds (if s.ordinal / coopTransientRecords = page ∧ src.present = true then [src]
        else []) s.frame (s.visit page src.sample).frame added := by
  have hnone : Adds [] s.frame s.frame [] := ⟨by simp, rfl, by simp⟩
  have hle : s.frame.records.length ≤ s.ordinal + 1 - coopTransientRecords * page := by
    unfold Sampling.Fits at hf
    omega
  unfold Sampling.visit
  by_cases hp : s.ordinal / coopTransientRecords = page
  · have hroom : s.frame.records.length < coopTransientRecords := by
      unfold Sampling.Fits at hf
      simp only [coopTransientRecords] at *
      omega
    have hst := hs.steady s.passages
    simp only [hp, hroom, and_self, dif_pos, true_and]
    rcases hsample : src.sample s.passages with ⟨_ | r, passages⟩
    · rw [hsample] at hst
      rw [if_neg (by simp [← hst])]
      exact ⟨rfl, hle, [], hnone⟩
    · rw [hsample] at hst
      obtain ⟨hid, hv⟩ := hs.valid _ _ _ hsample
      rw [if_pos (by simp [← hst])]
      refine ⟨rfl, ?_, [r], rfl, by simp [hid], by simpa using hv⟩
      unfold Sampling.Fits at hf ⊢
      simp only [Frame.push, List.length_append, List.length_singleton]
      simp only [coopTransientRecords] at *
      omega
  · rw [dif_neg (fun h => hp h.1), if_neg (fun h => hp h.1)]
    exact ⟨rfl, hle, [], hnone⟩

/-- **A pass**: the records of the sources of the page, in order. -/
theorem visitAll_spec : ∀ (l : List Source) (s : Sampling), (∀ src ∈ l, src.Sound) →
    Sampling.Fits page s → (visitAll page s l).ordinal = s.ordinal + l.length ∧
      Sampling.Fits page (visitAll page s l) ∧
      ∃ added, Adds (listed page s.ordinal l) s.frame (visitAll page s l).frame added
  | [], s, _, hf => ⟨rfl, hf, [], by simp [visitAll], rfl, by simp⟩
  | src :: l, s, hs, hf => by
    obtain ⟨ho, hf', a, ha⟩ := visit_spec (hs src List.mem_cons_self) hf
    obtain ⟨ho', hf'', b, hb⟩ :=
      visitAll_spec l _ (fun x hx => hs x (List.mem_cons_of_mem _ hx)) hf'
    refine ⟨?_, hf'', a ++ b, ?_⟩
    · rw [List.length_cons, ← Nat.add_assoc, Nat.add_right_comm, ← ho]
      exact ho'
    · refine ⟨?_, ?_, ?_⟩
      · rw [← List.append_assoc, ← ha.records]
        exact hb.records
      · rw [List.map_append, ha.ids, hb.ids, ho, listed_cons]
        split <;> simp
      · intro r hr
        rcases List.mem_append.mp hr with h | h
        · exact ha.valid r h
        · exact hb.valid r h

/-! ## Every source is sound -/

theorem ObjectKind.word_injective : ∀ k k' : ObjectKind, k.word = k'.word → k = k' := by
  intro k k'
  cases k <;> cases k' <;> decide

theorem ObjectKind.word_bounds (k : ObjectKind) : k.word ≠ 0 ∧ k.word ≠ 4 ∧ k.word < 7 := by
  cases k <;> decide

/-- A small number is kept by the conversion to a word. -/
theorem ofNat_le {n b : Nat} (h : n ≤ b) (hb : b < 2 ^ 32) :
    (BitVec.ofNat 32 n : Word) ≤ BitVec.ofNat 32 b := by
  rw [BitVec.le_def, BitVec.toNat_ofNat, BitVec.toNat_ofNat]
  rwa [Nat.mod_eq_of_lt (by omega), Nat.mod_eq_of_lt hb]

theorem script_valid {key state : Word} (hk : key ≤ 0xFFFF) (hs : state ≤ 0xFF) :
    validRecord ⟨1, key, state, 0⟩ = true := by
  simpa [validRecord, coopTransientKindCount] using ⟨hk, hs⟩

theorem timer_valid {key state value : Word} (hk : key ≤ 0xFFFF) (hs : state ≤ 0xFF)
    (hv : value ≤ 0xFFFF) : validRecord ⟨2, key, state, value⟩ = true := by
  simpa [validRecord, coopTransientKindCount] using ⟨hk, hs, hv⟩

theorem platform_valid {key state : Word} (hk : key ≤ 0xFFFF) (hs : state ≤ 0xFF) :
    validRecord ⟨3, key, state, 0⟩ = true := by
  simpa [validRecord, coopTransientKindCount] using ⟨hk, hs⟩

theorem trigger_valid {key state value : Word} (hk : key ≤ 0xFFFF) (hs : state = 1 ∨ state = 2)
    (h1 : 1 ≤ value) (hv : value ≤ 0xFF) : validRecord ⟨5, key, state, value⟩ = true := by
  simpa [validRecord, coopTransientKindCount] using ⟨hk, hs, h1, hv⟩

theorem sequence_valid {key state : Word} (hk : key ≤ 0xFFFF) (hs : state ≤ 25) :
    validRecord ⟨6, key, state, 0⟩ = true := by
  simpa [validRecord, coopTransientKindCount] using ⟨hk, hs⟩

theorem sequenceProgress_le {object raw progress : Nat}
    (h : room.sequenceProgress object raw = some progress) : progress ≤ 25 := by
  unfold GameRoom.sequenceProgress at h
  split_ifs at h <;> cases h
  · exact japesXProgress_le raw
  · exact pianoProgress_le raw
  · exact dartboardProgress_le raw
  · exact room.tinyTempleKongProgress_le
  · exact tinyIglooProgress_le raw

theorem object_sound {o : Nat × ObjectKind} (ho : o.1 ≤ 0xFFFF) :
    (objectSource room o).Sound := by
  obtain ⟨object, kind⟩ := o
  have hkey : (BitVec.ofNat 32 object : Word) ≤ 0xFFFF := ofNat_le (b := 0xFFFF) ho (by omega)
  constructor
  · intro p r q h
    replace h := congrArg Prod.fst h
    simp only [objectSource, sampleObject] at h
    cases hs : room.script object with
    | none => simp [hs] at h
    | some script =>
      rw [hs] at h
      dsimp only at h
      split at h
      · simp at h
      rename_i hstate
      rw [BitVec.not_lt] at hstate
      cases kind with
      | script =>
        cases h
        exact ⟨rfl, script_valid hkey hstate⟩
      | timer =>
        cases h
        refine ⟨rfl, timer_valid hkey hstate ?_⟩
        have := script.unk44.isLt
        rw [BitVec.le_def, BitVec.toNat_setWidth]
        exact Nat.le_trans (Nat.mod_le _ _) (Nat.le_of_lt_succ this)
      | platform =>
        cases h
        exact ⟨rfl, platform_valid hkey hstate⟩
      | trigger =>
        dsimp only at h
        split at h
        · simp at h
        rename_i hv
        have hle : objectActivation room.currentMap object ≤ 0xFF := activation_le
        have h1 : (1 : Word) ≤ BitVec.ofNat 32 (objectActivation room.currentMap object) := by
          rw [BitVec.le_def, BitVec.toNat_ofNat, Nat.mod_eq_of_lt (by omega)]
          exact Nat.one_le_iff_ne_zero.mpr hv
        split at h <;> cases h
        · exact ⟨rfl, trigger_valid hkey (.inr rfl) h1 (ofNat_le (b := 0xFF) hle (by omega))⟩
        · refine ⟨rfl, trigger_valid hkey ?_ h1 (ofNat_le (b := 0xFF) hle (by omega))⟩
          split
          · exact .inr rfl
          · exact .inl rfl
      | sequence =>
        dsimp only at h
        split at h
        · simp at h
        rename_i progress hp
        cases h
        exact ⟨rfl, sequence_valid hkey (ofNat_le (b := 25) (sequenceProgress_le hp) (by omega))⟩
  · intro p
    simp only [Source.present, objectSource, sampleObject]
    cases room.script object with
    | none => rfl
    | some script =>
      dsimp only
      split
      · rfl
      cases kind with
      | trigger =>
        dsimp only
        split
        · rfl
        · split <;> rfl
      | sequence =>
        dsimp only
        split <;> rfl
      | _ => rfl

theorem clam_sound {i : Nat} {actor : SpawnedActor} (hi : i < 256)
    (hc : reviewedClam actor = true) :
    (⟨7, BitVec.ofNat 32 (i + 1), sampleClam i actor⟩ : Source).Sound := by
  obtain ⟨-, -, -, hstate⟩ := of_decide_eq_true hc
  constructor
  · intro p r q h
    simp only [sampleClam] at h
    split at h
    · simp at h
    obtain ⟨hr, -⟩ := Prod.ext_iff.mp h
    cases hr
    refine ⟨rfl, ?_⟩
    have h1 : (1 : Word) ≤ BitVec.ofNat 32 (i + 1) := by
      rw [BitVec.le_def, BitVec.toNat_ofNat, Nat.mod_eq_of_lt (by omega)]
      exact Nat.succ_le_succ (Nat.zero_le i)
    have h256 : (BitVec.ofNat 32 (i + 1) : Word) ≤ 256 :=
      ofNat_le (b := 256) (by omega) (by omega)
    have hs : (actor.controlState.setWidth 32 : Word) ≤ 3 := by
      rw [BitVec.le_def, BitVec.toNat_setWidth]
      exact Nat.le_trans (Nat.mod_le _ _) hstate
    have ht : ∀ timer : Word, (if 90 < timer then 90 else timer) ≤ (90 : Word) := by
      intro timer
      split
      · exact BitVec.le_refl _
      · rename_i h
        exact BitVec.not_lt.mp h
    have h16 : (BitVec.ofNat 32 (i + 1) : Word) ≤ 0xFFFF :=
      ofNat_le (b := 0xFFFF) (by omega) (by omega)
    simpa [validRecord, coopTransientKindCount] using ⟨h16, h1, h256, hs, ht _⟩
  · intro p
    simp only [Source.present, sampleClam]
    split <;> rfl

/-! ## The board -/

section Board

variable {c : Fin 16 → Word}

/-- Sixteen cells of two bits. -/
def packCells (c : Fin 16 → Word) : Word :=
  (List.finRange 16).foldl (fun value i => value ||| (c i <<< (i.val * 2))) 0

theorem getLsbD_packed (c : Fin 16 → Word) (b : Nat) : ∀ (l : List (Fin 16)) (v : Word),
    (l.foldl (fun value i => value ||| (c i <<< (i.val * 2))) v).getLsbD b
      = (v.getLsbD b || l.any fun i => (c i <<< (i.val * 2)).getLsbD b)
  | [], v => by simp
  | i :: l, v => by
    rw [List.foldl_cons, getLsbD_packed c b l, BitVec.getLsbD_or, List.any_cons, Bool.or_assoc]

/-- Each cell keeps its own two bits. -/
theorem packCells_bit (hc : ∀ i, c i ≤ 2) (j : Fin 16) {e : Nat} (he : e < 2) :
    (packCells c).getLsbD (j.val * 2 + e) = (c j).getLsbD e := by
  have hj := j.isLt
  have hhigh : ∀ i k, 2 ≤ k → (c i).getLsbD k = false := by
    intro i k hk
    have h2 : (c i).toNat ≤ 2 := hc i
    refine Nat.testBit_lt_two_pow (Nat.lt_of_lt_of_le (m := 2 ^ 2) (by omega) ?_)
    exact Nat.pow_le_pow_right (by omega) hk
  have hcell : ∀ i : Fin 16, (c i <<< (i.val * 2)).getLsbD (j.val * 2 + e)
      = (decide (i = j) && (c j).getLsbD e) := by
    intro i
    rw [BitVec.getLsbD_shiftLeft]
    by_cases hij : i = j
    · subst hij
      simp [show i.val * 2 + e < 32 by omega]
    · have hne : i.val ≠ j.val := fun h => hij (Fin.ext h)
      rcases Nat.lt_or_gt_of_ne hne with h | h
      · rw [hhigh i _ (by omega)]
        simp [hij]
      · simp [hij, show j.val * 2 + e < i.val * 2 by omega]
  have hzero : (0 : Word).getLsbD (j.val * 2 + e) = false := by simp
  rw [packCells, getLsbD_packed, hzero, Bool.false_or, Bool.eq_iff_iff, List.any_eq_true]
  constructor
  · rintro ⟨i, -, hi⟩
    rw [hcell, Bool.and_eq_true] at hi
    exact hi.2
  · intro h
    exact ⟨j, List.mem_finRange j, by rw [hcell, h]; simp⟩

theorem packCells_valid (hc : ∀ i, c i ≤ 2) : validBoard (packCells c) = true := by
  refine decide_eq_true fun i h => ?_
  have hbit : ∀ e, e < 2 → (c i).getLsbD e = true := by
    intro e he
    have h3 : ((packCells c >>> (i.val * 2)) &&& 3).getLsbD e = true := by
      rw [h]
      obtain rfl | rfl : e = 0 ∨ e = 1 := by omega
      all_goals rfl
    rw [BitVec.getLsbD_and, BitVec.getLsbD_ushiftRight, Bool.and_eq_true] at h3
    rw [← packCells_bit hc i he]
    exact h3.1
  have h0 := hbit 0 (by omega)
  have h1 := hbit 1 (by omega)
  have h2 : (c i).toNat ≤ 2 := hc i
  have h0' : (c i).toNat.testBit 0 = true := h0
  have h1' : (c i).toNat.testBit 1 = true := h1
  rcases (by omega : (c i).toNat = 0 ∨ (c i).toNat = 1 ∨ (c i).toNat = 2) with h | h | h
  all_goals
    rw [h] at h0' h1'
    revert h0' h1'
    decide

end Board

theorem tomatoBoardValue_valid {value : Word} (h : tomatoBoardValue room = some value) :
    validBoard value = true := by
  unfold tomatoBoardValue at h
  split at h
  · simp at h
  rename_i hcells
  simp only [not_exists, not_or, not_lt] at hcells
  obtain rfl := Option.some.inj h
  refine packCells_valid (c := fun i => (room.board i + 1).setWidth 32) fun i => ?_
  have hlo := (hcells i).1
  have hhi := (hcells i).2
  obtain hb | hb | hb : room.board i = -1 ∨ room.board i = 0 ∨ room.board i = 1 := by
    have hcase : (room.board i).toInt = -1 ∨ (room.board i).toInt = 0
        ∨ (room.board i).toInt = 1 := by omega
    rcases hcase with h | h | h
    · exact .inl (BitVec.eq_of_toInt_eq h)
    · exact .inr (.inl (BitVec.eq_of_toInt_eq h))
    · exact .inr (.inr (BitVec.eq_of_toInt_eq h))
  all_goals
    rw [hb]
    decide

theorem board_sound : (⟨8, 0, sampleTomatoBoard room⟩ : Source).Sound := by
  constructor
  · intro p r q h
    replace h := congrArg Prod.fst h
    simp only [sampleTomatoBoard] at h
    split at h
    · simp at h
    split at h
    · simp at h
    split at h
    · simp at h
    rename_i value hvalue
    cases h
    refine ⟨rfl, ?_⟩
    have hv := tomatoBoardValue_valid hvalue
    split <;> simpa [validRecord, coopTransientKindCount] using hv
  · intro p
    simp only [Source.present, sampleTomatoBoard]
    split
    · rfl
    split
    · rfl
    split <;> rfl

theorem clock_sound : (⟨9, 0, sampleTomatoClock room⟩ : Source).Sound := by
  have hend : validRecord ⟨9, 0, 2, 0⟩ = true := by decide
  constructor
  · intro p r q h
    replace h := congrArg Prod.fst h
    simp only [sampleTomatoClock] at h
    split at h
    · simp at h
    split at h
    · simp at h
    split at h
    · cases h
      exact ⟨rfl, hend⟩
    split at h
    · simp at h
    split at h
    · simp at h
    rename_i timer elapsed duration _
    split at h
    · simp at h
    rename_i hd
    split at h
    · cases h
      exact ⟨rfl, hend⟩
    cases h
    refine ⟨rfl, ?_⟩
    simp only [not_or] at hd
    obtain ⟨hneg, h60, hle⟩ := hd
    have hrem : duration - elapsed ≤ 60 := by
      simp only [BitVec.slt, decide_eq_true_eq, not_lt] at hneg h60
      have hn : duration.toNat ≤ 60 := by
        have h0 : (0 : BitVec 32).toInt = 0 := rfl
        have h1 : (60 : BitVec 32).toInt = 60 := rfl
        rw [h0] at hneg
        rw [h1] at h60
        rw [BitVec.toInt_eq_toNat_cond] at hneg h60
        split at h60 <;> omega
      bv_omega
    simpa [validRecord, coopTransientKindCount] using hrem
  · intro p
    simp only [Source.present, sampleTomatoClock]
    split
    · rfl
    split
    · rfl
    split
    · rfl
    split
    · rfl
    split
    · rfl
    split
    · rfl
    split <;> rfl

/-! ## The sources of a room -/

theorem mem_clamSources (h : src ∈ clamSources room) : ∃ i actor, i < 256
    ∧ reviewedClam actor = true ∧ src = ⟨7, BitVec.ofNat 32 (i + 1), sampleClam i actor⟩ := by
  unfold clamSources at h
  split at h
  · simp at h
  rename_i spawners _
  split at h
  · simp at h
  rename_i hc
  simp only [not_or] at hc
  obtain ⟨⟨entry, i⟩, hmem, hsrc⟩ := List.mem_filterMap.mp h
  have hi : i < spawners.length := by simpa using (List.mem_zipIdx hmem).2.1
  cases entry with
  | none => simp [clamSource] at hsrc
  | some actor =>
    by_cases hr : reviewedClam actor = true
    · simp only [clamSource, hr, if_true, Option.some.injEq] at hsrc
      exact ⟨i, actor, by omega, hr, hsrc.symm⟩
    · simp [clamSource, hr] at hsrc

theorem mem_tomatoSources (h : src ∈ tomatoSources room) :
    src = ⟨8, 0, sampleTomatoBoard room⟩ ∨ src = ⟨9, 0, sampleTomatoClock room⟩ := by
  unfold tomatoSources at h
  split at h
  · simp at h
  · simpa using h

/-- **Every source of a room is sound.** -/
theorem sources_sound (h : src ∈ sources room) : src.Sound := by
  rcases List.mem_append.mp h with h | h
  · rcases List.mem_append.mp h with h | h
    · obtain ⟨o, ho, rfl⟩ := List.mem_map.mp h
      exact object_sound (mapObjects_le ho)
    · obtain ⟨i, actor, hi, hr, rfl⟩ := mem_clamSources h
      exact clam_sound hi hr
  · rcases mem_tomatoSources h with rfl | rfl
    · exact board_sound
    · exact clock_sound

theorem objects_kind {l : List (Nat × ObjectKind)} (h : src ∈ l.map (objectSource room)) :
    src.kind ≠ 0 ∧ src.kind ≠ 4 ∧ src.kind < 7 := by
  obtain ⟨o, -, rfl⟩ := List.mem_map.mp h
  exact o.2.word_bounds

theorem clams_kind (h : src ∈ clamSources room) : src.kind = 7 := by
  obtain ⟨_, _, -, -, rfl⟩ := mem_clamSources h
  rfl

theorem tomato_kind (h : src ∈ tomatoSources room) : src.kind = 8 ∨ src.kind = 9 := by
  rcases mem_tomatoSources h with rfl | rfl
  · exact .inl rfl
  · exact .inr rfl

theorem sources_kind (h : src ∈ sources room) :
    src.kind ≠ 0 ∧ src.kind ≠ 4 ∧ src.kind < 10 := by
  rcases List.mem_append.mp h with h | h
  · rcases List.mem_append.mp h with h | h
    · obtain ⟨h0, h4, h7⟩ := objects_kind h
      exact ⟨h0, h4, by bv_omega⟩
    · rw [clams_kind h]
      decide
  · rcases tomato_kind h with hk | hk <;>
    · rw [hk]
      decide

theorem ofNat_inj {a b : Nat} (ha : a < 2 ^ 32) (hb : b < 2 ^ 32)
    (h : (BitVec.ofNat 32 a : Word) = BitVec.ofNat 32 b) : a = b := by
  have := congrArg BitVec.toNat h
  rwa [BitVec.toNat_ofNat, BitVec.toNat_ofNat, Nat.mod_eq_of_lt ha, Nat.mod_eq_of_lt hb] at this

theorem clamSources_nodup : ((clamSources room).map (·.id)).Nodup := by
  unfold clamSources
  split
  · exact List.nodup_nil
  rename_i spawners _
  split
  · exact List.nodup_nil
  rename_i hc
  simp only [not_or] at hc
  have hsorted : (spawners.zipIdx.map (·.2)).Pairwise (· < ·) := by
    rw [List.zipIdx_map_snd]
    exact List.pairwise_lt_range'
  rw [List.Nodup, List.pairwise_map, List.pairwise_filterMap]
  refine (List.pairwise_map.mp hsorted).imp_of_mem ?_
  rintro ⟨entry, i⟩ ⟨entry', j⟩ hi hj hij src hsrc src' hsrc' heq
  have hi' : i < spawners.length := by simpa using (List.mem_zipIdx hi).2.1
  have hj' : j < spawners.length := by simpa using (List.mem_zipIdx hj).2.1
  have hkey : ∀ {e : Option SpawnedActor × Nat} {src : Source}, src ∈ clamSource e →
      src.key = BitVec.ofNat 32 (e.2 + 1) := by
    rintro ⟨entry, i⟩ src h
    cases entry with
    | none => simp [clamSource] at h
    | some actor =>
      by_cases hr : reviewedClam actor = true
      · simp only [clamSource, hr, if_true, Option.mem_def, Option.some.injEq] at h
        rw [← h]
      · simp [clamSource, hr] at h
  have := (Prod.ext_iff.mp heq).2
  simp only [Source.id] at this
  rw [hkey hsrc, hkey hsrc'] at this
  have := ofNat_inj (by omega) (by omega) this
  simp only at hij
  omega

theorem objectSources_nodup :
    (((mapObjects room.currentMap).map (objectSource room)).map (·.id)).Nodup := by
  rw [List.map_map]
  refine List.Nodup.map_on ?_ (mapObjects_nodup _)
  intro o ho o' ho' h
  have hle := mapObjects_le ho
  have hle' := mapObjects_le ho'
  obtain ⟨hkind, hkey⟩ := Prod.ext_iff.mp h
  exact Prod.ext (ofNat_inj (by omega) (by omega) hkey) (ObjectKind.word_injective _ _ hkind)

/-- **No two sources of a room share kind and key.** -/
theorem sources_nodup : ((sources room).map (·.id)).Nodup := by
  have htomato : ((tomatoSources room).map (·.id)).Nodup := by
    unfold tomatoSources
    split
    · exact List.nodup_nil
    · simp [Source.id]
  have hdisj : ∀ {l l' : List Source}, (∀ a ∈ l, ∀ b ∈ l', a.kind ≠ b.kind) →
      List.Disjoint (l.map (·.id)) (l'.map (·.id)) := by
    intro l l' h x hx hy
    obtain ⟨a, ha, rfl⟩ := List.mem_map.mp hx
    obtain ⟨b, hb, heq⟩ := List.mem_map.mp hy
    exact h a ha b hb (Prod.ext_iff.mp heq).1.symm
  rw [sources, List.map_append]
  refine List.Nodup.append ?_ htomato (hdisj fun a ha b hb hab => ?_)
  · rw [List.map_append]
    refine List.Nodup.append objectSources_nodup clamSources_nodup
      (hdisj fun a ha b hb hab => ?_)
    have h7 := (objects_kind ha).2.2
    rw [hab, clams_kind hb] at h7
    exact absurd h7 (by decide)
  · have h8 : a.kind < 8 := by
      rcases List.mem_append.mp ha with ha | ha
      · have := (objects_kind ha).2.2
        bv_omega
      · rw [clams_kind ha]
        decide
    rw [hab] at h8
    rcases tomato_kind hb with hk | hk <;>
    · rw [hk] at h8
      exact absurd h8 (by decide)

/-! ## Frames that pass the receiver's check -/

/-- No two records are told apart, each is valid and of a kind below `bound`, none a cutscene. -/
structure Frame.Good (bound : Word) (f : Frame) : Prop where
  nodup : (f.records.map (·.id)).Nodup
  valid : ∀ r ∈ f.records, validRecord r = true
  kind : ∀ r ∈ f.records, r.kind ≠ 0 ∧ r.kind ≠ 4 ∧ r.kind < bound

/-- **The sampled page**: its records are those of the listed sources. -/
theorem sampleRoom_spec (room : GameRoom) (page : Nat) (p : Passages) :
    (sampleRoom room page p).ordinal = (sources room).length ∧
      (sampleRoom room page p).frame.records.length
        ≤ (sources room).length - coopTransientRecords * page ∧
      (sampleRoom room page p).frame.records.map (·.id)
        = (listed page 0 (sources room)).map (·.id) ∧
      (sampleRoom room page p).frame.Good 10 := by
  have hs : ∀ src ∈ sources room, src.Sound := fun _ h => sources_sound h
  obtain ⟨ho, hf, added, ha⟩ := @visitAll_spec page (sources room)
    ⟨p, 0, Frame.empty⟩ hs (Nat.zero_le _)
  rw [← sampleRoom_eq] at ho hf ha
  have hrec : (sampleRoom room page p).frame.records = added := by
    rw [ha.records]
    rfl
  have hids : added.map (·.id) = (listed page 0 (sources room)).map (·.id) := ha.ids
  rw [Nat.zero_add] at ho
  have hf' : (sampleRoom room page p).frame.records.length
      ≤ (sources room).length - coopTransientRecords * page := ho ▸ hf
  refine ⟨ho, hf', hrec ▸ hids, ⟨?_, fun r hr => ha.valid r (hrec ▸ hr), fun r hr => ?_⟩⟩
  · rw [hrec, hids]
    exact sources_nodup.sublist ((listed_sublist 0 _).map _)
  · have hmem : r.id ∈ (listed page 0 (sources room)).map (·.id) := by
      rw [← hids, ← hrec]
      exact List.mem_map_of_mem hr
    obtain ⟨src, hsrc, heq⟩ := List.mem_map.mp hmem
    have hk := sources_kind ((listed_sublist 0 _).subset hsrc)
    rw [show r.kind = src.kind from (Prod.ext_iff.mp heq).1.symm]
    exact hk

end Dk64Port.Coop
