import Dk64Port.Coop.TransientSources
import Mathlib.Data.List.Nodup

/-!
# What the captures of a room list (`mod/transient_game.h`)

The page counter comes to every page, so each source of a room is sampled at least once in any
pages-plus-one captures. What is sampled is listed, but for the eighth record of a full frame: a
cutscene record, running or held, takes its place.

* `capture_valid`: every capture of an epoch passes `valid_transient_input`.
* `capture_covers`: what any pages-plus-one captures list.
* `eighth_object_displaced`: the eighth object of a full page is not listed under a cutscene.
-/

namespace Dk64Port.Coop

variable {room : GameRoom} {f : Frame} {game : Minigame} {r : CoopTransientRecord}
  {g : TransientGame}

/-! ## The minigame successes -/

theorem won_spec (h : room.won game = true) : (room.success game).key ≠ 0
    ∧ (room.success game).key.toNat ≤ game.maps.length ∧ room.currentMap ∈ game.maps := by
  obtain ⟨-, h0, hle, hmap⟩ := of_decide_eq_true h
  refine ⟨h0, hle, ?_⟩
  have hpos : 0 < (room.success game).key.toNat :=
    Nat.pos_of_ne_zero fun h => h0 (BitVec.eq_of_toNat_eq h)
  rw [← hmap, List.getD_eq_getElem?_getD, List.getElem?_eq_getElem (by omega), Option.getD_some]
  exact List.getElem_mem _

theorem success_valid (h : room.won game = true) :
    validRecord ⟨game.kind, (room.success game).key, 1, 0⟩ = true := by
  obtain ⟨h0, hle, -⟩ := won_spec h
  have hpos : 1 ≤ (room.success game).key := by bv_omega
  have hb : (room.success game).key ≤ BitVec.ofNat 32 game.maps.length := by
    cases game <;> exact hle
  have hkey : (room.success game).key ≤ 0xFFFF := by
    cases game <;> exact Nat.le_trans hle (by decide)
  cases game with
  | owl =>
    have h1 : (room.success .owl).key = 1 := by
      refine BitVec.eq_of_toNat_eq (Nat.le_antisymm hle hpos)
    simp [validRecord, coopTransientKindCount, Minigame.kind, h1]
  | _ =>
    simpa [validRecord, coopTransientKindCount, Minigame.kind, transientMinigameSuccess] using
      ⟨hkey, hpos, hb⟩

theorem addSuccess_of_not_won (h : room.won game = false) : addSuccess room game f = f := by
  rw [addSuccess, dif_neg (by simp [h])]

theorem addSuccess_records (room : GameRoom) (game : Minigame) (f : Frame) :
    f.records <+: (addSuccess room game f).records
      ∧ (addSuccess room game f).records.length ≤ f.records.length + 1 := by
  unfold addSuccess
  split
  · exact ⟨⟨_, rfl⟩, by simp [Frame.push]⟩
  · exact ⟨List.prefix_refl _, Nat.le_succ _⟩

/-- A success is added to a frame with room for it. -/
theorem mem_addSuccess (h : room.won game = true)
    (hroom : f.records.length < coopTransientRecords) :
    ⟨game.kind, (room.success game).key, 1, 0⟩ ∈ (addSuccess room game f).records := by
  rw [addSuccess, dif_pos ⟨h, hroom⟩]
  exact List.mem_append_right _ (List.mem_singleton_self _)

theorem Minigame.kind_bounds (game : Minigame) :
    game.kind ≠ 0 ∧ game.kind ≠ 4 ∧ game.kind < game.kind + 1 := by
  cases game <;> decide

/-- Each adder brings a kind of its own, above those before it. -/
theorem addSuccess_good (hf : f.Good game.kind) :
    (addSuccess room game f).Good (game.kind + 1) := by
  obtain ⟨h0, h4, hlt⟩ := game.kind_bounds
  unfold addSuccess
  split
  · rename_i h
    refine ⟨?_, ?_, ?_⟩
    · rw [Frame.push, List.map_append, List.nodup_append]
      refine ⟨hf.nodup, List.nodup_singleton _, ?_⟩
      rintro a ha b hb rfl
      obtain ⟨r, hr, hid⟩ := List.mem_map.mp ha
      rw [List.map_singleton, List.mem_singleton] at hb
      have hk := (hf.kind r hr).2.2
      rw [show r.kind = game.kind from (Prod.ext_iff.mp (hid.trans hb)).1] at hk
      exact absurd hk (BitVec.lt_irrefl _)
    · intro r hr
      rcases List.mem_append.mp hr with hr | hr
      · exact hf.valid r hr
      · rw [List.mem_singleton.mp hr]
        exact success_valid h.1
    · intro r hr
      rcases List.mem_append.mp hr with hr | hr
      · obtain ⟨k0, k4, kb⟩ := hf.kind r hr
        exact ⟨k0, k4, BitVec.lt_trans kb hlt⟩
      · rw [List.mem_singleton.mp hr]
        exact ⟨h0, h4, hlt⟩
  · refine ⟨hf.nodup, hf.valid, fun r hr => ?_⟩
    obtain ⟨k0, k4, kb⟩ := hf.kind r hr
    exact ⟨k0, k4, BitVec.lt_trans kb hlt⟩

theorem addSuccesses_good (hf : f.Good 10) : (addSuccesses room f).Good 15 := by
  have h1 : (addKosh room f).Good Minigame.minecart.kind := @addSuccess_good _ _ .kosh hf
  have h2 : (addMinecart room (addKosh room f)).Good Minigame.rabbit.kind := addSuccess_good h1
  have h3 : (addRabbit room (addMinecart room (addKosh room f))).Good Minigame.batty.kind :=
    addSuccess_good h2
  have h4 : (addBatty room (addRabbit room (addMinecart room (addKosh room f)))).Good
      Minigame.owl.kind := addSuccess_good h3
  exact addSuccess_good h4

theorem addSuccesses_extends (room : GameRoom) (f : Frame) :
    f.records <+: (addSuccesses room f).records :=
  ((((addSuccess_records room .kosh f).1.trans (addSuccess_records room .minecart _).1).trans
    (addSuccess_records room .rabbit _).1).trans (addSuccess_records room .batty _).1).trans
    (addSuccess_records room .owl _).1

/-! ## The cutscene record -/

/-- A cutscene record the receiver accepts. -/
def IsCutscene (r : CoopTransientRecord) : Prop := r.kind = 4 ∧ validRecord r = true

theorem runningCutscene_valid (h : TransientGame.runningCutscene room = some r) : IsCutscene r := by
  unfold TransientGame.runningCutscene at h
  split at h
  · rename_i hc
    obtain ⟨-, hlo, hhi, hs⟩ := hc
    obtain rfl := Option.some.inj h
    refine ⟨rfl, ?_⟩
    have hn : room.cutscene.toNat < 0xFF := by
      rw [BitVec.toInt_eq_toNat_cond] at hlo hhi
      split at hhi <;> omega
    have hkey : (room.cutscene.setWidth 32 + 1 : Word) ≤ 0xFF := by
      rw [BitVec.le_def, BitVec.toNat_add, BitVec.toNat_setWidth]
      have h1 : (1 : BitVec 32).toNat = 1 := rfl
      have hff : (0xFF : BitVec 32).toNat = 255 := rfl
      omega
    have hkey' : (room.cutscene.setWidth 32 + 1 : Word) ≤ 0xFFFF :=
      BitVec.le_trans hkey (by decide)
    have hstate : (room.cutsceneState.setWidth 32 : Word) ≤ 0xFF := by
      rw [BitVec.le_def, BitVec.toNat_setWidth]
      exact Nat.le_trans (Nat.mod_le _ _) hs
    have hvalue : (room.cutsceneProgress.setWidth 32 &&& 0xFF : Word) ≤ 0xFF := by
      rw [BitVec.le_def, BitVec.toNat_and]
      exact Nat.and_le_right
    simpa [validRecord, coopTransientKindCount] using ⟨hkey', hkey, hstate, hvalue⟩
  · simp at h

/-- The held cutscene record, when there is one, is valid. -/
def TransientGame.Keeps (g : TransientGame) : Prop :=
  g.lastCutscene.kind ≠ 0 → IsCutscene g.lastCutscene

theorem takeCutscene_spec (hg : g.Keeps) : (∀ r, (g.takeCutscene room).1 = some r → IsCutscene r)
    ∧ (g.takeCutscene room).2.Keeps := by
  unfold TransientGame.takeCutscene
  cases hrun : TransientGame.runningCutscene room with
  | some r =>
    have hr := runningCutscene_valid hrun
    exact ⟨fun r' h => Option.some.inj h ▸ hr, fun _ => hr⟩
  | none =>
    dsimp only
    split
    · rename_i h
      exact ⟨fun r' heq => Option.some.inj heq ▸ hg h.2, fun h => hg h⟩
    · exact ⟨fun r' h => by simp at h, hg⟩

/-! ## Placing it -/

theorem mem_set_iff {α : Type*} {l : List α} {n : Nat} {x y : α} (hl : l.Nodup) (hx : x ∈ l)
    (hxy : y ≠ x) : x ∈ l.set n y ↔ l[n]? ≠ some x := by
  constructor
  · intro h hn
    obtain ⟨i, hi, heq⟩ := List.mem_iff_getElem.mp h
    rw [List.getElem_set] at heq
    split at heq
    · exact hxy heq
    · rename_i hne
      obtain ⟨hn', hnx⟩ := List.getElem?_eq_some_iff.mp hn
      have hi' : i < l.length := by simpa using hi
      exact hne ((@List.Nodup.getElem_inj_iff _ _ hl n hn' i hi').mp (hnx.trans heq.symm))
  · intro hn
    obtain ⟨i, hi, heq⟩ := List.mem_iff_getElem.mp hx
    have hne : n ≠ i := by
      rintro rfl
      exact hn (List.getElem?_eq_some_iff.mpr ⟨hi, heq⟩)
    refine List.mem_iff_getElem.mpr ⟨i, by simpa using hi, ?_⟩
    rw [List.getElem_set, if_neg hne]
    exact heq

namespace Frame

/-- The records of a frame as the receiver tells them apart. -/
def ids (f : Frame) : List (Word × Word) := f.records.map (·.id)

/-- What the receiver asks of the records. -/
structure Acceptable (f : Frame) : Prop where
  nodup : f.ids.Nodup
  valid : ∀ r ∈ f.records, validRecord r = true ∧ r.kind ≠ 0

theorem place_ids (f : Frame) (r : CoopTransientRecord) : (f.place r).ids =
    if f.records.length < coopTransientRecords then f.ids ++ [r.id]
    else f.ids.set (coopTransientRecords - 1) r.id := by
  unfold place ids
  split
  · rw [push, List.map_append, List.map_singleton]
  · rw [List.map_set]

theorem cutscene_not_mem (hf : f.Good 15) (hr : IsCutscene r) : r.id ∉ f.ids := by
  intro h
  obtain ⟨r', hr', heq⟩ := List.mem_map.mp h
  have := (hf.kind r' hr').2.1
  rw [show r'.kind = r.kind from (Prod.ext_iff.mp heq).1] at this
  exact this hr.1

theorem place_acceptable (hf : f.Good 15) (hr : IsCutscene r) : (f.place r).Acceptable := by
  have hk : r.kind ≠ 0 := by
    rw [hr.1]
    decide
  have hnot := cutscene_not_mem hf hr
  constructor
  · rw [place_ids]
    split
    · rw [List.nodup_append]
      refine ⟨hf.nodup, List.nodup_singleton _, ?_⟩
      rintro a ha b hb rfl
      exact hnot (List.mem_singleton.mp hb ▸ ha)
    · exact hf.nodup.set hnot
  · intro r' hr'
    have hmem : r' ∈ f.records ∨ r' = r := by
      unfold place at hr'
      split at hr'
      · rcases List.mem_append.mp hr' with h | h
        · exact .inl h
        · exact .inr (List.mem_singleton.mp h)
      · exact List.mem_or_eq_of_mem_set hr'
    rcases hmem with h | rfl
    · exact ⟨hf.valid r' h, (hf.kind r' h).1⟩
    · exact ⟨hr.2, hk⟩

end Frame

/-! ## One capture -/

/-- The frame lists a record of this kind and key. -/
def CoopTransientInput.Lists (input : CoopTransientInput) (kind key : Word) : Prop :=
  ∃ i : Fin coopTransientRecords, i.val < input.count.toNat ∧ (input.records i).id = (kind, key)

/-- A cutscene record is due, the frame before it is full, and this record is its eighth. -/
def TransientGame.Displaces (g : TransientGame) (room : GameRoom) (kind key : Word) : Prop :=
  (g.takeCutscene room).1.isSome = true
    ∧ (g.sampledFrame room).ids[coopTransientRecords - 1]? = some (kind, key)

theorem sampledFrame_good (g : TransientGame) (room : GameRoom) : (g.sampledFrame room).Good 15 :=
  addSuccesses_good (sampleRoom_spec room _ _).2.2.2

theorem finalFrame_acceptable (hg : g.Keeps) : (g.finalFrame room).Acceptable := by
  unfold TransientGame.finalFrame
  split
  · rename_i r h
    exact Frame.place_acceptable (sampledFrame_good g room) ((takeCutscene_spec hg).1 r h)
  · have hf := sampledFrame_good g room
    exact ⟨hf.nodup, fun r hr => ⟨hf.valid r hr, (hf.kind r hr).1⟩⟩

/-- **What the cutscene record displaces**: of the sampled records, the eighth of a full frame. -/
theorem finalFrame_mem (hg : g.Keeps) {id : Word × Word} (hid : id ∈ (g.sampledFrame room).ids) :
    id ∈ (g.finalFrame room).ids ↔ ¬ g.Displaces room id.1 id.2 := by
  have hf := sampledFrame_good g room
  unfold TransientGame.finalFrame TransientGame.Displaces
  cases h : (g.takeCutscene room).1 with
  | none => simpa using hid
  | some r =>
    have hr := (takeCutscene_spec hg).1 r h
    have hne : r.id ≠ id := fun heq => Frame.cutscene_not_mem hf hr (heq ▸ hid)
    have hlen : (g.sampledFrame room).ids.length = (g.sampledFrame room).records.length :=
      List.length_map _
    simp only [Option.isSome_some, true_and]
    rw [Frame.place_ids]
    split
    · rename_i hroom
      rw [List.getElem?_eq_none (by simp only [coopTransientRecords] at *; omega)]
      simp [hid]
    · exact mem_set_iff hf.nodup hid hne

/-- The input of an enabled capture. -/
theorem capture_input (h : (g.prepare room).Enabled room) : (g.capture room).input =
    { enabled := 1
      file := BitVec.ofNat 32 room.currentFile
      map := BitVec.ofNat 32 room.currentMap
      epoch := room.epoch
      revision := (g.prepare room).nextRevision
      count := BitVec.ofNat 32 ((g.prepare room).finalFrame room).records.length
      records := fun i => ((g.prepare room).finalFrame room).records.getD i {} } := by
  simp only [TransientGame.capture, if_pos h]

theorem count_toNat (f : Frame) :
    (BitVec.ofNat 32 f.records.length : Word).toNat = f.records.length := by
  have := f.fits
  rw [BitVec.toNat_ofNat, Nat.mod_eq_of_lt]
  simp only [coopTransientRecords] at this
  omega

theorem lists_iff (h : (g.prepare room).Enabled room) (kind key : Word) :
    (g.capture room).input.Lists kind key
      ↔ (kind, key) ∈ ((g.prepare room).finalFrame room).ids := by
  rw [capture_input h]
  unfold CoopTransientInput.Lists Frame.ids
  simp only [count_toNat]
  have hfit := ((g.prepare room).finalFrame room).fits
  constructor
  · rintro ⟨i, hi, hid⟩
    rw [List.getD_eq_getElem?_getD, List.getElem?_eq_getElem hi, Option.getD_some] at hid
    exact List.mem_map.mpr ⟨_, List.getElem_mem hi, hid⟩
  · intro hmem
    obtain ⟨r, hr, hid⟩ := List.mem_map.mp hmem
    obtain ⟨i, hi, rfl⟩ := List.mem_iff_getElem.mp hr
    refine ⟨⟨i, Nat.lt_of_lt_of_le hi hfit⟩, hi, ?_⟩
    rw [List.getD_eq_getElem?_getD, List.getElem?_eq_getElem hi, Option.getD_some]
    exact hid

theorem prepare_keeps (hg : g.Keeps) : (g.prepare room).Keeps := by
  have hopen : ∀ g : TransientGame, g.Keeps → (TransientGame.openEpoch room g).Keeps := by
    intro g hg
    unfold TransientGame.openEpoch
    split
    · exact fun h => absurd rfl h
    · exact hg
  have hbind : ∀ g : TransientGame, g.Keeps → (TransientGame.bindFile room g).Keeps := by
    intro g hg
    unfold TransientGame.bindFile
    split
    · split
      · exact hg
      · split <;> exact hg
    · exact hg
  exact hbind _ (hopen _ hg)

theorem nextRevision_ne_zero (g : TransientGame) : g.nextRevision ≠ 0 := by
  unfold TransientGame.nextRevision
  split
  · rename_i h
    rw [show g.revision + 2 = g.revision + 1 + 1 by rw [BitVec.add_assoc]; rfl, h]
    decide
  · assumption

theorem prepare_input (g : TransientGame) (room : GameRoom) : (g.prepare room).input = {} := by
  unfold TransientGame.prepare TransientGame.bindFile TransientGame.openEpoch
  split_ifs <;> rfl

/-- An acceptable frame under a sound header passes the receiver's check. -/
theorem acceptable_valid (hf : f.Acceptable) {file map epoch revision : Word} (h1 : file ≤ 2)
    (h2 : map ≤ 255) (h3 : epoch ≠ 0) (h4 : revision ≠ 0) :
    validTransient ⟨1, file, map, epoch, revision, BitVec.ofNat 32 f.records.length,
      fun i => f.records.getD i {}⟩ = true := by
  have hfit := f.fits
  rw [validTransient, if_neg (by decide : (1 : Word) ≠ 0), Bool.and_eq_true, decide_eq_true_eq,
    decide_eq_true_eq]
  simp only [count_toNat]
  refine ⟨⟨trivial, h1, h2, h3, h4, hfit⟩, fun i => ?_⟩
  by_cases hi : i.val < f.records.length
  · have hget : f.records.getD i.val {} = f.records[i.val] := by
      rw [List.getD_eq_getElem?_getD, List.getElem?_eq_getElem hi, Option.getD_some]
    refine ⟨hget ▸ (hf.valid _ (List.getElem_mem hi)).1, ?_⟩
    rw [if_pos hi]
    intro j hj hsame
    have hji : j.val < i.val := hj
    have hj' : j.val < f.records.length := by omega
    rw [List.getD_eq_getElem?_getD, List.getElem?_eq_getElem hj', Option.getD_some, hget] at hsame
    have hi' : i.val < f.ids.length := by simpa [Frame.ids] using hi
    have hj'' : j.val < f.ids.length := by simpa [Frame.ids] using hj'
    have hids : f.ids[j.val] = f.ids[i.val] := by
      simp only [Frame.ids, List.getElem_map]
      exact Prod.ext hsame.1 hsame.2
    have := (hf.nodup.getElem_inj_iff).mp hids
    omega
  · have hget : f.records.getD i.val {} = {} := by
      rw [List.getD_eq_getElem?_getD, List.getElem?_eq_none (by omega), Option.getD_none]
    rw [hget, if_neg hi]
    exact ⟨by decide, rfl⟩

/-- **A capture is valid** from every state that keeps a valid cutscene record. -/
theorem capture_valid_of_keeps (hg : g.Keeps) (he : room.epoch ≠ 0) :
    validTransientInput (g.capture room).input = true := by
  by_cases h : (g.prepare room).Enabled room
  · rw [capture_input h, validTransientInput]
    obtain ⟨-, -, hfile, hmap, -, -⟩ := h
    exact acceptable_valid (finalFrame_acceptable (prepare_keeps hg))
      (ofNat_le (b := 2) (by omega) (by omega)) (ofNat_le (b := 255) hmap (by omega)) he
      (nextRevision_ne_zero _)
  · have hin : (g.capture room).input = {} := by
      simp only [TransientGame.capture, if_neg h]
      exact prepare_input g room
    rw [hin]
    decide

/-! ## What is loaded -/

/-- A reviewed object or actor of the room is there, its raw state in range, under this kind and
key: a script, a clam of the shell, or the Ice Tomato's board or clock. -/
inductive GameRoom.Loaded (room : GameRoom) : Word → Word → Prop
  | object {object : Nat} {kind : ObjectKind} : (object, kind) ∈ mapObjects room.currentMap →
      (room.script object).isSome = true → GameRoom.Loaded room kind.word (BitVec.ofNat 32 object)
  | clam {spawners : List (Option SpawnedActor)} {i : Nat} {actor : SpawnedActor} :
      room.currentMap = mapJapesShell → room.spawners = some spawners → spawners.length ≤ 256 →
      spawners[i]? = some (some actor) → reviewedClam actor = true →
      GameRoom.Loaded room 7 (BitVec.ofNat 32 (i + 1))
  | board : room.currentMap = mapCavesIceCastle →
      (sampleTomatoBoard room {}).1.isSome = true → GameRoom.Loaded room 8 0
  | clock : room.currentMap = mapCavesIceCastle →
      (sampleTomatoClock room {}).1.isSome = true → GameRoom.Loaded room 9 0

/-- A loaded script of the tables is always sampled. -/
theorem object_present {o : Nat × ObjectKind} (ho : o ∈ mapObjects room.currentMap)
    (hs : (room.script o.1).isSome = true) : (objectSource room o).present = true := by
  obtain ⟨object, kind⟩ := o
  obtain ⟨script, hscript⟩ := Option.isSome_iff_exists.mp hs
  have hbyte : ¬ (0xFF : Word) < script.unk48.setWidth 32 := by
    have := script.unk48.isLt
    rw [BitVec.lt_def, BitVec.toNat_setWidth]
    have hff : (0xFF : BitVec 32).toNat = 255 := rfl
    omega
  simp only [Source.present, objectSource, sampleObject, hscript, if_neg hbyte]
  cases kind with
  | trigger =>
    rcases mem_mapObjects ho with ⟨hk, -⟩ | ⟨e, he, hmap, hobj, hkind⟩
    · exact absurd hk (by simp)
    · have hact := activation_of_mem he hkind
      rw [hmap, hobj] at hact
      dsimp only at hact ⊢
      rw [if_neg hact]
      split <;> rfl
  | sequence =>
    rcases mem_mapObjects ho with ⟨hk, -⟩ | ⟨e, he, hmap, hobj, hkind⟩
    · exact absurd hk (by simp)
    · have hrow := extra_sequences e he hkind
      rw [hmap, hobj] at hrow
      simp only [List.mem_cons, List.not_mem_nil, or_false, Prod.mk.injEq] at hrow
      unfold GameRoom.sequenceProgress
      rcases hrow with ⟨h1, h2⟩ | ⟨h1, h2⟩ | ⟨h1, h2⟩ | ⟨h1, h2⟩ | ⟨h1, h2⟩ <;> simp [h1, h2]
  | _ => rfl

/-- **What is loaded has a source that is sampled.** -/
theorem loaded_source {kind key : Word} (h : room.Loaded kind key) :
    ∃ src ∈ sources room, src.id = (kind, key) ∧ src.present = true := by
  cases h with
  | object ho hs =>
    exact ⟨objectSource room _,
      List.mem_append_left _ (List.mem_append_left _ (List.mem_map_of_mem ho)), rfl,
      object_present ho hs⟩
  | @clam spawners i actor hmap hsp hlen hi hr =>
    have hpos : spawners.length ≠ 0 := by
      intro h0
      rw [List.length_eq_zero_iff.mp h0] at hi
      simp at hi
    refine ⟨⟨7, BitVec.ofNat 32 (i + 1), sampleClam i actor⟩, ?_, rfl, ?_⟩
    · refine List.mem_append_left _ (List.mem_append_right _ ?_)
      unfold clamSources
      rw [hsp]
      dsimp only
      rw [if_neg (by simp only [not_or]; exact ⟨not_not.mpr hmap, hpos, by omega⟩)]
      refine List.mem_filterMap.mpr ⟨(some actor, i), ?_, by simp [clamSource, hr]⟩
      exact List.mem_zipIdx_iff_getElem?.mpr hi
    · obtain ⟨-, -, hdata, -⟩ := of_decide_eq_true hr
      obtain ⟨data, hdata⟩ := Option.ne_none_iff_exists'.mp hdata
      simp [Source.present, sampleClam, hdata]
  | board hmap hs =>
    refine ⟨⟨8, 0, sampleTomatoBoard room⟩, List.mem_append_right _ ?_, rfl, hs⟩
    rw [tomatoSources, if_neg (not_not.mpr hmap)]
    exact List.mem_cons_self
  | clock hmap hs =>
    refine ⟨⟨9, 0, sampleTomatoClock room⟩, List.mem_append_right _ ?_, rfl, hs⟩
    rw [tomatoSources, if_neg (not_not.mpr hmap)]
    exact List.mem_cons_of_mem _ List.mem_cons_self

/-- Two rooms of one epoch with the same reviewed objects and actors. -/
structure GameRoom.Same (room room' : GameRoom) : Prop where
  map : room.currentMap = room'.currentMap
  epoch : room.epoch = room'.epoch
  clams : (clamSources room).map (·.id) = (clamSources room').map (·.id)

theorem GameRoom.Same.sources_ids {room' : GameRoom} (h : room.Same room') :
    (sources room).map (·.id) = (sources room').map (·.id) := by
  have htomato : (tomatoSources room).map (·.id) = (tomatoSources room').map (·.id) := by
    unfold tomatoSources
    rw [h.map]
    split <;> rfl
  have hobj : ((mapObjects room.currentMap).map (objectSource room)).map (·.id)
      = ((mapObjects room'.currentMap).map (objectSource room')).map (·.id) := by
    rw [List.map_map, List.map_map, h.map]
    rfl
  rw [sources, sources, List.map_append, List.map_append, List.map_append, List.map_append,
    hobj, h.clams, htomato]

theorem GameRoom.Same.sources_length {room' : GameRoom} (h : room.Same room') :
    (sources room).length = (sources room').length := by
  simpa using congrArg List.length h.sources_ids

/-- **A capture of its page samples what is loaded.** -/
theorem loaded_sampled {kind key : Word} (h : room.Loaded kind key) {i : Nat}
    (hi : ((sources room).map (·.id))[i]? = some (kind, key))
    (hp : i / coopTransientRecords = g.page) : (kind, key) ∈ (g.sampledFrame room).ids := by
  obtain ⟨src, hsrc, hid, hpres⟩ := loaded_source h
  rw [List.getElem?_map, Option.map_eq_some_iff] at hi
  obtain ⟨src', hget, hid'⟩ := hi
  obtain rfl : src' = src := List.inj_on_of_nodup_map sources_nodup
    (List.mem_of_getElem? hget) hsrc (hid'.trans hid.symm)
  have hl : src' ∈ listed g.page 0 (sources room) :=
    mem_listed hget (by rwa [Nat.zero_add]) hpres
  have hmem : (kind, key) ∈ (sampleRoom room g.page g.passages).frame.ids := by
    rw [Frame.ids, (sampleRoom_spec room g.page g.passages).2.2.1, ← hid]
    exact List.mem_map_of_mem hl
  exact ((addSuccesses_extends room _).map _).subset hmem

/-! ## Successes find room -/

/-- Only Fungi Forest has both minigames and objects, thirteen of them. -/
theorem success_sources (h : room.won game = true) :
    (sources room).length = if room.currentMap = mapFungi then 13 else 0 := by
  have hmaps : ∀ m ∈ game.maps, (mapObjects m).length = (if m = mapFungi then 13 else 0)
      ∧ m ≠ mapJapesShell ∧ m ≠ mapCavesIceCastle := by
    cases game <;> decide +kernel
  obtain ⟨hlen, hshell, hice⟩ := hmaps _ (won_spec h).2.2
  have hclam : clamSources room = [] := by
    unfold clamSources
    split
    · rfl
    · rw [if_pos (.inl hshell)]
  have htomato : tomatoSources room = [] := by
    rw [tomatoSources, if_pos hice]
  rw [sources, hclam, htomato, List.append_nil, List.append_nil, List.length_map, hlen]

theorem addSuccess_length (room : GameRoom) (game : Minigame) (f : Frame) :
    (addSuccess room game f).records.length
      ≤ f.records.length + if room.won game then 1 else 0 := by
  by_cases h : room.won game = true
  · rw [if_pos h]
    exact (addSuccess_records room game f).2
  · rw [addSuccess_of_not_won (by simpa using h)]
    exact Nat.le_add_right _ _

/-- At most seven records are sampled on the last page of a room with a success. -/
theorem success_fits (h : room.won game = true)
    (hp : (sources room).length ≤ coopTransientRecords * (g.page + 1)) :
    (sampleRoom room g.page g.passages).frame.records.length
      + ((if room.won .kosh then 1 else 0) + (if room.won .minecart then 1 else 0)
        + (if room.won .rabbit then 1 else 0) + (if room.won .batty then 1 else 0)
        + (if room.won .owl then 1 else 0)) ≤ 7 := by
  have hs := (sampleRoom_spec room g.page g.passages).2.1
  have hlen := success_sources h
  have hle : ∀ game, (if room.won game then 1 else 0) ≤ 1 := by
    intro game
    split <;> omega
  have h1 := hle .kosh
  have h2 := hle .minecart
  have h3 := hle .rabbit
  have h4 := hle .batty
  have h5 := hle .owl
  simp only [coopTransientRecords] at hs hp
  by_cases hmap : room.currentMap = mapFungi
  · have hother : ∀ game : Minigame, mapFungi ∉ game.maps → room.won game = false := by
      intro game hnot
      by_contra hw
      exact hnot (hmap ▸ (won_spec (by simpa using hw)).2.2)
    rw [hother .kosh (by decide), hother .minecart (by decide), hother .batty (by decide)]
    rw [if_pos hmap] at hlen
    simp only [Bool.false_eq_true, if_false]
    omega
  · rw [if_neg hmap] at hlen
    omega

/-- **On the last page the frame has room for every success and for the cutscene.** -/
theorem success_listed (h : room.won game = true)
    (hp : (sources room).length ≤ coopTransientRecords * (g.page + 1))
    (hg : g.Keeps) : (game.kind, (room.success game).key) ∈ (g.finalFrame room).ids := by
  have hfit := success_fits h hp
  generalize hf : (sampleRoom room g.page g.passages).frame = f at hfit
  have l1 := addSuccess_length room .kosh f
  have l2 := addSuccess_length room .minecart (addKosh room f)
  have l3 := addSuccess_length room .rabbit (addMinecart room (addKosh room f))
  have l4 := addSuccess_length room .batty (addRabbit room (addMinecart room (addKosh room f)))
  have l5 := addSuccess_length room .owl
    (addBatty room (addRabbit room (addMinecart room (addKosh room f))))
  have p2 := (addSuccess_records room .minecart (addKosh room f)).1
  have p3 := (addSuccess_records room .rabbit (addMinecart room (addKosh room f))).1
  have p4 := (addSuccess_records room .batty
    (addRabbit room (addMinecart room (addKosh room f)))).1
  have p5 := (addSuccess_records room .owl
    (addBatty room (addRabbit room (addMinecart room (addKosh room f))))).1
  change (addKosh room f).records.length ≤ _ at l1
  change (addMinecart room _).records.length ≤ _ at l2
  change (addRabbit room _).records.length ≤ _ at l3
  change (addBatty room _).records.length ≤ _ at l4
  change (addSuccesses room f).records.length ≤ _ at l5
  have hmem : ⟨game.kind, (room.success game).key, 1, 0⟩ ∈ (addSuccesses room f).records := by
    cases game with
    | kosh =>
      exact (((p2.trans p3).trans p4).trans p5).subset (mem_addSuccess h (by
        simp only [coopTransientRecords]
        omega))
    | minecart =>
      exact ((p3.trans p4).trans p5).subset (mem_addSuccess h (by
        simp only [coopTransientRecords]
        omega))
    | rabbit =>
      exact (p4.trans p5).subset (mem_addSuccess h (by
        simp only [coopTransientRecords]
        omega))
    | batty =>
      exact p5.subset (mem_addSuccess h (by
        simp only [coopTransientRecords]
        omega))
    | owl =>
      exact mem_addSuccess h (by
        rw [h] at hfit
        simp only [coopTransientRecords]
        simp only [if_true] at hfit
        omega)
  have hsampled : g.sampledFrame room = addSuccesses room f := by
    rw [← hf]
    rfl
  have hid : (game.kind, (room.success game).key) ∈ (g.sampledFrame room).ids := by
    rw [hsampled]
    exact List.mem_map_of_mem (f := (·.id)) hmem
  rw [finalFrame_mem hg hid]
  rintro ⟨-, h8⟩
  obtain ⟨hlt, -⟩ := List.getElem?_eq_some_iff.mp h8
  rw [Frame.ids, List.length_map, hsampled] at hlt
  simp only [coopTransientRecords] at hlt
  omega

/-! ## Runs -/

/-- What happens to the channel's state on the game side: a capture, an applied room action that
latches its passage, and a freshly loaded map. -/
inductive TransientEvent
  | capture (room : GameRoom)
  | observe (map object : Nat) (epoch : Word)
  | loaded

namespace TransientGame

/-- One event. -/
def step (g : TransientGame) : TransientEvent → TransientGame
  | .capture room => g.capture room
  | .observe map object epoch =>
    { g with passages := (passageLatched map object epoch true g.passages).2 }
  | .loaded => { g with page := 0 }

/-- The enabled captures of a run. -/
def enabledCaptures : TransientGame → List TransientEvent → Nat
  | _, [] => 0
  | g, .capture room :: es =>
    (if (g.prepare room).Enabled room then 1 else 0) + enabledCaptures (g.capture room) es
  | g, e :: es => enabledCaptures (g.step e) es

end TransientGame

/-- The event belongs to a stay in the room `room₀`. -/
def TransientEvent.InRoom (room₀ : GameRoom) : TransientEvent → Prop
  | .capture room => room.Same room₀
  | .observe _ _ _ => True
  | .loaded => False

theorem capture_keeps (hg : g.Keeps) : (g.capture room).Keeps := by
  have hp : (g.prepare room).Keeps := prepare_keeps hg
  simp only [TransientGame.capture]
  split
  · exact (takeCutscene_spec hp).2
  · exact hp

theorem run_keeps (es : List TransientEvent) :
    (Run.run TransientGame.step ({} : TransientGame) es).Keeps := by
  refine Run.run_invariant_of_steps ?_ (fun h => absurd rfl h) es
  intro g e hg
  cases e with
  | capture room => exact capture_keeps hg
  | observe => exact hg
  | loaded => exact hg

theorem prepare_page (g : TransientGame) (room : GameRoom) : (g.prepare room).page = g.page := by
  unfold TransientGame.prepare TransientGame.bindFile TransientGame.openEpoch
  split_ifs <;> rfl

theorem capture_page (g : TransientGame) (room : GameRoom) : (g.capture room).page =
    if (g.prepare room).Enabled room then
      Paging.turn (Paging.pagesOf coopTransientRecords (sources room).length) g.page
    else g.page := by
  simp only [TransientGame.capture]
  split
  · rw [(sampleRoom_spec room _ _).1, prepare_page]
  · exact prepare_page g room

/-- **Page `q` comes up**, with captures left that do not count standing in between. -/
theorem exists_page {room₀ : GameRoom} {pages q : Nat}
    (hpages : pages = Paging.pagesOf coopTransientRecords (sources room₀).length)
    (hq : q < pages) : ∀ (window : List TransientEvent) (g : TransientGame),
    (∀ e ∈ window, e.InRoom room₀) → Paging.wait pages q g.page < g.enabledCaptures window →
      ∃ pre room post, window = pre ++ .capture room :: post ∧
        ((Run.run TransientGame.step g pre).prepare room).Enabled room ∧
        (Run.run TransientGame.step g pre).page = q
  | [], g, _, hw => absurd hw (Nat.not_lt_zero _)
  | e :: es, g, hin, hw => by
    have htail : Paging.wait pages q (g.step e).page < (g.step e).enabledCaptures es →
        ∃ pre room post, e :: es = pre ++ .capture room :: post ∧
          ((Run.run TransientGame.step g pre).prepare room).Enabled room ∧
          (Run.run TransientGame.step g pre).page = q := by
      intro h
      obtain ⟨pre, room, post, rfl, hen, hpage⟩ :=
        exists_page hpages hq es _ (fun e he => hin e (List.mem_cons_of_mem _ he)) h
      exact ⟨e :: pre, room, post, rfl, hen, hpage⟩
    cases e with
    | capture room =>
      simp only [TransientGame.enabledCaptures] at hw
      have hsame : room.Same room₀ := hin _ List.mem_cons_self
      have hpage := capture_page g room
      rw [hsame.sources_length, ← hpages] at hpage
      by_cases hen : (g.prepare room).Enabled room
      · by_cases hnow : g.page = q
        · exact ⟨[], room, es, rfl, hen, hnow⟩
        · rw [if_pos hen] at hw hpage
          refine htail ?_
          have hne : Paging.wait pages q g.page ≠ 0 :=
            fun h => hnow (Paging.eq_of_wait_eq_zero h)
          have hturn := Paging.wait_turn hq hne
          simp only [TransientGame.step, hpage]
          omega
      · rw [if_neg hen] at hw hpage
        refine htail ?_
        simp only [TransientGame.step, hpage]
        omega
    | observe map object epoch => exact htail hw
    | loaded => exact absurd (hin _ List.mem_cons_self) id

/-- Some capture of a window is enabled. -/
theorem exists_enabled : ∀ (window : List TransientEvent) (g : TransientGame),
    0 < g.enabledCaptures window → ∃ pre room post, window = pre ++ .capture room :: post ∧
      ((Run.run TransientGame.step g pre).prepare room).Enabled room
  | [], _, hw => absurd hw (Nat.not_lt_zero _)
  | e :: es, g, hw => by
    have htail : 0 < (g.step e).enabledCaptures es → ∃ pre room post,
        e :: es = pre ++ .capture room :: post ∧
          ((Run.run TransientGame.step g pre).prepare room).Enabled room := by
      intro h
      obtain ⟨pre, room, post, rfl, hen⟩ := exists_enabled es _ h
      exact ⟨e :: pre, room, post, rfl, hen⟩
    cases e with
    | capture room =>
      by_cases hen : (g.prepare room).Enabled room
      · exact ⟨[], room, es, rfl, hen⟩
      · simp only [TransientGame.enabledCaptures, if_neg hen, Nat.zero_add] at hw
        exact htail hw
    | observe map object epoch => exact htail hw
    | loaded => exact htail hw

/-- **A window of captures covers the room.** Every capture of an epoch is valid. In a window with
one enabled capture more than the room has pages, the page of everything that stays loaded comes
up, and it is listed there unless a cutscene record takes its place as the eighth of a full frame;
a success that stays latched is listed, cutscene or not. -/
theorem capture_covers (past window : List TransientEvent) (room₀ : GameRoom)
    (hin : ∀ e ∈ window, e.InRoom room₀)
    (hcount : Paging.pagesOf coopTransientRecords (sources room₀).length + 1
      ≤ (Run.run TransientGame.step ({} : TransientGame) past).enabledCaptures window) :
    (∀ pre room post, past ++ window = pre ++ .capture room :: post → room.epoch ≠ 0 →
      validTransientInput
        ((Run.run TransientGame.step ({} : TransientGame) pre).capture room).input = true) ∧
    (∀ kind key, (∀ room, .capture room ∈ window → room.Loaded kind key) →
      ∃ pre room post, window = pre ++ .capture room :: post ∧
        let g := Run.run TransientGame.step ({} : TransientGame) (past ++ pre)
        (g.prepare room).Enabled room ∧ ((g.capture room).input.Lists kind key
          ↔ ¬ (g.prepare room).Displaces room kind key)) ∧
    (∀ game key, (∀ room, .capture room ∈ window →
        room.won game = true ∧ (room.success game).key = key) →
      ∃ pre room post, window = pre ++ .capture room :: post ∧
        let g := Run.run TransientGame.step ({} : TransientGame) (past ++ pre)
        (g.prepare room).Enabled room ∧ (g.capture room).input.Lists game.kind key) := by
  generalize hg₀ : Run.run TransientGame.step ({} : TransientGame) past = g₀ at hcount
  have hpast : ∀ pre, Run.run TransientGame.step ({} : TransientGame) (past ++ pre)
      = Run.run TransientGame.step g₀ pre := by
    intro pre
    rw [Run.run_append, hg₀]
  refine ⟨fun pre room post _ he => capture_valid_of_keeps (run_keeps pre) he, ?_, ?_⟩
  · intro kind key hloaded
    -- an enabled capture gives the ordinal, the same in every room of the window
    obtain ⟨pre, room, post, hsplit, -⟩ := exists_enabled window g₀ (by omega)
    have hmem : TransientEvent.capture room ∈ window := by
      rw [hsplit]
      exact List.mem_append_right _ List.mem_cons_self
    obtain ⟨src, hsrc, hid, -⟩ := loaded_source (hloaded room hmem)
    have hsame : room.Same room₀ := hin _ hmem
    obtain ⟨i, hi, hget⟩ := List.mem_iff_getElem.mp (List.mem_map_of_mem (f := (·.id)) hsrc)
    have hget₀ : ((sources room₀).map (·.id))[i]? = some (kind, key) := by
      rw [← hsame.sources_ids, List.getElem?_eq_getElem hi, hget, hid]
    have hlt : i < (sources room₀).length := by
      simpa using (List.getElem?_eq_some_iff.mp hget₀).1
    have hq : i / coopTransientRecords
        < Paging.pagesOf coopTransientRecords (sources room₀).length :=
      Paging.page_lt (by decide) hlt
    obtain ⟨pre, room, post, rfl, hen, hpage⟩ := exists_page rfl hq window g₀ hin
      (Nat.lt_of_le_of_lt (Paging.wait_le hq) hcount)
    have hmem' : TransientEvent.capture room ∈ pre ++ .capture room :: post :=
      List.mem_append_right _ List.mem_cons_self
    have hsame' : room.Same room₀ := hin _ hmem'
    refine ⟨pre, room, post, rfl, ?_⟩
    rw [hpast]
    refine ⟨hen, ?_⟩
    have hk : ((Run.run TransientGame.step g₀ pre).prepare room).Keeps := by
      rw [← hpast]
      exact prepare_keeps (run_keeps _)
    rw [lists_iff hen]
    exact finalFrame_mem hk (loaded_sampled (hloaded room hmem')
      (hsame'.sources_ids ▸ hget₀) (by rw [prepare_page, hpage]))
  · intro game key hwon
    -- the last page, or any when the room has none
    have hlast : ∃ pre room post, window = pre ++ .capture room :: post ∧
        ((Run.run TransientGame.step g₀ pre).prepare room).Enabled room ∧
        (sources room₀).length
          ≤ coopTransientRecords * ((Run.run TransientGame.step g₀ pre).page + 1) := by
      have hle := @Paging.last_page coopTransientRecords (sources room₀).length (by decide)
      by_cases hzero : Paging.pagesOf coopTransientRecords (sources room₀).length = 0
      · obtain ⟨pre, room, post, hsplit, hen⟩ := exists_enabled window g₀ (by omega)
        refine ⟨pre, room, post, hsplit, hen, ?_⟩
        rw [hzero, Nat.zero_mul] at hle
        omega
      · have hq : Paging.pagesOf coopTransientRecords (sources room₀).length - 1
            < Paging.pagesOf coopTransientRecords (sources room₀).length := by omega
        obtain ⟨pre, room, post, hsplit, hen, hpage⟩ := exists_page rfl hq window g₀ hin
          (Nat.lt_of_le_of_lt (Paging.wait_le hq) hcount)
        refine ⟨pre, room, post, hsplit, hen, ?_⟩
        rw [hpage, Nat.sub_add_cancel (by omega), Nat.mul_comm]
        exact hle
    obtain ⟨pre, room, post, rfl, hen, hroom⟩ := hlast
    have hmem : TransientEvent.capture room ∈ pre ++ .capture room :: post :=
      List.mem_append_right _ List.mem_cons_self
    have hsame : room.Same room₀ := hin _ hmem
    obtain ⟨hw, rfl⟩ := hwon room hmem
    refine ⟨pre, room, post, rfl, ?_⟩
    rw [hpast]
    refine ⟨hen, (lists_iff hen _ _).mpr (success_listed hw ?_ ?_)⟩
    · rw [hsame.sources_length, prepare_page]
      exact hroom
    · rw [← hpast]
      exact prepare_keeps (run_keeps _)

/-! ## The Caves lobby -/

/-- The Caves lobby with all eight reviewed objects loaded and idle. -/
def cavesLobby : GameRoom where
  enabled := true
  present := true
  currentFile := 0
  currentMap := 194
  epoch := 1
  transition := false
  slots := fun slot => ((mapObjects 194).map fun o => BitVec.ofNat 16 o.1).getD slot 0xFFFF
  findProp := fun _ => 0
  props := some fun _ => some ⟨0, 1⟩
  spawners := none
  actors := []
  board := fun _ => 0
  boardActive := false
  success := fun _ => {}
  isCutsceneActive := false
  cutscene := 0
  cutsceneState := 0
  cutsceneProgress := 0

/-- The same lobby while its cutscene runs. -/
def cavesLobbyCutscene : GameRoom := { cavesLobby with isCutsceneActive := true }

/-- **The eighth object starves under a cutscene**: in the Caves lobby, with one page of eight
loaded objects, neither of two captures lists the last one. -/
theorem eighth_object_displaced :
    Paging.pagesOf coopTransientRecords (sources cavesLobbyCutscene).length = 1 ∧
    cavesLobbyCutscene.Loaded 3 6 ∧
    ({} : TransientGame).enabledCaptures [.capture cavesLobbyCutscene, .capture cavesLobbyCutscene]
      = 2 ∧
    ¬ (({} : TransientGame).capture cavesLobbyCutscene).input.Lists 3 6 ∧
    ¬ ((({} : TransientGame).capture cavesLobbyCutscene).capture
      cavesLobbyCutscene).input.Lists 3 6 := by
  refine ⟨by decide +kernel, @GameRoom.Loaded.object cavesLobbyCutscene 6 .platform
    (by decide +kernel) (by decide +kernel), by decide, ?_, ?_⟩
  · rw [lists_iff (by decide)]
    decide +kernel
  · rw [lists_iff (by decide)]
    decide +kernel

/-! ## The owl's race -/

/-- Fungi Forest with its thirteen reviewed objects loaded, the race won and a cutscene running. -/
def fungiRace : GameRoom :=
  { cavesLobbyCutscene with
    currentMap := 48
    slots := fun slot => ((mapObjects 48).map fun o => BitVec.ofNat 16 o.1).getD slot 0xFFFF
    success := fun game => if game = .owl then ⟨1, 1⟩ else {} }

/-- Three captures of two pages: the last object has its turn, and the success is listed. -/
theorem capture_covers_fungi :
    let window : List TransientEvent :=
      [.capture fungiRace, .capture fungiRace, .capture fungiRace]
    (∃ pre room post, window = pre ++ .capture room :: post ∧
      let g := Run.run TransientGame.step ({} : TransientGame) ([] ++ pre)
      (g.prepare room).Enabled room ∧ ((g.capture room).input.Lists 5 7
        ↔ ¬ (g.prepare room).Displaces room 5 7)) ∧
    ∃ pre room post, window = pre ++ .capture room :: post ∧
      let g := Run.run TransientGame.step ({} : TransientGame) ([] ++ pre)
      (g.prepare room).Enabled room ∧ (g.capture room).input.Lists 14 1 := by
  intro window
  have hroom : ∀ e ∈ window, e = .capture fungiRace := by
    simp [window]
  have hin : ∀ e ∈ window, e.InRoom fungiRace := by
    intro e he
    rw [hroom e he]
    exact ⟨rfl, rfl, rfl⟩
  obtain ⟨-, hobjects, hsuccess⟩ := capture_covers [] window fungiRace hin (by decide +kernel)
  refine ⟨hobjects 5 7 fun room h => ?_, hsuccess .owl 1 fun room h => ?_⟩
  · obtain rfl := TransientEvent.capture.inj (hroom _ h)
    exact @GameRoom.Loaded.object fungiRace 7 .trigger (by decide +kernel) (by decide +kernel)
  · obtain rfl := TransientEvent.capture.inj (hroom _ h)
    exact ⟨by decide, rfl⟩

end Dk64Port.Coop
