import Dk64Port.Coop.LiveWorld
import Dk64Port.Coop.Transient

/-!
# The reviewed room objects (`mod/transient_game.h`)

The scripts a room may sample: the live-world rows, whose raw state is copied, and the table of
reversible switches, timers, platforms and ordered controllers. A trigger is sampled as ready or
fired, and a few triggers stay fired for the rest of the room epoch.

* `mapObjects_nodup`: no map samples an object twice under one kind.
* `activation_of_mem`: every trigger of the table has an activation state.
-/

namespace Dk64Port.Coop

/-- The kinds of record that sample an instance script. -/
inductive ObjectKind
  | script
  | timer
  | platform
  | trigger
  | sequence
deriving DecidableEq

/-- The kind on the wire. -/
def ObjectKind.word : ObjectKind → Word
  | .script => 1
  | .timer => 2
  | .platform => 3
  | .trigger => transientTrigger
  | .sequence => transientSequence

/-- `CoopTransientObject`. -/
structure CoopTransientObject where
  map : Nat
  object : Nat
  kind : ObjectKind
  activation : Nat
deriving DecidableEq

/-- `coop_transient_extra_objects`. -/
def coopTransientExtraObjects : List CoopTransientObject := [
  ⟨7, 0x30, .trigger, 2⟩, ⟨7, 0x31, .trigger, 2⟩, ⟨7, 0x32, .trigger, 2⟩, ⟨7, 0x34, .trigger, 2⟩,
  ⟨7, 0x35, .trigger, 2⟩, ⟨7, 0x28, .trigger, 2⟩, ⟨7, 0x29, .trigger, 2⟩, ⟨7, 0x2A, .trigger, 2⟩,
  ⟨7, 0x123, .trigger, 2⟩, ⟨7, 0x38, .trigger, 2⟩, ⟨7, 0x39, .trigger, 2⟩,
  ⟨7, 0x3A, .trigger, 2⟩, ⟨7, 0x3B, .trigger, 2⟩, ⟨7, 0x115, .trigger, 2⟩,
  ⟨7, 0x1F, .trigger, 11⟩, ⟨7, 0x20, .trigger, 11⟩, ⟨7, 0x58, .trigger, 2⟩,
  ⟨30, 0x06, .trigger, 2⟩, ⟨30, 0x07, .trigger, 2⟩, ⟨30, 0x08, .trigger, 2⟩,
  ⟨30, 0x09, .trigger, 2⟩, ⟨30, 0x0A, .trigger, 2⟩, ⟨30, 0x0B, .trigger, 2⟩,
  ⟨30, 0x00, .timer, 0⟩, ⟨30, 0x01, .timer, 0⟩, ⟨30, 0x11, .trigger, 2⟩, ⟨30, 0x12, .trigger, 2⟩,
  ⟨30, 0x13, .trigger, 2⟩, ⟨30, 0x14, .trigger, 2⟩, ⟨30, 0x1B, .trigger, 2⟩,
  ⟨30, 0x1C, .trigger, 2⟩, ⟨30, 0x1D, .trigger, 2⟩, ⟨30, 0x2F, .trigger, 13⟩,
  ⟨30, 0x30, .trigger, 13⟩, ⟨30, 0x31, .trigger, 13⟩, ⟨30, 0x21, .trigger, 2⟩,
  ⟨30, 0x3F, .trigger, 1⟩, ⟨20, 0x12, .trigger, 2⟩, ⟨20, 0x16, .trigger, 2⟩,
  ⟨19, 0x04, .trigger, 2⟩, ⟨19, 0x05, .trigger, 2⟩, ⟨21, 0x04, .trigger, 2⟩,
  ⟨21, 0x05, .trigger, 2⟩, ⟨22, 0x04, .trigger, 2⟩, ⟨22, 0x05, .trigger, 2⟩,
  ⟨23, 0x04, .trigger, 2⟩, ⟨23, 0x05, .trigger, 2⟩, ⟨24, 0x04, .trigger, 2⟩,
  ⟨24, 0x05, .trigger, 2⟩, ⟨24, 0x07, .trigger, 2⟩, ⟨20, 0x19, .trigger, 12⟩,
  ⟨20, 0x1A, .trigger, 12⟩, ⟨20, 0x1B, .trigger, 12⟩, ⟨20, 0x1C, .trigger, 12⟩,
  ⟨20, 0x1D, .trigger, 12⟩, ⟨20, 0x1E, .trigger, 12⟩, ⟨20, 0x1F, .trigger, 12⟩,
  ⟨20, 0x20, .trigger, 12⟩, ⟨20, 0x21, .trigger, 12⟩, ⟨20, 0x22, .trigger, 12⟩,
  ⟨20, 0x23, .trigger, 12⟩, ⟨20, 0x24, .trigger, 12⟩, ⟨20, 0x25, .trigger, 12⟩,
  ⟨20, 0x26, .trigger, 12⟩, ⟨20, 0x27, .trigger, 12⟩, ⟨20, 0x28, .trigger, 12⟩,
  ⟨20, 0x69, .trigger, 2⟩, ⟨20, 0x6B, .trigger, 2⟩, ⟨16, 0x00, .trigger, 2⟩,
  ⟨16, 0x04, .trigger, 2⟩, ⟨16, 0x14, .trigger, 2⟩, ⟨16, 0x0C, .sequence, 0⟩,
  ⟨38, 0x0D, .trigger, 2⟩, ⟨38, 0x0E, .trigger, 2⟩, ⟨38, 0x0F, .trigger, 2⟩,
  ⟨38, 0x44, .trigger, 2⟩, ⟨38, 0x9D, .trigger, 2⟩, ⟨38, 0x9E, .trigger, 2⟩,
  ⟨38, 0x02, .trigger, 2⟩, ⟨38, 0x03, .trigger, 2⟩, ⟨38, 0x04, .trigger, 2⟩,
  ⟨38, 0x05, .trigger, 2⟩, ⟨38, 0x9F, .trigger, 2⟩, ⟨38, 0xA0, .trigger, 2⟩,
  ⟨38, 0x10, .trigger, 13⟩, ⟨38, 0x11, .trigger, 13⟩, ⟨38, 0x12, .trigger, 13⟩,
  ⟨38, 0x13, .trigger, 13⟩, ⟨38, 0x14, .trigger, 13⟩, ⟨34, 0x31, .trigger, 3⟩,
  ⟨34, 0x33, .trigger, 3⟩, ⟨48, 0x04, .timer, 0⟩, ⟨48, 0x05, .timer, 0⟩, ⟨48, 0x18, .trigger, 2⟩,
  ⟨48, 0x19, .trigger, 2⟩, ⟨48, 0x1A, .trigger, 2⟩, ⟨48, 0x1B, .trigger, 2⟩,
  ⟨48, 0x1E, .trigger, 2⟩, ⟨48, 0x0F, .trigger, 2⟩, ⟨48, 0xEB, .trigger, 2⟩,
  ⟨48, 0x07, .trigger, 2⟩, ⟨56, 0x00, .trigger, 2⟩, ⟨58, 0x00, .trigger, 2⟩,
  ⟨57, 0x03, .trigger, 11⟩, ⟨59, 0x01, .trigger, 2⟩, ⟨59, 0x24, .trigger, 2⟩,
  ⟨61, 0x06, .trigger, 11⟩, ⟨62, 0x00, .trigger, 2⟩, ⟨62, 0x01, .trigger, 11⟩,
  ⟨62, 0x03, .trigger, 11⟩, ⟨17, 0x2C, .trigger, 2⟩, ⟨17, 0x2D, .trigger, 12⟩,
  ⟨17, 0x2E, .trigger, 12⟩, ⟨17, 0x2F, .trigger, 12⟩, ⟨17, 0x30, .trigger, 12⟩,
  ⟨17, 0x5D, .trigger, 10⟩, ⟨17, 0x5A, .trigger, 10⟩, ⟨17, 0x58, .trigger, 10⟩,
  ⟨17, 0x61, .trigger, 10⟩, ⟨17, 0x60, .trigger, 10⟩, ⟨173, 0x10, .trigger, 2⟩,
  ⟨178, 0x05, .trigger, 2⟩, ⟨173, 0x00, .trigger, 2⟩, ⟨173, 0x01, .trigger, 2⟩,
  ⟨173, 0x02, .trigger, 2⟩, ⟨173, 0x03, .trigger, 2⟩, ⟨174, 0x04, .trigger, 2⟩,
  ⟨174, 0x05, .trigger, 2⟩, ⟨174, 0x06, .trigger, 2⟩, ⟨174, 0x07, .trigger, 2⟩,
  ⟨174, 0x08, .trigger, 2⟩, ⟨175, 0x00, .trigger, 2⟩, ⟨175, 0x01, .trigger, 2⟩,
  ⟨175, 0x02, .trigger, 2⟩, ⟨175, 0x03, .trigger, 2⟩, ⟨175, 0x04, .trigger, 2⟩,
  ⟨193, 0x02, .trigger, 2⟩, ⟨193, 0x03, .trigger, 2⟩, ⟨193, 0x04, .trigger, 2⟩,
  ⟨193, 0x05, .trigger, 2⟩, ⟨193, 0x06, .trigger, 2⟩, ⟨194, 0x10, .trigger, 2⟩,
  ⟨194, 0x11, .trigger, 2⟩, ⟨194, 0x12, .trigger, 2⟩, ⟨194, 0x13, .trigger, 2⟩,
  ⟨194, 0x14, .trigger, 2⟩, ⟨72, 0x2E, .trigger, 2⟩, ⟨72, 0x2F, .trigger, 13⟩,
  ⟨72, 0x1D, .trigger, 2⟩, ⟨72, 0x1E, .trigger, 2⟩, ⟨72, 0x1F, .trigger, 2⟩,
  ⟨90, 0x03, .trigger, 2⟩, ⟨90, 0x04, .trigger, 2⟩, ⟨90, 0x05, .trigger, 2⟩,
  ⟨84, 0x00, .sequence, 0⟩, ⟨108, 0x00, .trigger, 2⟩, ⟨108, 0x04, .trigger, 2⟩,
  ⟨112, 0x0D, .trigger, 2⟩, ⟨112, 0x0E, .trigger, 2⟩, ⟨112, 0x0F, .trigger, 2⟩,
  ⟨163, 0x04, .trigger, 2⟩, ⟨163, 0x05, .trigger, 2⟩, ⟨163, 0x06, .trigger, 2⟩,
  ⟨164, 0x01, .trigger, 2⟩, ⟨164, 0x09, .trigger, 5⟩, ⟨164, 0x05, .trigger, 12⟩,
  ⟨164, 0x06, .trigger, 12⟩, ⟨164, 0x07, .trigger, 12⟩, ⟨183, 0x05, .trigger, 2⟩,
  ⟨183, 0x06, .trigger, 2⟩, ⟨183, 0x07, .trigger, 2⟩, ⟨183, 0x08, .trigger, 2⟩,
  ⟨183, 0x09, .trigger, 2⟩, ⟨166, 0x05, .trigger, 11⟩, ⟨200, 0x06, .trigger, 2⟩,
  ⟨200, 0x07, .trigger, 2⟩, ⟨200, 0x08, .trigger, 2⟩, ⟨169, 0x00, .trigger, 2⟩,
  ⟨169, 0x02, .trigger, 2⟩, ⟨169, 0x03, .trigger, 2⟩, ⟨169, 0x04, .trigger, 2⟩,
  ⟨169, 0x05, .trigger, 2⟩, ⟨7, 0x1A, .trigger, 2⟩, ⟨7, 0x117, .sequence, 0⟩,
  ⟨12, 0x02, .trigger, 2⟩, ⟨12, 0x03, .trigger, 2⟩, ⟨13, 0x02, .trigger, 2⟩,
  ⟨13, 0x03, .trigger, 2⟩, ⟨16, 0x1A, .trigger, 2⟩, ⟨16, 0x7C, .trigger, 2⟩,
  ⟨20, 0x0E, .trigger, 2⟩, ⟨20, 0x0F, .trigger, 2⟩, ⟨20, 0x10, .trigger, 2⟩,
  ⟨20, 0x15, .trigger, 2⟩, ⟨114, 0x04, .trigger, 13⟩, ⟨114, 0x06, .trigger, 2⟩,
  ⟨163, 0x0C, .trigger, 2⟩, ⟨174, 0x0A, .trigger, 2⟩, ⟨175, 0x0E, .trigger, 11⟩,
  ⟨194, 0x00, .trigger, 2⟩, ⟨194, 0x01, .trigger, 2⟩, ⟨193, 0x00, .trigger, 2⟩,
  ⟨194, 0x06, .platform, 0⟩, ⟨26, 0x15, .trigger, 1⟩, ⟨26, 0x20, .trigger, 1⟩,
  ⟨26, 0x3C, .trigger, 1⟩, ⟨26, 0x13A, .trigger, 1⟩, ⟨26, 0x13C, .trigger, 1⟩,
  ⟨26, 0x140, .trigger, 2⟩, ⟨4, 0x0A, .trigger, 2⟩, ⟨4, 0x0B, .trigger, 2⟩,
  ⟨4, 0x06, .trigger, 2⟩, ⟨26, 0x2E, .trigger, 2⟩, ⟨26, 0x2F, .trigger, 2⟩,
  ⟨26, 0x30, .trigger, 2⟩, ⟨26, 0x31, .trigger, 2⟩, ⟨26, 0x24, .trigger, 2⟩,
  ⟨26, 0x37, .trigger, 2⟩, ⟨26, 0x38, .trigger, 2⟩, ⟨26, 0x3B, .trigger, 2⟩,
  ⟨26, 0x3F, .trigger, 5⟩, ⟨26, 0x40, .trigger, 5⟩, ⟨26, 0x41, .trigger, 5⟩,
  ⟨26, 0x14, .sequence, 0⟩, ⟨26, 0x7F, .sequence, 0⟩
]

/-- `coop_transient_object_activation`; zero when the object is not in the table. -/
def objectActivation (map object : Nat) : Nat :=
  match coopTransientExtraObjects.find? fun e => e.map == map && e.object == object with
  | some e => e.activation
  | none => 0

/-- `coop_transient_object_kind`; `none` is `COOP_TRANSIENT_NONE`. -/
def objectKind (map object : Nat) : Option ObjectKind :=
  match coopTransientExtraObjects.find? fun e => e.map == map && e.object == object with
  | some e => some e.kind
  | none =>
    if coopLiveWorldStates.any fun s => s.map == map && s.object == object then some .script
    else none

/-- `coop_transient_dual_script`. -/
def dualScript (map object : Nat) : Bool := decide (map = 7 ∧ object = 0x1A)

/-- The live-world rows the channel copies: reviewed for it and not hidden by the other table. -/
def copiesRow (state : CoopLiveWorldState) : Bool :=
  transientEligible state
    && (objectKind state.map state.object == some .script || dualScript state.map state.object)

/-- The objects of a map in the order their ordinals are given out. -/
def mapObjects (map : Nat) : List (Nat × ObjectKind) :=
  (firstRows map copiesRow [] coopLiveWorldStates).map (fun object => (object, .script))
    ++ (coopTransientExtraObjects.filter fun e => e.map == map).map fun e => (e.object, e.kind)

/-! ## Facts about the tables -/

variable {map object : Nat}

theorem extra_bounds : ∀ e ∈ coopTransientExtraObjects,
    e.object ≤ 0xFFFF ∧ e.activation ≤ 0xFF ∧ e.kind ≠ .script ∧
      (e.kind = .trigger → e.activation ≠ 0) := by
  decide +kernel

/-- The ordered controllers of the table. -/
theorem extra_sequences : ∀ e ∈ coopTransientExtraObjects, e.kind = .sequence →
    (e.map, e.object) ∈ [(7, 0x117), (26, 0x14), (26, 0x7F), (16, 0x0C), (84, 0x00)] := by
  decide +kernel

/-- No object has two rows. -/
theorem extra_unique :
    (coopTransientExtraObjects.map fun e => (e.map, e.object)).Nodup := by decide +kernel

theorem activation_le : objectActivation map object ≤ 0xFF := by
  rw [objectActivation]
  cases h : coopTransientExtraObjects.find? fun e => e.map == map && e.object == object with
  | none => exact Nat.zero_le _
  | some e => exact (extra_bounds e (List.mem_of_find?_eq_some h)).2.1

/-- The row found for an object is its own row. -/
theorem find_extra {e : CoopTransientObject} (he : e ∈ coopTransientExtraObjects) :
    (coopTransientExtraObjects.find? fun e' => e'.map == e.map && e'.object == e.object)
      = some e := by
  cases h : coopTransientExtraObjects.find? fun e' => e'.map == e.map && e'.object == e.object with
  | none => simpa using List.find?_eq_none.mp h e he
  | some e' =>
    have hp : e'.map = e.map ∧ e'.object = e.object := by
      simpa using List.find?_some h
    exact congrArg some (List.inj_on_of_nodup_map extra_unique (List.mem_of_find?_eq_some h) he
      (Prod.ext hp.1 hp.2))

/-- **Every trigger of the table has an activation state.** -/
theorem activation_of_mem {e : CoopTransientObject} (he : e ∈ coopTransientExtraObjects)
    (hk : e.kind = .trigger) : objectActivation e.map e.object ≠ 0 := by
  rw [objectActivation, find_extra he]
  exact (extra_bounds e he).2.2.2 hk

theorem mem_mapObjects {o : Nat × ObjectKind} (h : o ∈ mapObjects map) :
    o.2 = .script ∧ o.1 ≤ 0xFFFF ∨ ∃ e ∈ coopTransientExtraObjects,
      e.map = map ∧ e.object = o.1 ∧ e.kind = o.2 := by
  rcases List.mem_append.mp h with h | h
  · obtain ⟨object, hmem, rfl⟩ := List.mem_map.mp h
    obtain ⟨⟨s, hs, -, rfl, -⟩, -⟩ := mem_firstRows hmem
    exact .inl ⟨rfl, live_bounds s hs⟩
  · obtain ⟨e, he, rfl⟩ := List.mem_map.mp h
    obtain ⟨he, hm⟩ := List.mem_filter.mp he
    exact .inr ⟨e, he, by simpa using hm, rfl, rfl⟩

/-- Every key fits sixteen bits. -/
theorem mapObjects_le {o : Nat × ObjectKind} (h : o ∈ mapObjects map) : o.1 ≤ 0xFFFF := by
  rcases mem_mapObjects h with ⟨-, hle⟩ | ⟨e, he, -, heo, -⟩
  · exact hle
  · exact heo ▸ (extra_bounds e he).1

/-- **No map samples an object twice under one kind.** -/
theorem mapObjects_nodup (map : Nat) : (mapObjects map).Nodup := by
  refine List.Nodup.append ((firstRows_nodup _ _).map fun a b h => (Prod.ext_iff.mp h).1) ?_ ?_
  · refine List.Nodup.map_on ?_ ((List.Nodup.of_map _ extra_unique).filter _)
    intro a ha b hb hab
    obtain ⟨ha, hma⟩ := List.mem_filter.mp ha
    obtain ⟨hb, hmb⟩ := List.mem_filter.mp hb
    have hm : a.map = b.map := by
      simp only [beq_iff_eq] at hma hmb
      rw [hma, hmb]
    exact List.inj_on_of_nodup_map extra_unique ha hb (Prod.ext hm (Prod.ext_iff.mp hab).1)
  · intro o hl hr
    obtain ⟨_, -, rfl⟩ := List.mem_map.mp hl
    obtain ⟨e, he, heq⟩ := List.mem_map.mp hr
    exact (extra_bounds e (List.mem_filter.mp he).1).2.2.1 (Prod.ext_iff.mp heq).2

attribute [irreducible] coopTransientExtraObjects

/-! ## Logical progress -/

/-- `coop_piano_hit_states`. -/
def coopPianoHitStates : List Nat :=
  [13, 15, 17, 20, 22, 24, 26, 29, 31, 33, 35, 37, 40,
    42, 44, 46, 48, 50, 53, 55, 57, 59, 61, 63, 65]

/-- `coop_piano_progress`: the last hit state the raw state has passed. -/
def pianoProgress (raw : Nat) : Nat :=
  if 250 ≤ raw then 0
  else (List.range 25).foldl
    (fun progress i => if coopPianoHitStates.getD i 0 ≤ raw then i + 1 else progress) 0

/-- `coop_dartboard_progress`. -/
def dartboardProgress (raw : Nat) : Nat :=
  if raw = 23 ∨ raw = 24 then 6
  else if raw = 20 ∨ raw = 58 ∨ raw = 59 then 5
  else if raw = 19 ∨ raw = 56 ∨ raw = 57 then 4
  else if raw = 18 ∨ raw = 54 ∨ raw = 55 then 3
  else if raw = 17 ∨ raw = 52 ∨ raw = 53 then 2
  else if raw = 16 ∨ raw = 50 ∨ raw = 51 then 1
  else 0

/-- `coop_tiny_igloo_progress`. -/
def tinyIglooProgress (raw : Nat) : Nat :=
  if raw = 1 then 0
  else if raw = 2 ∨ raw = 3 ∨ raw = 4 ∨ raw = 70 then 1
  else if raw = 5 ∨ raw = 6 then 2
  else if raw = 7 ∨ raw = 8 then 3
  else if raw = 9 ∨ 30 ≤ raw ∧ raw ≤ 35 then 4
  else 0

/-- `coop_japes_x_progress`. -/
def japesXProgress (raw : Nat) : Nat :=
  if raw = 2 ∨ raw = 3 then 1 else if raw = 4 ∨ raw = 5 then 2 else if raw = 6 then 3 else 0

theorem pianoProgress_le (raw : Nat) : pianoProgress raw ≤ 25 := by
  have hfold : ∀ (is : List Nat) (p : Nat), p ≤ 25 → (∀ i ∈ is, i < 25) →
      is.foldl (fun progress i =>
        if coopPianoHitStates.getD i 0 ≤ raw then i + 1 else progress) p ≤ 25 := by
    intro is
    induction is with
    | nil => intro p hp _; exact hp
    | cons i is ih =>
      intro p hp his
      refine ih _ ?_ fun j hj => his j (List.mem_cons_of_mem _ hj)
      have := his i List.mem_cons_self
      dsimp only
      split <;> omega
  rw [pianoProgress]
  split
  · omega
  · exact hfold _ 0 (by omega) fun i hi => List.mem_range.mp hi

theorem dartboardProgress_le (raw : Nat) : dartboardProgress raw ≤ 25 := by
  rw [dartboardProgress]
  split_ifs <;> omega

theorem tinyIglooProgress_le (raw : Nat) : tinyIglooProgress raw ≤ 25 := by
  rw [tinyIglooProgress]
  split_ifs <;> omega

theorem japesXProgress_le (raw : Nat) : japesXProgress raw ≤ 25 := by
  rw [japesXProgress]
  split_ifs <;> omega

/-! ## Triggers -/

/-- `coop_transient_trigger_fired`. -/
def triggerFired (map object raw activation : Nat) : Bool :=
  if map = 4 ∧ (object = 0x0A ∨ object = 0x0B) then decide (2 ≤ raw ∧ raw ≤ 5)
  else if map = 16 ∧ object = 0x04 then
    decide (raw = 2 ∨ raw = 40 ∨ raw = 20 ∨ raw = 30 ∨ raw = 3 ∨ raw = 4)
  else if map = 17 ∧ (object = 0x5D ∨ object = 0x5A ∨ object = 0x58 ∨ object = 0x61
      ∨ object = 0x60) then
    decide (activation = 10 ∧ raw = 10)
  else if map = 38 ∧ 0x0D ≤ object ∧ object ≤ 0x0F then decide (2 ≤ raw ∧ raw ≤ 6)
  else decide (activation ≤ raw ∧ raw < 20)

/-- `CoopTransientPassage`. -/
structure CoopTransientPassage where
  map : Nat
  object : Nat
deriving DecidableEq

/-- `coop_transient_passages`. -/
def coopTransientPassages : List CoopTransientPassage := [
  ⟨7, 0x1F⟩, ⟨7, 0x20⟩, ⟨7, 0x123⟩, ⟨20, 0x6B⟩, ⟨38, 0x02⟩, ⟨38, 0x03⟩, ⟨38, 0x04⟩, ⟨38, 0x05⟩,
  ⟨108, 0x00⟩, ⟨108, 0x04⟩, ⟨112, 0x0D⟩, ⟨112, 0x0E⟩, ⟨112, 0x0F⟩, ⟨163, 0x04⟩, ⟨163, 0x05⟩,
  ⟨163, 0x06⟩, ⟨164, 0x01⟩, ⟨164, 0x09⟩, ⟨183, 0x05⟩, ⟨183, 0x06⟩, ⟨183, 0x07⟩, ⟨183, 0x08⟩,
  ⟨183, 0x09⟩, ⟨169, 0x00⟩, ⟨169, 0x02⟩, ⟨169, 0x03⟩, ⟨169, 0x04⟩, ⟨169, 0x05⟩
]

/-- `coop_transient_passage_index`; zero when the object is no passage. -/
def passageIndex (map object : Nat) : Nat :=
  match coopTransientPassages.findIdx? fun p => p.map == map && p.object == object with
  | some i => i + 1
  | none => 0

/-- `coop_transient_passage_map`, `coop_transient_passage_epoch` and
`coop_transient_passage_bits`. -/
structure Passages where
  map : Nat := 0
  epoch : Word := 0
  bits : Word := 0
deriving DecidableEq

/-- `coop_transient_passage_latched`: the answer and the latch after it. -/
def passageLatched (map object : Nat) (epoch : Word) (observe : Bool) (p : Passages) :
    Bool × Passages :=
  let index := passageIndex map object
  if index = 0 then (false, p)
  else
    let p := if p.map ≠ map ∨ p.epoch ≠ epoch then ⟨map, epoch, 0⟩ else p
    let bit : Word := 1 <<< (index - 1)
    let p := if observe then { p with bits := p.bits ||| bit } else p
    (decide (p.bits &&& bit ≠ 0), p)

end Dk64Port.Coop
