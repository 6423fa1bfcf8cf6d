import Dk64Port.Coop.LiveWorld
import Mathlib.Data.List.Basic

/-!
# Applying a permanent flag to the loaded map (`mod/world_live_game.h`, `mod/coop.c`)

A flag's rows on the current map are one unit. All of them are checked before the first loaded
script, prop or actor is changed; then each row is applied by its mode.

* `ready`: `coop_live_world_ready`.
* `refresh`: `coop_live_world_refresh`, with the rows it got through.
* `unitRows_ordered`: only the last row of a unit looks at more than its own script.
* `refresh_all_or_nothing`: nothing is touched, or every row of the unit is processed.
-/

namespace Dk64Port.Coop.Live

/-! ## The loaded map -/

/-- The actor types the adapters look for. -/
inductive ActorType
  | llama
  | seal
  | seal0
  | rabbitRace
  | beanstalk
  | mermaid
  | other (type : Nat)
deriving DecidableEq

/-- The fields of a loaded actor that the adapters read or write. -/
structure LoadedActor where
  unk58 : ActorType
  objectPropertiesBitfield : Word
  controlState : Nat
  controlStateProgress : Nat
  noclipByte : Nat
deriving DecidableEq

/-- The fields of a `Prop_ScriptData` that the adapters read or write. -/
structure ScriptData where
  unk48 : BitVec 8
  unk54 : BitVec 8
  unk60 : BitVec 8
  unk62 : BitVec 16
  unk66 : BitVec 8
deriving DecidableEq

/-- The game memory. `slots` is `D_global_asm_807F6240`, `props` the array at
`D_global_asm_807F6000` by the script each prop points to, `actors` the first
`D_global_asm_807FBB34` entries of `D_global_asm_807FBB930`; scripts and actors are named by their
addresses. -/
structure Memory where
  slots : Nat → BitVec 16
  findProp : Int → Int
  props : Option (Nat → Option Nat)
  script : Nat → ScriptData
  actors : List (Option Nat)
  actor : Nat → LoadedActor
  flag : Nat → Bool

/-- The game's own functions that the adapters call: `func_global_asm_8063DA40(slot, state)`,
`func_global_asm_80641874(9, 0)`, `deleteActor`, the three calls that show the grown beanstalk, and
the comparison of a seal's distances. -/
structure Calls where
  setState : Nat → Nat → Memory → Memory
  notifySpawner : Memory → Memory
  deleteActor : Nat → Memory → Memory
  showBeanstalk : Nat → Memory → Memory
  atCage : LoadedActor → Bool

namespace Memory

variable (m : Memory)

/-- The first slot of an object among the given ones. -/
def slotAmong (slots : List Nat) (object : Nat) : Option Nat :=
  slots.find? fun slot => (m.slots slot).toNat == object

/-- `coop_live_world_find_object`: the first slot of an object. -/
@[irreducible] def findObject (object : Nat) : Option Nat :=
  m.slotAmong (List.range coopLiveWorldScriptSlots) object

/-- The last slot of an object. -/
@[irreducible] def lastSlot (object : Nat) : Option Nat :=
  m.slotAmong (List.range coopLiveWorldScriptSlots).reverse object

theorem slotAmong_isSome {slots slots' : List Nat} (h : ∀ s ∈ slots, s ∈ slots') {object : Nat}
    (hs : (m.slotAmong slots object).isSome = true) :
    (m.slotAmong slots' object).isSome = true := by
  obtain ⟨slot, hmem, hp⟩ := List.find?_isSome.mp hs
  exact List.find?_isSome.mpr ⟨slot, h slot hmem, hp⟩

/-- The script of an object, through the prop of its first slot. -/
def scriptOf (object : Nat) : Option Nat :=
  match m.findObject object with
  | none => none
  | some slot =>
    let prop := m.findProp (m.slots slot).toInt
    match m.props with
    | some props => if prop < 0 then none else props prop.toNat
    | none => none

/-- `coop_live_world_object_raw_state`. -/
def objectRawState (object : Nat) : Option Nat :=
  (m.scriptOf object).map fun s => (m.script s).unk48.toNat

/-- The loaded actors of a type, in order. -/
def actorsOf (type : ActorType → Bool) : List Nat :=
  (m.actors.filterMap id).filter fun a =>
    type (m.actor a).unk58 && decide ((m.actor a).objectPropertiesBitfield &&& 0x10 ≠ 0)

/-- One actor's fields are replaced. -/
def setActor (a : Nat) (x : LoadedActor) : Memory :=
  { m with actor := fun b => if b = a then x else m.actor b }

/-- One script's fields are replaced. -/
def setScript (s : Nat) (x : ScriptData) : Memory :=
  { m with script := fun t => if t = s then x else m.script t }

end Memory

/-! ## The adapters -/

variable (calls : Calls) (m : Memory)

/-- `coop_live_world_set_object`. -/
def setObject (object state : Nat) : Bool × Memory :=
  match m.findObject object with
  | none => (false, m)
  | some slot => (true, calls.setState slot state m)

/-- `coop_live_world_reveal_object`. -/
def revealObject (object : Nat) : Bool × Memory :=
  match m.scriptOf object with
  | none => (false, m)
  | some s => (true, m.setScript s { m.script s with unk60 := 1, unk62 := 0xFF, unk66 := 0xFF })

/-- `coop_live_world_galleon_state_valid`. -/
def galleonStateValid (object raw : Nat) : Bool :=
  if raw = 0 then true
  else if object = 0x027 then decide (10 ≤ raw ∧ raw ≤ 17 ∨ 26 ≤ raw ∧ raw ≤ 28)
  else if object = 0x051 then decide (10 ≤ raw ∧ raw ≤ 14)
  else false

/-- `coop_live_world_isles_trombone_ready`. -/
def islesTromboneReady : Bool :=
  match m.objectRawState 0x31 with
  | none => false
  | some raw => decide (raw ≤ 6)

/-- `coop_live_world_isles_trombone_refresh`. -/
def islesTromboneRefresh : Bool × Memory :=
  match m.scriptOf 0x31 with
  | none => (false, m)
  | some s =>
    let raw := (m.script s).unk48.toNat
    if 6 < raw then (false, m)
    else if 3 ≤ raw then (true, m)
    else
      let m := calls.notifySpawner m
      (true, m.setScript s { m.script s with unk48 := 6, unk54 := 2 })

/-- `coop_live_world_llama_free_ready`. -/
def llamaFreeReady : Bool :=
  (m.actorsOf (· = .llama)).all fun a => decide ((m.actor a).controlState = 5)

/-- `coop_live_world_llama_free_refresh`. -/
def llamaFreeRefresh : Bool × Memory :=
  match m.actorsOf (· = .llama) with
  | [] => (true, m)
  | a :: _ =>
    if (m.actor a).controlState ≠ 5 then (false, m) else (true, calls.deleteActor a m)

/-- `coop_live_world_llama_water_ready`. -/
def llamaWaterReady : Bool :=
  (m.actorsOf (· = .llama)).all fun a =>
    decide ((m.actor a).controlState = 0 ∨ (m.actor a).controlState = 39)

/-- `coop_live_world_llama_water_refresh`. -/
def llamaWaterRefresh : Bool × Memory :=
  match m.actorsOf (· = .llama) with
  | [] => (true, m)
  | a :: _ =>
    if (m.actor a).controlState = 39 then (true, m)
    else if (m.actor a).controlState ≠ 0 then (false, m)
    else (true, m.setActor a { m.actor a with controlState := 39, controlStateProgress := 4 })

/-- `coop_live_world_is_seal`, of the actor's type. -/
def isSeal (type : ActorType) : Bool := decide (type = .seal ∨ type = .seal0)

/-- `coop_live_world_seal_ready`. -/
def sealReady : Bool :=
  (m.actorsOf isSeal).all fun a => decide ((m.actor a).controlState = 0
    ∨ (m.actor a).controlState = 40 ∧ (m.actor a).controlStateProgress = 0)

/-- `coop_live_world_seal_refresh`: the race copy turns, the cage copy keeps its state. -/
def sealRefresh : Bool × Memory :=
  if sealReady m = false then (false, m)
  else
    (true, (m.actorsOf isSeal).foldl (fun m a =>
      if (m.actor a).controlState = 0 then
        m.setActor a { m.actor a with controlState := 40, controlStateProgress := 0 }
      else if calls.atCage (m.actor a) then
        m.setActor a { m.actor a with controlState := 0x28, controlStateProgress := 0 }
      else m) m)

/-- `coop_live_world_mushroom_switch_ready`. -/
def mushroomSwitchReady (object : Nat) : Bool :=
  match m.objectRawState object, m.objectRawState 0x0B with
  | some switch, some board =>
    decide ((switch ≤ 1 ∨ 20 ≤ switch ∧ switch ≤ 22) ∧ (board ≤ 4 ∨ board = 7))
  | _, _ => false

/-- `PERMFLAG_PROGRESS_CANNON_COCONUT_SWITCH` to `PERMFLAG_PROGRESS_CANNON_PINEAPPLE_SWITCH`. -/
def cannonSwitches : List Nat := [0xE6, 0xE7, 0xE8, 0xE9, 0xEA]

/-- `coop_live_world_mushroom_switch_refresh`. -/
def mushroomSwitchRefresh (object : Nat) : Bool × Memory :=
  if mushroomSwitchReady m object = false then (false, m)
  else
    match m.lastSlot object, m.lastSlot 0x0B, m.objectRawState 0x0B with
    | some switchSlot, some boardSlot, some board =>
      let m := calls.setState switchSlot 0 m
      if board ≠ 7 then
        let count := (cannonSwitches.filter m.flag).length
        if board < count then (true, calls.setState boardSlot count m) else (true, m)
      else (true, m)
    | _, _, _ => (false, m)

/-- `coop_live_world_rabbit_ready`; its refresh is the same check. -/
def rabbitReady : Bool :=
  (m.actorsOf (· = .rabbitRace)).all fun a =>
    decide ((m.actor a).controlState = 0x1E ∨ (m.actor a).controlState = 0x40)

/-- `coop_live_world_beanstalk_actor`. -/
def beanstalkActor : Option Nat := (m.actorsOf (· = .beanstalk)).head?

/-- `coop_live_world_beanstalk_ready`. -/
def beanstalkReady : Bool :=
  match beanstalkActor m with
  | none => true
  | some a => decide ((m.actor a).controlState ≤ 3)

/-- `coop_live_world_beanstalk_refresh`. -/
def beanstalkRefresh : Bool × Memory :=
  match beanstalkActor m with
  | none => (true, m)
  | some a =>
    let state := (m.actor a).controlState
    if state = 1 ∨ state = 2 ∨ state = 3 then (true, m)
    else if state ≠ 0 then (false, m)
    else
      let m := calls.showBeanstalk a m
      (true, m.setActor a { m.actor a with
        noclipByte := 2
        objectPropertiesBitfield := (m.actor a).objectPropertiesBitfield ||| 4
        controlState := 3
        controlStateProgress := 0 })

/-- `coop_live_world_mermaid_actor`. -/
def mermaidActor : Option Nat := (m.actorsOf (· = .mermaid)).head?

/-- The mermaid's four entry states. -/
def mermaidEntry (state : Nat) : Bool := decide (state = 30 ∨ state = 31 ∨ state = 32 ∨ state = 39)

/-- `coop_live_world_mermaid_ready`. -/
def mermaidReady : Bool :=
  match mermaidActor m with
  | none => false
  | some a => mermaidEntry (m.actor a).controlState

/-- `PERMFLAG_ITEM_PEARL_1` to `PERMFLAG_ITEM_PEARL_5`. -/
def pearlFlags : List Nat := [0xBA, 0xBB, 0xBC, 0xBD, 0xBE]

/-- `PERMFLAG_ITEM_GB_GALLEON_MERMAID`. -/
def mermaidReward : Nat := 0xBF

/-- `coop_live_world_mermaid_refresh`. -/
def mermaidRefresh : Bool × Memory :=
  match mermaidActor m with
  | none => (false, m)
  | some a =>
    let state := (m.actor a).controlState
    if mermaidEntry state = false then (false, m)
    else if state = 39 ∨ state = 32 then (true, m)
    else
      let pearls := (pearlFlags.filter m.flag).length
      let next := if m.flag mermaidReward then 32
        else if pearls = 5 then 39 else if pearls ≠ 0 then 31 else 30
      (true, m.setActor a { m.actor a with controlState := next, controlStateProgress := 0 })

/-! ## A unit -/

/-- The rows of a flag on a map. -/
def unitRows (map flag : Nat) : List CoopLiveWorldState :=
  coopLiveWorldStates.filter fun row => row.map == map && row.flag == flag

/-- The modes whose row names an object that must be loaded. -/
def needsObject : LiveMode → Bool
  | .noop | .mermaid | .llamaFree | .llamaWater | .seal | .mushroomSwitch | .rabbit
  | .beanstalk => false
  | _ => true

/-- The checks of `coop_live_world_ready` on one row. -/
def rowReady (row : CoopLiveWorldState) : Bool :=
  (!needsObject row.mode || (m.findObject row.object).isSome) &&
    match row.mode with
    | .mermaid => mermaidReady m
    | .islesTrombone => islesTromboneReady m
    | .llamaFree => llamaFreeReady m
    | .llamaWater => llamaWaterReady m
    | .seal => sealReady m
    | .mushroomSwitch => mushroomSwitchReady m row.object
    | .rabbit => rabbitReady m
    | .beanstalk => beanstalkReady m
    | .continueGalleon =>
      match m.objectRawState row.object with
      | none => false
      | some raw => galleonStateValid row.object raw
    | .reveal => (m.objectRawState row.object).isSome
    | _ => true

/-- `coop_live_world_ready`: the flag has rows here and each of them is ready. -/
def ready (map flag : Nat) : Bool :=
  !(unitRows map flag).isEmpty && (unitRows map flag).all (rowReady m)

/-- What `coop_live_world_refresh` does for one row of the unit. -/
def processRow (row : CoopLiveWorldState) : Bool × Memory :=
  match row.mode with
  | .noop | .require => (true, m)
  | .mermaid => mermaidRefresh m
  | .islesTrombone => islesTromboneRefresh calls m
  | .llamaFree => llamaFreeRefresh calls m
  | .llamaWater => llamaWaterRefresh m
  | .seal => sealRefresh calls m
  | .mushroomSwitch => mushroomSwitchRefresh calls m row.object
  | .rabbit => (rabbitReady m, m)
  | .beanstalk => beanstalkRefresh calls m
  | .reveal => revealObject m row.object
  | .continueGalleon =>
    match m.objectRawState row.object with
    | none => (false, m)
    | some raw => if raw ≠ 0 then (true, m) else setObject calls m row.object row.state
  | .direct | .replay | .permanent => setObject calls m row.object row.state

/-- What a refresh came to: its return value, the rows it got through and the memory after it. -/
structure Outcome where
  returned : Bool
  processed : List CoopLiveWorldState
  memory : Memory

/-- The second pass: it stops at the first row that fails. -/
def processRows : Memory → List CoopLiveWorldState → Outcome
  | m, [] => ⟨true, [], m⟩
  | m, row :: rows =>
    match processRow calls m row with
    | (false, m') => ⟨false, [], m'⟩
    | (true, m') =>
      let rest := processRows m' rows
      { rest with processed := row :: rest.processed }

/-- `coop_live_world_refresh`. -/
def refresh (map flag : Nat) : Outcome :=
  if ready m map flag then processRows calls m (unitRows map flag) else ⟨false, [], m⟩

/-! ## What a row needs of the rows before it -/

/-- The game's set-state call changes nothing but scripts. -/
def Calls.OnlyScripts (calls : Calls) : Prop :=
  ∀ slot state m, ∃ script, calls.setState slot state m = { m with script := script }

/-- The same map but for its scripts. -/
def SameBut (m m' : Memory) : Prop := ∃ script, m' = { m with script := script }

/-- The modes whose processing changes scripts only. -/
def scriptMode : LiveMode → Bool
  | .direct | .replay | .permanent | .require | .noop | .continueGalleon | .reveal => true
  | _ => false

/-- The modes whose processing looks at the value of a script. -/
def readsScript : LiveMode → Bool
  | .islesTrombone | .mushroomSwitch => true
  | _ => false

/-- Of two rows of one unit, the earlier one changes scripts only and the later one does not look
at their values. -/
def Ordered (a b : CoopLiveWorldState) : Prop :=
  scriptMode a.mode = true ∧ readsScript b.mode = false

theorem units_ordered : coopLiveWorldStates.Pairwise fun a b =>
    a.map = b.map → a.flag = b.flag → scriptMode a.mode = true ∧ readsScript b.mode = false := by
  decide +kernel

/-- **Only the last row of a unit is special.** -/
theorem unitRows_ordered (map flag : Nat) : (unitRows map flag).Pairwise Ordered := by
  refine (units_ordered.filter _).imp_of_mem fun {a b} ha hb h => ?_
  obtain ⟨ha, ha'⟩ := Bool.and_eq_true_iff.mp (List.mem_filter.mp ha).2
  obtain ⟨hb, hb'⟩ := Bool.and_eq_true_iff.mp (List.mem_filter.mp hb).2
  simp only [beq_iff_eq] at ha ha' hb hb'
  exact h (ha.trans hb.symm) (ha'.trans hb'.symm)

variable {calls m} {m' : Memory} {row : CoopLiveWorldState} {object : Nat}

@[simp] theorem findObject_script (script : Nat → ScriptData) :
    Memory.findObject { m with script := script } object = m.findObject object := by
  unfold Memory.findObject
  generalize List.range coopLiveWorldScriptSlots = slots
  rfl

@[simp] theorem scriptOf_script (script : Nat → ScriptData) :
    Memory.scriptOf { m with script := script } object = m.scriptOf object := by
  simp only [Memory.scriptOf, findObject_script]

theorem SameBut.refl (m : Memory) : SameBut m m := ⟨m.script, rfl⟩

theorem setObject_spec (hc : calls.OnlyScripts) (hs : SameBut m m')
    (h : (m.findObject object).isSome = true) (state : Nat) :
    (setObject calls m' object state).1 = true
      ∧ SameBut m (setObject calls m' object state).2 := by
  obtain ⟨script, rfl⟩ := hs
  obtain ⟨slot, hslot⟩ := Option.isSome_iff_exists.mp h
  simp only [setObject, findObject_script, hslot]
  obtain ⟨script', heq⟩ := hc slot state { m with script := script }
  exact ⟨trivial, script', heq⟩

theorem objectRawState_isSome (hs : SameBut m m') (h : (m.objectRawState object).isSome = true) :
    ∃ s, m'.scriptOf object = some s := by
  obtain ⟨script, rfl⟩ := hs
  rw [Memory.objectRawState, Option.isSome_map] at h
  rw [scriptOf_script]
  exact Option.isSome_iff_exists.mp h

/-- **A row that changes scripts only goes through**, after any rows of its kind. -/
theorem scriptRow_spec (hc : calls.OnlyScripts) (hs : SameBut m m') (hr : rowReady m row = true)
    (hm : scriptMode row.mode = true) :
    (processRow calls m' row).1 = true ∧ SameBut m (processRow calls m' row).2 := by
  obtain ⟨hfind, hmode⟩ := Bool.and_eq_true_iff.mp hr
  have hset : needsObject row.mode = true → ∀ state,
      (setObject calls m' row.object state).1 = true
        ∧ SameBut m (setObject calls m' row.object state).2 := by
    intro hn state
    rw [hn] at hfind
    exact setObject_spec hc hs (by simpa using hfind) state
  unfold processRow
  cases hrow : row.mode with
  | direct | replay | permanent => exact hset (by rw [hrow]; rfl) _
  | require | noop => exact ⟨rfl, hs⟩
  | continueGalleon =>
    have hraw : (m.objectRawState row.object).isSome = true := by
      rw [hrow] at hmode
      cases h : m.objectRawState row.object with
      | none => simp [h] at hmode
      | some raw => rfl
    obtain ⟨s, hs'⟩ := objectRawState_isSome hs hraw
    simp only [Memory.objectRawState, hs', Option.map_some]
    split
    · exact ⟨rfl, hs⟩
    · exact hset (by rw [hrow]; rfl) _
  | reveal =>
    rw [hrow] at hmode
    obtain ⟨s, hs'⟩ := objectRawState_isSome hs hmode
    simp only [revealObject, hs']
    obtain ⟨script, rfl⟩ := hs
    exact ⟨trivial, _, rfl⟩
  | _ => rw [hrow] at hm; exact absurd hm (by decide)

/-! ## The special rows -/

theorem llamaFree_spec (h : llamaFreeReady m = true) : (llamaFreeRefresh calls m).1 = true := by
  unfold llamaFreeRefresh
  cases hl : m.actorsOf (· = .llama) with
  | nil => rfl
  | cons a l =>
    have ha := List.all_eq_true.mp h a (by rw [hl]; exact List.mem_cons_self)
    simp [of_decide_eq_true ha]

theorem llamaWater_spec (h : llamaWaterReady m = true) : (llamaWaterRefresh m).1 = true := by
  unfold llamaWaterRefresh
  cases hl : m.actorsOf (· = .llama) with
  | nil => rfl
  | cons a l =>
    have ha := List.all_eq_true.mp h a (by rw [hl]; exact List.mem_cons_self)
    rcases of_decide_eq_true ha with h0 | h39
    · simp [h0]
    · simp [h39]

theorem seal_spec (h : sealReady m = true) : (sealRefresh calls m).1 = true := by
  rw [sealRefresh, if_neg (by simp [h])]

theorem beanstalk_spec (h : beanstalkReady m = true) : (beanstalkRefresh calls m).1 = true := by
  unfold beanstalkReady at h
  unfold beanstalkRefresh
  cases hb : beanstalkActor m with
  | none => rfl
  | some a =>
    rw [hb] at h
    have hle : (m.actor a).controlState ≤ 3 := of_decide_eq_true h
    dsimp only
    split
    · rfl
    · split
      · omega
      · rfl

theorem mermaid_spec (h : mermaidReady m = true) : (mermaidRefresh m).1 = true := by
  unfold mermaidReady at h
  unfold mermaidRefresh
  cases hb : mermaidActor m with
  | none => simp [hb] at h
  | some a =>
    rw [hb] at h
    dsimp only at h ⊢
    rw [if_neg (by simp [h])]
    split <;> rfl

theorem islesTrombone_spec (h : islesTromboneReady m = true) :
    (islesTromboneRefresh calls m).1 = true := by
  unfold islesTromboneReady Memory.objectRawState at h
  unfold islesTromboneRefresh
  cases hs : m.scriptOf 0x31 with
  | none => simp [hs] at h
  | some s =>
    rw [hs] at h
    have hle : (m.script s).unk48.toNat ≤ 6 := of_decide_eq_true h
    dsimp only
    rw [if_neg (by omega)]
    split <;> rfl

/-- An object with a first slot has a last one. -/
theorem lastSlot_isSome (h : (m.objectRawState object).isSome = true) :
    (m.lastSlot object).isSome = true := by
  have hfind : (m.findObject object).isSome = true := by
    cases hf : m.findObject object with
    | none => simp [Memory.objectRawState, Memory.scriptOf, hf] at h
    | some slot => rfl
  unfold Memory.findObject at hfind
  unfold Memory.lastSlot
  generalize List.range coopLiveWorldScriptSlots = slots at hfind ⊢
  exact m.slotAmong_isSome (fun s hs => List.mem_reverse.mpr hs) hfind

theorem mushroomSwitch_spec (h : mushroomSwitchReady m object = true) :
    (mushroomSwitchRefresh calls m object).1 = true := by
  rw [mushroomSwitchRefresh, if_neg (by simp [h])]
  unfold mushroomSwitchReady at h
  cases hobj : m.objectRawState object with
  | none => simp [hobj] at h
  | some raw =>
    cases hboard : m.objectRawState 0x0B with
    | none => simp [hobj, hboard] at h
    | some board =>
      obtain ⟨slot, hslot⟩ := Option.isSome_iff_exists.mp (lastSlot_isSome (by rw [hobj]; rfl))
      obtain ⟨slot', hslot'⟩ :=
        Option.isSome_iff_exists.mp (lastSlot_isSome (by rw [hboard]; rfl))
      simp only [hslot, hslot']
      split
      · split <;> rfl
      · rfl

/-- **The last row goes through**: what it needs of the actors is as it was, and of the scripts
when no row came before it. -/
theorem processRow_spec (hc : calls.OnlyScripts) (hs : SameBut m m') (hr : rowReady m row = true)
    (hread : readsScript row.mode = false ∨ m' = m) : (processRow calls m' row).1 = true := by
  by_cases hm : scriptMode row.mode = true
  · exact (scriptRow_spec hc hs hr hm).1
  obtain ⟨-, hmode⟩ := Bool.and_eq_true_iff.mp hr
  unfold processRow
  have hsame : ∀ f : Memory → Bool, (∀ script, f { m with script := script } = f m) →
      f m = true → f m' = true := by
    rintro f hf h
    obtain ⟨script, rfl⟩ := hs
    rwa [hf]
  cases hrow : row.mode with
  | mermaid =>
    rw [hrow] at hmode
    exact mermaid_spec (hsame _ (fun _ => rfl) hmode)
  | llamaFree =>
    rw [hrow] at hmode
    exact llamaFree_spec (hsame _ (fun _ => rfl) hmode)
  | llamaWater =>
    rw [hrow] at hmode
    exact llamaWater_spec (hsame _ (fun _ => rfl) hmode)
  | «seal» =>
    rw [hrow] at hmode
    exact seal_spec (hsame _ (fun _ => rfl) hmode)
  | rabbit =>
    rw [hrow] at hmode
    exact hsame rabbitReady (fun _ => rfl) hmode
  | beanstalk =>
    rw [hrow] at hmode
    exact beanstalk_spec (hsame _ (fun _ => rfl) hmode)
  | islesTrombone =>
    rw [hrow] at hmode hread
    obtain rfl := hread.resolve_left (by simp [readsScript])
    exact islesTrombone_spec hmode
  | mushroomSwitch =>
    rw [hrow] at hmode hread
    obtain rfl := hread.resolve_left (by simp [readsScript])
    exact mushroomSwitch_spec hmode
  | _ => simp [hrow, scriptMode] at hm

/-! ## All or nothing -/

/-- **Every row of a ready unit is processed.** -/
theorem processRows_spec (hc : calls.OnlyScripts) :
    ∀ (rows : List CoopLiveWorldState) {m' : Memory}, rows.Pairwise Ordered →
      (∀ row ∈ rows, rowReady m row = true) → SameBut m m' →
      (m' = m ∨ ∀ row ∈ rows, readsScript row.mode = false) →
        (processRows calls m' rows).returned = true
          ∧ (processRows calls m' rows).processed = rows
  | [], _, _, _, _, _ => ⟨rfl, rfl⟩
  | row :: rows, m', ho, hr, hs, hread => by
    obtain ⟨hhead, htail⟩ := List.pairwise_cons.mp ho
    have hrow := hr row List.mem_cons_self
    have hgo : (processRow calls m' row).1 = true := by
      refine processRow_spec hc hs hrow ?_
      rcases hread with h | h
      · exact .inr h
      · exact .inl (h row List.mem_cons_self)
    rw [processRows]
    rcases hp : processRow calls m' row with ⟨b, m''⟩
    rw [hp] at hgo
    obtain rfl : b = true := hgo
    dsimp only
    cases rows with
    | nil => exact ⟨rfl, rfl⟩
    | cons next rows =>
      -- a row with a successor changes scripts only
      have hs' := (scriptRow_spec hc hs hrow (hhead next List.mem_cons_self).1).2
      rw [hp] at hs'
      obtain ⟨h1, h2⟩ := processRows_spec hc (next :: rows) htail
        (fun r h => hr r (List.mem_cons_of_mem _ h)) hs' (.inr fun r h => (hhead r h).2)
      exact ⟨h1, by rw [h2]⟩

/-- Fairy Island with its door and the prop behind it loaded. -/
def fairyIsland : Memory where
  slots := fun slot => if slot = 0 then 0x01D else if slot = 1 then 0x01E else 0xFFFF
  findProp := fun handle => handle - 0x01D
  props := some some
  script := fun _ => ⟨0, 0, 0, 0, 0⟩
  actors := []
  actor := fun _ => ⟨.other 0, 0, 0, 0, 0⟩
  flag := fun _ => false

/-- A game whose set-state call writes the state of the slot's script. -/
def plainCalls : Calls where
  setState := fun slot state m =>
    m.setScript slot { m.script slot with unk48 := BitVec.ofNat 8 state }
  notifySpawner := id
  deleteActor := fun _ => id
  showBeanstalk := fun _ => id
  atCage := fun _ => false

end Dk64Port.Coop.Live
