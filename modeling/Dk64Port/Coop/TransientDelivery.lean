import Dk64Port.Coop.Transient
import Dk64Port.Lib.Run
import Dk64Port.Lib.Streak
import Mathlib.Data.List.Pairwise
import Mathlib.Algebra.Group.Nat.Defs

/-!
# Which records of the peer are delivered (`native/transient.cpp`)

The loop of an update walks the records of a valid payload, whose kinds and keys differ, so that it
reads and writes each pad slot at most once and never fills the output.

* `deliverRecord_foldl`: the loop in closed form, a filter and one write for each listed pad.
* `slot_run`: a slot says that the pad was activated in this context and not seen idle since.
* `event_delivery`: **what an update delivers, after any sequence of updates.**

A lobby pad answers to its slot alone: what the local input shows of it is not looked at.
-/

namespace Dk64Port.Coop

open History

/-! ## The loop in closed form -/

/-- The local input does not show the wanted record yet. -/
def CoopTransientInput.lacks (input : CoopTransientInput) (wanted : CoopTransientRecord) : Bool :=
  match currentRecord input wanted with
  | none => true
  | some current => !sameRecord current wanted

/-- What the loop does not skip. -/
def reads (host : Bool) (wanted : CoopTransientRecord) : Bool :=
  !host || bidirectionalEvent wanted

/-- A record goes to the output, by the pad slots before the loop. -/
def delivers (host : Bool) (input : CoopTransientInput) (map : Word) (slots : Fin 24 → Word)
    (wanted : CoopTransientRecord) : Bool :=
  reads host wanted &&
    match firedPad map wanted with
    | none => input.lacks wanted
    | some pad => decide (wanted.state = 2 ∧ slots pad ≠ 2)

/-- A record that the loop writes to the slot of `pad`. -/
def touches (host : Bool) (map : Word) (pad : Fin 24) (wanted : CoopTransientRecord) : Bool :=
  reads host wanted && decide (firedPad map wanted = some pad)

variable {s : TransientSync} {c : TransientCall} {host : Bool} {input : CoopTransientInput}
  {map : Word} {r r' : CoopTransientRecord} {t : TransientWire} {pad : Fin 24}

/-- Records of different kind or key. -/
def Apart (a b : CoopTransientRecord) : Prop := ¬ (a.kind = b.kind ∧ a.key = b.key)

instance : Std.Symm Apart where
  symm _ _ h h' := h ⟨h'.1.symm, h'.2.symm⟩

/-- Within a map, the index of a pad tells its key. -/
theorem lobbyPadIndex_inj {key key' : Word} (h : lobbyPadIndex map key = lobbyPadIndex map key')
    (h0 : 0 < lobbyPadIndex map key) : key = key' := by
  unfold lobbyPadIndex at h h0
  apply BitVec.eq_of_toNat_eq
  simp only [BitVec.le_def, BitVec.ofNat_eq_ofNat, BitVec.toNat_ofNat] at h h0
  split_ifs at h h0 <;> omega

theorem firedPad_some (h : firedPad map r = some pad) :
    r.kind = transientTrigger ∧ r.value = 2 ∧ lobbyPadIndex map r.key = pad.val + 1 := by
  unfold firedPad at h
  dsimp only at h
  by_cases hk : r.kind = transientTrigger
  · simp only [if_pos hk] at h
    split at h
    · rename_i hp
      obtain rfl := Option.some.inj h
      exact ⟨hk, hp.2.2, (Nat.sub_add_cancel hp.1).symm⟩
    · exact absurd h (by simp)
  · simp only [if_neg hk] at h
    exact absurd h (by simp)

theorem firedPad_apart (h : firedPad map r = some pad) (h' : firedPad map r' = some pad) :
    ¬ Apart r r' := by
  obtain ⟨hk, -, hi⟩ := firedPad_some h
  obtain ⟨hk', -, hi'⟩ := firedPad_some h'
  exact not_not.mpr ⟨hk.trans hk'.symm, lobbyPadIndex_inj (hi.trans hi'.symm) (by omega)⟩

/-- A valid record that fires or rearms a pad says which. -/
theorem state_of_firedPad (hv : validRecord r = true) (h : firedPad map r = some pad) :
    r.state = 1 ∨ r.state = 2 := by
  obtain ⟨hk, -, -⟩ := firedPad_some h
  have hn : r.kind.toNat = 5 := by rw [hk]; rfl
  unfold validRecord at hv
  rw [if_neg (by rw [hk]; decide)] at hv
  split at hv
  · exact absurd hv (by simp)
  · rw [hn] at hv
    exact (of_decide_eq_true hv).1

/-- One record of the loop, with room in the output. -/
theorem deliverRecord_eq (hlen : s.output.records.length < coopTransientRecords)
    (hv : validRecord r = true) :
    s.deliverRecord host input map r =
      { s with
        output := { s.output with
          records := s.output.records ++
            if delivers host input map s.remoteLobbyPadState r then [r] else [] }
        remoteLobbyPadState := fun pad =>
          if touches host map pad r then r.state else s.remoteLobbyPadState pad } := by
  unfold TransientSync.deliverRecord delivers touches
  by_cases hr : reads host r = true
  · have hskip : ¬ (coopTransientRecords ≤ s.output.records.length
        ∨ host = true ∧ ¬ bidirectionalEvent r = true) := by
      rintro (h | ⟨h1, h2⟩)
      · omega
      · simp [reads, h1, h2] at hr
    rw [if_neg hskip]
    unfold TransientSync.observe
    cases hp : firedPad map r with
    | none =>
      simp only [hr, Bool.true_and, reduceCtorEq, decide_false, Bool.false_eq_true, if_false]
      change (if input.lacks r = true then _ else s) = _
      split <;> simp
    | some pad =>
      have hslot : ∀ v : Word, Function.update s.remoteLobbyPadState pad v = fun pad' =>
          if pad = pad' then v else s.remoteLobbyPadState pad' := by
        intro v
        funext pad'
        by_cases h : pad = pad'
        · rw [if_pos h, ← h, Function.update_self]
        · rw [if_neg h, Function.update_of_ne (Ne.symm h)]
      unfold TransientSync.observePad
      rcases state_of_firedPad hv hp with h1 | h2
      · simp [hr, h1, hslot]
      · by_cases h : s.remoteLobbyPadState pad = 2#32 <;> simp [hr, h2, hslot, h]
  · have hskip : coopTransientRecords ≤ s.output.records.length
        ∨ host = true ∧ ¬ bidirectionalEvent r = true := by
      refine .inr ?_
      simpa [reads] using hr
    rw [if_pos hskip]
    rw [Bool.not_eq_true] at hr
    simp [hr]

/-- Another record leaves the slot of a pad alone. -/
theorem touches_apart (h : Apart r r') (hp : firedPad map r' = some pad) :
    touches host map pad r = false := by
  unfold touches
  rw [decide_eq_false fun hr => firedPad_apart hr hp h, Bool.and_false]

/-- **The loop**: a filter, and one write for each pad that is listed. -/
theorem deliverRecord_foldl {l : List CoopTransientRecord}
    (hlen : s.output.records.length + l.length ≤ coopTransientRecords)
    (hv : ∀ r ∈ l, validRecord r = true) (hd : l.Pairwise Apart) :
    l.foldl (TransientSync.deliverRecord host input map) s =
      { s with
        output := { s.output with
          records := s.output.records ++ l.filter (delivers host input map s.remoteLobbyPadState) }
        remoteLobbyPadState := fun pad =>
          ((l.find? (touches host map pad)).map (·.state)).getD (s.remoteLobbyPadState pad) } := by
  induction l generalizing s with
  | nil => simp
  | cons r l ih =>
    obtain ⟨hr, hd⟩ := List.pairwise_cons.mp hd
    rw [List.length_cons] at hlen
    have hone : (if delivers host input map s.remoteLobbyPadState r = true then [r] else []).length
        ≤ 1 := by
      split <;> simp
    rw [List.foldl_cons, deliverRecord_eq (by omega) (hv r List.mem_cons_self),
      ih (by simp only [List.length_append]; omega)
        (fun r' h => hv r' (List.mem_cons_of_mem _ h)) hd]
    have hfilter : l.filter (delivers host input map fun pad =>
          if touches host map pad r then r.state else s.remoteLobbyPadState pad)
        = l.filter (delivers host input map s.remoteLobbyPadState) := by
      refine List.filter_congr fun r' hr' => ?_
      unfold delivers
      cases hp : firedPad map r' with
      | none => rfl
      | some pad => simp only [touches_apart (hr r' hr') hp, Bool.false_eq_true, if_false]
    have hslots : (fun pad => ((l.find? (touches host map pad)).map (·.state)).getD
          (if touches host map pad r then r.state else s.remoteLobbyPadState pad))
        = fun pad => (((r :: l).find? (touches host map pad)).map (·.state)).getD
          (s.remoteLobbyPadState pad) := by
      funext pad
      by_cases ht : touches host map pad r = true
      · have hnone : l.find? (touches host map pad) = none := by
          refine List.find?_eq_none.mpr fun r' hr' ht' => ?_
          unfold touches at ht ht'
          rw [Bool.and_eq_true, decide_eq_true_eq] at ht ht'
          exact firedPad_apart ht.2 ht'.2 (hr r' hr')
        rw [hnone, List.find?_cons_of_pos ht, if_pos ht]
        rfl
      · rw [List.find?_cons_of_neg ht, if_neg ht]
    simp only [hfilter, hslots, List.filter_cons, List.append_assoc]
    split <;> rfl

/-! ## One update -/

theorem apart_listed (hv : validTransient t = true) (hf : t.feature ≠ 0) :
    (∀ r ∈ t.listed, validRecord r = true) ∧ t.listed.Pairwise Apart := by
  unfold validTransient at hv
  rw [if_neg hf, Bool.and_eq_true, decide_eq_true_eq, decide_eq_true_eq] at hv
  unfold TransientWire.listed
  constructor
  · intro r hr
    obtain ⟨i, -, rfl⟩ := List.mem_map.mp hr
    exact (hv.2 i).1
  · rw [List.pairwise_map]
    refine List.Pairwise.imp_of_mem (fun {i j} _ hj hij => ?_)
      ((List.pairwise_lt_finRange _).filter _)
    have hlt : j.val < t.count.toNat := of_decide_eq_true (List.mem_filter.mp hj).2
    have hdistinct := (hv.2 j).2
    rw [if_pos hlt] at hdistinct
    exact hdistinct i hij

theorem length_listed (t : TransientWire) : t.listed.length ≤ coopTransientRecords := by
  unfold TransientWire.listed
  rw [List.length_map]
  exact (List.length_filter_le _ _).trans (List.length_finRange).le

/-- The input is usable and both sides show the same room. -/
def TransientCall.meets (c : TransientCall) : Bool :=
  validTransientInput c.input && decide (c.input.enabled ≠ 0) && c.engaged

/-- The pad slots that an update in the context `ctx` begins with. -/
def TransientSync.slotsFor (s : TransientSync) (ctx : TransientContext) : Fin 24 → Word :=
  if s.context = ctx then s.remoteLobbyPadState else fun _ => 0

/-- What a call sees of a pad: the state of the record that is written to its slot. -/
def TransientCall.observation (c : TransientCall) (pad : Fin 24) : Option Word :=
  (c.remote.listed.find? (touches c.host c.remote.map pad)).map (·.state)

theorem meets_iff : c.meets = true ↔
    (validTransientInput c.input = true ∧ c.input.enabled ≠ 0) ∧ c.engaged = true := by
  simp only [TransientCall.meets, Bool.and_eq_true, decide_eq_true_eq]

/-- **An update of a room that is not shared drops the context.** -/
theorem update_apart (s : TransientSync) (h : c.meets ≠ true) :
    (s.update c).context = {} ∧ (s.update c).output.records = [] := by
  unfold TransientSync.update
  by_cases hi : ¬ validTransientInput c.input = true ∨ c.input.enabled = 0
  · rw [if_pos hi]
    exact ⟨rfl, rfl⟩
  · rw [if_neg hi]
    rw [not_or, not_not] at hi
    rw [if_pos fun he => h (meets_iff.mpr ⟨hi, he⟩)]
    exact ⟨rfl, rfl⟩

/-- **An update of a shared room.** -/
theorem update_meets (s : TransientSync) (h : c.meets = true) :
    (s.update c).context = c.context
    ∧ (s.update c).output.records
      = c.remote.listed.filter (delivers c.host c.input c.remote.map (s.slotsFor c.context))
    ∧ ∀ pad, (s.update c).remoteLobbyPadState pad
      = (c.observation pad).getD (s.slotsFor c.context pad) := by
  obtain ⟨hi, he⟩ := meets_iff.mp h
  have hremote : validTransient c.remote = true ∧ c.remote.feature ≠ 0 := by
    unfold TransientCall.engaged at he
    simp only [Bool.and_eq_true, decide_eq_true_eq] at he
    exact ⟨he.1.2, he.2.1⟩
  obtain ⟨hvalid, hdistinct⟩ := apart_listed hremote.1 hremote.2
  unfold TransientSync.update TransientSync.slotsFor TransientCall.observation
  rw [if_neg (not_or.mpr ⟨not_not.mpr hi.1, hi.2⟩)]
  dsimp only
  rw [if_neg (not_not.mpr he)]
  by_cases hc : s.context = c.context
  · simp only [if_pos hc]
    rw [deliverRecord_foldl ?_ hvalid hdistinct]
    · split <;> exact ⟨hc, rfl, fun _ => rfl⟩
    · exact (Nat.zero_add _).le.trans (length_listed _)
  · simp only [if_neg hc]
    rw [deliverRecord_foldl ?_ hvalid hdistinct]
    · split <;> exact ⟨rfl, rfl, fun _ => rfl⟩
    · exact (Nat.zero_add _).le.trans (length_listed _)

/-! ## What a pad slot remembers -/

/-- A call that shows the room of `ctx`. -/
def TransientCall.shows (ctx : TransientContext) (c : TransientCall) : Bool :=
  c.meets && decide (c.context = ctx)

/-- **The pad was activated in this context, and since then the context was not left and the pad not
seen idle.** -/
def Latched (ctx : TransientContext) (pad : Fin 24) (calls : List TransientCall) : Prop :=
  Since (fun c : TransientCall => c.shows ctx = true → c.observation pad = some 1)
    (fun calls => ∃ c ∈ calls.getLast?, c.shows ctx = true ∧ c.observation pad = some 2) calls

variable {ctx : TransientContext} {calls : List TransientCall}

theorem not_latched_nil : ¬ Latched ctx pad [] := by
  rintro h
  obtain ⟨c, hc, -⟩ := since_nil.mp h
  exact absurd hc (by simp)

/-- What one more call does to it. -/
theorem latched_snoc : Latched ctx pad (calls ++ [c]) ↔
    c.shows ctx = true ∧ (c.observation pad = some 2
      ∨ Latched ctx pad calls ∧ c.observation pad ≠ some 1) := by
  unfold Latched
  rw [since_snoc, List.getLast?_append, List.getLast?_singleton, Option.some_or]
  constructor
  · rintro (⟨c', hc', h⟩ | ⟨h, hn⟩)
    · obtain rfl := Option.some.inj hc'
      exact ⟨h.1, .inl h.2⟩
    · rw [Classical.not_imp] at hn
      exact ⟨hn.1, .inr ⟨h, hn.2⟩⟩
  · rintro ⟨hs, h | ⟨h, hn⟩⟩
    · exact .inl ⟨c, rfl, hs, h⟩
    · exact .inr ⟨h, Classical.not_imp.mpr ⟨hs, hn⟩⟩

/-- A call observes only what a valid record can say of a pad. -/
theorem observation_cases (h : c.meets = true) (pad : Fin 24) :
    c.observation pad = none ∨ c.observation pad = some 1 ∨ c.observation pad = some 2 := by
  obtain ⟨-, he⟩ := meets_iff.mp h
  unfold TransientCall.engaged at he
  simp only [Bool.and_eq_true, decide_eq_true_eq] at he
  unfold TransientCall.observation
  cases hf : c.remote.listed.find? (touches c.host c.remote.map pad) with
  | none => exact .inl rfl
  | some r =>
    have hv := (apart_listed he.1.2 he.2.1).1 r (List.mem_of_find?_eq_some hf)
    have ht := List.find?_some hf
    unfold touches at ht
    rw [Bool.and_eq_true, decide_eq_true_eq] at ht
    rcases state_of_firedPad hv ht.2 with h1 | h2
    · exact .inr (.inl (congrArg some h1))
    · exact .inr (.inr (congrArg some h2))

/-- **A slot says that its pad is latched.** -/
theorem slot_run (calls : List TransientCall) (ctx : TransientContext) (h0 : ctx.session ≠ 0)
    (pad : Fin 24) :
    (Run.run TransientSync.update {} calls).slotsFor ctx pad = 2 ↔ Latched ctx pad calls := by
  induction calls using List.reverseRecOn with
  | nil =>
    have hne : ({} : TransientSync).context ≠ ctx := by
      rintro rfl
      exact h0 rfl
    rw [Run.run_nil, TransientSync.slotsFor, if_neg hne, iff_false_right not_latched_nil]
    decide
  | append_singleton calls c ih =>
    rw [Run.run_snoc, latched_snoc]
    generalize Run.run TransientSync.update {} calls = s at ih
    by_cases hm : c.meets = true
    · obtain ⟨hctx, -, hslots⟩ := update_meets s hm
      by_cases hc : c.context = ctx
      · have hs : c.shows ctx = true := by
          rw [TransientCall.shows, hm, decide_eq_true hc, Bool.true_and]
        rw [TransientSync.slotsFor, hctx, if_pos hc, hslots, hc]
        rcases observation_cases hm pad with ho | ho | ho
        · simpa [ho, hs] using ih
        · simp [ho]
        · simp [ho, hs]
      · have hs : c.shows ctx ≠ true := by
          rw [TransientCall.shows, decide_eq_false hc, Bool.and_false]
          exact Bool.false_ne_true
        rw [TransientSync.slotsFor, hctx, if_neg hc]
        simp [hs]
    · have hs : c.shows ctx ≠ true := by
        rw [TransientCall.shows, Bool.eq_false_of_not_eq_true hm, Bool.false_and]
        exact Bool.false_ne_true
      have hctx : (s.update c).context ≠ ctx := by
        rw [(update_apart s hm).1]
        rintro rfl
        exact h0 rfl
      rw [TransientSync.slotsFor, if_neg hctx]
      simp [hs]

/-! ## What is delivered -/

/-- A command that either side may give: a fired trigger, a positive sequence, a success. -/
def Command (r : CoopTransientRecord) : Prop :=
  r.kind = transientTrigger ∧ r.state = 2 ∨ r.kind = transientSequence ∧ 0 < r.state
    ∨ transientMinigameSuccess ≤ r.kind ∧ r.kind ≤ coopTransientKindCount

/-- The local record shows that the wanted trigger has fired, or its sequence is as far. -/
def Reached (current wanted : CoopTransientRecord) : Prop :=
  current.kind = wanted.kind ∧ current.key = wanted.key
    ∧ (wanted.kind = transientTrigger ∧ current.value = wanted.value ∧ current.state = 2
      ∨ wanted.kind = transientSequence ∧ wanted.state ≤ current.state)

/-- What is said of the records that the call `c` delivers after the calls `calls`. -/
structure Delivery (calls : List TransientCall) (c : TransientCall)
    (delivered : List CoopTransientRecord) : Prop where
  listed : ∀ r ∈ delivered, c.meets = true ∧ r ∈ c.remote.listed
  apart : delivered.Pairwise Apart
  reviewed : c.host = true → ∀ r ∈ delivered, Command r
  ahead : ∀ r ∈ delivered, firedPad c.remote.map r = none →
    ∀ i : Fin coopTransientRecords, i.val < c.input.count.toNat → ¬ Reached (c.input.records i) r
  latch : c.meets = true → ∀ r ∈ c.remote.listed, ∀ pad, firedPad c.remote.map r = some pad →
    (r ∈ delivered ↔ r.state = 2 ∧ ¬ Latched c.context pad calls)

theorem command_iff (r : CoopTransientRecord) : bidirectionalEvent r = true ↔ Command r := by
  have h56 : transientTrigger ≠ transientSequence := by decide
  have h5 : ¬ transientMinigameSuccess ≤ transientTrigger := by decide
  have h6 : ¬ transientMinigameSuccess ≤ transientSequence := by decide
  unfold bidirectionalEvent Command
  by_cases ht : r.kind = transientTrigger
  · simp [ht, h56, h5]
  · by_cases hs : r.kind = transientSequence
    · simp [hs, h56.symm, h6]
    · simp [ht, hs]

/-- The local record of a kind and key, where the input lists one. -/
theorem currentRecord_eq (hv : validTransientInput input = true) (hen : input.enabled ≠ 0)
    {i : Fin coopTransientRecords} (hi : i.val < input.count.toNat)
    (hk : (input.records i).kind = r.kind) (hkey : (input.records i).key = r.key) :
    currentRecord input r = some (input.records i) := by
  have hlisted : input.records i ∈ input.payload.listed :=
    List.mem_map.mpr ⟨i, List.mem_filter.mpr ⟨List.mem_finRange i, decide_eq_true hi⟩, rfl⟩
  have hapart := (apart_listed hv hen).2
  change input.payload.listed.find? _ = _
  cases hf : input.payload.listed.find? fun a => decide (a.kind = r.kind ∧ a.key = r.key) with
  | none => exact absurd (decide_eq_true ⟨hk, hkey⟩) (List.find?_eq_none.mp hf _ hlisted)
  | some a =>
    have hfound := List.find?_some hf
    obtain ⟨hak, hakey⟩ := of_decide_eq_true hfound
    by_contra hne
    exact hapart.forall (List.mem_of_find?_eq_some hf) hlisted (fun h => hne (congrArg some h))
      ⟨hak.trans hk.symm, hakey.trans hkey.symm⟩

theorem sameRecord_of_reached {a : CoopTransientRecord} (h : Reached a r) :
    sameRecord a r = true := by
  obtain ⟨hk, hkey, ⟨ht, hv, hs⟩ | ⟨ht, hs⟩⟩ := h
  · rw [sameRecord, if_pos ⟨hk.trans ht, ht, hkey, hv⟩]
    exact decide_eq_true (.inr hs)
  · have hne : ¬ (a.kind = transientTrigger ∧ r.kind = transientTrigger ∧ a.key = r.key
        ∧ a.value = r.value) := by
      rintro ⟨-, h, -⟩
      exact absurd (ht.symm.trans h) (by decide)
    rw [sameRecord, if_neg hne, if_pos ⟨hk.trans ht, ht, hkey⟩]
    exact decide_eq_true hs

/-- **What an update delivers**, after any sequence of updates: records of the current valid payload
of the other side, one for each kind and key, to the host commands only, and of the triggers and
sequences none that the local input has reached, the lobby pads apart. An activation of a lobby pad
is delivered exactly when the pad was not activated before in the same unbroken context, or was seen
idle since. -/
theorem event_delivery (calls : List TransientCall) (c : TransientCall) :
    Delivery calls c (Run.run TransientSync.update {} (calls ++ [c])).output.records := by
  rw [Run.run_snoc]
  have hslot := slot_run calls c.context
  generalize Run.run TransientSync.update {} calls = s at hslot
  by_cases hm : c.meets = true
  · obtain ⟨⟨hv, hen⟩, he⟩ := meets_iff.mp hm
    unfold TransientCall.engaged at he
    simp only [Bool.and_eq_true, decide_eq_true_eq] at he
    have hsession : c.context.session ≠ 0 := he.1.1.1.1.2
    rw [(update_meets s hm).2.1]
    refine ⟨fun r hr => ⟨hm, (List.mem_filter.mp hr).1⟩,
      (apart_listed he.1.2 he.2.1).2.filter _, fun hh r hr => ?_, fun r hr hp i hi hreach => ?_,
      fun _ r hr pad hp => ?_⟩
    · have hd := (List.mem_filter.mp hr).2
      rw [delivers, Bool.and_eq_true, reads, hh] at hd
      exact (command_iff r).mp hd.1
    · have hd := (List.mem_filter.mp hr).2
      rw [delivers, Bool.and_eq_true, hp] at hd
      have hlacks : c.input.lacks r = true := hd.2
      rw [CoopTransientInput.lacks, currentRecord_eq hv hen hi hreach.1 hreach.2.1] at hlacks
      simp only [sameRecord_of_reached hreach, Bool.not_true, Bool.false_eq_true] at hlacks
    · have hreads : r.state = 2 → reads c.host r = true := by
        intro h2
        rw [reads, (command_iff r).mpr (.inl ⟨(firedPad_some hp).1, h2⟩), Bool.or_true]
      rw [List.mem_filter, delivers, hp, Bool.and_eq_true, decide_eq_true_eq,
        ← hslot hsession pad]
      exact ⟨fun h => h.2.2, fun h => ⟨hr, hreads h.1, h⟩⟩
  · rw [(update_apart s hm).2]
    exact ⟨fun r hr => absurd hr List.not_mem_nil, List.Pairwise.nil,
      fun _ r hr => absurd hr List.not_mem_nil, fun r hr => absurd hr List.not_mem_nil,
      fun h => absurd h hm⟩

/-! ## A lobby pad that the local input has reached -/

/-- A frame of a guest in the lobby of map 173, whose pad is seen in the given states by the two
sides. -/
def padCall (mine theirs : Word) : TransientCall :=
  let player : State := { map := 173, epoch := 1, flags := stateActive }
  let pad (state : Word) : TransientRecords :=
    Function.update (fun _ => {}) 0 { kind := transientTrigger, key := 0, state := state, value := 2 }
  { host := false
    player := player
    input := { enabled := 1, map := 173, epoch := 1, revision := 1, count := 1, records := pad mine }
    peer := player
    remote := { feature := 1, map := 173, epoch := 1, revision := 1, count := 1, records := pad theirs }
    connected := true
    fresh := true
    session := 1 }

/-- **A pad that the local input has reached is delivered again**: it was delivered, then seen idle,
and fires once more while the local record shows it as fired. -/
theorem reached_pad_delivered :
    (Run.run TransientSync.update {} [padCall 1 2]).output.records = [(padCall 1 2).remote.records 0]
    ∧ (Run.run TransientSync.update {} [padCall 1 2, padCall 2 1, padCall 2 2]).output.records
      = [(padCall 2 2).remote.records 0]
    ∧ Reached ((padCall 2 2).input.records 0) ((padCall 2 2).remote.records 0) := by
  refine ⟨by decide, by decide, rfl, rfl, .inl ⟨rfl, rfl, rfl⟩⟩

end Dk64Port.Coop
