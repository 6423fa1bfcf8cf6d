import Dk64Port.Archipelago.CampaignChannel
import Mathlib.Algebra.Group.Nat.Defs

/-!
# What the slots of the channel say about its past

The counters of the slots tell how much was submitted and how much of it was run, and the worker's
place in its loop tells what lies between. A result that is published, or staged, is that of the
journal after some number of updates, and that number covers every update that was acknowledged.

* `ChannelTrace.Covers`, `Tracks`: the invariant.
* `Tracks.accept`, `Tracks.ask`, `Tracks.work`: one lemma for each kind of event.
* `tracks_run`: **the invariant along a run**, while neither counter has wrapped.
-/

namespace Dk64Port.Archipelago

/-! ## The invariant -/

section Past

variable {pf : Platform} {cat : Catalog} {t : LocationTable} {w : JournalStorage}
  {T : ChannelTrace} {k : Nat}

/-- The updates that were run. -/
def ChannelTrace.calls (T : ChannelTrace) : List JournalCall := T.executed.map (·.call)

/-- An update that was run and that the slot does not know of. -/
def Worker.unsettled : Worker → Nat
  | .updated .. => 1
  | _ => 0

/-- How many of them the slot knows of. -/
def ChannelTrace.settled (T : ChannelTrace) : Nat := T.executed.length - T.impl.worker.unsettled

variable (pf cat t w) in
/-- The journal after the first `k` updates. -/
def ChannelTrace.journal (T : ChannelTrace) (k : Nat) : JournalStorage :=
  Run.run (journalStep pf cat t) w (T.calls.take k)

/-- The journal after `k` updates has every update that was acknowledged. -/
def ChannelTrace.Covers (T : ChannelTrace) (k : Nat) : Prop :=
  k ≤ T.executed.length ∧
    ∀ i x, T.executed[i]? = some x → i < T.settled → x.result = .ready → i < k

/-- The slot holds an update that is not run yet exactly when one is missing. -/
def ChannelTrace.Waits (T : ChannelTrace) : Prop :=
  T.impl.updatePending = true ↔ T.executed.length < T.submitted.length

/-- The request of generation `generation` is for `identity`, as far as it is the current one. -/
def ChannelTrace.Requests (T : ChannelTrace) (identity : CampaignSave) (generation : Generation) :
    Prop :=
  (∃ n, n ≤ T.requests ∧ generation = BitVec.ofNat 64 n)
    ∧ (generation = T.impl.requestGeneration → identity = T.impl.requested)

variable (pf cat t w) in
/-- What holds where the worker is. -/
def ChannelTrace.Phase (T : ChannelTrace) : Worker → Prop
  | .loading journal =>
    journal = some w ∧ T.submitted = [] ∧ T.impl.status ≠ .ready ∧ T.impl.updatePending = false
  | .opened state =>
    state = w ∧ T.submitted = [] ∧ T.impl.status ≠ .ready ∧ T.impl.updatePending = false
      ∧ T.impl.durable = w.durable
  | .waiting state => state = T.journal pf cat t w T.executed.length ∧ T.Waits
  | .updating state call generation =>
    state = T.journal pf cat t w T.executed.length ∧ T.impl.updatePending = false
      ∧ call = T.impl.update ∧ generation = T.impl.updateGeneration
      ∧ T.executed.length + 1 = T.submitted.length
  | .updated state generation result durable =>
    state = T.journal pf cat t w T.executed.length ∧ T.impl.updatePending = false
      ∧ generation = T.impl.updateGeneration ∧ T.executed.length = T.submitted.length
      ∧ (∃ x, T.executed.getLast? = some x ∧ x.result = result)
      ∧ (result = .ready → durable = state.durable)
  | .staging state identity generation =>
    state = T.journal pf cat t w T.executed.length ∧ T.Waits ∧ T.Requests identity generation
  | .staged state snapshot result generation =>
    state = T.journal pf cat t w T.executed.length ∧ T.Waits
      ∧ ∃ identity, T.Requests identity generation ∧ (result, snapshot) = stageResult cat state identity
  | .gone => False

variable (pf cat t w) in
/-- **The invariant**: the counters, the slots and the worker agree with what happened. -/
structure Tracks (T : ChannelTrace) : Prop where
  generation : T.impl.updateGeneration = BitVec.ofNat 64 T.submitted.length
  request : T.impl.requestGeneration = BitVec.ofNat 64 T.requests
  status : T.impl.status = .retry ∨ T.impl.status = .ready
  update : T.impl.update = T.submitted.getLast?
  calls : T.calls <+: T.submitted
  short : T.submitted.length ≤ T.executed.length + 1
  numbered : ∀ i x, T.executed[i]? = some x → x.generation = BitVec.ofNat 64 (i + 1)
  results : ∀ i x, T.executed[i]? = some x →
    x.result = (execute pf cat t (T.journal pf cat t w i) (some x.call)).1
  settled : T.impl.completedUpdateGeneration = BitVec.ofNat 64 T.settled
  answer : T.settled = T.submitted.length → ∀ x, T.executed.getLast? = some x →
    x.result = T.impl.completedUpdateResult
  worker : T.Phase pf cat t w T.impl.worker
  durable : T.impl.status = .ready → ∃ k, T.Covers k ∧ T.impl.durable = (T.journal pf cat t w k).durable
  completed : ∃ n, n ≤ T.requests ∧ T.impl.completedGeneration = BitVec.ofNat 64 n
  cached : T.impl.completedGeneration = T.impl.requestGeneration → T.impl.requestGeneration ≠ 0 →
    ∃ k, T.Covers k ∧ (T.impl.completedResult, T.impl.cached)
      = stageResult cat (T.journal pf cat t w k) T.impl.requested

/-- Neither counter has wrapped. -/
def ChannelTrace.Few (T : ChannelTrace) : Prop :=
  T.submitted.length < 2 ^ 64 ∧ T.requests < 2 ^ 64

theorem ofNat_inj {a b : Nat} (ha : a < 2 ^ 64) (hb : b < 2 ^ 64) :
    BitVec.ofNat 64 a = BitVec.ofNat 64 b ↔ a = b := by
  rw [← BitVec.toNat_inj, BitVec.toNat_ofNat, BitVec.toNat_ofNat, Nat.mod_eq_of_lt ha,
    Nat.mod_eq_of_lt hb]

theorem length_calls (T : ChannelTrace) : T.calls.length = T.executed.length := List.length_map _

theorem settled_le (T : ChannelTrace) : T.settled ≤ T.executed.length := Nat.sub_le _ _

theorem Tracks.executed_le (h : Tracks pf cat t w T) : T.executed.length ≤ T.submitted.length :=
  length_calls T ▸ h.calls.length_le

/-- The slot is free exactly when the slot knows of every update. -/
theorem Tracks.free_iff (h : Tracks pf cat t w T) (hf : T.Few) :
    T.impl.completedUpdateGeneration = T.impl.updateGeneration ↔ T.settled = T.submitted.length := by
  have hle := (settled_le T).trans h.executed_le
  rw [h.settled, h.generation, ofNat_inj (hle.trans_lt hf.1) hf.1]

theorem Tracks.fresh_iff (h : Tracks pf cat t w T) (hf : T.Few) :
    T.impl.updateGeneration = 0 ↔ T.submitted = [] := by
  rw [h.generation, show (0 : Generation) = BitVec.ofNat 64 0 from rfl, ofNat_inj hf.1 (by decide),
    List.length_eq_zero_iff]

/-- **The start.** -/
theorem tracks_start (w : JournalStorage) : Tracks pf cat t w (.start (some w)) where
  generation := rfl
  request := rfl
  status := .inl rfl
  update := rfl
  calls := List.prefix_refl _
  short := Nat.zero_le _
  numbered _ _ h := absurd h (by simp [ChannelTrace.start])
  results _ _ h := absurd h (by simp [ChannelTrace.start])
  settled := rfl
  answer _ _ h := absurd h (by simp [ChannelTrace.start])
  worker := ⟨rfl, rfl, nofun, rfl⟩
  durable := nofun
  completed := ⟨0, Nat.le_refl _, rfl⟩
  cached _ h := absurd rfl h

/-! ## The calls keep it -/

theorem generation_succ_ne (g : Generation) : g + 1 ≠ g := by
  bv_omega

theorem ofNat_succ (n : Nat) : BitVec.ofNat 64 n + 1 = BitVec.ofNat 64 (n + 1) := by
  apply BitVec.eq_of_toNat_eq
  simp [BitVec.toNat_add]

/-- A slot that is free takes an update. -/
theorem Tracks.accept (h : Tracks pf cat t w T) (hf : T.Few) (hs : T.impl.status = .ready)
    (hfree : T.impl.updateGeneration ≠ 0 → T.impl.completedUpdateGeneration = T.impl.updateGeneration)
    (call : JournalCall) :
    Tracks pf cat t w
      { T with impl := T.impl.accept call, submitted := T.submitted ++ [call] } := by
  have hle := h.executed_le
  have hall : T.settled = T.submitted.length ∧ T.executed.length = T.submitted.length := by
    by_cases h0 : T.impl.updateGeneration = 0
    · have hnil := (h.fresh_iff hf).mp h0
      have hlen : T.executed.length = 0 := by simpa [hnil] using hle
      have hset := settled_le T
      rw [hnil, List.length_nil]
      omega
    · have hset := (h.free_iff hf).mp (hfree h0)
      have := settled_le T
      omega
  refine ⟨?_, h.request, h.status, ?_, h.calls.trans (List.prefix_append _ _), ?_, h.numbered, h.results,
    h.settled, ?_, ?_, h.durable, h.completed, h.cached⟩
  · change T.impl.updateGeneration + 1 = _
    rw [h.generation, ofNat_succ, List.length_append, List.length_singleton]
  · rw [List.getLast?_append, List.getLast?_singleton, Option.some_or]
    rfl
  · rw [List.length_append, List.length_singleton, hall.2]
  · intro hset
    have hset' : T.settled = T.submitted.length + 1 := by
      rw [List.length_append, List.length_singleton] at hset
      exact hset
    omega
  · have hwaits : ChannelTrace.Waits
        { T with impl := T.impl.accept call, submitted := T.submitted ++ [call] } := by
      refine iff_of_true rfl ?_
      rw [List.length_append, List.length_singleton]
      change T.executed.length < _
      omega
    have hphase := h.worker
    change ChannelTrace.Phase pf cat t w _ T.impl.worker
    cases hw : T.impl.worker with
    | loading journal =>
      rw [hw] at hphase
      exact absurd hs hphase.2.2.1
    | opened state =>
      rw [hw] at hphase
      exact absurd hs hphase.2.2.1
    | waiting state =>
      rw [hw] at hphase
      exact ⟨hphase.1, hwaits⟩
    | updating state call generation =>
      rw [hw] at hphase
      have := hphase.2.2.2.2
      omega
    | updated state generation result durable =>
      rw [hw] at hphase
      have hne : T.executed.length ≠ 0 := by
        obtain ⟨x, hx, -⟩ := hphase.2.2.2.2.1
        intro h0
        rw [List.length_eq_zero_iff.mp h0] at hx
        exact absurd hx (by simp)
      have hset : T.settled = T.executed.length - 1 := by
        rw [ChannelTrace.settled, hw]
        rfl
      omega
    | staging state identity generation =>
      rw [hw] at hphase
      exact ⟨hphase.1, hwaits, hphase.2.2⟩
    | staged state snapshot result generation =>
      rw [hw] at hphase
      exact ⟨hphase.1, hwaits, hphase.2.2⟩
    | gone =>
      rw [hw] at hphase
      exact hphase.elim

/-- The other slot takes a request. -/
theorem Tracks.ask (h : Tracks pf cat t w T) (hf : T.requests + 1 < 2 ^ 64)
    (identity : CampaignSave) :
    Tracks pf cat t w { T with impl := T.impl.ask identity, requests := T.requests + 1 } := by
  have hnext : T.impl.requestGeneration + 1 = BitVec.ofNat 64 (T.requests + 1) := by
    rw [h.request, ofNat_succ]
  have hrequests : ∀ {identity' : CampaignSave} {generation : Generation},
      T.Requests identity' generation →
      ChannelTrace.Requests { T with impl := T.impl.ask identity, requests := T.requests + 1 }
        identity' generation := by
    rintro identity' generation ⟨⟨n, hn, hg⟩, -⟩
    refine ⟨⟨n, Nat.le_succ_of_le hn, hg⟩, fun heq => ?_⟩
    change generation = T.impl.requestGeneration + 1 at heq
    rw [hnext, hg, ofNat_inj (by omega) hf] at heq
    omega
  refine ⟨h.generation, hnext, h.status, h.update, h.calls, h.short, h.numbered, h.results, h.settled,
    h.answer, ?_,
    h.durable, ?_, ?_⟩
  · have hphase := h.worker
    change ChannelTrace.Phase pf cat t w _ T.impl.worker
    cases hw : T.impl.worker with
    | staging state identity' generation =>
      rw [hw] at hphase
      exact ⟨hphase.1, hphase.2.1, hrequests hphase.2.2⟩
    | staged state snapshot result generation =>
      rw [hw] at hphase
      obtain ⟨h1, h2, identity', h3, h4⟩ := hphase
      exact ⟨h1, h2, identity', hrequests h3, h4⟩
    | _ =>
      rw [hw] at hphase
      exact hphase
  · obtain ⟨n, hn, hc⟩ := h.completed
    exact ⟨n, Nat.le_succ_of_le hn, hc⟩
  · intro heq
    obtain ⟨n, hn, hc⟩ := h.completed
    change T.impl.completedGeneration = T.impl.requestGeneration + 1 at heq
    rw [hnext, hc, ofNat_inj (by omega) hf] at heq
    omega

/-! ## The worker keeps it -/

/-- A section that neither runs nor settles an update, and leaves the slots alone. -/
theorem Tracks.moved (h : Tracks pf cat t w T) {impl : Impl}
    (heq : impl = { T.impl with
      status := impl.status, updatePending := impl.updatePending
      requestPending := impl.requestPending, durable := impl.durable, worker := impl.worker })
    (hstatus : impl.status = .retry ∨ impl.status = .ready)
    (hset : impl.worker.unsettled = T.impl.worker.unsettled)
    (hphase : ChannelTrace.Phase pf cat t w { T with impl := impl } impl.worker)
    (hdurable : impl.status = .ready → ∃ k, T.Covers k ∧ impl.durable = (T.journal pf cat t w k).durable) :
    Tracks pf cat t w { T with impl := impl } := by
  have hset : ({ T with impl := impl } : ChannelTrace).settled = T.settled := by
    rw [ChannelTrace.settled, ChannelTrace.settled, hset]
  have hcovers : ∀ k, T.Covers k → ChannelTrace.Covers { T with impl := impl } k := by
    intro k hk
    exact ⟨hk.1, fun i x hx hi => hk.2 i x hx (hset ▸ hi)⟩
  refine ⟨?_, ?_, hstatus, ?_, h.calls, h.short, h.numbered, h.results, ?_, ?_, hphase, ?_, ?_, ?_⟩
  · rw [heq]
    exact h.generation
  · rw [heq]
    exact h.request
  · rw [heq]
    exact h.update
  · rw [hset, heq]
    exact h.settled
  · rw [hset, heq]
    exact h.answer
  · intro hs
    obtain ⟨k, hk, hd⟩ := hdurable hs
    exact ⟨k, hcovers k hk, hd⟩
  · rw [heq]
    exact h.completed
  · intro heq' hne
    have h1 : T.impl.completedGeneration = T.impl.requestGeneration := by
      rw [heq] at heq'
      exact heq'
    have h2 : T.impl.requestGeneration ≠ 0 := by
      rw [heq] at hne
      exact hne
    obtain ⟨k, hk, hc⟩ := h.cached h1 h2
    refine ⟨k, hcovers k hk, ?_⟩
    rw [heq]
    exact hc

/-- The journal is opened. -/
theorem Tracks.open (h : Tracks pf cat t w T) (hw : T.impl.worker = .loading (some w)) :
    Tracks pf cat t w
      { T with impl := { T.impl with durable := w.durable, worker := .opened w } } := by
  have hphase := h.worker
  rw [hw] at hphase
  exact h.moved rfl h.status (by rw [hw]; rfl) ⟨rfl, hphase.2.1, hphase.2.2.1, hphase.2.2.2, rfl⟩
    fun hs => absurd hs hphase.2.2.1

/-- The channel is there. -/
theorem Tracks.publish (h : Tracks pf cat t w T) {state : JournalStorage}
    (hw : T.impl.worker = .opened state) :
    Tracks pf cat t w
      { T with impl := { T.impl with status := .ready, worker := .waiting state } } := by
  have hphase := h.worker
  rw [hw] at hphase
  obtain ⟨rfl, hnil, hs, hp, hd⟩ := hphase
  have hnone : T.executed.length = 0 := by
    have hle := h.executed_le
    rw [hnil] at hle
    exact Nat.le_zero.mp hle
  refine h.moved rfl (.inr rfl) (by rw [hw]; rfl) ⟨?_, ?_⟩ fun _ => ⟨0, ⟨Nat.zero_le _, ?_⟩, hd⟩
  · change state = T.journal pf cat t state T.executed.length
    rw [hnone]
    rfl
  · refine iff_of_false (by simp [hp]) ?_
    rw [hnil]
    exact Nat.not_lt_zero _
  · intro i x hx
    rw [List.length_eq_zero_iff.mp hnone] at hx
    exact absurd hx (by simp)

/-- The worker takes the update. -/
theorem Tracks.takeUpdate (h : Tracks pf cat t w T) {state : JournalStorage}
    (hw : T.impl.worker = .waiting state) (hp : T.impl.updatePending = true) :
    Tracks pf cat t w { T with impl := { T.impl with
      updatePending := false, worker := .updating state T.impl.update T.impl.updateGeneration } } := by
  have hphase := h.worker
  rw [hw] at hphase
  have hlt := hphase.2.mp hp
  have hshort := h.short
  exact h.moved rfl h.status (by rw [hw]; rfl) ⟨hphase.1, rfl, rfl, rfl, by dsimp only; omega⟩ h.durable

/-- The worker takes the request. -/
theorem Tracks.takeRequest (h : Tracks pf cat t w T) {state : JournalStorage}
    (hw : T.impl.worker = .waiting state) :
    Tracks pf cat t w { T with impl := { T.impl with
      requestPending := false
      worker := .staging state T.impl.requested T.impl.requestGeneration } } := by
  have hphase := h.worker
  rw [hw] at hphase
  exact h.moved rfl h.status (by rw [hw]; rfl)
    ⟨hphase.1, hphase.2, ⟨T.requests, Nat.le_refl _, h.request⟩, fun _ => rfl⟩ h.durable

/-- The worker stages. -/
theorem Tracks.stage (h : Tracks pf cat t w T) {state : JournalStorage} {identity : CampaignSave}
    {generation : Generation} (hw : T.impl.worker = .staging state identity generation) :
    Tracks pf cat t w { T with impl := { T.impl with
      worker := .staged state (stageResult cat state identity).2 (stageResult cat state identity).1
        generation } } := by
  have hphase := h.worker
  rw [hw] at hphase
  exact h.moved rfl h.status (by rw [hw]; rfl) ⟨hphase.1, hphase.2.1, identity, hphase.2.2, rfl⟩ h.durable

theorem execute_journalStep (state : JournalStorage) (call : JournalCall) :
    (execute pf cat t state (some call)).2 = journalStep pf cat t state call := by
  unfold execute journalStep
  dsimp only
  split <;> simp [*]

/-- The worker runs the update. -/
theorem Tracks.run (h : Tracks pf cat t w T) {state : JournalStorage} {call : Option JournalCall}
    {generation : Generation} (hw : T.impl.worker = .updating state call generation) :
    Tracks pf cat t w (channelStep pf cat t T .work) := by
  have hphase := h.worker
  rw [hw] at hphase
  obtain ⟨rfl, hp, hcall, rfl, hlen⟩ := hphase
  obtain ⟨c, hc⟩ : ∃ c, T.submitted = T.calls ++ [c] := by
    obtain ⟨rest, hrest⟩ := h.calls
    have hone : rest.length = 1 := by
      have := congrArg List.length hrest
      rw [List.length_append, length_calls] at this
      omega
    obtain ⟨c, rfl⟩ := List.length_eq_one_iff.mp hone
    exact ⟨c, hrest.symm⟩
  obtain rfl : call = some c := by rw [hcall, h.update, hc, List.getLast?_concat]
  obtain ⟨r, hr⟩ : ∃ r, execute pf cat t (T.journal pf cat t w T.executed.length) (some c) = r :=
    ⟨_, rfl⟩
  obtain ⟨x, hx⟩ : ∃ x : Execution,
      { generation := T.impl.updateGeneration, call := c, result := r.1 } = x := ⟨_, rfl⟩
  have hstep : channelStep pf cat t T .work = { T with
      impl := { T.impl with
        worker := .updated r.2 T.impl.updateGeneration r.1
          (if r.1 = .ready then r.2.durable else {}) }
      executed := T.executed ++ [x] } := by
    simp only [channelStep, Impl.work, Impl.execution, hw, hr, hx]
  rw [hstep]
  have hxcall : x.call = c := by rw [← hx]
  have hjournal : ∀ k, k ≤ T.executed.length → ∀ impl,
      ChannelTrace.journal pf cat t w { T with impl := impl, executed := T.executed ++ [x] } k
        = T.journal pf cat t w k := by
    intro k hk impl
    unfold ChannelTrace.journal ChannelTrace.calls
    rw [List.map_append, List.take_append_of_le_length (by rwa [List.length_map])]
  have hset : T.settled = T.executed.length := by
    rw [ChannelTrace.settled, hw]
    rfl
  have hcovers : ∀ k, T.Covers k → ∀ impl : Impl, impl.worker.unsettled = 1 →
      ChannelTrace.Covers { T with impl := impl, executed := T.executed ++ [x] } k := by
    rintro k ⟨hk, hall⟩ impl hone
    refine ⟨by rw [List.length_append]; omega, fun i y hy hi hr => ?_⟩
    rw [ChannelTrace.settled, hone, List.length_append, List.length_singleton] at hi
    rw [List.getElem?_append_left (by omega)] at hy
    exact hall i y hy (by omega) hr
  have hlast : ∀ i y, (T.executed ++ [x])[i]? = some y →
      (T.executed[i]? = some y ∧ i < T.executed.length) ∨ i = T.executed.length ∧ y = x := by
    intro i y hy
    rcases Nat.lt_trichotomy i T.executed.length with hi | rfl | hi
    · rw [List.getElem?_append_left hi] at hy
      exact .inl ⟨hy, hi⟩
    · rw [List.getElem?_concat_length] at hy
      exact .inr ⟨rfl, (Option.some.inj hy).symm⟩
    · rw [List.getElem?_eq_none (by rw [List.length_append, List.length_singleton]; omega)] at hy
      exact absurd hy (by simp)
  refine ⟨h.generation, h.request, h.status, h.update, ?_, ?_, ?_, ?_, ?_, ?_, ?_, ?_, h.completed, ?_⟩
  · unfold ChannelTrace.calls
    rw [List.map_append, List.map_singleton, hxcall, ← ChannelTrace.calls, hc]
  · rw [List.length_append, List.length_singleton]
    dsimp only
    omega
  · intro i y hy
    rcases hlast i y hy with ⟨hy, -⟩ | ⟨rfl, rfl⟩
    · exact h.numbered i y hy
    · rw [← hx, h.generation, hlen]
  · intro i y hy
    rcases hlast i y hy with ⟨hy, hi⟩ | ⟨rfl, rfl⟩
    · rw [hjournal i hi.le]
      exact h.results i y hy
    · rw [hjournal _ (Nat.le_refl _), hxcall, hr, ← hx]
  · refine h.settled.trans (congrArg _ ?_)
    rw [hset, ChannelTrace.settled, List.length_append, List.length_singleton]
    rfl
  · intro hall
    rw [ChannelTrace.settled, List.length_append, List.length_singleton] at hall
    change T.executed.length + 1 - 1 = T.submitted.length at hall
    omega
  · refine ⟨?_, hp, rfl, ?_, ⟨x, List.getLast?_concat, by rw [← hx]⟩, fun hready => if_pos hready⟩
    · unfold ChannelTrace.journal ChannelTrace.calls
      rw [List.length_append, List.length_singleton, List.take_of_length_le (by simp),
        List.map_append, List.map_singleton, Run.run_snoc, hxcall, ← execute_journalStep,
        ← List.take_of_length_le (l := T.executed.map (·.call)) (i := T.executed.length) (by simp)]
      exact (congrArg Prod.snd hr).symm
    · rw [List.length_append, List.length_singleton]
      exact hlen
  · intro hs
    obtain ⟨k, hk, hd⟩ := h.durable hs
    exact ⟨k, hcovers k hk _ rfl, by rw [hjournal k hk.1]; exact hd⟩
  · intro heq hne
    obtain ⟨k, hk, hd⟩ := h.cached heq hne
    exact ⟨k, hcovers k hk _ rfl, by rw [hjournal k hk.1]; exact hd⟩

/-- The slot learns what the update came to. -/
theorem Tracks.settle (h : Tracks pf cat t w T) {state : JournalStorage} {generation : Generation}
    {result : CampaignChannelResult} {durable : CampaignDurableSnapshot}
    (hw : T.impl.worker = .updated state generation result durable) :
    Tracks pf cat t w { T with impl :=
      { T.impl.completeUpdate generation result durable with worker := .waiting state } } := by
  have hphase := h.worker
  rw [hw] at hphase
  obtain ⟨rfl, hp, rfl, hlen, ⟨x, hx, rfl⟩, hd⟩ := hphase
  have hset : T.settled = T.executed.length - 1 := by
    rw [ChannelTrace.settled, hw]
    rfl
  have hlast : T.executed[T.executed.length - 1]? = some x := by
    rw [← hx, List.getLast?_eq_getElem?]
  have hcovers : ∀ k impl, x.result ≠ .ready → T.Covers k →
      ChannelTrace.Covers { T with impl := impl } k := by
    rintro k impl hne ⟨hk, hall⟩
    refine ⟨hk, fun i y hy _ hr => ?_⟩
    have hi : i < T.executed.length := (List.getElem?_eq_some_iff.mp hy).1
    by_cases heq : i = T.executed.length - 1
    · rw [heq, hlast] at hy
      obtain rfl := Option.some.inj hy
      exact absurd hr hne
    · exact hall i y hy (by omega) hr
  have hnow : ∀ impl, ChannelTrace.Covers { T with impl := impl } T.executed.length :=
    fun _ => ⟨Nat.le_refl _, fun _ _ hy _ _ => (List.getElem?_eq_some_iff.mp hy).1⟩
  have hwaits : ∀ impl : Impl, impl.updatePending = false → ChannelTrace.Waits { T with impl := impl } :=
    fun impl hf => iff_of_false (by simp [hf]) (by rw [hlen]; exact Nat.lt_irrefl _)
  have hanswer : ∀ y, T.executed.getLast? = some y → y.result = x.result := by
    intro y hy
    rw [hx] at hy
    rw [Option.some.inj hy]
  have hgeneration : T.impl.updateGeneration = BitVec.ofNat 64 T.executed.length := by
    rw [h.generation, hlen]
  unfold Impl.completeUpdate
  rw [if_pos rfl]
  by_cases hr : x.result = .ready
  · by_cases h0 : T.impl.requestGeneration ≠ 0
    · simp only [if_pos (And.intro hr h0)]
      exact ⟨h.generation, h.request, h.status, h.update, h.calls, h.short, h.numbered, h.results,
        hgeneration,
        fun _ => hanswer, ⟨rfl, hwaits _ hp⟩, fun _ => ⟨_, hnow _, hd hr⟩,
        ⟨0, Nat.zero_le _, rfl⟩, fun heq => absurd heq.symm h0⟩
    · simp only [if_neg fun hand : x.result = .ready ∧ T.impl.requestGeneration ≠ 0 => h0 hand.2,
        if_pos hr]
      exact ⟨h.generation, h.request, h.status, h.update, h.calls, h.short, h.numbered, h.results,
        hgeneration,
        fun _ => hanswer, ⟨rfl, hwaits _ hp⟩, fun _ => ⟨_, hnow _, hd hr⟩, h.completed,
        fun _ hne => absurd hne h0⟩
  · simp only [if_neg fun hand : x.result = .ready ∧ T.impl.requestGeneration ≠ 0 => hr hand.1,
      if_neg hr]
    refine ⟨h.generation, h.request, h.status, h.update, h.calls, h.short, h.numbered, h.results,
        hgeneration,
      fun _ => hanswer, ⟨rfl, hwaits _ hp⟩, fun hs => ?_, h.completed, fun heq hne => ?_⟩
    · obtain ⟨k, hk, hdk⟩ := h.durable hs
      exact ⟨k, hcovers k _ hr hk, hdk⟩
    · obtain ⟨k, hk, hck⟩ := h.cached heq hne
      exact ⟨k, hcovers k _ hr hk, hck⟩

/-- The slot learns what the request came to. -/
theorem Tracks.answerRequest (h : Tracks pf cat t w T) {state : JournalStorage}
    {generation : Generation} {result : CampaignChannelResult}
    {snapshot : Option CampaignStageSnapshot}
    (hw : T.impl.worker = .staged state snapshot result generation) :
    Tracks pf cat t w { T with impl :=
      { T.impl.completeRequest snapshot result generation with worker := .waiting state } } := by
  have hphase := h.worker
  rw [hw] at hphase
  obtain ⟨rfl, hwaits, identity, ⟨⟨n, hn, hg⟩, hcurrent⟩, hstage⟩ := hphase
  have hset : T.settled = T.executed.length := by
    rw [ChannelTrace.settled, hw]
    rfl
  unfold Impl.completeRequest
  by_cases hcur : generation = T.impl.requestGeneration
  · simp only [if_pos hcur]
    refine ⟨h.generation, h.request, h.status, h.update, h.calls, h.short, h.numbered, h.results,
      h.settled.trans (congrArg _ hset), fun hall => h.answer (hset.trans hall), ⟨rfl, hwaits⟩,
      fun hs => ?_, ⟨n, hn, hg⟩, fun _ _ => ⟨T.executed.length, ⟨Nat.le_refl _,
        fun _ _ hy _ _ => (List.getElem?_eq_some_iff.mp hy).1⟩, ?_⟩⟩
    · obtain ⟨k, hk, hd⟩ := h.durable hs
      exact ⟨k, ⟨hk.1, fun i y hy hi => hk.2 i y hy (hset ▸ hi)⟩, hd⟩
    · rw [hstage, hcurrent hcur]
      rfl
  · simp only [if_neg hcur]
    exact h.moved rfl h.status (by rw [hw]; rfl) ⟨rfl, hwaits⟩ h.durable

theorem channelStep_work (hw : T.impl.execution pf cat t = []) :
    channelStep pf cat t T .work = { T with impl := T.impl.work pf cat t } := by
  simp only [channelStep, hw, List.append_nil]

/-- A section of the worker. -/
theorem Tracks.work (h : Tracks pf cat t w T) : Tracks pf cat t w (channelStep pf cat t T .work) := by
  have hphase := h.worker
  cases hw : T.impl.worker with
  | loading journal =>
    rw [hw] at hphase
    obtain rfl := hphase.1
    rw [channelStep_work (by simp only [Impl.execution, hw]), Impl.work, hw]
    exact h.open hw
  | opened state =>
    rw [channelStep_work (by simp only [Impl.execution, hw]), Impl.work, hw]
    exact h.publish hw
  | waiting state =>
    rw [channelStep_work (by simp only [Impl.execution, hw]), Impl.work, hw]
    dsimp only
    by_cases hp : T.impl.updatePending = true
    · rw [if_pos hp]
      exact h.takeUpdate hw hp
    · rw [if_neg hp]
      by_cases hr : T.impl.requestPending = true
      · rw [if_pos hr]
        exact h.takeRequest hw
      · rw [if_neg hr]
        exact h
  | updating state call generation => exact h.run hw
  | updated state generation result durable =>
    rw [channelStep_work (by simp only [Impl.execution, hw]), Impl.work, hw]
    exact h.settle hw
  | staging state identity generation =>
    rw [channelStep_work (by simp only [Impl.execution, hw]), Impl.work, hw]
    exact h.stage hw
  | staged state snapshot result generation =>
    rw [channelStep_work (by simp only [Impl.execution, hw]), Impl.work, hw]
    exact h.answerRequest hw
  | gone =>
    rw [hw] at hphase
    exact hphase.elim

/-- What a call can do to its slot. -/
theorem tryUpdate_cases (s : Impl) (locks : Locks) (call : JournalCall) :
    (s.tryUpdate locks call).1 = s
    ∨ s.status = .ready ∧ (s.updateGeneration ≠ 0 → s.completedUpdateGeneration = s.updateGeneration)
      ∧ (s.tryUpdate locks call).1 = s.accept call := by
  unfold Impl.tryUpdate
  cases hl : s.turnedAway locks with
  | some result => exact .inl rfl
  | none =>
    have hs : s.status = .ready := by
      unfold Impl.turnedAway at hl
      by_contra hs
      rw [if_pos hs] at hl
      split at hl <;> exact absurd hl (by simp)
    dsimp only
    unfold Impl.submit
    split
    · exact .inl rfl
    · rename_i hfree
      split
      · exact .inr ⟨hs, fun h0 => by_contra fun hne => hfree ⟨h0, hne⟩, rfl⟩
      · exact .inl rfl

theorem tryStage_cases (s : Impl) (locks : Locks) (identity : CampaignSave) :
    (s.tryStage locks identity).1 = s ∨ (s.tryStage locks identity).1 = s.ask identity := by
  unfold Impl.tryStage
  split
  · exact .inl rfl
  · split
    · exact .inr rfl
    · split <;> exact .inl rfl

/-- A call that may submit. -/
theorem submitting_cases (T : ChannelTrace) (locks : Locks) (call : JournalCall) :
    T.submitting (T.impl.tryUpdate locks call).1 call = T
    ∨ T.impl.status = .ready
      ∧ (T.impl.updateGeneration ≠ 0 →
        T.impl.completedUpdateGeneration = T.impl.updateGeneration)
      ∧ T.submitting (T.impl.tryUpdate locks call).1 call
        = { T with impl := T.impl.accept call, submitted := T.submitted ++ [call] } := by
  unfold ChannelTrace.submitting
  rcases tryUpdate_cases T.impl locks call with h | ⟨hs, hfree, h⟩
  · rw [h, if_pos rfl]
    exact .inl rfl
  · have hnext : (T.impl.accept call).updateGeneration ≠ T.impl.updateGeneration :=
      generation_succ_ne _
    rw [h, if_neg hnext]
    exact .inr ⟨hs, hfree, rfl⟩

variable (pf cat t) in
/-- What an event does: a section of the worker, an accepted update, an accepted request, or
nothing. -/
theorem channelStep_cases (T : ChannelTrace) (e : ChannelEvent) :
    channelStep pf cat t T e = T ∨ e = .work
    ∨ (∃ call, T.impl.status = .ready
      ∧ (T.impl.updateGeneration ≠ 0 →
        T.impl.completedUpdateGeneration = T.impl.updateGeneration)
      ∧ channelStep pf cat t T e
        = { T with impl := T.impl.accept call, submitted := T.submitted ++ [call] })
    ∨ ∃ identity, channelStep pf cat t T e
        = { T with impl := T.impl.ask identity, requests := T.requests + 1 } := by
  cases e with
  | work => exact .inr (.inl rfl)
  | receive locks index items =>
    unfold channelStep Impl.tryReceive
    dsimp only
    split
    · left
      simp [ChannelTrace.submitting]
    · rcases submitting_cases T locks (.receive index items) with h | h
      · exact .inl h
      · exact .inr (.inr (.inl ⟨_, h⟩))
  | record locks checks =>
    rcases submitting_cases T locks (.record checks) with h | h
    · exact .inl h
    · exact .inr (.inr (.inl ⟨_, h⟩))
  | snapshot locks => exact .inl rfl
  | stage locks identity =>
    unfold channelStep
    dsimp only
    rcases tryStage_cases T.impl locks identity with h | h
    · rw [h, if_pos rfl]
      exact .inl rfl
    · have hnext : (T.impl.ask identity).requestGeneration ≠ T.impl.requestGeneration :=
        generation_succ_ne _
      rw [h, if_neg hnext]
      exact .inr (.inr (.inr ⟨identity, rfl⟩))

variable (pf cat t) in
/-- What happened stays. -/
theorem channelStep_grows (T : ChannelTrace) (e : ChannelEvent) :
    T.submitted <+: (channelStep pf cat t T e).submitted
    ∧ T.executed <+: (channelStep pf cat t T e).executed
    ∧ T.requests ≤ (channelStep pf cat t T e).requests := by
  rcases channelStep_cases pf cat t T e with h | rfl | ⟨call, -, -, h⟩ | ⟨_, h⟩
  · rw [h]
    exact ⟨List.prefix_refl _, List.prefix_refl _, Nat.le_refl _⟩
  · exact ⟨List.prefix_refl _, List.prefix_append _ _, Nat.le_refl _⟩
  · rw [h]
    exact ⟨List.prefix_append _ _, List.prefix_refl _, Nat.le_refl _⟩
  · rw [h]
    exact ⟨List.prefix_refl _, List.prefix_refl _, Nat.le_succ _⟩

theorem few_of_step (e : ChannelEvent) (hf : (channelStep pf cat t T e).Few) : T.Few := by
  obtain ⟨hs, -, hr⟩ := channelStep_grows pf cat t T e
  exact ⟨hs.length_le.trans_lt hf.1, hr.trans_lt hf.2⟩

/-- **One event keeps the invariant**, as long as no counter wraps. -/
theorem Tracks.step (h : Tracks pf cat t w T) (e : ChannelEvent)
    (hf : (channelStep pf cat t T e).Few) : Tracks pf cat t w (channelStep pf cat t T e) := by
  have hfew := few_of_step e hf
  rcases channelStep_cases pf cat t T e with h' | rfl
    | ⟨call, hs, hfree, h'⟩ | ⟨identity, h'⟩
  · exact h'.symm ▸ h
  · exact h.work
  · rw [h']
    exact h.accept hfew hs hfree call
  · rw [h'] at hf ⊢
    exact h.ask hf.2 identity

/-- **The invariant along a run.** -/
theorem tracks_run (w : JournalStorage) (es : List ChannelEvent)
    (hf : (Run.run (channelStep pf cat t) (.start (some w)) es).Few) :
    Tracks pf cat t w (Run.run (channelStep pf cat t) (.start (some w)) es) := by
  induction es using List.reverseRecOn with
  | nil => exact tracks_start w
  | append_singleton es e ih =>
    rw [Run.run_snoc] at hf ⊢
    exact (ih (few_of_step e hf)).step e hf

end Past

end Dk64Port.Archipelago
