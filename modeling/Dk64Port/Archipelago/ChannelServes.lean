import Dk64Port.Archipelago.ChannelTracks
import Mathlib.Algebra.Group.Nat.Defs

/-!
# What the callers of the channel rely on

* `Tracks.serves`: the worker alone gets to the end of what was submitted.
* `Tracks.answered`: an answer is that of the last update, and that one is the caller's own.
* `Tracks.acknowledged_run`, `Tracks.snapshot`, `Tracks.staged`: what is read later is no older.
* `channel_serves`: **updates are run once and in order, an answer is that of the caller's own update,
  and what is read is as new as every update that was acknowledged.**
* `refused_unrun_and_wrapped_update_lost`: what has to be left out.
-/

namespace Dk64Port.Archipelago

section Past

variable {pf : Platform} {cat : Catalog} {t : LocationTable} {w : JournalStorage}
  {T : ChannelTrace} {k : Nat}

/-! ## Every update is run -/

variable (pf cat t) in
/-- The worker alone gets to the end of the submitted updates within `n` sections. -/
def ChannelTrace.Serves (T : ChannelTrace) (n : Nat) : Prop :=
  ∃ m, m ≤ n ∧ (Run.run (channelStep pf cat t) T (List.replicate m .work)).calls = T.submitted

theorem serves_zero (h : T.calls = T.submitted) (n : Nat) : T.Serves pf cat t n :=
  ⟨0, Nat.zero_le n, h⟩

theorem serves_succ {n : Nat} (h : (channelStep pf cat t T .work).Serves pf cat t n) :
    T.Serves pf cat t (n + 1) := by
  obtain ⟨m, hm, hrun⟩ := h
  exact ⟨m + 1, Nat.succ_le_succ hm, hrun⟩

theorem Tracks.calls_eq (h : Tracks pf cat t w T) (hlen : T.executed.length = T.submitted.length) :
    T.calls = T.submitted :=
  h.calls.eq_of_length ((length_calls T).trans hlen)

theorem Tracks.serves_updating (h : Tracks pf cat t w T) {state : JournalStorage}
    {call : Option JournalCall} {generation : Generation}
    (hw : T.impl.worker = .updating state call generation) : T.Serves pf cat t 1 := by
  have hrun := h.run hw
  refine serves_succ (serves_zero (hrun.calls_eq ?_) 0)
  have hphase := hrun.worker
  simp only [channelStep, Impl.work, hw] at hphase
  exact hphase.2.2.2.1

theorem Tracks.serves_waiting (h : Tracks pf cat t w T) {state : JournalStorage}
    (hw : T.impl.worker = .waiting state) : T.Serves pf cat t 2 := by
  have hphase := h.worker
  rw [hw] at hphase
  by_cases hp : T.impl.updatePending = true
  · have hnext : (channelStep pf cat t T .work).impl.worker
        = .updating state T.impl.update T.impl.updateGeneration := by
      simp only [channelStep, Impl.work, hw, if_pos hp]
    exact serves_succ (h.work.serves_updating hnext)
  · have hlt : ¬ T.executed.length < T.submitted.length := fun hlt => hp (hphase.2.mpr hlt)
    exact serves_zero (h.calls_eq (by have := h.executed_le; omega)) 2

theorem Tracks.serves_staged (h : Tracks pf cat t w T) {state : JournalStorage}
    {snapshot : Option CampaignStageSnapshot} {result : CampaignChannelResult}
    {generation : Generation} (hw : T.impl.worker = .staged state snapshot result generation) :
    T.Serves pf cat t 3 := by
  have hnext : (channelStep pf cat t T .work).impl.worker = .waiting state := by
    simp only [channelStep, Impl.work, hw]
  exact serves_succ (h.work.serves_waiting hnext)

/-- **Nothing is left behind.** -/
theorem Tracks.serves (h : Tracks pf cat t w T) : T.Serves pf cat t 4 := by
  have hphase := h.worker
  have hmono : ∀ {m n}, m ≤ n → T.Serves pf cat t m → T.Serves pf cat t n := by
    rintro m n hmn ⟨k, hk, hrun⟩
    exact ⟨k, hk.trans hmn, hrun⟩
  have hnone : T.submitted = [] → T.Serves pf cat t 4 := by
    intro hnil
    refine serves_zero (h.calls_eq ?_) 4
    have hle := h.executed_le
    rw [hnil] at hle ⊢
    exact Nat.le_zero.mp hle
  cases hw : T.impl.worker with
  | loading journal =>
    rw [hw] at hphase
    exact hnone hphase.2.1
  | opened state =>
    rw [hw] at hphase
    exact hnone hphase.2.1
  | waiting state => exact hmono (by decide) (h.serves_waiting hw)
  | updating state call generation => exact hmono (by decide) (h.serves_updating hw)
  | updated state generation result durable =>
    rw [hw] at hphase
    exact serves_zero (h.calls_eq hphase.2.2.2.1) 4
  | staging state identity generation =>
    have hnext : (channelStep pf cat t T .work).impl.worker
        = .staged state (stageResult cat state identity).2 (stageResult cat state identity).1
          generation := by
      simp only [channelStep, Impl.work, hw]
    exact serves_succ (h.work.serves_staged hnext)
  | staged state snapshot result generation => exact hmono (by decide) (h.serves_staged hw)
  | gone =>
    rw [hw] at hphase
    exact hphase.elim

/-! ## The answers -/

/-- An update that is not refused for its size. -/
def JournalCall.fits : JournalCall → Prop
  | receive index items => index ≤ itemLimit ∧ items.length ≤ itemLimit - index
  | record _ => True

/-- The call that hands an update over. -/
def Impl.tryCall (s : Impl) (locks : Locks) : JournalCall → Impl × CampaignChannelResult
  | .receive index items => s.tryReceive locks index items
  | .record checks => s.tryRecord locks checks

theorem tryCall_eq (s : Impl) (locks : Locks) {call : JournalCall} (h : call.fits) :
    s.tryCall locks call = s.tryUpdate locks call := by
  cases call with
  | receive index items =>
    unfold Impl.tryCall Impl.tryReceive
    dsimp only
    rw [if_neg]
    rintro (hi | hi)
    · exact absurd h.1 (by omega)
    · exact absurd h.2 (by omega)
  | record checks => rfl

theorem fits_of_ready {s : Impl} {locks : Locks} {call : JournalCall}
    (h : (s.tryCall locks call).2 = .ready) : call.fits := by
  cases call with
  | receive index items =>
    unfold Impl.tryCall Impl.tryReceive at h
    dsimp only at h
    split at h
    · exact absurd h (by simp)
    · rename_i hn
      rw [not_or] at hn
      exact ⟨by omega, by omega⟩
  | record checks => trivial

theorem turnedAway_cases {s : Impl} (hs : s.status ≠ .rejected) (locks : Locks) :
    s.turnedAway locks = none ∧ s.status = .ready
    ∨ ∃ r, s.turnedAway locks = some r ∧ r ≠ .ready ∧ r ≠ .rejected := by
  unfold Impl.turnedAway
  split
  · exact .inr ⟨_, rfl, by decide, by decide⟩
  · split
    · rename_i hr
      exact .inr ⟨_, rfl, hr, hs⟩
    · rename_i hr
      split
      · exact .inr ⟨_, rfl, by decide, by decide⟩
      · exact .inl ⟨rfl, not_not.mp hr⟩

theorem Tracks.status_ne (h : Tracks pf cat t w T) : T.impl.status ≠ .rejected := by
  rcases h.status with hs | hs <;> rw [hs] <;> decide

/-- **An answer is that of the last update, which is the caller's own.** -/
theorem Tracks.answered (h : Tracks pf cat t w T) (hf : T.Few) {locks : Locks} {call : JournalCall}
    {r : CampaignChannelResult} (hc : call.fits) (hr : (T.impl.tryCall locks call).2 = r)
    (hend : r = .ready ∨ r = .rejected) :
    T.settled = T.executed.length
    ∧ ∃ x, T.executed.getLast? = some x ∧ x.call = call ∧ x.result = r := by
  rw [tryCall_eq _ _ hc, Impl.tryUpdate] at hr
  rcases turnedAway_cases h.status_ne locks with ⟨hl, -⟩ | ⟨r', hl, h1, h2⟩
  · rw [hl] at hr
    dsimp only at hr
    unfold Impl.submit at hr
    have hretry : CampaignChannelResult.retry ≠ r := by
      rcases hend with rfl | rfl <;> decide
    by_cases hbusy : T.impl.updateGeneration ≠ 0
        ∧ T.impl.completedUpdateGeneration ≠ T.impl.updateGeneration
    · rw [if_pos hbusy] at hr
      exact absurd hr hretry
    rw [if_neg hbusy] at hr
    by_cases hnew : T.impl.updateGeneration = 0 ∨ T.impl.update ≠ some call
    · rw [if_pos hnew] at hr
      exact absurd hr hretry
    rw [if_neg hnew] at hr
    rw [not_or, not_not] at hnew
    have hset := (h.free_iff hf).mp (by_contra fun hne => hbusy ⟨hnew.1, hne⟩)
    have hlen : T.executed.length = T.submitted.length := by
      have h1 := settled_le T
      have h2 := h.executed_le
      omega
    refine ⟨hset.trans hlen.symm, ?_⟩
    have hcalls := h.calls_eq hlen
    have hlast : T.calls.getLast? = some call := by rw [hcalls, ← h.update, hnew.2]
    rw [ChannelTrace.calls, List.getLast?_map] at hlast
    obtain ⟨x, hx, hxc⟩ := Option.map_eq_some_iff.mp hlast
    exact ⟨x, hx, hxc, (h.answer hset x hx).trans hr⟩
  · rw [hl] at hr
    dsimp only at hr
    rcases hend with rfl | rfl
    · exact absurd hr h1
    · exact absurd hr h2

/-! ## What is read -/

/-- The slot knows of `n` updates, the last of them acknowledged. -/
def ChannelTrace.Acknowledged (T : ChannelTrace) (n : Nat) : Prop :=
  n ≤ T.settled ∧ ∃ x, T.executed[n - 1]? = some x ∧ x.result = .ready

theorem Covers.acknowledged {n : Nat} (hk : T.Covers k) (h : T.Acknowledged n) (hn : n ≠ 0) :
    n ≤ k := by
  obtain ⟨hset, x, hx, hr⟩ := h
  have := hk.2 _ x hx (by omega) hr
  omega

/-- What the slot knows of stays known. -/
theorem Tracks.settled_step (h : Tracks pf cat t w T) (e : ChannelEvent) :
    T.settled ≤ (channelStep pf cat t T e).settled := by
  rcases channelStep_cases pf cat t T e with h' | rfl | ⟨call, -, -, h'⟩ | ⟨identity, h'⟩
  · rw [h']
  · have hle := settled_le T
    have hgrow : T.executed.length ≤ (channelStep pf cat t T .work).executed.length :=
      (channelStep_grows pf cat t T .work).2.1.length_le
    have hzero : (channelStep pf cat t T .work).impl.worker.unsettled = 0 →
        T.settled ≤ (channelStep pf cat t T .work).settled := by
      intro h0
      rw [ChannelTrace.settled.eq_def (channelStep pf cat t T .work), h0]
      omega
    have hphase := h.worker
    cases hw : T.impl.worker with
    | loading journal =>
      rw [hw] at hphase
      obtain rfl := hphase.1
      exact hzero (by simp only [channelStep, Impl.work, hw, Worker.unsettled])
    | waiting state =>
      refine hzero ?_
      simp only [channelStep, Impl.work, hw]
      split
      · rfl
      · split
        · rfl
        · rw [hw]
          rfl
    | updating state call generation =>
      rw [hw] at hphase
      have hrun := (h.run hw).settled
      have hsome : call ≠ none := by
        rw [hphase.2.2.1, h.update]
        intro hnone
        have hnil := List.getLast?_eq_none_iff.mp hnone
        have hlen := hphase.2.2.2.2
        rw [hnil] at hlen
        exact absurd hlen (by simp)
      obtain ⟨c, rfl⟩ := Option.ne_none_iff_exists'.mp hsome
      simp only [ChannelTrace.settled, channelStep, Impl.work, Impl.execution, hw, Worker.unsettled,
        List.length_append, List.length_singleton]
      omega
    | _ => exact hzero (by simp only [channelStep, Impl.work, hw, Worker.unsettled])
  · rw [h']
    exact Nat.le_refl _
  · rw [h']
    exact Nat.le_refl _

/-- What was acknowledged stays acknowledged. -/
theorem Tracks.acknowledged_step (h : Tracks pf cat t w T) {n : Nat} (ha : T.Acknowledged n)
    (e : ChannelEvent) : (channelStep pf cat t T e).Acknowledged n := by
  obtain ⟨hset, x, hx, hr⟩ := ha
  obtain ⟨rest, hrest⟩ := (channelStep_grows pf cat t T e).2.1
  refine ⟨hset.trans (h.settled_step e), x, ?_, hr⟩
  rw [← hrest, List.getElem?_append_left (List.getElem?_eq_some_iff.mp hx).1, hx]

theorem few_of_run {es : List ChannelEvent} :
    ∀ {T : ChannelTrace}, (Run.run (channelStep pf cat t) T es).Few → T.Few := by
  induction es with
  | nil => exact id
  | cons e es ih => exact fun hf => few_of_step e (ih hf)

theorem Tracks.acknowledged_run (h : Tracks pf cat t w T) {n : Nat} (ha : T.Acknowledged n)
    (es : List ChannelEvent) (hf : (Run.run (channelStep pf cat t) T es).Few) :
    (Run.run (channelStep pf cat t) T es).Acknowledged n := by
  induction es generalizing T with
  | nil => exact ha
  | cons e es ih => exact ih (h.step e (few_of_run hf)) (h.acknowledged_step ha e) hf

/-- What a snapshot reads. -/
theorem Tracks.snapshot (h : Tracks pf cat t w T) {locks : Locks}
    {d : Option CampaignDurableSnapshot} (hd : T.impl.trySnapshot locks = (.ready, d)) :
    ∃ k, T.Covers k ∧ d = some (T.journal pf cat t w k).durable := by
  unfold Impl.trySnapshot at hd
  rcases turnedAway_cases h.status_ne locks with ⟨hl, hs⟩ | ⟨r, hl, hr, -⟩
  · rw [hl] at hd
    obtain ⟨k, hk, hdk⟩ := h.durable hs
    exact ⟨k, hk, by rw [← hdk]; exact (Prod.mk.inj hd).2.symm⟩
  · rw [hl] at hd
    exact absurd (Prod.mk.inj hd).1 hr

/-- What a stage reads. -/
theorem Tracks.staged (h : Tracks pf cat t w T) {locks : Locks} {identity : CampaignSave}
    {x : Option CampaignStageSnapshot} (hx : (T.impl.tryStage locks identity).2 = (.ready, x)) :
    ∃ k, T.Covers k ∧ (.ready, x) = stageResult cat (T.journal pf cat t w k) identity := by
  unfold Impl.tryStage at hx
  rcases turnedAway_cases h.status_ne locks with ⟨hl, -⟩ | ⟨r, hl, hr, -⟩
  · rw [hl] at hx
    dsimp only at hx
    by_cases hnew : T.impl.requestGeneration = 0 ∨ identity ≠ T.impl.requested
    · rw [if_pos hnew] at hx
      exact absurd (Prod.mk.inj hx).1 (by decide)
    rw [if_neg hnew] at hx
    rw [not_or, not_not] at hnew
    by_cases hdone : T.impl.completedGeneration ≠ T.impl.requestGeneration
    · rw [if_pos hdone] at hx
      exact absurd (Prod.mk.inj hx).1 (by decide)
    rw [if_neg hdone] at hx
    obtain ⟨hready, hcached⟩ := Prod.mk.inj hx
    rw [if_pos hready] at hcached
    obtain ⟨k, hk, hck⟩ := h.cached (not_not.mp hdone) hnew.1
    refine ⟨k, hk, ?_⟩
    rw [hnew.2, ← hck, hready, hcached]
  · rw [hl] at hx
    exact absurd (Prod.mk.inj hx).1 hr

/-! ## The results -/

/-- A channel whose journal could not be opened. -/
structure Closed (T : ChannelTrace) : Prop where
  status : T.impl.status = .retry ∨ T.impl.status = .unavailable
  submitted : T.submitted = []
  executed : T.executed = []
  worker : T.impl.worker = .loading none ∨ T.impl.worker = .gone

theorem Closed.step (h : Closed T) (e : ChannelEvent) : Closed (channelStep pf cat t T e) := by
  rcases channelStep_cases pf cat t T e with h' | rfl | ⟨call, hs, -, -⟩ | ⟨identity, h'⟩
  · rw [h']
    exact h
  · rcases h.worker with hw | hw
    · rw [channelStep_work (by simp only [Impl.execution, hw]), Impl.work, hw]
      exact ⟨.inr rfl, h.submitted, h.executed, .inr rfl⟩
    · rw [channelStep_work (by simp only [Impl.execution, hw]), Impl.work, hw]
      exact h
  · rcases h.status with h0 | h0 <;> rw [h0] at hs <;> exact absurd hs (by decide)
  · rw [h']
    exact ⟨h.status, h.submitted, h.executed, h.worker⟩

/-- The updates of a channel: run once each, in the order they were submitted and on the journal that
the ones before left, to the last one by the worker alone; and an answer is that of a run of the
caller's own update. -/
structure UpdatesServed (pf : Platform) (cat : Catalog) (t : LocationTable)
    (journal : Option JournalStorage) (T : ChannelTrace) : Prop where
  order : T.calls <+: T.submitted
  once : ∀ i x, T.executed[i]? = some x → x.generation = BitVec.ofNat 64 (i + 1)
  ran : ∀ w ∈ journal, ∀ i x, T.executed[i]? = some x →
    x.result = (execute pf cat t (T.journal pf cat t w i) (some x.call)).1
  served : T.Serves pf cat t 4
  answered : ∀ locks call r, call.fits → (T.impl.tryCall locks call).2 = r →
    r = .ready ∨ r = .rejected → ∃ x, T.executed.getLast? = some x ∧ x.call = call ∧ x.result = r

/-- What is read at `T₂` is the journal after `k` updates, among them the ones that were run when an
update was acknowledged at `T₁`. -/
def ReadsFresh (pf : Platform) (cat : Catalog) (t : LocationTable) (journal : Option JournalStorage)
    (T₁ T₂ : ChannelTrace) : Prop :=
  ∀ locks call, (T₁.impl.tryCall locks call).2 = .ready →
    (∀ locks d, T₂.impl.trySnapshot locks = (.ready, d) → ∃ w ∈ journal, ∃ k,
      T₁.executed.length ≤ k ∧ k ≤ T₂.executed.length ∧ d = some (T₂.journal pf cat t w k).durable)
    ∧ ∀ locks identity x, (T₂.impl.tryStage locks identity).2 = (.ready, x) → ∃ w ∈ journal, ∃ k,
      T₁.executed.length ≤ k ∧ k ≤ T₂.executed.length
      ∧ (.ready, x) = stageResult cat (T₂.journal pf cat t w k) identity

theorem Closed.tryCall (h : Closed T) {locks : Locks} {call : JournalCall}
    {r : CampaignChannelResult} (hc : call.fits) (hr : (T.impl.tryCall locks call).2 = r)
    (hend : r = .ready ∨ r = .rejected) : False := by
  have hne : T.impl.status ≠ .rejected := by
    rcases h.status with hs | hs <;> rw [hs] <;> decide
  rw [tryCall_eq _ _ hc, Impl.tryUpdate] at hr
  rcases turnedAway_cases hne locks with ⟨-, hs⟩ | ⟨r', hl, h1, h2⟩
  · rcases h.status with h0 | h0 <;> rw [h0] at hs <;> exact absurd hs (by decide)
  · rw [hl] at hr
    rcases hend with rfl | rfl
    · exact h1 hr
    · exact h2 hr

/-- **The channel serves its callers**, in any interleaving of the worker's sections and the calls,
while fewer than 2^64 updates and requests were submitted. -/
theorem channel_serves (pf : Platform) (cat : Catalog) (t : LocationTable)
    (journal : Option JournalStorage) (es₁ es₂ : List ChannelEvent)
    (hf : (Run.run (channelStep pf cat t) (.start journal) (es₁ ++ es₂)).Few) :
    UpdatesServed pf cat t journal (Run.run (channelStep pf cat t) (.start journal) (es₁ ++ es₂))
    ∧ ReadsFresh pf cat t journal (Run.run (channelStep pf cat t) (.start journal) es₁)
      (Run.run (channelStep pf cat t) (.start journal) (es₁ ++ es₂)) := by
  cases journal with
  | none =>
    have hclosed : ∀ es, Closed (Run.run (channelStep pf cat t) (.start none) es) :=
      Run.run_invariant_of_steps (fun _ e h => h.step e) ⟨.inl rfl, rfl, rfl, .inl rfl⟩
    have h₁ := hclosed es₁
    have h₂ := hclosed (es₁ ++ es₂)
    have hcalls : ChannelTrace.calls (Run.run (channelStep pf cat t) (.start none) (es₁ ++ es₂))
        = [] := by
      rw [ChannelTrace.calls, h₂.executed, List.map_nil]
    refine ⟨⟨?_, fun i x hx => ?_, fun w hw => ?_, serves_zero (hcalls.trans h₂.submitted.symm) 4,
      fun _ _ _ hc hr hend => (h₂.tryCall hc hr hend).elim⟩, fun _ _ hr => ?_⟩
    · rw [hcalls]
      exact List.nil_prefix
    · rw [h₂.executed] at hx
      exact absurd hx (by simp)
    · exact absurd hw (by simp)
    · exact (h₁.tryCall (fits_of_ready hr) hr (.inl rfl)).elim
  | some w =>
    have hrun : Run.run (channelStep pf cat t) (.start (some w)) (es₁ ++ es₂)
        = Run.run (channelStep pf cat t) (Run.run (channelStep pf cat t) (.start (some w)) es₁) es₂ :=
      Run.run_append _ _ _
    rw [hrun] at hf ⊢
    have h₁ : Tracks pf cat t w _ := tracks_run w es₁ (few_of_run hf)
    have h₂ : Tracks pf cat t w _ := tracks_run w (es₁ ++ es₂) (hrun ▸ hf)
    rw [hrun] at h₂
    refine ⟨⟨h₂.calls, h₂.numbered, fun w' hw' => ?_, h₂.serves,
      fun _ _ _ hc hr hend => (h₂.answered hf hc hr hend).2⟩, fun locks call hr => ?_⟩
    · obtain rfl := Option.some.inj hw'
      exact h₂.results
    · obtain ⟨hset, x, hx, -, hxr⟩ := h₁.answered (few_of_run hf) (fits_of_ready hr) hr (.inl rfl)
      have hne : (Run.run (channelStep pf cat t) (.start (some w)) es₁).executed.length ≠ 0 := by
        intro h0
        rw [List.length_eq_zero_iff.mp h0] at hx
        exact absurd hx (by simp)
      have hack := h₁.acknowledged_run
        ⟨hset.ge, x, by rw [← List.getLast?_eq_getElem?, hx], hxr⟩ es₂ hf
      refine ⟨fun _ d hd => ?_, fun _ identity y hy => ?_⟩
      · obtain ⟨k, hk, hdk⟩ := h₂.snapshot hd
        exact ⟨w, rfl, k, Covers.acknowledged hk hack hne, hk.1, hdk⟩
      · obtain ⟨k, hk, hyk⟩ := h₂.staged hy
        exact ⟨w, rfl, k, Covers.acknowledged hk hack hne, hk.1, hyk⟩

/-! ## A refusal without a run, and a counter that wraps -/

/-- The update of generation `n` in a run of two callers that take turns. -/
def turnCall (n : Nat) : JournalCall := if n % 2 = 0 then .record 0 else .receive 0 []

/-- The call that hands it over. -/
def turnEvent (n : Nat) : ChannelEvent := if n % 2 = 0 then .record {} 0 else .receive {} 0 []

/-- What holds after the `n`th update of that run. -/
structure Turn (n : Nat) (T : ChannelTrace) : Prop where
  status : T.impl.status = .ready
  worker : ∃ state, T.impl.worker = .waiting state
  generation : T.impl.updateGeneration = BitVec.ofNat 64 n
  completed : T.impl.completedUpdateGeneration = BitVec.ofNat 64 n
  request : T.impl.requestGeneration = 0
  update : n ≠ 0 → T.impl.update = some (turnCall n)
  calls : T.calls = T.submitted
  length : T.submitted.length = n

theorem turnCall_succ (n : Nat) : turnCall (n + 1) ≠ turnCall n := by
  unfold turnCall
  rcases Nat.mod_two_eq_zero_or_one n with h | h
  · rw [if_neg (by omega), if_pos h]
    nofun
  · rw [if_pos (by omega), if_neg (by omega)]
    nofun

variable (pf cat t) in
/-- A call that is let in submits its update. -/
theorem channelStep_turnEvent (n : Nat) (hs : T.impl.status = .ready)
    (hfree : T.impl.updateGeneration = 0
      ∨ T.impl.completedUpdateGeneration = T.impl.updateGeneration)
    (hnew : T.impl.updateGeneration = 0 ∨ T.impl.update ≠ some (turnCall n)) :
    channelStep pf cat t T (turnEvent n) = { T with
      impl := T.impl.accept (turnCall n), submitted := T.submitted ++ [turnCall n] } := by
  have hin : T.impl.turnedAway {} = none := by simp [Impl.turnedAway, hs]
  have hsubmit : (T.impl.tryUpdate {} (turnCall n)).1 = T.impl.accept (turnCall n) := by
    unfold Impl.tryUpdate Impl.submit
    rw [hin]
    dsimp only
    rw [if_neg, if_pos hnew]
    rintro ⟨h0, hne⟩
    exact hfree.elim h0 hne
  have hevent : channelStep pf cat t T (turnEvent n)
      = T.submitting (T.impl.tryUpdate {} (turnCall n)).1 (turnCall n) := by
    unfold turnEvent turnCall
    split <;> rfl
  have hnext : (T.impl.accept (turnCall n)).updateGeneration ≠ T.impl.updateGeneration :=
    generation_succ_ne _
  rw [hevent, hsubmit, ChannelTrace.submitting, if_neg hnext]

variable (pf cat t) in
/-- The worker runs the update in the slot. -/
theorem run_work {state : JournalStorage} {call : JournalCall}
    (hw : T.impl.worker = .waiting state) (hp : T.impl.updatePending = true)
    (hu : T.impl.update = some call) (hr : T.impl.requestGeneration = 0) :
    ∃ impl x, Run.run (channelStep pf cat t) T [.work, .work, .work]
        = { T with impl := impl, executed := T.executed ++ [x] }
      ∧ x.call = call ∧ impl.status = T.impl.status ∧ (∃ state, impl.worker = .waiting state)
      ∧ impl.updateGeneration = T.impl.updateGeneration
      ∧ impl.completedUpdateGeneration = T.impl.updateGeneration
      ∧ impl.requestGeneration = 0 ∧ impl.update = some call := by
  simp only [Run.run_cons, Run.run_nil, channelStep, Impl.work, Impl.execution, hw, hp, hu, if_true,
    List.append_nil]
  refine ⟨_, _, rfl, rfl, ?_⟩
  unfold Impl.completeUpdate
  simp only [if_true, hr, ne_eq, not_true_eq_false, and_false, if_false]
  split <;> exact ⟨rfl, ⟨_, rfl⟩, rfl, rfl, rfl, rfl⟩

theorem Turn.next {n : Nat} (h : Turn n T) :
    Turn (n + 1) (Run.run (channelStep pf cat t) T [turnEvent (n + 1), .work, .work, .work]) := by
  obtain ⟨state, hw⟩ := h.worker
  have hnew : T.impl.updateGeneration = 0 ∨ T.impl.update ≠ some (turnCall (n + 1)) := by
    by_cases h0 : n = 0
    · left
      rw [h.generation, h0]
      rfl
    · right
      rw [h.update h0]
      exact fun heq => turnCall_succ n (Option.some.inj heq).symm
  rw [Run.run_cons, channelStep_turnEvent pf cat t _ h.status (.inr (h.completed.trans h.generation.symm)) hnew]
  obtain ⟨impl, x, hrun, hx, hs, hworker, hg, hc, hr, hu⟩ := run_work pf cat t
    (T := { T with
      impl := T.impl.accept (turnCall (n + 1)), submitted := T.submitted ++ [turnCall (n + 1)] })
    hw rfl rfl h.request
  rw [hrun]
  have hgeneration : T.impl.updateGeneration + 1 = BitVec.ofNat 64 (n + 1) := by
    rw [h.generation, ofNat_succ]
  refine ⟨hs.trans h.status, hworker, hg.trans hgeneration, hc.trans hgeneration, hr, fun _ => hu,
    ?_, ?_⟩
  · rw [← h.calls]
    unfold ChannelTrace.calls
    rw [List.map_append, List.map_singleton, hx]
  · rw [List.length_append, h.length, List.length_singleton]

/-- `n` updates, one after the other. -/
def turns (n : Nat) : List ChannelEvent :=
  (List.range n).flatMap fun i => [turnEvent (i + 1), .work, .work, .work]

theorem turn_run (w : JournalStorage) (n : Nat) :
    Turn n (Run.run (channelStep pf cat t) (.start (some w)) ([.work, .work] ++ turns n)) := by
  induction n with
  | zero => exact ⟨rfl, ⟨w, rfl⟩, rfl, rfl, rfl, fun h => absurd rfl h, rfl, rfl⟩
  | succ n ih =>
    rw [turns, List.range_succ, List.flatMap_append, ← turns, ← List.append_assoc, Run.run_append]
    exact ih.next

/-- Where the counter wraps, an update is replaced in the slot before it is run. -/
theorem Turn.wraps (h : Turn (2 ^ 64 - 1) T) :
    let T' := Run.run (channelStep pf cat t) T
      [turnEvent (2 ^ 64), turnEvent (2 ^ 64 + 1), .work, .work, .work]
    ¬ T'.calls <+: T'.submitted := by
  intro T'
  obtain ⟨state, hw⟩ := h.worker
  have hzero : T.impl.updateGeneration + 1 = 0 := by
    rw [h.generation]
    rfl
  have hnew : T.impl.update ≠ some (turnCall (2 ^ 64)) := by
    rw [h.update (by decide)]
    exact fun heq => turnCall_succ (2 ^ 64 - 1) (Option.some.inj heq).symm
  obtain ⟨impl, x, hrun, hx, -⟩ := run_work pf cat t
    (T := { T with
      impl := (T.impl.accept (turnCall (2 ^ 64))).accept (turnCall (2 ^ 64 + 1))
      submitted := T.submitted ++ [turnCall (2 ^ 64)] ++ [turnCall (2 ^ 64 + 1)] })
    hw rfl rfl h.request
  have hT' : T' = { T with
      impl := impl
      submitted := T.submitted ++ [turnCall (2 ^ 64)] ++ [turnCall (2 ^ 64 + 1)]
      executed := T.executed ++ [x] } := by
    rw [← hrun]
    have hfirst := channelStep_turnEvent pf cat t (2 ^ 64) h.status
      (.inr (h.completed.trans h.generation.symm)) (.inr hnew)
    change Run.run (channelStep pf cat t) (channelStep pf cat t (channelStep pf cat t T _) _) _ = _
    rw [hfirst, channelStep_turnEvent pf cat t (2 ^ 64 + 1)]
    · exact h.status
    · exact .inl hzero
    · exact .inl hzero
  have hcalls : T'.calls = T.submitted ++ [turnCall (2 ^ 64 + 1)] := by
    rw [hT', ← h.calls]
    unfold ChannelTrace.calls
    rw [List.map_append, List.map_singleton, hx]
  rw [hcalls, hT', List.append_assoc]
  intro hpre
  have hhead := List.prefix_append_right_inj _ |>.mp hpre
  obtain ⟨heq, -⟩ := List.cons_prefix_cons.mp hhead
  exact turnCall_succ _ heq

end Past

/-- A channel to a fresh journal. -/
def pocketChannel (es : List ChannelEvent) : ChannelTrace :=
  Run.run (channelStep pocketPlatform pocketCatalog emptyTable) (.start (some pocketStorage)) es

/-- **A refusal that no run stands behind, and an update that is never run**: a receive past the item
limit is refused at the door, and after 2^64 updates the slot takes a second one before the first is
run. -/
theorem refused_unrun_and_wrapped_update_lost :
    (∃ es, ((pocketChannel es).impl.tryReceive {} (itemLimit + 1) []).2 = .rejected
      ∧ (pocketChannel es).executed.length = 0)
    ∧ ∃ es, ¬ (pocketChannel es).calls <+: (pocketChannel es).submitted := by
  refine ⟨⟨[.work, .work], rfl, rfl⟩, ⟨[.work, .work] ++ turns (2 ^ 64 - 1)
    ++ [turnEvent (2 ^ 64), turnEvent (2 ^ 64 + 1), .work, .work, .work], ?_⟩⟩
  rw [pocketChannel, Run.run_append]
  exact (turn_run pocketStorage (2 ^ 64 - 1)).wraps

/-- An update is acknowledged. -/
def servedRun : List ChannelEvent :=
  [.work, .work, .record {} 0, .work, .work, .work, .record {} 0]

theorem channel_serves_pocket :
    UpdatesServed pocketPlatform pocketCatalog emptyTable (some pocketStorage)
      (pocketChannel (servedRun ++ [.snapshot {}]))
    ∧ ReadsFresh pocketPlatform pocketCatalog emptyTable (some pocketStorage)
      (pocketChannel servedRun) (pocketChannel (servedRun ++ [.snapshot {}])) :=
  channel_serves pocketPlatform pocketCatalog emptyTable (some pocketStorage) servedRun
    [.snapshot {}] ⟨by decide +kernel, by decide⟩

end Dk64Port.Archipelago
