import Dk64Port.Lib.Run

/-!
# Countdowns

A countdown of length `N` is driven by beats: a start sets it to `N`, a tick takes one off until it is
over, a stop ends it, and a rest leaves it alone.

* `left`: what is left after a list of beats, and `lt_left_iff`: more than `k` is left exactly where a
  start has not been stopped since, nor ticked off down to `k`.
* `left_run`, `lt_timer_iff`: the same for a timer in the state of a machine whose steps are beats.
-/

namespace Countdown

/-- What one step is to a countdown. -/
inductive Beat where
  | start
  | tick
  | stop
  | rest
deriving DecidableEq

/-- What is left after one more beat. -/
def next (N left : Nat) : Beat → Nat
  | .start => N
  | .tick => left - 1
  | .stop => 0
  | .rest => left

/-- What is left of a countdown of length `N`. -/
def left (N : Nat) (bs : List Beat) : Nat := bs.foldl (next N) 0

variable {N k : Nat} {bs : List Beat} {b : Beat}

@[simp] theorem left_nil : left N [] = 0 := rfl

@[simp] theorem left_snoc : left N (bs ++ [b]) = next N (left N bs) b := by
  simp [left]

/-- Some start has not been stopped, and was ticked off less than `N - k` times. -/
def Running (N k : Nat) (bs : List Beat) : Prop :=
  ∃ pre post, bs = pre ++ Beat.start :: post ∧ Beat.stop ∉ post ∧ post.count Beat.tick + k < N

theorem not_running_nil : ¬ Running N k [] := by
  rintro ⟨pre, post, heq, -⟩
  simp at heq

theorem Running.snoc {j : Nat} (h : Running N j bs) (hb : b ≠ .stop)
    (hk : [b].count Beat.tick + k ≤ j) : Running N k (bs ++ [b]) := by
  obtain ⟨pre, post, rfl, hstop, hlt⟩ := h
  refine ⟨pre, post ++ [b], by simp, ?_, ?_⟩
  · simp [hstop, hb.symm]
  · rw [List.count_append]
    omega

/-- What one more beat does to a start that is running. -/
theorem running_snoc : Running N k (bs ++ [b]) ↔
    (b = .start ∧ k < N) ∨ (b ≠ .stop ∧ Running N ([b].count Beat.tick + k) bs) := by
  constructor
  · rintro ⟨pre, post, heq, hstop, hlt⟩
    rcases List.eq_nil_or_concat post with rfl | ⟨post, b', rfl⟩
    · obtain ⟨-, hb⟩ := List.append_inj' heq rfl
      obtain rfl : b = .start := by simpa using hb
      exact .inl ⟨rfl, by simpa using hlt⟩
    · rw [List.concat_eq_append, ← List.cons_append, ← List.append_assoc] at heq
      obtain ⟨hbs, hb⟩ := List.append_inj' heq rfl
      obtain rfl : b = b' := by simpa using hb
      rw [List.concat_eq_append] at hstop hlt
      rw [List.count_append] at hlt
      refine .inr ⟨fun h => hstop (by simp [h]), pre, post, hbs, fun h => hstop (by simp [h]), ?_⟩
      omega
  · rintro (⟨rfl, hk⟩ | ⟨hb, h⟩)
    · exact ⟨bs, [], rfl, List.not_mem_nil, by simpa using hk⟩
    · exact h.snoc hb (Nat.le_refl _)

/-- **More than `k` is left exactly where a start is still running down to `k`.** -/
theorem lt_left_iff : ∀ {k : Nat}, k < left N bs ↔ Running N k bs := by
  induction bs using List.reverseRecOn with
  | nil =>
    intro k
    exact iff_of_false (Nat.not_lt_zero k) not_running_nil
  | append_singleton bs b ih =>
    intro k
    rw [running_snoc, left_snoc]
    cases b with
    | start =>
      refine ⟨fun h => .inl ⟨rfl, h⟩, ?_⟩
      rintro (⟨-, h⟩ | ⟨-, pre, post, -, -, hlt⟩)
      · exact h
      · simp only [next]
        omega
    | tick =>
      have hiff : k < left N bs - 1 ↔ 1 + k < left N bs := by omega
      simp [next, hiff, ih]
    | stop => simp [next]
    | rest => simp [next, ih]

/-! ## A timer of a machine -/

variable {σ ε : Type*} {step : σ → ε → σ} {kind : σ → ε → Beat}

/-- The beats of a run. -/
def beats (step : σ → ε → σ) (kind : σ → ε → Beat) : σ → List ε → List Beat
  | _, [] => []
  | s, e :: es => kind s e :: beats step kind (step s e) es

theorem beats_append {es fs : List ε} : ∀ {s : σ}, beats step kind s (es ++ fs)
    = beats step kind s es ++ beats step kind (Run.run step s es) fs := by
  induction es with
  | nil => intro s; rfl
  | cons e es ih =>
    intro s
    rw [List.cons_append, beats, beats, ih, List.cons_append, Run.run_cons]

/-- Where the beats of a run can be split, the run can. -/
theorem exists_of_beats {pre post : List Beat} : ∀ {s : σ} {es : List ε},
    beats step kind s es = pre ++ b :: post →
    ∃ es₁ e es₂, es = es₁ ++ e :: es₂ ∧ kind (Run.run step s es₁) e = b
      ∧ beats step kind (Run.run step s (es₁ ++ [e])) es₂ = post := by
  induction pre with
  | nil =>
    rintro s (_ | ⟨e, es⟩) h
    · simp [beats] at h
    · rw [List.nil_append, beats, List.cons.injEq] at h
      exact ⟨[], e, es, rfl, h.1, h.2⟩
  | cons b' pre ih =>
    rintro s (_ | ⟨e, es⟩) h
    · simp [beats] at h
    · rw [List.cons_append, beats, List.cons.injEq] at h
      obtain ⟨es₁, e', es₂, rfl, hkind, hpost⟩ := ih h.2
      exact ⟨e :: es₁, e', es₂, rfl, hkind, hpost⟩

/-- A timer whose steps are beats holds what is left of them. -/
theorem left_run (timer : σ → Nat)
    (hstep : ∀ s e, timer (step s e) = next N (timer s) (kind s e)) {s : σ}
    (h0 : timer s = 0) (es : List ε) :
    timer (Run.run step s es) = left N (beats step kind s es) := by
  induction es using List.reverseRecOn with
  | nil => exact h0
  | append_singleton es e ih =>
    rw [Run.run_snoc, hstep, ih, beats_append, beats, beats, left_snoc]

/-- **More than `k` is left of a timer exactly where some step of the run started it, none since
stopped it, and it was ticked off less than `N - k` times since.** -/
theorem lt_timer_iff (timer : σ → Nat)
    (hstep : ∀ s e, timer (step s e) = next N (timer s) (kind s e)) {s : σ}
    (h0 : timer s = 0) (es : List ε) :
    k < timer (Run.run step s es) ↔ ∃ es₁ e es₂, es = es₁ ++ e :: es₂
      ∧ kind (Run.run step s es₁) e = .start
      ∧ Beat.stop ∉ beats step kind (Run.run step s (es₁ ++ [e])) es₂
      ∧ (beats step kind (Run.run step s (es₁ ++ [e])) es₂).count .tick + k < N := by
  rw [left_run timer hstep h0, lt_left_iff]
  constructor
  · rintro ⟨pre, post, hbeats, hstop, hlt⟩
    obtain ⟨es₁, e, es₂, hes, hkind, rfl⟩ := exists_of_beats hbeats
    exact ⟨es₁, e, es₂, hes, hkind, hstop, hlt⟩
  · rintro ⟨es₁, e, es₂, rfl, hkind, hstop, hlt⟩
    refine ⟨beats step kind s es₁, _, ?_, hstop, hlt⟩
    rw [beats_append, beats, hkind, Run.run_snoc]

end Countdown
