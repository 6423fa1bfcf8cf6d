import Mathlib.Data.List.Basic
import Mathlib.Data.List.Induction
import Mathlib.Tactic.Common

/-!
# Runs of a step function

A machine is a step function `step : σ → ε → σ` over events. `run` folds it over a list of events
and `Along` says that a condition on the state before each step and its event holds throughout.

* `invariant`: what the start satisfies and every admitted step preserves holds after the run.
* `history_invariant`: the same for an invariant that also speaks about the events so far.
* `run_mono`: a relation that every admitted step respects relates the ends of a run.
* `exists_breaking`: a property that held and no longer holds was broken by one event.
-/

namespace Run

variable {σ ε : Type*} (step : σ → ε → σ)

/-- The state after the events `es`. -/
def run (s : σ) (es : List ε) : σ := es.foldl step s

/-- `C` holds of the state before each event of the run, and of the event. -/
def Along (C : σ → ε → Prop) : σ → List ε → Prop
  | _, [] => True
  | s, e :: es => C s e ∧ Along C (step s e) es

variable {step}

@[simp] theorem run_nil (s : σ) : run step s [] = s := rfl

@[simp] theorem run_cons (s : σ) (e : ε) (es : List ε) :
    run step s (e :: es) = run step (step s e) es := rfl

theorem run_append (s : σ) (es fs : List ε) :
    run step s (es ++ fs) = run step (run step s es) fs :=
  List.foldl_append

theorem run_snoc (s : σ) (es : List ε) (e : ε) :
    run step s (es ++ [e]) = step (run step s es) e := by
  rw [run_append, run_cons, run_nil]

variable {C D : σ → ε → Prop} {I : σ → Prop}

/-- A decidable condition can be tested along a concrete run. -/
instance decidableAlong [∀ s e, Decidable (C s e)] :
    ∀ (s : σ) (es : List ε), Decidable (Along step C s es)
  | _, [] => isTrue trivial
  | s, e :: es =>
    have := decidableAlong (step s e) es
    inferInstanceAs (Decidable (C s e ∧ Along step C (step s e) es))

theorem along_append {es fs : List ε} :
    ∀ {s : σ}, Along step C s (es ++ fs) ↔
      Along step C s es ∧ Along step C (run step s es) fs := by
  induction es with
  | nil => intro s; simp [Along]
  | cons e es ih =>
    intro s
    simp only [List.cons_append, Along, run_cons, ih, and_assoc]

theorem along_mono (h : ∀ s e, C s e → D s e) :
    ∀ {s : σ} {es : List ε}, Along step C s es → Along step D s es
  | _, [], _ => trivial
  | _, _ :: _, hc => ⟨h _ _ hc.1, along_mono h hc.2⟩

/-- A condition holds along a run when it holds at the end of every shorter one. -/
theorem along_iff_prefix {es : List ε} :
    ∀ {s : σ}, Along step C s es ↔ ∀ pre e, pre ++ [e] <+: es → C (run step s pre) e := by
  induction es with
  | nil =>
    intro s
    refine ⟨fun _ pre e h => ?_, fun _ => trivial⟩
    have hnil := List.prefix_nil.mp h
    simp at hnil
  | cons e es ih =>
    intro s
    constructor
    · rintro ⟨he, hes⟩ pre e' h
      cases pre with
      | nil =>
        obtain ⟨rfl, -⟩ := List.cons_prefix_cons.mp h
        exact he
      | cons e₀ pre =>
        obtain ⟨rfl, h'⟩ := List.cons_prefix_cons.mp h
        exact ih.mp hes pre e' h'
    · intro h
      exact ⟨h [] e ⟨es, rfl⟩, ih.mpr fun pre e' hp => h (e :: pre) e' (List.cons_prefix_cons.mpr ⟨rfl, hp⟩)⟩

/-- A condition on the events alone. -/
theorem along_of_forall {ok : ε → Prop} :
    ∀ {s : σ} {es : List ε}, (∀ e ∈ es, ok e) → Along step (fun _ e => ok e) s es
  | _, [], _ => trivial
  | _, e :: _, h =>
    ⟨h e List.mem_cons_self, along_of_forall fun e' he' => h e' (List.mem_cons_of_mem e he')⟩

/-- **The invariant rule.** -/
theorem invariant (hstep : ∀ s e, C s e → I s → I (step s e)) :
    ∀ {s : σ} {es : List ε}, I s → Along step C s es → I (run step s es)
  | _, [], h, _ => h
  | _, _ :: _, h, hc => by
    rw [run_cons]
    exact invariant hstep (hstep _ _ hc.1 h) hc.2

/-- **The invariant rule with a history**: the invariant also speaks about the events so far. -/
theorem history_invariant {I : List ε → σ → Prop} {s : σ} (h0 : I [] s)
    (hstep : ∀ es t e, I es t → C t e → I (es ++ [e]) (step t e)) {es : List ε}
    (hC : Along step C s es) : I es (run step s es) := by
  induction es using List.reverseRecOn with
  | nil => exact h0
  | append_singleton es e ih =>
    obtain ⟨hes, he⟩ := along_append.mp hC
    rw [run_snoc]
    exact hstep es _ e (ih hes) he.1

/-- An invariant may be used while a second condition is carried along the run. -/
theorem along_of_invariant (hstep : ∀ s e, C s e → I s → I (step s e))
    (h : ∀ s e, C s e → I s → D s e) :
    ∀ {s : σ} {es : List ε}, I s → Along step C s es → Along step D s es
  | _, [], _, _ => trivial
  | _, _ :: _, hi, hc => ⟨h _ _ hc.1 hi, along_of_invariant hstep h (hstep _ _ hc.1 hi) hc.2⟩

/-- An invariant that every step keeps. -/
theorem run_invariant_of_steps (hstep : ∀ s e, I s → I (step s e)) {s : σ} (h : I s)
    (es : List ε) : I (run step s es) :=
  invariant (fun s e _ h => hstep s e h) h (along_of_forall (fun _ _ => trivial))

/-- A reflexive and transitive relation kept by every admitted step relates the ends of a run. -/
theorem run_mono {R : σ → σ → Prop} (hrefl : ∀ s, R s s) (htrans : ∀ a b c, R a b → R b c → R a c)
    (hstep : ∀ s e, C s e → R s (step s e)) :
    ∀ {s : σ} {es : List ε}, Along step C s es → R s (run step s es)
  | s, [], _ => hrefl s
  | _, _ :: _, hc => by
    rw [run_cons]
    exact htrans _ _ _ (hstep _ _ hc.1) (run_mono hrefl htrans hstep hc.2)

/-- The same for a relation that every step respects. -/
theorem run_of_steps {R : σ → σ → Prop} (hrefl : ∀ s, R s s)
    (htrans : ∀ a b c, R a b → R b c → R a c) (hstep : ∀ s e, R s (step s e)) (s : σ)
    (es : List ε) : R s (run step s es) :=
  run_mono hrefl htrans (fun s e _ => hstep s e)
    (along_of_forall fun _ _ => trivial)

/-- A property that held before the run and not after it was broken by one of its events. -/
theorem exists_breaking (step : σ → ε → σ) (P : σ → Prop) :
    ∀ (s : σ) (es : List ε), P s → ¬ P (run step s es) →
      ∃ pre e post, es = pre ++ e :: post ∧ P (run step s pre) ∧
        ¬ P (step (run step s pre) e)
  | _, [], h, hn => absurd h hn
  | s, e :: es, h, hn => by
    by_cases he : P (step s e)
    · obtain ⟨pre, e', post, rfl, h1, h2⟩ := exists_breaking step P (step s e) es he hn
      exact ⟨e :: pre, e', post, rfl, h1, h2⟩
    · exact ⟨[], e, es, rfl, h, he⟩

end Run
