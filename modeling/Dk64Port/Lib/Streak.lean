import Mathlib.Data.List.Basic
import Mathlib.Tactic.Common

/-!
# Streaks in a history

A history is the list of the events so far. A streak counts the events of one kind since the last
event that breaks it; what a streak once earned may be kept until an event drops it.

* `Streak counts breaks carried n es`: the events after the last break make up at least `n`, with
  `carried` on top where no event of the history broke the streak.
* `Since drops P es`: `P` held at some point of the history and no event dropped it since.
-/

namespace History

variable {ε : Type*} {counts breaks drops : ε → Prop} [DecidablePred counts] {carried m n : Nat}
  {es : List ε} {e : ε} {P : List ε → Prop}

/-- The events after the last one that breaks the streak count to `n` or more. -/
def Streak (counts breaks : ε → Prop) [DecidablePred counts] (carried n : Nat) (es : List ε) : Prop :=
  ∃ pre mid, es = pre ++ mid ∧ (∀ e ∈ mid, ¬ breaks e)
    ∧ n ≤ mid.countP (fun e => decide (counts e)) + if pre = [] then carried else 0

theorem streak_start : Streak counts breaks carried carried ([] : List ε) :=
  ⟨[], [], rfl, fun _ h => absurd h List.not_mem_nil, by simp⟩

theorem streak_zero : Streak counts breaks carried 0 es :=
  ⟨es, [], (List.append_nil es).symm, fun _ h => absurd h List.not_mem_nil, Nat.zero_le _⟩

theorem Streak.mono (h : Streak counts breaks carried n es) (hm : m ≤ n) :
    Streak counts breaks carried m es := by
  obtain ⟨pre, mid, he, hb, hn⟩ := h
  exact ⟨pre, mid, he, hb, Nat.le_trans hm hn⟩

/-- An event that breaks nothing keeps the streak. -/
theorem Streak.quiet (h : Streak counts breaks carried n es) (he : ¬ breaks e) :
    Streak counts breaks carried n (es ++ [e]) := by
  obtain ⟨pre, mid, rfl, hb, hn⟩ := h
  refine ⟨pre, mid ++ [e], List.append_assoc _ _ _, fun e' he' => ?_, ?_⟩
  · rcases List.mem_append.mp he' with h | h
    · exact hb e' h
    · exact List.mem_singleton.mp h ▸ he
  · rw [List.countP_append]
    omega

/-- An event that counts makes the streak longer. -/
theorem Streak.count (h : Streak counts breaks carried n es) (he : ¬ breaks e) (hc : counts e) :
    Streak counts breaks carried (n + 1) (es ++ [e]) := by
  obtain ⟨pre, mid, rfl, hb, hn⟩ := h
  refine ⟨pre, mid ++ [e], List.append_assoc _ _ _, fun e' he' => ?_, ?_⟩
  · rcases List.mem_append.mp he' with h | h
    · exact hb e' h
    · exact List.mem_singleton.mp h ▸ he
  · rw [List.countP_append, List.countP_singleton, if_pos (decide_eq_true hc)]
    omega

/-- `P` held at some point, and no event since drops it. -/
def Since (drops : ε → Prop) (P : List ε → Prop) (es : List ε) : Prop :=
  ∃ pre post, es = pre ++ post ∧ P pre ∧ ∀ e ∈ post, ¬ drops e

theorem since_now (h : P es) : Since drops P es :=
  ⟨es, [], (List.append_nil es).symm, h, fun _ h => absurd h List.not_mem_nil⟩

theorem Since.snoc (h : Since drops P es) (he : ¬ drops e) : Since drops P (es ++ [e]) := by
  obtain ⟨pre, post, rfl, hp, hd⟩ := h
  refine ⟨pre, post ++ [e], List.append_assoc _ _ _, hp, fun e' he' => ?_⟩
  rcases List.mem_append.mp he' with h | h
  · exact hd e' h
  · exact List.mem_singleton.mp h ▸ he

theorem since_nil : Since drops P [] ↔ P [] := by
  constructor
  · rintro ⟨pre, post, heq, hp, -⟩
    rw [(List.append_eq_nil_iff.mp heq.symm).1] at hp
    exact hp
  · exact since_now

/-- What one more event does to what is held. -/
theorem since_snoc : Since drops P (es ++ [e]) ↔ P (es ++ [e]) ∨ (Since drops P es ∧ ¬ drops e) := by
  constructor
  · rintro ⟨pre, post, heq, hp, hd⟩
    obtain rfl | ⟨post, e', rfl⟩ := List.eq_nil_or_concat post
    · rw [List.append_nil] at heq
      exact .inl (heq ▸ hp)
    · rw [List.concat_eq_append, ← List.append_assoc] at heq
      obtain ⟨hes, hlast⟩ := List.append_inj' heq rfl
      obtain rfl : e = e' := by simpa using hlast
      exact .inr ⟨⟨pre, post, hes, hp, fun e'' h => hd e'' (by simp [h])⟩,
        hd e (by simp)⟩
  · rintro (hp | ⟨hs, he⟩)
    · exact since_now hp
    · exact hs.snoc he

/-- The last event of a history dropped nothing that is held. -/
theorem Since.last (h : Since drops P (es ++ [e])) (he : drops e) : P (es ++ [e]) :=
  (since_snoc.mp h).resolve_right fun h' => h'.2 he

theorem Streak.le (h : Streak counts breaks carried n es) :
    n ≤ es.countP (fun e => decide (counts e)) + carried := by
  obtain ⟨pre, mid, rfl, -, hn⟩ := h
  rw [List.countP_append]
  split at hn <;> omega

/-- A streak that ends in an event that breaks it has only the events after it: none. -/
theorem Streak.broken (h : Streak counts breaks carried n (es ++ [e])) (he : breaks e) : n = 0 := by
  obtain ⟨pre, mid, heq, hb, hn⟩ := h
  rcases List.eq_nil_or_concat mid with rfl | ⟨mid, e', rfl⟩
  · have hpre : pre ≠ [] := by
      rintro rfl
      simp at heq
    simpa [hpre] using hn
  · rw [List.concat_eq_append, ← List.append_assoc] at heq
    have hlast := List.append_inj_right' heq rfl
    rw [List.cons.injEq] at hlast
    exact absurd (hlast.1 ▸ he) (hb e' (by simp))

end History
