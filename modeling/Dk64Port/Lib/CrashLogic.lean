import Mathlib.Data.List.Basic
import Mathlib.Tactic.Common

/-!
# Programs that can be killed between two steps

A program goes from state to state, one atomic step at a time, and ends with a value or an error. A
kill leaves the state after some of the steps. Since what runs next starts from there, a specification
says, besides what holds at the end, what holds after every step.

* `Outcome`, `Prog`: the states after each step, the last one, and the result; a monad.
* `Prog.killed`: the state that a kill after `n` steps leaves.
* `Spec`: a precondition, a condition for every crash, and one for each kind of end.
* `Spec.pure`, `step`, `get`, `fail`, `failIf`, `bind`, `tryCatch`, `forEach`, `collect`: **the rules.**
* `Spec.killed`: a kill leaves the precondition or the crash condition.
-/

namespace CrashLogic

/-- A run: the state after each step, the last state and the result. -/
structure Outcome (σ ε α : Type) where
  states : List σ
  final : σ
  result : Except ε α

/-- A program. -/
def Prog (σ ε α : Type) := σ → Outcome σ ε α

variable {σ ε α β : Type}

namespace Prog

instance : Monad (Prog σ ε) where
  pure a := fun s => ⟨[], s, .ok a⟩
  bind p f := fun s =>
    match (p s).result with
    | .ok a =>
      ⟨(p s).states ++ (f a (p s).final).states, (f a (p s).final).final, (f a (p s).final).result⟩
    | .error e => ⟨(p s).states, (p s).final, .error e⟩

theorem bind_apply (p : Prog σ ε α) (f : α → Prog σ ε β) (s : σ) : (p >>= f) s =
    match (p s).result with
    | .ok a =>
      ⟨(p s).states ++ (f a (p s).final).states, (f a (p s).final).final, (f a (p s).final).result⟩
    | .error e => ⟨(p s).states, (p s).final, .error e⟩ := rfl

/-- One atomic step. -/
def step (f : σ → σ) : Prog σ ε Unit := fun s => ⟨[f s], f s, .ok ()⟩

/-- The state is read. -/
def get : Prog σ ε σ := fun s => ⟨[], s, .ok s⟩

/-- An error is thrown. -/
def fail (e : ε) : Prog σ ε α := fun s => ⟨[], s, .error e⟩

/-- An error is thrown where a condition holds. -/
def failIf (b : Bool) (e : ε) : Prog σ ε Unit := if b then fail e else pure ()

theorem pure_bind_apply (a : α) (f : α → Prog σ ε β) (s : σ) :
    ((pure a : Prog σ ε α) >>= f) s = f a s := rfl

theorem get_bind_apply (f : σ → Prog σ ε β) (s : σ) : ((get : Prog σ ε σ) >>= f) s = f s s := rfl

theorem failIf_false (e : ε) : (failIf false e : Prog σ ε Unit) = pure () := rfl

/-- An error is caught. -/
def tryCatch (p : Prog σ ε α) (handler : ε → Prog σ ε α) : Prog σ ε α := fun s =>
  match (p s).result with
  | .ok a => ⟨(p s).states, (p s).final, .ok a⟩
  | .error e =>
    ⟨(p s).states ++ (handler e (p s).final).states, (handler e (p s).final).final,
      (handler e (p s).final).result⟩

/-- The elements of a list in turn. -/
def forEach : List β → (β → Prog σ ε Unit) → Prog σ ε Unit
  | [], _ => pure ()
  | b :: bs, f => do
    f b
    forEach bs f

/-- The elements of a list in turn, and what each of them gives. -/
def collect : List β → (β → Prog σ ε α) → Prog σ ε (List α)
  | [], _ => pure []
  | b :: bs, f => do
    let a ← f b
    let rest ← collect bs f
    pure (a :: rest)

/-- Conditions that are tested one after the other are one condition. -/
theorem forEach_failIf (l : List β) (c : β → Bool) (e : ε) :
    (forEach l fun b => failIf (c b) e : Prog σ ε Unit) = failIf (l.any c) e := by
  induction l with
  | nil => rfl
  | cons b l ih =>
    unfold forEach
    rw [ih, List.any_cons]
    change (failIf (c b) e >>= fun _ => failIf (l.any c) e) = _
    cases c b with
    | true => rfl
    | false => rfl

/-- What a kill after `n` steps leaves; a program that has fewer of them is over. -/
def killed (p : Prog σ ε α) (n : Nat) (s : σ) : σ := ((s :: (p s).states)[n]?).getD (p s).final

end Prog

open Prog

/-- From every state of `P`, every step of the program leaves a state of `C`, and it ends with `Q` or
with an error and `E`. -/
def Spec (P C : σ → Prop) (p : Prog σ ε α) (Q : α → σ → Prop) (E : ε → σ → Prop) : Prop :=
  ∀ s, P s → (∀ t ∈ (p s).states, C t) ∧
    match (p s).result with
    | .ok a => Q a (p s).final
    | .error e => E e (p s).final

namespace Spec

variable {P P' C C' : σ → Prop} {p : Prog σ ε α} {Q Q' : α → σ → Prop} {E E' : ε → σ → Prop}

theorem weaken (h : Spec P C p Q E) (hP : ∀ s, P' s → P s) (hC : ∀ s, C s → C' s)
    (hQ : ∀ a s, Q a s → Q' a s) (hE : ∀ e s, E e s → E' e s) : Spec P' C' p Q' E' := by
  intro s hs
  obtain ⟨hstates, hend⟩ := h s (hP s hs)
  refine ⟨fun t ht => hC t (hstates t ht), ?_⟩
  cases hresult : (p s).result with
  | ok a =>
    rw [hresult] at hend
    exact hQ a _ hend
  | error e =>
    rw [hresult] at hend
    exact hE e _ hend

protected theorem pure {a : α} (h : ∀ s, P s → Q a s) : Spec P C (pure a : Prog σ ε α) Q E :=
  fun s hs => ⟨fun _ ht => absurd ht List.not_mem_nil, h s hs⟩

protected theorem step {f : σ → σ} {Q : Unit → σ → Prop} (hC : ∀ s, P s → C (f s))
    (hQ : ∀ s, P s → Q () (f s)) : Spec P C (step f : Prog σ ε Unit) Q E :=
  fun s hs => ⟨fun _ ht => List.mem_singleton.mp ht ▸ hC s hs, hQ s hs⟩

protected theorem fail {e : ε} (h : ∀ s, P s → E e s) : Spec P C (fail e : Prog σ ε α) Q E :=
  fun s hs => ⟨fun _ ht => absurd ht List.not_mem_nil, h s hs⟩

protected theorem failIf {b : Bool} {e : ε} {E : ε → σ → Prop} (h : ∀ s, P s → b = true → E e s) :
    Spec P C (failIf b e : Prog σ ε Unit) (fun _ s => P s ∧ b = false) E := by
  unfold Prog.failIf
  cases b with
  | true => exact Spec.fail fun s hs => h s hs rfl
  | false => exact Spec.pure fun s hs => ⟨hs, rfl⟩

/-- A part of the precondition that says nothing about the state. -/
theorem fact {φ : Prop} (h : φ → Spec P C p Q E) : Spec (fun s => φ ∧ P s) C p Q E :=
  fun s hs => h hs.1 s hs.2

theorem exists_intro {ι : Type} {P : ι → σ → Prop} (h : ∀ i, Spec (P i) C p Q E) :
    Spec (fun s => ∃ i, P i s) C p Q E :=
  fun s ⟨i, hs⟩ => h i s hs

/-- What is read of the state, the continuation may depend on. -/
protected theorem get {f : σ → Prog σ ε α} (h : ∀ s, P s → Spec (· = s) C (f s) Q E) :
    Spec P C (Prog.get >>= f) Q E := by
  intro s hs
  exact h s hs s rfl

protected theorem bind {f : α → Prog σ ε β} {R : β → σ → Prop} (hp : Spec P C p Q E)
    (hf : ∀ a, Spec (Q a) C (f a) R E) : Spec P C (p >>= f) R E := by
  intro s hs
  obtain ⟨hstates, hend⟩ := hp s hs
  rw [bind_apply]
  cases hresult : (p s).result with
  | ok a =>
    rw [hresult] at hend
    obtain ⟨hstates', hend'⟩ := hf a _ hend
    exact ⟨fun t ht => (List.mem_append.mp ht).elim (hstates t) (hstates' t), hend'⟩
  | error e =>
    rw [hresult] at hend
    exact ⟨hstates, hend⟩

protected theorem tryCatch {handler : ε → Prog σ ε α} (hp : Spec P C p Q E)
    (hh : ∀ e, Spec (E e) C (handler e) Q E') : Spec P C (Prog.tryCatch p handler) Q E' := by
  intro s hs
  obtain ⟨hstates, hend⟩ := hp s hs
  unfold Prog.tryCatch
  cases hresult : (p s).result with
  | ok a =>
    rw [hresult] at hend
    exact ⟨hstates, hend⟩
  | error e =>
    rw [hresult] at hend
    obtain ⟨hstates', hend'⟩ := hh e _ hend
    exact ⟨fun t ht => (List.mem_append.mp ht).elim (hstates t) (hstates' t), hend'⟩

/-- A loop, with an invariant over the elements that were done. -/
protected theorem forEach {l : List β} {f : β → Prog σ ε Unit} (I : List β → σ → Prop)
    (hf : ∀ seen b rest, l = seen ++ b :: rest →
      Spec (I seen) C (f b) (fun _ => I (seen ++ [b])) E) :
    Spec (I []) C (forEach l f) (fun _ => I l) E := by
  have hall : ∀ rest seen, l = seen ++ rest → Spec (I seen) C (forEach rest f) (fun _ => I l) E := by
    intro rest
    induction rest with
    | nil =>
      intro seen hl
      rw [List.append_nil] at hl
      exact Spec.pure fun s hs => hl ▸ hs
    | cons b rest ih =>
      intro seen hl
      exact (hf seen b rest hl).bind fun _ => ih (seen ++ [b]) (by rw [hl, List.append_assoc]; rfl)
  exact hall l [] rfl

/-- A loop that collects, with an invariant over the elements that were done and what they gave. -/
protected theorem collect {l : List β} {f : β → Prog σ ε α} (I : List β → List α → σ → Prop)
    (hf : ∀ seen b rest given, l = seen ++ b :: rest →
      Spec (I seen given) C (f b) (fun a => I (seen ++ [b]) (given ++ [a])) E) :
    Spec (I [] []) C (collect l f) (I l) E := by
  have hall : ∀ rest seen given, l = seen ++ rest →
      Spec (I seen given) C (collect rest f) (fun given' => I l (given ++ given')) E := by
    intro rest
    induction rest with
    | nil =>
      intro seen given hl
      rw [List.append_nil] at hl
      refine Spec.pure fun s hs => ?_
      rw [List.append_nil]
      exact hl ▸ hs
    | cons b rest ih =>
      intro seen given hl
      refine (hf seen b rest given hl).bind fun a => ?_
      refine (ih (seen ++ [b]) (given ++ [a]) (by rw [hl, List.append_assoc]; rfl)).bind fun given' => ?_
      refine Spec.pure fun s hs => ?_
      rwa [List.append_assoc] at hs
  exact hall l [] [] rfl

/-- **A kill leaves the precondition, the crash condition or the end.** -/
theorem killed (h : Spec P C p Q E) {s : σ} (hs : P s) (n : Nat) :
    p.killed n s = s ∨ C (p.killed n s) ∨ p.killed n s = (p s).final := by
  unfold Prog.killed
  cases hget : (s :: (p s).states)[n]? with
  | none => exact .inr (.inr rfl)
  | some t =>
    rcases List.mem_cons.mp (List.mem_of_getElem? hget) with rfl | ht
    · exact .inl rfl
    · exact .inr (.inl ((h s hs).1 t ht))

end Spec

end CrashLogic
