import Mathlib.Data.List.Basic
import Mathlib.Tactic.Common

/-!
# Folds that can fail

A loop over a list that stops at the first failure. The invariant speaks of the part that was walked
and of the value built from it.

* `foldlM_invariant`: what the start satisfies and each turn keeps holds when the loop gets through.
* `foldlM_defined`: the loop gets through when no turn fails under the invariant.
-/

namespace PartialFold

variable {α β : Type*} {f : β → α → Option β} {I : List α → β → Prop} {l : List α} {b b' : β}

theorem invariant_from (hstep : ∀ seen a b b', a ∈ l → I seen b → f b a = some b' → I (seen ++ [a]) b')
    {seen rest : List α} (hrest : ∀ a ∈ rest, a ∈ l) {b : β} (hb : I seen b)
    (h : rest.foldlM f b = some b') : I (seen ++ rest) b' := by
  induction rest generalizing seen b with
  | nil =>
    obtain rfl := Option.some.inj h
    rwa [List.append_nil]
  | cons a rest ih =>
    rw [List.foldlM_cons, Option.bind_eq_bind, Option.bind_eq_some_iff] at h
    obtain ⟨b₁, hb₁, h⟩ := h
    have hnext := hstep seen a b b₁ (hrest a List.mem_cons_self) hb hb₁
    have hlast := ih (fun a' ha' => hrest a' (List.mem_cons_of_mem _ ha')) hnext h
    rwa [List.append_assoc, List.singleton_append] at hlast

/-- **The rule of a loop that gets through.** -/
theorem foldlM_invariant
    (hstep : ∀ seen a b b', a ∈ l → I seen b → f b a = some b' → I (seen ++ [a]) b')
    (hb : I [] b) (h : l.foldlM f b = some b') : I l b' :=
  invariant_from hstep (fun _ ha => ha) hb h

/-- **The rule of a loop that cannot fail.** -/
theorem foldlM_defined
    (hstep : ∀ seen a b, a ∈ l → I seen b → ∃ b', f b a = some b' ∧ I (seen ++ [a]) b')
    (hb : I [] b) : ∃ b', l.foldlM f b = some b' ∧ I l b' := by
  have hall : ∀ (rest seen : List α) (b : β), (∀ a ∈ rest, a ∈ l) → I seen b →
      ∃ b', rest.foldlM f b = some b' := by
    intro rest
    induction rest with
    | nil => exact fun seen b _ _ => ⟨b, rfl⟩
    | cons a rest ih =>
      intro seen b hrest hb
      obtain ⟨b₁, hb₁, hnext⟩ := hstep seen a b (hrest a List.mem_cons_self) hb
      obtain ⟨b', hb'⟩ := ih _ b₁ (fun a' ha' => hrest a' (List.mem_cons_of_mem _ ha')) hnext
      exact ⟨b', by rw [List.foldlM_cons, hb₁]; exact hb'⟩
  obtain ⟨b', hb'⟩ := hall l [] b (fun _ ha => ha) hb
  refine ⟨b', hb', foldlM_invariant (fun seen a b b' ha hI hf => ?_) hb hb'⟩
  obtain ⟨b₁, hb₁, hnext⟩ := hstep seen a b ha hI
  rw [hb₁] at hf
  exact Option.some.inj hf ▸ hnext

end PartialFold
