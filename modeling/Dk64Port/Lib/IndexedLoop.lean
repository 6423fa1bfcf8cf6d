import Mathlib.Data.List.FinRange
import Mathlib.Tactic.Common

/-!
# Loops over the slots of an array

The body of the loop at slot `i` changes what the state shows at `i`, as a function of what it
showed there, and nothing else.

* `foldl_slot`: after the loop every slot it visited shows one application of the body.
-/

namespace IndexedLoop

variable {σ ι β : Type*} {body : σ → ι → σ} {view : σ → ι → β} {f : ι → β → β}

theorem foldl_of_not_mem (hother : ∀ s i j, i ≠ j → view (body s j) i = view s i) {i : ι} :
    ∀ {l : List ι} {s : σ}, i ∉ l → view (l.foldl body s) i = view s i
  | [], _, _ => rfl
  | j :: l, s, h => by
    rw [List.mem_cons, not_or] at h
    rw [List.foldl_cons, foldl_of_not_mem hother h.2, hother s i j h.1]

/-- After the loop a slot shows one application of the body. -/
theorem foldl_slot (hself : ∀ s i, view (body s i) i = f i (view s i))
    (hother : ∀ s i j, i ≠ j → view (body s j) i = view s i) {i : ι} :
    ∀ {l : List ι} {s : σ}, l.Nodup → i ∈ l → view (l.foldl body s) i = f i (view s i)
  | j :: l, s, hn, hi => by
    rw [List.nodup_cons] at hn
    rw [List.foldl_cons]
    rcases List.mem_cons.mp hi with rfl | hi
    · rw [foldl_of_not_mem hother hn.1, hself]
    · have hne : i ≠ j := fun e => hn.1 (e ▸ hi)
      rw [foldl_slot hself hother hn.2 hi, hother s i j hne]

/-- The loop over all slots of an array. -/
theorem foldl_finRange {n : Nat} {body : σ → Fin n → σ} (view : σ → Fin n → β)
    {f : Fin n → β → β} (hself : ∀ s i, view (body s i) i = f i (view s i))
    (hother : ∀ s i j, i ≠ j → view (body s j) i = view s i) (s : σ) (i : Fin n) :
    view ((List.finRange n).foldl body s) i = f i (view s i) :=
  foldl_slot hself hother (List.nodup_finRange n) (List.mem_finRange i)

/-- A part of the state that no slot touches. -/
theorem foldl_keeps {γ : Type*} (part : σ → γ) (h : ∀ s i, part (body s i) = part s) :
    ∀ (l : List ι) (s : σ), part (l.foldl body s) = part s
  | [], _ => rfl
  | i :: l, s => by rw [List.foldl_cons, foldl_keeps part h l, h]

end IndexedLoop
