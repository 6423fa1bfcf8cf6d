import Mathlib.Data.Set.Lattice
import Mathlib.Tactic.Common

/-!
# Sets closed under single-premise implications

A rule `R a b` says that a set holding `a` must hold `b`. A blockwise store needs that, when every rule
stays inside one block of a partition, a set is closed as soon as each of its blocks is cut out of a
closed set.

* `closed_piecewise`: **any mixture of blocks of closed sets is closed.**
-/

namespace ImplicationClosure

variable {α ι : Type*} {R : α → α → Prop} {S T : Set α}

/-- `S` holds the conclusion of every rule whose premise it holds. -/
def Closed (R : α → α → Prop) (S : Set α) : Prop := ∀ ⦃a b⦄, R a b → a ∈ S → b ∈ S

/-- Every rule stays inside one block of the partition. -/
def BlockLocal (R : α → α → Prop) (block : α → ι) : Prop := ∀ ⦃a b⦄, R a b → block a = block b

theorem closed_empty : Closed R (∅ : Set α) := fun _ _ _ h => h

/-- **Any mixture of blocks of closed sets is closed.** -/
theorem closed_piecewise {block : α → ι} (hR : BlockLocal R block) {U : ι → Set α}
    (hU : ∀ i, Closed R (U i)) : Closed R {a | a ∈ U (block a)} := by
  intro a b hr ha
  change b ∈ U (block b)
  rw [← hR hr]
  exact hU _ hr ha

end ImplicationClosure
