import Mathlib.Tactic.Common

/-!
# Fresh tokens

A counter hands out tokens to holders. Nothing is above the counter and no two holders share a
token, as long as a token is the next number of the counter and no holder takes over another's.

* `Ok.drop`: holders may give their tokens up.
* `Ok.draw`: **a fresh token is nobody else's.**
-/

namespace FreshTokens

variable {κ : Type} {drawn : Nat} {held held' : κ → Nat}

/-- What holders have after `drawn` tokens were handed out; zero is no token. -/
structure Ok (drawn : Nat) (held : κ → Nat) : Prop where
  le_drawn : ∀ k, held k ≤ drawn
  distinct : ∀ k l, k ≠ l → held k ≠ 0 → held k ≠ held l

/-- At the start nobody holds a token. -/
theorem Ok.start : Ok 0 fun _ : κ => 0 :=
  ⟨fun _ => Nat.le_refl 0, fun _ _ _ h => absurd rfl h⟩

/-- Every holder keeps its token or gives it up. -/
theorem Ok.drop (h : Ok drawn held) (hk : ∀ k, held' k = held k ∨ held' k = 0) :
    Ok drawn held' := by
  constructor
  · intro k
    rcases hk k with e | e
    · exact e ▸ h.le_drawn k
    · exact e ▸ Nat.zero_le _
  · intro k l hkl h0
    rcases hk k with e | e
    · rcases hk l with e' | e'
      · rw [e, e']
        exact h.distinct k l hkl (e ▸ h0)
      · rwa [e']
    · exact absurd e h0

/-- **A fresh token is nobody else's.** -/
theorem Ok.draw (h : Ok drawn held) (who : κ) (hnew : held' who = drawn + 1)
    (hold : ∀ k, k ≠ who → held' k = held k) : Ok (drawn + 1) held' := by
  have hle : ∀ k, k ≠ who → held' k ≤ drawn := fun k hk => hold k hk ▸ h.le_drawn k
  constructor
  · intro k
    by_cases hk : k = who
    · exact Nat.le_of_eq (hk ▸ hnew)
    · exact Nat.le_succ_of_le (hle k hk)
  · intro k l hkl h0
    by_cases hk : k = who
    · have := hle l fun hl => hkl (hk.trans hl.symm)
      rw [hk, hnew]
      omega
    · by_cases hl : l = who
      · have := hle k hk
        rw [hl, hnew]
        omega
      · rw [hold k hk] at h0
        rw [hold k hk, hold l hl]
        exact h.distinct k l hkl h0

end FreshTokens
