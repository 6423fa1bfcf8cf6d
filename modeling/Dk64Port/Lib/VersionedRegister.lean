import Mathlib.Data.Set.Insert
import Mathlib.Tactic.Common

/-!
# A register with a version number

One writer gives every value it stores a version. Copies of what it stored travel and are kept
elsewhere. As long as a version is never used for two values, two holders of one version hold one
value, however old their copies are.

* `Written`: what the writer may do to its register; `Consistent.write`: the copies survive it.
* `Consistent.publish`: a copy of the current value may be sent at any time.
* `Consistent.agree_current`: **a copy with the current version holds the current value.**
-/

namespace VersionedRegister

variable {α : Type*}

/-- The copies are of the register `current` or of what it held before. -/
structure Consistent (current : Nat × α) (copies : Set (Nat × α)) : Prop where
  le : ∀ c ∈ copies, c.1 ≤ current.1
  agree_current : ∀ c ∈ copies, c.1 = current.1 → c.2 = current.2
  agree : ∀ c ∈ copies, ∀ d ∈ copies, c.1 = d.1 → c.2 = d.2

/-- The writer moves at most `k` versions ahead, and gives a new value a new version. -/
structure Written (k : Nat) (r r' : Nat × α) : Prop where
  le : r.1 ≤ r'.1
  bound : r'.1 ≤ r.1 + k
  same : r'.1 = r.1 → r'.2 = r.2

variable {r r' r'' : Nat × α} {copies copies' : Set (Nat × α)} {k m : Nat}

theorem written_self (k : Nat) (r : Nat × α) : Written k r r :=
  ⟨le_rfl, Nat.le_add_right _ _, fun _ => rfl⟩

theorem written_succ (h : r'.1 = r.1 + 1) : Written 1 r r' :=
  ⟨by omega, by omega, fun he => by omega⟩

theorem Written.mono (h : Written k r r') (hkm : k ≤ m) : Written m r r' :=
  ⟨h.le, h.bound.trans (Nat.add_le_add_left hkm _), h.same⟩

theorem Written.trans (h : Written k r r') (h' : Written m r' r'') : Written (k + m) r r'' := by
  have h1 := h.le
  have h2 := h'.le
  have h3 := h.bound
  have h4 := h'.bound
  refine ⟨by omega, by omega, fun he => ?_⟩
  rw [h'.same (by omega), h.same (by omega)]

theorem consistent_singleton (r : Nat × α) : Consistent r {r} where
  le _ hc := by rw [Set.mem_singleton_iff.mp hc]
  agree_current _ hc _ := by rw [Set.mem_singleton_iff.mp hc]
  agree _ hc _ hd _ := by rw [Set.mem_singleton_iff.mp hc, Set.mem_singleton_iff.mp hd]

theorem Consistent.mono (h : Consistent r copies) (hsub : ∀ c ∈ copies', c ∈ copies) :
    Consistent r copies' where
  le c hc := h.le c (hsub c hc)
  agree_current c hc := h.agree_current c (hsub c hc)
  agree c hc d hd := h.agree c (hsub c hc) d (hsub d hd)

/-- The copies stay what they were. -/
theorem Consistent.write (h : Consistent r copies) (hw : Written k r r') :
    Consistent r' copies where
  le c hc := (h.le c hc).trans hw.le
  agree_current c hc hv := by
    have hr : r'.1 = r.1 := le_antisymm (hv ▸ h.le c hc) hw.le
    rw [h.agree_current c hc (hv.trans hr), hw.same hr]
  agree := h.agree

/-- A copy of the current value joins the others. -/
theorem Consistent.publish (h : Consistent r copies) : Consistent r (insert r copies) where
  le c hc := by
    rcases Set.mem_insert_iff.mp hc with rfl | hc
    · exact le_rfl
    · exact h.le c hc
  agree_current c hc hv := by
    rcases Set.mem_insert_iff.mp hc with rfl | hc
    · rfl
    · exact h.agree_current c hc hv
  agree c hc d hd hv := by
    rcases Set.mem_insert_iff.mp hc with hcr | hcs <;> rcases Set.mem_insert_iff.mp hd with hdr | hds
    · rw [hcr, hdr]
    · rw [hcr] at hv ⊢
      exact (h.agree_current d hds hv.symm).symm
    · rw [hdr] at hv ⊢
      exact h.agree_current c hcs hv
    · exact h.agree c hcs d hds hv

end VersionedRegister
