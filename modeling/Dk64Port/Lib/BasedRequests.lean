import Mathlib.Data.Set.Insert
import Mathlib.Tactic.Common

/-!
# Requests with a base

One side keeps a revision number, the other asks it for changes. A request has a number and names the
revision it is based on; it is carried out only when that is the current revision, which then moves to
the next one. Copies of the requests travel, and the side that asks hears of the revision late.

* `Paced`: what holds as long as a new request waits for the revision that the last one produced, or
  takes the place of one that was never sent.
* `Paced.request`, `Paced.log`, `Paced.see`, `Paced.carryOut`: its operations.
* `Paced.based`: **a request that is taken up is based on the current revision.**
-/

namespace BasedRequests

/-- The number of a request and its base. The number is zero before the first request. -/
abbrev Request := Nat × Nat

/-- The requests sent, the latest request, the revision seen by the side that asks, the current
revision, and the number of the request that was taken up last. -/
structure Paced (sent : Set Request) (latest : Request) (seen revision ack : Nat) : Prop where
  order : ∀ c ∈ insert latest sent, ∀ d ∈ insert latest sent, c.1 ≠ 0 →
    (c.1 = d.1 → c.2 = d.2) ∧ (c.1 < d.1 → c.2 < d.2)
  le : ∀ c ∈ sent, c.1 ≤ latest.1
  fresh : ∀ c ∈ insert latest sent, ack < c.1 → revision ≤ c.2
  acked : ack = 0 ∨ ∃ c ∈ sent, c.1 = ack
  first : latest.1 = 0 ↔ latest.2 = 0
  base_le : latest.2 ≤ seen
  seen_le : seen ≤ revision
  next : revision ≤ latest.2 + 1
  count : revision ≤ ack + 1

/-- The latest request is settled: there is none, it was not sent, or its outcome was seen. -/
def Settled (sent : Set Request) (latest : Request) (seen : Nat) : Prop :=
  latest.1 = 0 ∨ (∀ c ∈ sent, c.1 ≠ latest.1) ∨ latest.2 ≠ seen

variable {sent sent' : Set Request} {latest c : Request} {seen seen' revision ack : Nat}

theorem paced_start : Paced {((0, 0) : Request)} (0, 0) 0 0 0 where
  order c hc _ _ hne := by
    rw [Set.insert_eq_of_mem (Set.mem_singleton _), Set.mem_singleton_iff] at hc
    exact absurd (congrArg Prod.fst hc) hne
  le c hc := by
    rw [Set.mem_singleton_iff.mp hc]
  fresh _ _ _ := Nat.zero_le _
  acked := .inl rfl
  first := Iff.rfl
  base_le := Nat.le_refl _
  seen_le := Nat.le_refl _
  next := Nat.zero_le _
  count := Nat.zero_le _

theorem Paced.base_le_revision (h : Paced sent latest seen revision ack) :
    latest.2 ≤ revision := Nat.le_trans h.base_le h.seen_le

theorem Paced.ack_le (h : Paced sent latest seen revision ack) : ack ≤ latest.1 := by
  rcases h.acked with hz | ⟨c, hc, rfl⟩
  · rw [hz]
    exact Nat.zero_le _
  · exact h.le c hc

/-- **A request that is taken up is based on the current revision.** -/
theorem Paced.based (h : Paced sent latest seen revision ack) (hc : c ∈ sent) (hack : ack < c.1) :
    c.2 = revision := by
  refine Nat.le_antisymm ?_ (h.fresh c (Set.mem_insert_of_mem _ hc) hack)
  have hne : c.1 ≠ 0 := Nat.ne_of_gt (Nat.zero_lt_of_lt hack)
  obtain ⟨heq, hlt⟩ := h.order c (Set.mem_insert_of_mem _ hc) latest (Set.mem_insert _ _) hne
  rcases Nat.lt_or_eq_of_le (h.le c hc) with hn | hn
  · exact Nat.le_trans (Nat.le_of_lt (hlt hn)) h.base_le_revision
  · rw [heq hn]
    exact h.base_le_revision

/-- Copies of the latest request join those that were sent. -/
theorem Paced.log (h : Paced sent latest seen revision ack) (hsub : sent ⊆ sent')
    (hnew : sent' ⊆ insert latest sent) : Paced sent' latest seen revision ack := by
  have hall : ∀ c ∈ insert latest sent', c ∈ insert latest sent := by
    intro c hc
    rcases Set.mem_insert_iff.mp hc with rfl | hc
    · exact Set.mem_insert _ _
    · exact hnew hc
  refine { h with order := ?_, le := ?_, fresh := ?_, acked := ?_ }
  · exact fun c hc d hd => h.order c (hall c hc) d (hall d hd)
  · intro c hc
    rcases Set.mem_insert_iff.mp (hnew hc) with rfl | hc
    · exact Nat.le_refl _
    · exact h.le c hc
  · exact fun c hc => h.fresh c (hall c hc)
  · exact h.acked.imp_right fun ⟨c, hc, he⟩ => ⟨c, hsub hc, he⟩

/-- The side that asks hears of the revision. -/
theorem Paced.see (h : Paced sent latest seen revision ack) (hle : seen ≤ seen')
    (hrev : seen' ≤ revision) : Paced sent latest seen' revision ack :=
  { h with base_le := Nat.le_trans h.base_le hle, seen_le := hrev }

/-- The first revision. -/
theorem Paced.firstRevision (h : Paced sent latest seen 0 ack) : Paced sent latest seen 1 ack := by
  have hbase : latest.2 = 0 := Nat.le_zero.mp h.base_le_revision
  have hzero : latest.1 = 0 := h.first.mpr hbase
  refine { h with fresh := ?_, seen_le := ?_, next := ?_, count := ?_ }
  · intro c hc hack
    have hle : c.1 ≤ latest.1 := by
      rcases Set.mem_insert_iff.mp hc with rfl | hc
      · exact Nat.le_refl _
      · exact h.le c hc
    omega
  · exact Nat.le_trans h.seen_le (Nat.zero_le 1)
  · exact Nat.succ_le_succ (Nat.zero_le _)
  · exact Nat.succ_le_succ (Nat.zero_le _)

/-- Once the latest request is settled, the side that asks has seen the current revision. -/
theorem Paced.revision_le_seen (h : Paced sent latest seen revision ack)
    (hs : Settled sent latest seen) (hpos : 0 < seen) : revision ≤ seen := by
  have hnext := h.next
  have hbase := h.base_le
  rcases hs with hz | hunsent | hseen
  · have hb := h.first.mp hz
    omega
  · -- the request was not taken up, as no copy of it was sent
    by_cases hz : latest.1 = 0
    · have hb := h.first.mp hz
      omega
    · have hne : ack ≠ latest.1 := by
        intro he
        rcases h.acked with h0 | ⟨c, hc, hca⟩
        · exact hz (he.symm.trans h0)
        · exact hunsent c hc (hca.trans he)
      have hlt : ack < latest.1 := Nat.lt_of_le_of_ne h.ack_le hne
      exact Nat.le_trans (h.fresh latest (Set.mem_insert _ _) hlt) hbase
  · omega

/-- **The next request.** -/
theorem Paced.request (h : Paced sent latest seen revision ack) (hs : Settled sent latest seen)
    (hpos : 0 < seen) : Paced sent (latest.1 + 1, seen) seen revision ack := by
  have hrev := h.revision_le_seen hs hpos
  have hold : ∀ c ∈ sent, c.1 < latest.1 + 1 := fun c hc => Nat.lt_succ_of_le (h.le c hc)
  have hbelow : ∀ c ∈ sent, c.1 ≠ 0 → c.2 < seen := by
    intro c hc hne
    obtain ⟨heq, hlt⟩ := h.order c (Set.mem_insert_of_mem _ hc) latest (Set.mem_insert _ _) hne
    rcases Nat.lt_or_eq_of_le (h.le c hc) with hn | hn
    · exact Nat.lt_of_lt_of_le (hlt hn) h.base_le
    · rw [heq hn]
      have hb := h.base_le
      rcases hs with hz | hunsent | hseen
      · exact absurd (hn.trans hz) hne
      · exact absurd hn (hunsent c hc)
      · omega
  refine { h with order := ?_, le := ?_, fresh := ?_, first := ?_, base_le := ?_, next := ?_ }
  · intro c hc d hd hne
    rcases Set.mem_insert_iff.mp hc with rfl | hc <;> rcases Set.mem_insert_iff.mp hd with rfl | hd
    · exact ⟨fun _ => rfl, fun hlt => absurd hlt (Nat.lt_irrefl _)⟩
    · have hd' := hold d hd
      exact ⟨fun he => absurd he.symm (Nat.ne_of_lt hd'), fun hlt => absurd hlt (Nat.lt_asymm hd')⟩
    · exact ⟨fun he => absurd he (Nat.ne_of_lt (hold c hc)), fun _ => hbelow c hc hne⟩
    · exact h.order c (Set.mem_insert_of_mem _ hc) d (Set.mem_insert_of_mem _ hd) hne
  · exact fun c hc => Nat.le_of_lt (hold c hc)
  · intro c hc hack
    rcases Set.mem_insert_iff.mp hc with rfl | hc
    · exact hrev
    · exact h.fresh c (Set.mem_insert_of_mem _ hc) hack
  · exact ⟨fun he => absurd he (Nat.succ_ne_zero _), fun he => absurd he (Nat.ne_of_gt hpos)⟩
  · exact Nat.le_refl _
  · exact Nat.le_trans hrev (Nat.le_succ _)

/-- **A request that is taken up is carried out.** -/
theorem Paced.carryOut (h : Paced sent latest seen revision ack) (hc : c ∈ sent) (hack : ack < c.1) :
    Paced sent latest seen (revision + 1) c.1 := by
  have hbase := h.based hc hack
  have hne : c.1 ≠ 0 := Nat.ne_of_gt (Nat.zero_lt_of_lt hack)
  refine { h with fresh := ?_, acked := .inr ⟨c, hc, rfl⟩, seen_le := ?_, next := ?_, count := ?_ }
  · intro d hd hlt
    have hcd := (h.order c (Set.mem_insert_of_mem _ hc) d hd hne).2 hlt
    omega
  · exact Nat.le_trans h.seen_le (Nat.le_succ _)
  · obtain ⟨heq, hlt⟩ := h.order c (Set.mem_insert_of_mem _ hc) latest (Set.mem_insert _ _) hne
    have hle : c.2 ≤ latest.2 := by
      rcases Nat.lt_or_eq_of_le (h.le c hc) with hn | hn
      · exact Nat.le_of_lt (hlt hn)
      · exact Nat.le_of_eq (heq hn)
    omega
  · have hcount := h.count
    omega

end BasedRequests
