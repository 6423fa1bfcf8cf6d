import Dk64Port.Coop.Protocol
import Dk64Port.Coop.RecoveryDurable

/-!
# A promotion and the authority it replaces

A promotion raises the term by one, so that the new pair is newer than the one it replaces. The term
may have come from the network, and at its largest value it stays as it is: there the node alone
decides.

* `promoted_of_promote`: what a promotion that succeeds leaves in memory.
* `promotion_supersedes_iff`: **a promotion supersedes exactly when the term can still grow or the
  node is larger.**
* `last_term_outranks`: a guest that follows a host of the last term and is then promoted.
-/

namespace Dk64Port.Coop

variable {sys : System} {w : Storage} {r : Record} {room : Word}

/-- The last term. -/
def lastTerm : Word64 := 0xFFFFFFFFFFFFFFFF

theorem term_lt_of_ne (h : r.term ≠ lastTerm) : r.term < (r.promoted room).term := by
  have hlast : r.term.toNat ≠ 2 ^ 64 - 1 := fun heq => h (BitVec.eq_of_toNat_eq heq)
  have hlt := r.term.isLt
  have hsucc : (r.term + 1).toNat = r.term.toNat + 1 := by
    rw [BitVec.toNat_add]
    change (r.term.toNat + 1) % 2 ^ 64 = _
    omega
  have hzero : r.term + 1 ≠ 0 := by
    intro heq
    rw [heq] at hsucc
    cases hsucc
  have hterm : (r.promoted room).term = r.term + 1 := by
    unfold Record.promoted
    dsimp only
    rw [if_neg (show ¬ r.term = 0xFFFFFFFFFFFFFFFF from h), if_neg hzero]
  rw [hterm, BitVec.lt_def, hsucc]
  exact Nat.lt_succ_self _

theorem term_of_last (h : r.term = lastTerm) : (r.promoted room).term = lastTerm := by
  unfold Record.promoted
  dsimp only
  rw [if_pos (show r.term = 0xFFFFFFFFFFFFFFFF from h), if_neg (by decide)]
  rfl

/-- A promotion that succeeds leaves its record in memory. -/
theorem promoted_of_promote (h : (w.promote sys room).1 = true) :
    (w.promote sys room).2.journal.record = w.journal.record.promoted room := by
  unfold Storage.promote at h ⊢
  dsimp only at h ⊢
  by_cases hoff : ¬ w.journal.configured = true ∨ w.journal.error = true
      ∨ ¬ w.journal.record.has flagCheckpoint = true
  · rw [if_pos hoff] at h
    cases h
  · rw [if_neg hoff] at h ⊢
    unfold Storage.commitOrFail at h ⊢
    dsimp only at h ⊢
    by_cases hok : (w.commit sys (w.journal.record.promoted room)).1 = true
    · rw [if_pos hok, ((committed sys _ w).done hok).1]
    · rw [if_neg hok] at h
      cases h

/-- **When a promotion supersedes.** In every state that a run of calls reaches, a promotion that
succeeds leaves a pair newer than the recorded one if and only if the recorded term is not the last
one, or the own node is larger than the recorded leader. -/
theorem promotion_supersedes_iff (sys : System) (disk₀ : SavePath → AtomicFile.Disk ByteLayout.Byte)
    (calls : List Call) (room : Word)
    (h : ((Run.run (Storage.step sys) { disk := disk₀ } calls).promote sys room).1 = true) :
    let w := Run.run (Storage.step sys) { disk := disk₀ } calls
    let w' := (w.promote sys room).2
    authorityNewer w'.journal.record.term w'.journal.record.node w.journal.record.term
        w.journal.record.leader = true
      ↔ w.journal.record.term ≠ lastTerm ∨ w.journal.record.leader < w.journal.record.node := by
  intro w w'
  have hrecord : w'.journal.record = w.journal.record.promoted room := promoted_of_promote h
  rw [hrecord, authorityNewer, decide_eq_true_eq]
  have hnode : (w.journal.record.promoted room).node = w.journal.record.node := rfl
  rw [hnode]
  by_cases hlast : w.journal.record.term = lastTerm
  · rw [term_of_last hlast, hlast]
    constructor
    · rintro (hlt | ⟨-, hlt⟩)
      · exact absurd hlt (by decide)
      · exact .inr hlt
    · rintro (hne | hlt)
      · exact absurd rfl hne
      · exact .inr ⟨rfl, hlt⟩
  · exact ⟨fun _ => .inl hlast, fun _ => .inl (term_lt_of_ne hlast)⟩

/-- Behind the term 7 the promotion takes the term 8. -/
theorem promotion_supersedes_term_seven :
    let w := Run.run (Storage.step guestSystem) { disk := fun _ => {} } (guestCalls 7 9)
    let w' := (w.promote guestSystem 123456).2
    authorityNewer w'.journal.record.term w'.journal.record.node w.journal.record.term
        w.journal.record.leader = true
      ↔ w.journal.record.term ≠ lastTerm ∨ w.journal.record.leader < w.journal.record.node :=
  promotion_supersedes_iff guestSystem (fun _ => {}) (guestCalls 7 9) 123456 (by decide)

/-- **The last term.** The host 9 of the last term is replaced by the guest 5: the promotion succeeds,
and the old pair outranks the new one. -/
theorem last_term_outranks :
    let w := Run.run (Storage.step guestSystem) { disk := fun _ => {} } (guestCalls lastTerm 9)
    let promoted := w.promote guestSystem 123456
    promoted.1 = true
    ∧ authorityNewer promoted.2.journal.record.term promoted.2.journal.record.node
        w.journal.record.term w.journal.record.leader = false
    ∧ authorityNewer w.journal.record.term w.journal.record.leader
        promoted.2.journal.record.term promoted.2.journal.record.node = true := by
  decide

end Dk64Port.Coop
