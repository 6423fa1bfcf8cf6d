import Mathlib.Order.Basic
import Mathlib.Tactic.Common

/-!
# Latches that act once

A request is pending until the moment comes to act on it, then the action is taken and remembered.
Requests and actions are stamped with the epoch and the key they belong to; the latch remembers one
action only, so a second action under an older key of the same epoch must be ruled out by the order
in which the keys come up.

* `LatchMoves`: what may happen between two looks at the latch, under one epoch and key.
* `LatchMoves.ok`: **no action is taken twice**, if the keys of an epoch come up in order.
* `LatchMoves.won`: what was won stays won.
* `Ok.openEpoch`: a fresh epoch starts anew.
-/

namespace OnceLatch

/-- An epoch and a key of that epoch. -/
structure Stamp (ε κ : Type) where
  epoch : ε
  key : κ
deriving DecidableEq

/-- What is pending, what was acted on last, and what was reported last. A key of zero is none. -/
structure Latch (ε κ : Type) where
  pending : Stamp ε κ
  applied : Stamp ε κ
  success : Stamp ε κ

/-- A latch with its history: the requests that came in, the actions that were taken, and the
successes that were reached without one. -/
structure LatchLog (ε κ : Type) where
  latch : Latch ε κ
  received : List (Stamp ε κ) := []
  wins : List (Stamp ε κ) := []
  edges : List (Stamp ε κ) := []

section

variable {ε κ : Type} [Zero κ]

namespace Latch

/-- The pending request is forgotten. -/
def drop (l : Latch ε κ) : Latch ε κ := { l with pending := ⟨l.pending.epoch, 0⟩ }

/-- The success of this epoch and key. -/
def succeed (l : Latch ε κ) (e : ε) (k : κ) : Latch ε κ :=
  { pending := ⟨l.pending.epoch, 0⟩, applied := ⟨e, k⟩, success := ⟨e, k⟩ }

end Latch

namespace LatchLog

/-- A request comes in. -/
def receive (r : LatchLog ε κ) (e : ε) (k : κ) : LatchLog ε κ :=
  { r with latch := { r.latch with pending := ⟨e, k⟩ }, received := ⟨e, k⟩ :: r.received }

/-- The pending request is forgotten. -/
def drop (r : LatchLog ε κ) : LatchLog ε κ := { r with latch := r.latch.drop }

/-- The action is taken; its success will show later. -/
def force (r : LatchLog ε κ) (e : ε) (k : κ) : LatchLog ε κ :=
  { r with latch := { r.latch.drop with applied := ⟨e, k⟩ }, wins := ⟨e, k⟩ :: r.wins }

/-- The action is taken and its success reported. -/
def finish (r : LatchLog ε κ) (e : ε) (k : κ) : LatchLog ε κ :=
  { r with latch := r.latch.succeed e k, wins := ⟨e, k⟩ :: r.wins }

/-- A success that needed no action. -/
def edge (r : LatchLog ε κ) (e : ε) (k : κ) : LatchLog ε κ :=
  { r with latch := r.latch.succeed e k, edges := ⟨e, k⟩ :: r.edges }

end LatchLog

/-- The request of this epoch and key is pending and was not acted on. -/
def Due (r : LatchLog ε κ) (e : ε) (k : κ) : Prop :=
  r.latch.pending.epoch = e ∧ r.latch.pending.key = k
    ∧ ¬ (r.latch.applied.epoch = e ∧ r.latch.applied.key = k)

instance [DecidableEq ε] [DecidableEq κ] (r : LatchLog ε κ) (e : ε) (k : κ) :
    Decidable (Due r e k) := inferInstanceAs (Decidable (_ ∧ _))

/-- What may happen under one epoch and key. -/
inductive LatchMoves (e : ε) (k : κ) : LatchLog ε κ → LatchLog ε κ → Prop
  | refl (s : LatchLog ε κ) : LatchMoves e k s s
  | drop {s t} (h : LatchMoves e k s t) : LatchMoves e k s t.drop
  | force {s t} (h : LatchMoves e k s t) (hk : k ≠ 0) (due : Due t e k) : LatchMoves e k s (t.force e k)
  | finish {s t} (h : LatchMoves e k s t) (hk : k ≠ 0) (due : Due t e k) : LatchMoves e k s (t.finish e k)
  | edge {s t} (h : LatchMoves e k s t) (hk : k ≠ 0) : LatchMoves e k s (t.edge e k)

end

variable {ε κ : Type} [Zero κ] [PartialOrder κ] {e e' : ε} {k : κ} {r r' : LatchLog ε κ}
  {past : List ε}

/-- The history of a latch in epoch `e`, after the epochs `past`. -/
structure Ok (past : List ε) (e : ε) (r : LatchLog ε κ) : Prop where
  now : e ∈ past
  known : ∀ w ∈ r.received, w.epoch ∈ past
  acted : r.latch.applied.key ≠ 0 → r.latch.applied.epoch ∈ past
  pending : r.latch.pending.key ≠ 0 → r.latch.pending ∈ r.received
  success : r.latch.success.key ≠ 0 → r.latch.success ∈ r.edges ∨ r.latch.success ∈ r.wins
  received : ∀ w ∈ r.wins, w ∈ r.received
  once : r.wins.Nodup
  done : ∀ w ∈ r.wins, w.epoch = e → r.latch.applied.epoch = e ∧ w.key ≤ r.latch.applied.key

/-- The key comes up after the one acted on in this epoch. -/
def LatchFits (r : LatchLog ε κ) (e : ε) (k : κ) : Prop :=
  r.latch.applied.epoch = e → r.latch.applied.key ≤ k

theorem Ok.receive (h : Ok past e r) (k : κ) : Ok past e (r.receive e k) where
  now := h.now
  known := by
    intro w hw
    rcases List.mem_cons.mp hw with rfl | hw
    · exact h.now
    · exact h.known w hw
  acted := h.acted
  pending _ := List.mem_cons_self
  success := h.success
  received w hw := List.mem_cons_of_mem _ (h.received w hw)
  once := h.once
  done := h.done

theorem Ok.drop (h : Ok past e r) : Ok past e r.drop where
  now := h.now
  known := h.known
  acted := h.acted
  pending h0 := absurd rfl h0
  success := h.success
  received := h.received
  once := h.once
  done := h.done

/-- What was acted on in this epoch lies before a key that is due. -/
theorem Ok.not_done (h : Ok past e r) (hfit : LatchFits r e k) (due : Due r e k) :
    (⟨e, k⟩ : Stamp ε κ) ∉ r.wins := by
  intro hw
  obtain ⟨hepoch, hle⟩ := h.done _ hw rfl
  exact due.2.2 ⟨hepoch, le_antisymm (hfit hepoch) hle⟩

theorem Ok.due_received (h : Ok past e r) (hk : k ≠ 0) (due : Due r e k) :
    (⟨e, k⟩ : Stamp ε κ) ∈ r.received := by
  obtain ⟨he, hkey, -⟩ := due
  have hmem := h.pending (by rw [hkey]; exact hk)
  rwa [← he, ← hkey]

theorem done_cons (h : Ok past e r) (hfit : LatchFits r e k) {w : Stamp ε κ}
    (hw : w ∈ (⟨e, k⟩ : Stamp ε κ) :: r.wins) (he : w.epoch = e) : w.key ≤ k := by
  rcases List.mem_cons.mp hw with rfl | hw
  · exact le_refl _
  · obtain ⟨hepoch, hle⟩ := h.done w hw he
    exact le_trans hle (hfit hepoch)

theorem received_cons (h : Ok past e r) (hk : k ≠ 0) (due : Due r e k) :
    ∀ w ∈ (⟨e, k⟩ : Stamp ε κ) :: r.wins, w ∈ r.received := by
  intro w hw
  rcases List.mem_cons.mp hw with rfl | hw
  · exact h.due_received hk due
  · exact h.received w hw

theorem Ok.force (h : Ok past e r) (hfit : LatchFits r e k) (hk : k ≠ 0) (due : Due r e k) :
    Ok past e (r.force e k) where
  now := h.now
  known := h.known
  acted _ := h.now
  pending h0 := absurd rfl h0
  success h0 := (h.success h0).imp_right (List.mem_cons_of_mem _)
  received := received_cons h hk due
  once := List.nodup_cons.mpr ⟨h.not_done hfit due, h.once⟩
  done _ hw he := ⟨rfl, done_cons h hfit hw he⟩

theorem Ok.finish (h : Ok past e r) (hfit : LatchFits r e k) (hk : k ≠ 0) (due : Due r e k) :
    Ok past e (r.finish e k) where
  now := h.now
  known := h.known
  acted _ := h.now
  pending h0 := absurd rfl h0
  success _ := .inr List.mem_cons_self
  received := received_cons h hk due
  once := List.nodup_cons.mpr ⟨h.not_done hfit due, h.once⟩
  done _ hw he := ⟨rfl, done_cons h hfit hw he⟩

theorem Ok.edge (h : Ok past e r) (hfit : LatchFits r e k) : Ok past e (r.edge e k) where
  now := h.now
  known := h.known
  acted _ := h.now
  pending h0 := absurd rfl h0
  success _ := .inl List.mem_cons_self
  received := h.received
  once := h.once
  done w hw he := by
    obtain ⟨hepoch, hle⟩ := h.done w hw he
    exact ⟨rfl, le_trans hle (hfit hepoch)⟩

/-- **No action is taken twice.** -/
theorem LatchMoves.ok (hm : LatchMoves e k r r') (h : Ok past e r) (hfit : k ≠ 0 → LatchFits r e k) :
    Ok past e r' ∧ (k ≠ 0 → LatchFits r' e k) := by
  induction hm with
  | refl => exact ⟨h, hfit⟩
  | drop _ ih => exact ⟨ih.1.drop, ih.2⟩
  | force _ hk due ih => exact ⟨ih.1.force (ih.2 hk) hk due, fun _ _ => le_refl _⟩
  | finish _ hk due ih => exact ⟨ih.1.finish (ih.2 hk) hk due, fun _ _ => le_refl _⟩
  | edge _ hk ih => exact ⟨ih.1.edge (ih.2 hk), fun _ _ => le_refl _⟩

omit [PartialOrder κ] in
/-- Whatever happened, the latch remembers what it did or the key of now. -/
theorem LatchMoves.applied (hm : LatchMoves e k r r') :
    r'.latch.applied = r.latch.applied ∨ k ≠ 0 ∧ r'.latch.applied = ⟨e, k⟩ := by
  induction hm with
  | refl => exact .inl rfl
  | drop _ ih => exact ih
  | force _ hk _ _ => exact .inr ⟨hk, rfl⟩
  | finish _ hk _ _ => exact .inr ⟨hk, rfl⟩
  | edge _ hk _ => exact .inr ⟨hk, rfl⟩

/-- What was won: by an action or without one. -/
def Won (r : LatchLog ε κ) (w : Stamp ε κ) : Prop := w ∈ r.edges ∨ w ∈ r.wins

omit [PartialOrder κ] in
/-- What was won stays, and only the key of now is added. -/
theorem LatchMoves.won (hm : LatchMoves e k r r') (w : Stamp ε κ) :
    (Won r w → Won r' w) ∧ (Won r' w → Won r w ∨ k ≠ 0 ∧ w = ⟨e, k⟩) := by
  induction hm with
  | refl => exact ⟨id, .inl⟩
  | drop _ ih => exact ih
  | force _ hk _ ih | finish _ hk _ ih =>
    refine ⟨fun h => (ih.1 h).imp_right (List.mem_cons_of_mem _), ?_⟩
    rintro (h | h)
    · exact ih.2 (.inl h)
    · rcases List.mem_cons.mp h with rfl | h
      · exact .inr ⟨hk, rfl⟩
      · exact ih.2 (.inr h)
  | edge _ hk ih =>
    refine ⟨fun h => (ih.1 h).imp_left (List.mem_cons_of_mem _), ?_⟩
    rintro (h | h)
    · rcases List.mem_cons.mp h with rfl | h
      · exact .inr ⟨hk, rfl⟩
      · exact ih.2 (.inl h)
    · exact ih.2 (.inr h)

/-- **A fresh epoch starts anew.** -/
theorem Ok.openEpoch (h : Ok past e r) (hfresh : e' ∉ past) : Ok (e' :: past) e' r where
  now := List.mem_cons_self
  known w hw := List.mem_cons_of_mem _ (h.known w hw)
  acted h0 := List.mem_cons_of_mem _ (h.acted h0)
  pending := h.pending
  success := h.success
  received := h.received
  once := h.once
  done w hw he := absurd (he ▸ h.known w (h.received w hw)) hfresh

end OnceLatch
