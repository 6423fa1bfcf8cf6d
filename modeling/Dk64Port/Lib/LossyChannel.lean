import Mathlib.Data.List.Basic
import Mathlib.Tactic.Common

/-!
# A lossy channel that delivers the newest message

The sender numbers its messages, the network loses, repeats and reorders them, and the receiver
drops every message that is not newer than the last one it took. What is left is a log of the
messages sent and a cursor: a delivery takes any message at or past the cursor and moves the cursor
behind it.

* `mem_of_take`: only messages that were sent are delivered.
* `ahead_send` / `ahead_take`: what may still be delivered, in the order it was sent.
* `Rising`: a counter of the sender, as the messages show it, never goes back at the receiver.
-/

namespace LossyChannel

/-- The messages sent so far, in order, and the cursor of the receiver. -/
structure Channel (α : Type*) where
  sent : List α
  next : Nat

variable {α : Type*}

/-- A channel nothing was sent over. -/
def Channel.empty : Channel α := ⟨[], 0⟩

/-- Send a message. -/
def Channel.send (c : Channel α) (a : α) : Channel α := { c with sent := c.sent ++ [a] }

/-- The receiver takes message `i`; `none` when it was never sent or is not newer than the last
one taken. -/
def Channel.take (c : Channel α) (i : Nat) : Option (α × Channel α) :=
  if c.next ≤ i then (c.sent[i]?).map fun a => (a, { c with next := i + 1 }) else none

@[simp] theorem sent_empty : (Channel.empty : Channel α).sent = [] := rfl

@[simp] theorem sent_send (c : Channel α) (a : α) : (c.send a).sent = c.sent ++ [a] := rfl

@[simp] theorem next_send (c : Channel α) (a : α) : (c.send a).next = c.next := rfl

theorem take_eq_some {c c' : Channel α} {i : Nat} {a : α} :
    c.take i = some (a, c') ↔ c.next ≤ i ∧ c.sent[i]? = some a ∧ c' = { c with next := i + 1 } := by
  unfold Channel.take
  split
  · rename_i h
    simp only [Option.map_eq_some_iff, Prod.mk.injEq]
    constructor
    · rintro ⟨b, hb, rfl, rfl⟩
      exact ⟨h, hb, rfl⟩
    · rintro ⟨-, hb, rfl⟩
      exact ⟨a, hb, rfl, rfl⟩
  · rename_i h
    exact ⟨fun hc => absurd hc (by simp), fun hc => absurd hc.1 h⟩

/-- Only messages that were sent are delivered. -/
theorem mem_of_take {c c' : Channel α} {i : Nat} {a : α} (h : c.take i = some (a, c')) :
    a ∈ c.sent :=
  List.mem_of_getElem? (take_eq_some.mp h).2.1

/-- A delivery leaves the log alone. -/
theorem sent_take {c c' : Channel α} {i : Nat} {a : α} (h : c.take i = some (a, c')) :
    c'.sent = c.sent := by
  rw [(take_eq_some.mp h).2.2]

/-! ## What may still be delivered -/

/-- The messages at or past the cursor. -/
def Channel.ahead (c : Channel α) : List α := c.sent.drop c.next

@[simp] theorem ahead_empty : (Channel.empty : Channel α).ahead = [] := rfl

theorem ahead_send (c : Channel α) (a : α) : (c.send a).ahead.Sublist (c.ahead ++ [a]) := by
  unfold Channel.ahead
  rw [sent_send, next_send, List.drop_append]
  exact (List.Sublist.refl _).append (List.drop_sublist _ _)

/-- A delivery takes one of them, and what stood before it is lost. -/
theorem ahead_take {c c' : Channel α} {i : Nat} {a : α} (h : c.take i = some (a, c')) :
    (a :: c'.ahead).Sublist c.ahead := by
  obtain ⟨hle, ha, rfl⟩ := take_eq_some.mp h
  obtain ⟨hlt, ha⟩ := List.getElem?_eq_some_iff.mp ha
  have hdrop : c.sent.drop i = a :: c.sent.drop (i + 1) := by
    rw [List.drop_eq_getElem_cons hlt, ha]
  have hsub : (c.sent.drop i).Sublist (c.sent.drop c.next) := by
    rw [← Nat.add_sub_cancel' hle, ← List.drop_drop]
    exact List.drop_sublist _ _
  rw [hdrop] at hsub
  exact hsub

/-! ## A counter of the sender -/

/-- A counter `now` of the sender, and what the receiver has of it: a value `low` it kept, the value
`taken` in the last message, and those in the messages ahead. A message that shows zero says nothing. -/
structure Rising (low taken : Nat) (ahead : List Nat) (now : Nat) : Prop where
  order : (low :: taken :: ahead).Pairwise fun x y => y = 0 ∨ x ≤ y
  le : ∀ x ∈ low :: taken :: ahead, x ≤ now

variable {low taken now now' y : Nat} {ahead ahead' : List Nat}

theorem rising_zero (now : Nat) : Rising 0 0 [] now :=
  ⟨by simp, by simp⟩

/-- What the receiver kept is not ahead of what it took since. -/
theorem Rising.low_le (h : Rising low taken ahead now) (hne : taken ≠ 0) : low ≤ taken :=
  ((List.pairwise_cons.mp h.order).1 taken List.mem_cons_self).resolve_left hne

theorem Rising.taken_le (h : Rising low taken ahead now) : taken ≤ now :=
  h.le taken (List.mem_cons_of_mem _ List.mem_cons_self)

/-- The counter moves on. -/
theorem Rising.write (h : Rising low taken ahead now) (hle : now ≤ now') :
    Rising low taken ahead now' :=
  ⟨h.order, fun x hx => Nat.le_trans (h.le x hx) hle⟩

theorem Rising.sublist (h : Rising low taken ahead now) (hs : ahead'.Sublist ahead) :
    Rising low taken ahead' now := by
  have hsub : (low :: taken :: ahead').Sublist (low :: taken :: ahead) := (hs.cons_cons _).cons_cons _
  exact ⟨h.order.sublist hsub, fun x hx => h.le x (hsub.subset hx)⟩

/-- A message is sent that shows the counter or nothing. -/
theorem Rising.send (h : Rising low taken ahead now) (hy : y = now ∨ y = 0) :
    Rising low taken (ahead ++ [y]) now := by
  have hmem : ∀ x ∈ low :: taken :: (ahead ++ [y]), x ∈ low :: taken :: ahead ∨ x = y := by
    intro x hx
    simpa [or_assoc] using hx
  refine ⟨?_, fun x hx => ?_⟩
  · have heq : low :: taken :: (ahead ++ [y]) = (low :: taken :: ahead) ++ [y] := rfl
    rw [heq]
    refine List.pairwise_append.mpr ⟨h.order, List.pairwise_singleton _ _, fun x hx z hz => ?_⟩
    rw [List.mem_singleton.mp hz]
    rcases hy with rfl | rfl
    · exact .inr (h.le x hx)
    · exact .inl rfl
  · rcases hmem x hx with hx | rfl
    · exact h.le x hx
    · rcases hy with rfl | rfl
      · exact Nat.le_refl _
      · exact Nat.zero_le _

/-- A message ahead is taken. -/
theorem Rising.take (h : Rising low taken ahead now) (hs : (y :: ahead').Sublist ahead) :
    Rising low y ahead' now := by
  have hsub : (low :: y :: ahead').Sublist (low :: taken :: ahead) := (hs.cons taken).cons_cons low
  exact ⟨h.order.sublist hsub, fun x hx => h.le x (hsub.subset hx)⟩

/-- The receiver keeps what it took. -/
theorem Rising.keep (h : Rising low taken ahead now) : Rising taken taken ahead now := by
  have htail := (List.pairwise_cons.mp h.order).2
  refine ⟨List.pairwise_cons.mpr ⟨fun x hx => ?_, htail⟩, fun x hx => h.le x ?_⟩
  · rcases List.mem_cons.mp hx with rfl | hx
    · exact .inr (Nat.le_refl _)
    · exact (List.pairwise_cons.mp htail).1 x hx
  · rcases List.mem_cons.mp hx with rfl | hx
    · exact List.mem_cons_of_mem _ List.mem_cons_self
    · exact List.mem_cons_of_mem _ hx

end LossyChannel
