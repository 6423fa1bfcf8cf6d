import Mathlib.Data.List.Basic
import Mathlib.Data.List.TakeDrop
import Mathlib.Order.MinMax
import Mathlib.Tactic.Common

/-!
# A growing list kept in step over connections

A sender has a list that only grows, and a receiver keeps a copy of it. On a connection, which keeps
the order, the sender says the whole list, or a part from an index up to which it has said
everything. The copy outlives the connection; whether the two are in step does not.

* `merge`: an update is laid over the copy, or does not fit.
* `merge_take`: an update of the sender's list that leaves no gap extends a prefix to a prefix.
* `InOrder`: what is under way on a connection.
* `InOrder.said`, `InOrder.cons`: it grows at one end and is received at the other.
* `Receiver.receive_inOrder`: **what was under way is received, and the copy stays a prefix.**
-/

namespace PrefixSync

variable {α : Type*}

/-- The items from an index on. -/
structure Update (α : Type*) where
  index : Nat
  items : List α

namespace Update

/-- Where the update ends. -/
def extent (u : Update α) : Nat := u.index + u.items.length

/-- A part of a list. -/
def Of (list : List α) (u : Update α) : Prop :=
  u.extent ≤ list.length ∧ u.items = (list.drop u.index).take u.items.length

theorem Of.mono {list list' : List α} {u : Update α} (h : u.Of list) (hpre : list <+: list') :
    u.Of list' := by
  obtain ⟨rest, rfl⟩ := hpre
  obtain ⟨hext, hitems⟩ := h
  unfold extent at hext
  refine ⟨?_, ?_⟩
  · rw [List.length_append]
    unfold extent
    omega
  · rw [List.drop_append_of_le_length (by omega), List.take_append_of_le_length ?_]
    · exact hitems
    · rw [List.length_drop]
      omega

/-- The whole list. -/
theorem of_whole (list : List α) : Of list ⟨0, list⟩ :=
  ⟨by simp [extent], by simp⟩

/-- The part from `k` up to `m`. -/
theorem of_part {list : List α} {k m : Nat} (hkm : k ≤ m) (hm : m ≤ list.length) :
    Of list ⟨k, (list.take m).drop k⟩ ∧ extent ⟨k, (list.take m).drop k⟩ = m := by
  have hlen : ((list.take m).drop k).length = m - k := by
    rw [List.length_drop, List.length_take]
    omega
  have hext : extent ⟨k, (list.take m).drop k⟩ = m := by
    change k + _ = m
    rw [hlen]
    omega
  refine ⟨⟨hext.le.trans hm, ?_⟩, hext⟩
  rw [hlen, List.drop_take]

end Update

/-! ## Laying an update over the copy -/

/-- The copy with the update, `none` where they do not fit. -/
def merge [DecidableEq α] (copy : List α) (u : Update α) : Option (List α) :=
  if copy.length < u.index ∨ u.index = 0 ∧ u.items.length < copy.length then none
  else
    let overlap := min u.items.length (copy.length - u.index)
    if u.items.take overlap ≠ (copy.drop u.index).take overlap then none
    else some (copy ++ u.items.drop overlap)

/-- **A prefix is extended to a prefix.** -/
theorem merge_take [DecidableEq α] {list : List α} {d : Nat} {u : Update α} (hd : d ≤ list.length)
    (hu : u.Of list) (hindex : u.index ≤ d) (hwhole : u.index = 0 → d ≤ u.extent) :
    merge (list.take d) u = some (list.take (max d u.extent)) := by
  obtain ⟨i, items⟩ := u
  obtain ⟨n, hn⟩ : ∃ n, items.length = n := ⟨_, rfl⟩
  obtain ⟨hext, hitems⟩ := hu
  simp only [Update.extent, hn] at hext hitems hindex hwhole ⊢
  have hlen : (list.take d).length = d := by
    rw [List.length_take]
    omega
  unfold merge
  simp only [hlen, hn]
  rw [if_neg (by omega)]
  have hover : items.take (min n (d - i)) = ((list.take d).drop i).take (min n (d - i)) := by
    rw [hitems, List.take_take, List.drop_take, List.take_take]
    congr 1
    omega
  rw [if_neg (not_not.mpr hover)]
  congr 1
  by_cases hle : d ≤ i + n
  · -- what is new starts where the copy ends
    have hmin : min n (d - i) = d - i := by omega
    have hmax : max d (i + n) = d + (n - (d - i)) := by omega
    rw [hmin, hmax, hitems, List.drop_take, List.drop_drop, List.take_add,
      show i + (d - i) = d by omega]
  · have hmin : min n (d - i) = items.length := by omega
    rw [hmin, List.drop_length, List.append_nil]
    congr 1
    omega

/-! ## A connection -/

/-- What is under way on a connection: `covered` items of `list` were received on it and `d` are in the
copy, and once the rest is received `sent` are covered. -/
def InOrder (list : List α) (sent : Nat) : (covered d : Nat) → List (Update α) → Prop
  | covered, _, [] => covered = sent
  | covered, d, u :: us =>
    u.Of list
      ∧ (u.index = 0 ∧ covered ≤ u.extent ∧ d ≤ u.extent ∨ 1 ≤ u.index ∧ u.index ≤ covered)
      ∧ InOrder list sent (max covered u.extent) (max d u.extent) us

variable {list list' : List α} {sent covered d d' : Nat} {us : List (Update α)}

theorem InOrder.mono (hpre : list <+: list') (h : InOrder list sent covered d us) :
    InOrder list' sent covered d us := by
  induction us generalizing covered d with
  | nil => exact h
  | cons u us ih => exact ⟨h.1.mono hpre, h.2.1, ih h.2.2⟩

/-- A copy that holds less. -/
theorem InOrder.anti (hd : d' ≤ d) (h : InOrder list sent covered d us) :
    InOrder list sent covered d' us := by
  induction us generalizing covered d d' with
  | nil => exact h
  | cons u us ih =>
    exact ⟨h.1, h.2.1.imp_left fun hz => ⟨hz.1, hz.2.1, hd.trans hz.2.2⟩,
      ih (max_le_max hd le_rfl) h.2.2⟩

/-- **Something more is said**: the whole list, or a part from an index that was covered. -/
theorem InOrder.said {u : Update α} (hu : u.Of list) (hc : covered ≤ list.length)
    (hd : d ≤ list.length)
    (hsaid : u.index = 0 ∧ u.extent = list.length ∨ 1 ≤ u.index ∧ u.index ≤ sent)
    (h : InOrder list sent covered d us) :
    InOrder list (max sent u.extent) covered d (us ++ [u]) := by
  induction us generalizing covered d with
  | nil =>
    obtain rfl : covered = sent := h
    refine ⟨hu, hsaid.imp_left fun hz => ⟨hz.1, ?_, ?_⟩, rfl⟩
    · omega
    · omega
  | cons u' us ih =>
    exact ⟨h.1, h.2.1, ih (max_le hc h.1.1) (max_le hd h.1.1) h.2.2⟩

/-! ## The receiver -/

/-- The copy, and whether it is in step on this connection. -/
structure Receiver (α : Type*) where
  copy : List α
  synced : Bool

/-- An update is received: `none` where it does not fit. Out of step, only the whole list is taken. -/
def Receiver.receive [DecidableEq α] (r : Receiver α) (u : Update α) : Option (Receiver α) :=
  if r.copy.length < u.index ∨ r.synced = false ∧ u.index ≠ 0 then some { r with synced := false }
  else (merge r.copy u).map fun copy => { copy := copy, synced := true }

/-- What holds of a receiver: its copy is a prefix, and in step it has what was covered. -/
structure Receiver.Sound (list : List α) (covered : Nat) (r : Receiver α) : Prop where
  pre : r.copy <+: list
  synced : r.synced = true → covered ≤ r.copy.length

/-- **What was under way is received.** -/
theorem Receiver.receive_inOrder [DecidableEq α] {r : Receiver α} {u : Update α}
    (hr : r.Sound list covered) (h : InOrder list sent covered r.copy.length (u :: us)) :
    ∃ r', r.receive u = some r' ∧ r'.Sound list (max covered u.extent)
      ∧ InOrder list sent (max covered u.extent) r'.copy.length us
      ∧ r.copy <+: r'.copy ∧ (r'.synced = true → r.synced = true ∨ u.index = 0)
      ∧ (u.index = 0 → r.copy.length ≤ u.items.length) := by
  obtain ⟨hu, hsaid, hrest⟩ := h
  have htake : list.take r.copy.length = r.copy := List.prefix_iff_eq_take.mp hr.pre ▸ rfl
  have hlen := hr.pre.length_le
  have hsize : u.index = 0 → r.copy.length ≤ u.items.length := by
    intro hz
    have hle := (hsaid.resolve_right (by omega)).2.2
    unfold Update.extent at hle
    omega
  unfold receive
  by_cases hsync : r.copy.length < u.index ∨ r.synced = false ∧ u.index ≠ 0
  · rw [if_pos hsync]
    refine ⟨_, rfl, ⟨hr.pre, nofun⟩, hrest.anti (le_max_left _ _), List.prefix_rfl, nofun, hsize⟩
  · rw [if_neg hsync]
    have hmerge := merge_take hlen hu (by omega) fun hz => (hsaid.resolve_right (by omega)).2.2
    rw [htake] at hmerge
    rw [hmerge, Option.map_some]
    have hcopy : (list.take (max r.copy.length u.extent)).length = max r.copy.length u.extent := by
      rw [List.length_take]
      exact min_eq_left (max_le hlen hu.1)
    refine ⟨_, rfl, ⟨List.take_prefix _ _, fun _ => ?_⟩, ?_, ?_, fun _ => ?_, hsize⟩
    · -- in step the index was covered, so the copy had what was covered
      change _ ≤ (list.take _).length
      rw [hcopy]
      rcases hsaid with ⟨hz, hc, -⟩ | ⟨hone, -⟩
      · omega
      · have hsynced : r.synced = true := by
          by_contra hno
          exact hsync (.inr ⟨Bool.not_eq_true _ ▸ hno, by omega⟩)
        have := hr.synced hsynced
        omega
    · change InOrder list sent _ (list.take _).length us
      rw [hcopy]
      exact hrest
    · rw [← htake, List.length_take, min_eq_left hlen]
      exact List.take_prefix_take_left (le_max_left _ _)
    · by_cases hz : u.index = 0
      · exact .inr hz
      · refine .inl ?_
        by_contra hno
        exact hsync (.inr ⟨Bool.not_eq_true _ ▸ hno, hz⟩)

end PrefixSync
