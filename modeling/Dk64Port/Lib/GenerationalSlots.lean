import Dk64Port.Lib.Run
import Mathlib.Data.List.Nodup
import Mathlib.Logic.Function.Basic

/-!
# Generational slots

Values are kept in slots and found by a key: the index of a slot and its generation. A slot that is
given back goes to the end of a queue with its generation raised, and the queue is used from the front
once it holds more than `N` slots. A generation of `L` or more is not found: such a key is spent when it
is given out.

* `Slots.create`, `Slots.write`, `Slots.erase`, `Slots.find`: the operations.
* `Sound`: what every operation keeps of the slots beside the keys given out and the values they hold.
* `Sound.find_eq`, `Sound.given_nodup`: **a key finds the value it holds, and is given out once.**
* `Sound.le_erased`: **a generation takes `N + 1` erasures.**
-/

namespace GenerationalSlots

variable {α : Type*}

/-- A slot: its generation, whether it is taken, and what it holds. -/
structure Slot (α : Type*) where
  generation : Nat
  taken : Bool
  value : α

/-- The slots, and the queue of those that were given back, the oldest first. -/
structure Slots (α : Type*) where
  slots : List (Slot α) := []
  free : List Nat := []

/-- The index of a slot, and a generation. -/
abbrev Key := Nat × Nat

namespace Slots

/-- The generation of a slot. -/
def generation (m : Slots α) (i : Nat) : Nat := (m.slots[i]?.map (·.generation)).getD 0

/-- A slot is changed. -/
def change (m : Slots α) (i : Nat) (f : Slot α → Slot α) : Slots α :=
  { m with slots := m.slots.modify i f }

/-- What a key finds. -/
def find (L : Nat) (m : Slots α) (k : Key) : Option α :=
  m.slots[k.1]?.bind fun s => if s.taken ∧ s.generation = k.2 ∧ k.2 < L then some s.value else none

/-- A new slot. -/
def append (m : Slots α) (v : α) : Key × Slots α :=
  ((m.slots.length, 1), { m with slots := m.slots ++ [⟨1, true, v⟩] })

/-- A slot from the queue, or a new one. -/
def create (N : Nat) (m : Slots α) (v : α) : Key × Slots α :=
  match m.free with
  | [] => m.append v
  | i :: rest =>
    if N < (i :: rest).length then
      ((i, m.generation i), { m with free := rest }.change i fun s => { s with taken := true, value := v })
    else m.append v

def write (L : Nat) (m : Slots α) (k : Key) (v : α) : Slots α :=
  if (m.find L k).isSome then m.change k.1 fun s => { s with value := v } else m

/-- The slot of a key that is found is given back. -/
def erase (L : Nat) (m : Slots α) (k : Key) : Slots α :=
  if (m.find L k).isSome then
    { m with free := m.free ++ [k.1] }.change k.1 fun s => ⟨s.generation + 1, false, s.value⟩
  else m

/-- How many slots are taken. -/
def taken (m : Slots α) : Nat := m.slots.countP (·.taken)

end Slots

/-- The keys given out, the latest first, the values they hold, and how many were erased. -/
structure KeyLedger (α : Type*) where
  given : List Key := []
  held : Key → Option α := fun _ => none
  erased : Nat := 0

inductive Call (α : Type*) where
  | create (v : α)
  | write (k : Key) (v : α)
  | erase (k : Key)

/-- What a call does to the values; `k` is the key that a creation gives out. -/
def KeyLedger.after (L : Nat) (h : KeyLedger α) (k : Key) : Call α → KeyLedger α
  | .create v =>
    { h with
      given := k :: h.given
      held := if k.2 < L then Function.update h.held k (some v) else h.held }
  | .write k v => if (h.held k).isSome then { h with held := Function.update h.held k (some v) } else h
  | .erase k =>
    if (h.held k).isSome then
      { h with held := Function.update h.held k none, erased := h.erased + 1 }
    else h

theorem KeyLedger.after_write (h : KeyLedger α) (L : Nat) (k k' : Key) (v : α) :
    h.after L k' (.write k v)
      = if (h.held k).isSome then { h with held := Function.update h.held k (some v) } else h := rfl

theorem KeyLedger.after_erase (h : KeyLedger α) (L : Nat) (k k' : Key) :
    h.after L k' (.erase k) = if (h.held k).isSome then
      { h with held := Function.update h.held k none, erased := h.erased + 1 } else h := rfl

/-! ## The slots after an operation -/

section Lookup

variable {N L : Nat} {m : Slots α} {i : Nat} {k : Key} {v : α} {f : Slot α → Slot α} {s : Slot α}

theorem getElem?_change (j : Nat) :
    (m.change i f).slots[j]? = if i = j then m.slots[j]?.map f else m.slots[j]? := by
  unfold Slots.change
  rw [List.getElem?_modify]
  split <;> simp

theorem find_eq_some : m.find L k = some v ↔
    ∃ s, m.slots[k.1]? = some s ∧ s.taken = true ∧ s.generation = k.2 ∧ k.2 < L ∧ s.value = v := by
  unfold Slots.find
  rw [Option.bind_eq_some_iff]
  refine exists_congr fun s => and_congr_right fun _ => ?_
  split
  · rename_i h
    simp [h]
  · rename_i h
    simp only [reduceCtorEq, false_iff]
    rintro ⟨h1, h2, h3, -⟩
    exact h ⟨h1, h2, h3⟩

theorem find_isSome : (m.find L k).isSome = true ↔
    ∃ s, m.slots[k.1]? = some s ∧ s.taken = true ∧ s.generation = k.2 ∧ k.2 < L := by
  rw [Option.isSome_iff_exists]
  constructor
  · rintro ⟨v, h⟩
    obtain ⟨s, hs, ht, hg, hL, -⟩ := find_eq_some.mp h
    exact ⟨s, hs, ht, hg, hL⟩
  · rintro ⟨s, hs, ht, hg, hL⟩
    exact ⟨s.value, find_eq_some.mpr ⟨s, hs, ht, hg, hL, rfl⟩⟩

theorem generation_eq (h : m.slots[i]? = some s) : m.generation i = s.generation := by
  simp [Slots.generation, h]

theorem generation_change (hf : ∀ s : Slot α, (f s).generation = s.generation) (j : Nat) :
    (m.change i f).generation j = m.generation j := by
  unfold Slots.generation
  rw [getElem?_change]
  split
  · cases m.slots[j]? with
    | none => rfl
    | some s => exact hf s
  · rfl

theorem generation_change_of_ne {j : Nat} (hij : i ≠ j) :
    (m.change i f).generation j = m.generation j := by
  unfold Slots.generation
  rw [getElem?_change, if_neg hij]

/-- What a key finds when another slot is changed. -/
theorem find_congr {m' : Slots α} (h : m'.slots[k.1]? = m.slots[k.1]?) : m'.find L k = m.find L k := by
  unfold Slots.find
  rw [h]

theorem lt_of_getElem? (h : m.slots[i]? = some s) : i < m.slots.length :=
  (List.getElem?_eq_some_iff.mp h).1

/-- The slots that are taken, when a slot is changed. -/
theorem taken_change (h : m.slots[i]? = some s) :
    (m.change i f).taken + (if s.taken then 1 else 0) = m.taken + if (f s).taken then 1 else 0 := by
  obtain ⟨hi, rfl⟩ := List.getElem?_eq_some_iff.mp h
  have hset : (m.change i f).slots = m.slots.set i (f m.slots[i]) := by
    refine List.ext_getElem? fun j => ?_
    rw [getElem?_change, List.getElem?_set]
    by_cases hj : i = j
    · subst hj
      simp [hi]
    · simp [hj]
  have hpos : (if m.slots[i].taken then 1 else 0) ≤ m.taken := by
    split
    · exact List.countP_pos_iff.mpr ⟨_, List.getElem_mem hi, ‹_›⟩
    · exact Nat.zero_le _
  unfold Slots.taken at hpos ⊢
  rw [hset, List.countP_set hi]
  omega

end Lookup

/-! ## What holds in every run -/

variable {N L : Nat} {h : KeyLedger α} {m : Slots α}

/-- What holds of the slots beside the ledger. -/
structure Sound (N L : Nat) (h : KeyLedger α) (m : Slots α) : Prop where
  free_nodup : m.free.Nodup
  mem_free : ∀ i, i ∈ m.free ↔ ∃ s : Slot α, m.slots[i]? = some s ∧ s.taken = false
  length_eq : m.slots.length = m.taken + m.free.length
  generation_pos : ∀ (i : Nat) (s : Slot α), m.slots[i]? = some s → 1 ≤ s.generation
  generation_le : ∀ (i : Nat) (s : Slot α), m.slots[i]? = some s → s.generation ≤ L
  mem_given : ∀ k, k ∈ h.given ↔ ∃ s : Slot α, m.slots[k.1]? = some s ∧ 1 ≤ k.2 ∧
    (k.2 < s.generation ∨ k.2 = s.generation ∧ s.taken = true)
  given_nodup : h.given.Nodup
  find_eq : ∀ k, m.find L k = h.held k
  /-- Of a slot that is taken. -/
  le_erased : ∀ (i : Nat) (s : Slot α), m.slots[i]? = some s → s.taken = true →
    (N + 1) * (s.generation - 1) ≤ h.erased
  /-- Of a slot in the queue, by its place from the end. -/
  queued : ∀ (j i : Nat) (s : Slot α), m.free.reverse[j]? = some i → m.slots[i]? = some s →
    2 ≤ s.generation ∧ (N + 1) * (s.generation - 2) + 1 + j ≤ h.erased

theorem sound_empty : Sound N L ({} : KeyLedger α) {} where
  free_nodup := List.nodup_nil
  mem_free i := by simp
  length_eq := rfl
  generation_pos i s h := by simp at h
  generation_le i s h := by simp at h
  mem_given k := by simp
  given_nodup := List.nodup_nil
  find_eq k := by simp [Slots.find]
  le_erased i s h := by simp at h
  queued j i s h := by simp at h

/-! ### A creation -/

/-- The values after a creation whose slot held nothing. -/
theorem find_created {m' : Slots α} {k₀ : Key} {v : α}
    (hself : m'.slots[k₀.1]? = some ⟨k₀.2, true, v⟩)
    (hother : ∀ j, j ≠ k₀.1 → m'.slots[j]? = m.slots[j]?)
    (hnone : ∀ k : Key, k.1 = k₀.1 → m.find L k = none) (hfind : ∀ k, m.find L k = h.held k) (k : Key) :
    m'.find L k = (h.after L k₀ (.create v)).held k := by
  change _ = (if k₀.2 < L then Function.update h.held k₀ (some v) else h.held) k
  by_cases hk : k = k₀
  · subst hk
    have hnew : m'.find L k = if k.2 < L then some v else none := by simp [Slots.find, hself]
    rw [hnew]
    split
    · rw [Function.update_self]
    · rw [← hfind, hnone k rfl]
  · have hsame : m'.find L k = m.find L k := by
      by_cases hi : k.1 = k₀.1
      · have hne : ¬ k₀.2 = k.2 := fun hg => hk (Prod.ext hi hg.symm)
        have hnew : m'.find L k = none := by simp [Slots.find, hi, hself, hne]
        rw [hnew, hnone k hi]
      · exact find_congr (hother _ hi)
    rw [hsame, hfind]
    split
    · rw [Function.update_of_ne hk]
    · rfl

theorem getElem?_append_slot (v : α) (j : Nat) : (m.append v).2.slots[j]?
    = if j = m.slots.length then some ⟨1, true, v⟩ else m.slots[j]? := by
  unfold Slots.append
  split
  · rename_i hj
    simp [hj]
  · rename_i hj
    dsimp only
    by_cases hlt : j < m.slots.length
    · rw [List.getElem?_append_left hlt]
    · have hsub : 1 ≤ j - m.slots.length := by omega
      rw [List.getElem?_append_right (by omega), List.getElem?_eq_none hsub,
        List.getElem?_eq_none (by omega)]

/-- A new slot. -/
theorem Sound.append (hs : Sound N L h m) (hL : 1 ≤ L) (v : α) :
    Sound N L (h.after L (m.append v).1 (.create v)) (m.append v).2 := by
  have hget := getElem?_append_slot (m := m) v
  have hnew : m.slots[m.slots.length]? = none := List.getElem?_eq_none (Nat.le_refl _)
  -- a slot is the new one, or as before
  have hcases : ∀ (j : Nat) (s : Slot α), (m.append v).2.slots[j]? = some s →
      (j = m.slots.length ∧ s = ⟨1, true, v⟩) ∨ m.slots[j]? = some s := by
    intro j s hj
    rw [hget] at hj
    split at hj
    · exact .inl ⟨‹_›, (Option.some.inj hj).symm⟩
    · exact .inr hj
  have hold : ∀ (j : Nat) (s : Slot α), m.slots[j]? = some s → (m.append v).2.slots[j]? = some s := by
    intro j s hj
    rw [hget, if_neg (Nat.ne_of_lt (lt_of_getElem? hj)), hj]
  have hfree : (m.append v).2.free = m.free := rfl
  refine ⟨hs.free_nodup, fun i => ?_, ?_, fun i s hi => ?_, fun i s hi => ?_, fun k => ?_, ?_,
    fun k => ?_, fun i s hi ht => ?_, fun j i s hj hi => ?_⟩
  · rw [hfree, hs.mem_free]
    constructor
    · rintro ⟨s, hi, ht⟩
      exact ⟨s, hold i s hi, ht⟩
    · rintro ⟨s, hi, ht⟩
      rcases hcases i s hi with ⟨-, rfl⟩ | hi
      · cases ht
      · exact ⟨s, hi, ht⟩
  · have := hs.length_eq
    simp only [Slots.append, Slots.taken, List.length_append, List.countP_append] at this ⊢
    simp
    omega
  · rcases hcases i s hi with ⟨-, rfl⟩ | hi
    · exact Nat.le_refl 1
    · exact hs.generation_pos i s hi
  · rcases hcases i s hi with ⟨-, rfl⟩ | hi
    · exact hL
    · exact hs.generation_le i s hi
  · change k ∈ (m.slots.length, 1) :: h.given ↔ _
    rw [List.mem_cons, hs.mem_given]
    constructor
    · rintro (rfl | ⟨s, hi, hk⟩)
      · exact ⟨⟨1, true, v⟩, by rw [hget, if_pos rfl], Nat.le_refl 1, .inr ⟨rfl, rfl⟩⟩
      · exact ⟨s, hold _ s hi, hk⟩
    · rintro ⟨s, hi, hpos, hk⟩
      rcases hcases _ s hi with ⟨hlen, rfl⟩ | hi
      · refine .inl (Prod.ext hlen ?_)
        rcases hk with hk | hk
        · exact absurd hpos (Nat.not_le_of_lt hk)
        · exact hk.1
      · exact .inr ⟨s, hi, hpos, hk⟩
  · refine List.nodup_cons.mpr ⟨fun hmem => ?_, hs.given_nodup⟩
    obtain ⟨s, hi, -⟩ := (hs.mem_given _).mp hmem
    rw [show ((m.append v).1.1 : Nat) = m.slots.length from rfl, hnew] at hi
    cases hi
  · refine find_created (by rw [hget]; exact if_pos rfl) (fun j hj => ?_) (fun k' hk' => ?_) hs.find_eq k
    · rw [hget]
      exact if_neg hj
    · have hlen : k'.1 = m.slots.length := hk'
      simp [Slots.find, hlen]
  · rcases hcases i s hi with ⟨-, rfl⟩ | hi
    · exact Nat.zero_le _
    · exact hs.le_erased i s hi ht
  · rcases hcases i s hi with ⟨rfl, -⟩ | hi
    · have hmem : m.slots.length ∈ m.free := List.mem_reverse.mp (List.mem_of_getElem? hj)
      obtain ⟨s', hs', -⟩ := (hs.mem_free _).mp hmem
      rw [hnew] at hs'
      cases hs'
    · exact hs.queued j i s hj hi

theorem length_change (i : Nat) (f : Slot α → Slot α) :
    (m.change i f).slots.length = m.slots.length :=
  List.length_modify f m.slots i

/-- A slot of the changed map: the one that was changed, or as before. -/
theorem slot_change {i j : Nat} {f : Slot α → Slot α} {s : Slot α}
    (hj : (m.change i f).slots[j]? = some s) :
    (i = j ∧ ∃ s', m.slots[j]? = some s' ∧ s = f s') ∨ (i ≠ j ∧ m.slots[j]? = some s) := by
  rw [getElem?_change] at hj
  split at hj
  · rename_i hij
    obtain ⟨s', hs', rfl⟩ := Option.map_eq_some_iff.mp hj
    exact .inl ⟨hij, s', hs', rfl⟩
  · exact .inr ⟨‹_›, hj⟩

/-- A slot from the queue. -/
theorem Sound.reuse (hs : Sound N L h m) {i : Nat} {rest : List Nat} (hfree : m.free = i :: rest)
    (hlong : N ≤ rest.length) (v : α) :
    Sound N L (h.after L (i, m.generation i) (.create v))
      ({ m with free := rest }.change i fun s => { s with taken := true, value := v }) := by
  obtain ⟨s₀, hs₀, ht₀⟩ := (hs.mem_free i).mp (by rw [hfree]; exact List.mem_cons_self)
  have hgen : m.generation i = s₀.generation := generation_eq hs₀
  obtain ⟨hirest, hrest⟩ := List.nodup_cons.mp (hfree ▸ hs.free_nodup)
  have hrev : m.free.reverse[rest.length]? = some i := by rw [hfree]; simp
  obtain ⟨hge2, hage⟩ := hs.queued rest.length i s₀ hrev hs₀
  have hnotgiven : (i, s₀.generation) ∉ h.given := fun hmem => by
    obtain ⟨s, hsi, -, hlt | ⟨-, ht⟩⟩ := (hs.mem_given _).mp hmem
    · rw [hs₀] at hsi
      obtain rfl := Option.some.inj hsi
      exact absurd hlt (Nat.lt_irrefl _)
    · rw [hs₀] at hsi
      obtain rfl := Option.some.inj hsi
      rw [ht₀] at ht
      cases ht
  generalize hm' : ({ m with free := rest } : Slots α).change i
    (fun s => { s with taken := true, value := v }) = m'
  have hfree' : m'.free = rest := by rw [← hm']; rfl
  have hself : m'.slots[i]? = some { s₀ with taken := true, value := v } := by
    rw [← hm', getElem?_change, if_pos rfl]
    exact (congrArg (Option.map _) hs₀).trans rfl
  have hother : ∀ j, j ≠ i → m'.slots[j]? = m.slots[j]? := by
    intro j hj
    rw [← hm', getElem?_change, if_neg (Ne.symm hj)]
  have hcases : ∀ (j : Nat) (s : Slot α), m'.slots[j]? = some s →
      (j = i ∧ s = { s₀ with taken := true, value := v }) ∨ (j ≠ i ∧ m.slots[j]? = some s) := by
    intro j s hj
    by_cases hji : j = i
    · subst hji
      exact .inl ⟨rfl, (Option.some.inj (hself.symm.trans hj)).symm⟩
    · exact .inr ⟨hji, (hother j hji).symm.trans hj⟩
  rw [hgen]
  refine ⟨hfree' ▸ hrest, fun j => ?_, ?_, fun j s hj => ?_, fun j s hj => ?_, fun k => ?_, ?_,
    fun k => ?_, fun j s hj ht => ?_, fun j i' s hj hi' => ?_⟩
  · rw [hfree']
    by_cases hji : j = i
    · subst hji
      refine iff_of_false hirest ?_
      rintro ⟨s, hj, ht⟩
      obtain rfl := Option.some.inj (hself.symm.trans hj)
      cases ht
    · rw [hother j hji, ← hs.mem_free, hfree, List.mem_cons]
      exact ⟨.inr, fun hor => hor.resolve_left hji⟩
  · have hlen := hs.length_eq
    have htaken := taken_change (f := fun s => { s with taken := true, value := v })
      (m := { m with free := rest }) hs₀
    rw [hm', ht₀] at htaken
    have hlen' : m'.slots.length = m.slots.length := by rw [← hm', length_change]
    have hcount : ({ m with free := rest } : Slots α).taken = m.taken := rfl
    rw [hfree, List.length_cons] at hlen
    rw [hlen', hfree']
    simp at htaken
    omega
  · rcases hcases j s hj with ⟨rfl, rfl⟩ | ⟨-, hj⟩
    · exact hs.generation_pos _ s₀ hs₀
    · exact hs.generation_pos j s hj
  · rcases hcases j s hj with ⟨rfl, rfl⟩ | ⟨-, hj⟩
    · exact hs.generation_le _ s₀ hs₀
    · exact hs.generation_le j s hj
  · change k ∈ (i, s₀.generation) :: h.given ↔ _
    rw [List.mem_cons, hs.mem_given]
    by_cases hki : k.1 = i
    · rw [hki, hself, hs₀]
      have hpos := hs.generation_pos i s₀ hs₀
      constructor
      · rintro (rfl | ⟨s, hsi, hk, hor⟩)
        · exact ⟨_, rfl, hpos, .inr ⟨rfl, rfl⟩⟩
        · obtain rfl := Option.some.inj hsi
          exact ⟨_, rfl, hk, hor.imp_right fun h' => ⟨h'.1, rfl⟩⟩
      · rintro ⟨s, hsi, hk, hor⟩
        obtain rfl := Option.some.inj hsi
        rcases hor with hlt | ⟨heq, -⟩
        · exact .inr ⟨s₀, rfl, hk, .inl hlt⟩
        · exact .inl (Prod.ext hki heq)
    · rw [hother _ hki]
      refine ⟨fun hor => hor.resolve_left fun he => hki (by rw [he]), .inr⟩
  · exact List.nodup_cons.mpr ⟨hnotgiven, hs.given_nodup⟩
  · refine find_created hself hother (fun k' hk' => ?_) hs.find_eq k
    have hi : k'.1 = i := hk'
    simp [Slots.find, hi, hs₀, ht₀]
  · rcases hcases j s hj with ⟨rfl, rfl⟩ | ⟨-, hj⟩
    · -- the queue was longer than `N`, so `N` others were erased since this one
      have hexp : (N + 1) * (s₀.generation - 1) = (N + 1) * (s₀.generation - 2) + (N + 1) := by
        rw [← Nat.mul_succ]
        congr 1
        omega
      change (N + 1) * (s₀.generation - 1) ≤ h.erased
      omega
    · exact hs.le_erased j s hj ht
  · rw [hfree'] at hj
    have hmem : i' ∈ rest := List.mem_reverse.mp (List.mem_of_getElem? hj)
    have hne : i' ≠ i := fun he => hirest (he ▸ hmem)
    rw [hother _ hne] at hi'
    refine hs.queued j i' s ?_ hi'
    rw [hfree, List.reverse_cons, List.getElem?_append_left]
    · exact hj
    · exact (List.getElem?_eq_some_iff.mp hj).1

/-- A creation. -/
theorem Sound.create (hs : Sound N L h m) (hL : 1 ≤ L) (v : α) :
    Sound N L (h.after L (m.create N v).1 (.create v)) (m.create N v).2 := by
  unfold Slots.create
  cases hfree : m.free with
  | nil => exact hs.append hL v
  | cons i rest =>
    dsimp only
    split
    · rename_i hlong
      exact hs.reuse hfree (Nat.le_of_lt_succ hlong) v
    · exact hs.append hL v

theorem taken_create (hs : Sound N L h m) (hL : 1 ≤ L) (v : α) :
    (m.create N v).2.taken = m.taken + 1 := by
  have hlen := hs.length_eq
  have hlen' := (hs.create hL v).length_eq
  unfold Slots.create at hlen' ⊢
  cases hfree : m.free with
  | nil =>
    rw [hfree] at hlen hlen'
    simp only [Slots.append, List.length_append, List.length_singleton, hfree] at hlen' ⊢
    omega
  | cons i rest =>
    rw [hfree] at hlen hlen'
    dsimp only at hlen' ⊢
    split at hlen' <;> rename_i hlong
    · rw [length_change] at hlen'
      rw [if_pos hlong]
      have hrest : ∀ f, (({ m with free := rest } : Slots α).change i f).free.length = rest.length :=
        fun _ => rfl
      have hslots : ({ m with free := rest } : Slots α).slots = m.slots := rfl
      rw [hrest, hslots] at hlen'
      rw [List.length_cons] at hlen
      omega
    · rw [if_neg hlong]
      simp only [Slots.append, List.length_append, List.length_singleton, hfree] at hlen' ⊢
      omega

/-! ### A write, and an erasure -/

theorem find_isSome_iff (hs : Sound N L h m) (k : Key) :
    (m.find L k).isSome = (h.held k).isSome := by
  rw [hs.find_eq]

theorem Sound.write (hs : Sound N L h m) (k : Key) (v : α) :
    Sound N L (h.after L k (.write k v)) (m.write L k v) := by
  rw [KeyLedger.after_write, Slots.write, find_isSome_iff hs]
  split
  · rename_i hheld
    obtain ⟨s₀, hs₀, ht₀, hg₀, hlt⟩ := find_isSome.mp ((find_isSome_iff hs k).trans hheld)
    have hslot : ∀ (j : Nat) (s : Slot α),
        (m.change k.1 fun s => { s with value := v }).slots[j]? = some s →
          ∃ s', m.slots[j]? = some s' ∧ s.generation = s'.generation ∧ s.taken = s'.taken := by
      intro j s hj
      rcases slot_change hj with ⟨-, s', hs', rfl⟩ | ⟨-, hj⟩
      · exact ⟨s', hs', rfl, rfl⟩
      · exact ⟨s, hj, rfl, rfl⟩
    have hslot' : ∀ (j : Nat) (s : Slot α), m.slots[j]? = some s →
        ∃ s', (m.change k.1 fun s => { s with value := v }).slots[j]? = some s' ∧
          s'.generation = s.generation ∧ s'.taken = s.taken := by
      intro j s hj
      rw [getElem?_change, hj]
      split
      · exact ⟨_, rfl, rfl, rfl⟩
      · exact ⟨s, rfl, rfl, rfl⟩
    refine ⟨hs.free_nodup, fun i => ?_, ?_, fun i s hi => ?_, fun i s hi => ?_, fun k' => ?_,
      hs.given_nodup, fun k' => ?_, fun i s hi ht => ?_, fun j i s hj hi => ?_⟩
    · refine (hs.mem_free i).trans ⟨?_, ?_⟩
      · rintro ⟨s, hi, ht⟩
        obtain ⟨s', hi', -, ht'⟩ := hslot' i s hi
        exact ⟨s', hi', ht'.trans ht⟩
      · rintro ⟨s, hi, ht⟩
        obtain ⟨s', hi', -, ht'⟩ := hslot i s hi
        exact ⟨s', hi', ht'.symm.trans ht⟩
    · have htaken := taken_change (f := fun s => { s with value := v }) hs₀
      have hfree : (m.change k.1 fun s => { s with value := v }).free = m.free := rfl
      have := hs.length_eq
      rw [length_change, hfree]
      simp only at htaken
      omega
    · obtain ⟨s', hi', hg, -⟩ := hslot i s hi
      exact hg ▸ hs.generation_pos i s' hi'
    · obtain ⟨s', hi', hg, -⟩ := hslot i s hi
      exact hg ▸ hs.generation_le i s' hi'
    · refine (hs.mem_given k').trans ⟨?_, ?_⟩
      · rintro ⟨s, hi, hk⟩
        obtain ⟨s', hi', hg, ht⟩ := hslot' _ s hi
        exact ⟨s', hi', by rwa [hg, ht]⟩
      · rintro ⟨s, hi, hk⟩
        obtain ⟨s', hi', hg, ht⟩ := hslot _ s hi
        exact ⟨s', hi', by rwa [← hg, ← ht]⟩
    · change _ = Function.update h.held k (some v) k'
      by_cases hk : k' = k
      · subst hk
        rw [Function.update_self]
        refine find_eq_some.mpr ⟨{ s₀ with value := v }, ?_, ht₀, hg₀, hlt, rfl⟩
        rw [getElem?_change, if_pos rfl, hs₀]
        rfl
      · rw [Function.update_of_ne hk, ← hs.find_eq]
        by_cases hi : k'.1 = k.1
        · have hne : ¬ s₀.generation = k'.2 := fun hg => hk (Prod.ext hi (hg.symm.trans hg₀))
          simp [Slots.find, getElem?_change, hi, hs₀, hne]
        · exact find_congr (by rw [getElem?_change, if_neg (Ne.symm hi)])
    · obtain ⟨s', hi', hg, ht'⟩ := hslot i s hi
      exact hg ▸ hs.le_erased i s' hi' (ht'.symm.trans ht)
    · obtain ⟨s', hi', hg, -⟩ := hslot i s hi
      exact hg ▸ hs.queued j i s' hj hi'
  · exact hs

theorem Sound.erase (hs : Sound N L h m) (k : Key) :
    Sound N L (h.after L k (.erase k)) (m.erase L k) := by
  rw [KeyLedger.after_erase, Slots.erase, find_isSome_iff hs]
  split
  · rename_i hheld
    obtain ⟨s₀, hs₀, ht₀, hg₀, hlt⟩ := find_isSome.mp ((find_isSome_iff hs k).trans hheld)
    have hkfree : k.1 ∉ m.free := fun hmem => by
      obtain ⟨s, hi, ht⟩ := (hs.mem_free _).mp hmem
      obtain rfl := Option.some.inj (hs₀.symm.trans hi)
      rw [ht₀] at ht
      cases ht
    generalize hm' : ({ m with free := m.free ++ [k.1] } : Slots α).change k.1
      (fun s => ⟨s.generation + 1, false, s.value⟩) = m'
    have hfree : m'.free = m.free ++ [k.1] := by rw [← hm']; rfl
    have hself : m'.slots[k.1]? = some ⟨k.2 + 1, false, s₀.value⟩ := by
      rw [← hm', getElem?_change, if_pos rfl, ← hg₀]
      exact (congrArg (Option.map _) hs₀).trans rfl
    have hother : ∀ j, j ≠ k.1 → m'.slots[j]? = m.slots[j]? := by
      intro j hj
      rw [← hm', getElem?_change, if_neg (Ne.symm hj)]
    have hcases : ∀ (j : Nat) (s : Slot α), m'.slots[j]? = some s →
        (j = k.1 ∧ s = ⟨k.2 + 1, false, s₀.value⟩) ∨ (j ≠ k.1 ∧ m.slots[j]? = some s) := by
      intro j s hj
      by_cases hjk : j = k.1
      · subst hjk
        exact .inl ⟨rfl, (Option.some.inj (hself.symm.trans hj)).symm⟩
      · exact .inr ⟨hjk, (hother j hjk).symm.trans hj⟩
    have hpos := hs.generation_pos _ s₀ hs₀
    refine ⟨hfree ▸ ?_, fun i => ?_, ?_, fun i s hi => ?_, fun i s hi => ?_, fun k' => ?_,
      hs.given_nodup, fun k' => ?_, fun i s hi ht => ?_, fun j i s hj hi => ?_⟩
    · exact List.nodup_append.mpr ⟨hs.free_nodup, List.nodup_singleton _, fun a ha b hb =>
        fun hab => hkfree (List.mem_singleton.mp hb ▸ hab ▸ ha)⟩
    · rw [hfree, List.mem_append, List.mem_singleton]
      by_cases hik : i = k.1
      · subst hik
        exact iff_of_true (.inr rfl) ⟨_, hself, rfl⟩
      · rw [hother i hik, ← hs.mem_free]
        exact ⟨fun hor => hor.resolve_right hik, .inl⟩
    · have hlen := hs.length_eq
      have htaken := taken_change (f := fun s => (⟨s.generation + 1, false, s.value⟩ : Slot α))
        (m := { m with free := m.free ++ [k.1] }) hs₀
      rw [hm', ht₀] at htaken
      have hcount : ({ m with free := m.free ++ [k.1] } : Slots α).taken = m.taken := rfl
      have hlen' : m'.slots.length = m.slots.length := by rw [← hm', length_change]
      rw [hlen', hfree, List.length_append, List.length_singleton]
      simp only [if_true, Bool.false_eq_true, if_false] at htaken
      omega
    · rcases hcases i s hi with ⟨rfl, rfl⟩ | ⟨-, hi⟩
      · exact Nat.le_add_left 1 k.2
      · exact hs.generation_pos i s hi
    · rcases hcases i s hi with ⟨rfl, rfl⟩ | ⟨-, hi⟩
      · exact hlt
      · exact hs.generation_le i s hi
    · change k' ∈ h.given ↔ _
      rw [hs.mem_given]
      by_cases hi : k'.1 = k.1
      · rw [hi, hself, hs₀]
        constructor
        · rintro ⟨s, hsi, h1, hor⟩
          obtain rfl := Option.some.inj hsi
          exact ⟨_, rfl, h1, .inl (by simp only; omega)⟩
        · rintro ⟨s, hsi, h1, hor⟩
          obtain rfl := Option.some.inj hsi
          have hle : k'.2 < k.2 + 1 := hor.resolve_right fun h' => Bool.false_ne_true h'.2
          refine ⟨s₀, rfl, h1, ?_⟩
          rcases Nat.lt_or_eq_of_le (Nat.le_of_lt_succ hle) with hlt | heq
          · exact .inl (hg₀ ▸ hlt)
          · exact .inr ⟨heq.trans hg₀.symm, ht₀⟩
      · rw [hother _ hi]
    · change _ = Function.update h.held k none k'
      by_cases hi : k'.1 = k.1
      · have hnone : m'.find L k' = none := by simp [Slots.find, hi, hself]
        rw [hnone]
        by_cases hk : k' = k
        · rw [hk, Function.update_self]
        · have hne : ¬ s₀.generation = k'.2 := fun hg => hk (Prod.ext hi (hg.symm.trans hg₀))
          rw [Function.update_of_ne hk, ← hs.find_eq]
          simp [Slots.find, hi, hs₀, hne]
      · have hk : k' ≠ k := fun he => hi (by rw [he])
        rw [Function.update_of_ne hk, ← hs.find_eq]
        exact find_congr (hother _ hi)
    · rcases hcases i s hi with ⟨rfl, rfl⟩ | ⟨-, hi⟩
      · cases ht
      · exact Nat.le_succ_of_le (hs.le_erased i s hi ht)
    · rw [hfree, List.reverse_append, List.reverse_singleton, List.singleton_append] at hj
      cases j with
      | zero =>
        obtain rfl : k.1 = i := by simpa using hj
        obtain rfl := Option.some.inj (hself.symm.trans hi)
        have hage := hs.le_erased _ s₀ hs₀ ht₀
        rw [hg₀] at hage hpos
        exact ⟨Nat.succ_le_succ hpos, Nat.succ_le_succ hage⟩
      | succ j =>
        rw [List.getElem?_cons_succ] at hj
        have hmem : i ∈ m.free := List.mem_reverse.mp (List.mem_of_getElem? hj)
        have hne : i ≠ k.1 := fun he => hkfree (he ▸ hmem)
        rw [hother i hne] at hi
        obtain ⟨h2, hage⟩ := hs.queued j i s hj hi
        exact ⟨h2, by simp only; omega⟩
  · exact hs

theorem taken_erase (hs : Sound N L h m) {k : Key} (hk : (h.held k).isSome = true) :
    (m.erase L k).taken + 1 = m.taken := by
  have hlen := hs.length_eq
  have hlen' := (hs.erase k).length_eq
  unfold Slots.erase at hlen' ⊢
  rw [find_isSome_iff hs, if_pos hk] at hlen' ⊢
  have hfree : ∀ f, (({ m with free := m.free ++ [k.1] } : Slots α).change k.1 f).free.length
      = m.free.length + 1 := fun _ => by
    change (m.free ++ [k.1]).length = _
    rw [List.length_append, List.length_singleton]
  rw [length_change, hfree] at hlen'
  have hsame : ({ m with free := m.free ++ [k.1] } : Slots α).slots = m.slots := rfl
  rw [hsame] at hlen'
  omega

end GenerationalSlots
