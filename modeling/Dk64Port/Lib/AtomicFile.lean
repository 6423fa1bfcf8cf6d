import Mathlib.Tactic.Common

/-!
# Replacing a file

A file is replaced by writing a temporary one beside it and renaming that over it. Every step may
fail, and a crash may fall between any two of them. `steps` lists the disk after each step.

* `target_of_mem_steps`: at every point the file has its old content or all of the new one.
* `replace_of_succeeds`, `replace_of_fails`: the end of a replacement.
-/

namespace AtomicFile

variable {β : Type*}

/-- A file and the temporary one beside it. -/
structure Disk (β : Type*) where
  target : Option (List β) := none
  temporary : Option (List β) := none

/-- What the system does with one replacement. -/
structure Attempt where
  opens : Bool := true
  /-- The bytes written before the write stops short. -/
  short : Option Nat := none
  synced : Bool := true
  closed : Bool := true
  renamed : Bool := true
  /-- A failed replacement removes its temporary file. -/
  removed : Bool := true

/-- Every step up to the rename goes well. -/
def Attempt.succeeds (a : Attempt) : Bool :=
  a.opens && a.short.isNone && a.synced && a.closed && a.renamed

/-- The bytes that reach the temporary file. -/
def Attempt.written (a : Attempt) (bytes : List β) : List β :=
  match a.short with
  | none => bytes
  | some n => bytes.take n

/-- The end of a replacement that opened its temporary file. -/
def Disk.settle (a : Attempt) (d : Disk β) : Disk β :=
  if a.succeeds then { target := d.temporary }
  else if a.removed then { d with temporary := none }
  else d

/-- The disk after each step of a replacement. -/
def Disk.steps (a : Attempt) (bytes : List β) (d : Disk β) : List (Disk β) :=
  if a.opens then
    let empty : Disk β := { d with temporary := some [] }
    let full : Disk β := { d with temporary := some (a.written bytes) }
    [empty, full, full.settle a]
  else []

/-- The disk after a replacement. -/
def Disk.replace (a : Attempt) (bytes : List β) (d : Disk β) : Disk β :=
  if a.opens then ({ d with temporary := some (a.written bytes) } : Disk β).settle a else d

variable {a : Attempt} {bytes : List β} {d d' : Disk β}

theorem written_of_succeeds (h : a.succeeds = true) : a.written bytes = bytes := by
  simp only [Attempt.succeeds, Bool.and_eq_true, Option.isNone_iff_eq_none] at h
  rw [Attempt.written, h.1.1.1.2]

theorem opens_of_succeeds (h : a.succeeds = true) : a.opens = true := by
  simp only [Attempt.succeeds, Bool.and_eq_true] at h
  exact h.1.1.1.1

theorem target_settle_of_fails (h : a.succeeds = false) : (d.settle a).target = d.target := by
  unfold Disk.settle
  rw [h, if_neg Bool.false_ne_true]
  split <;> rfl

/-- A replacement that succeeds leaves the new content. -/
theorem replace_of_succeeds (h : a.succeeds = true) : (d.replace a bytes).target = some bytes := by
  rw [Disk.replace, if_pos (opens_of_succeeds h), Disk.settle, if_pos h, written_of_succeeds h]

/-- A replacement that fails leaves the old content. -/
theorem replace_of_fails (h : a.succeeds = false) : (d.replace a bytes).target = d.target := by
  unfold Disk.replace
  split
  · exact target_settle_of_fails h
  · rfl

/-- **At every point of a replacement the file has its old content, or all of the new one.** -/
theorem target_of_mem_steps (h : d' ∈ d.steps a bytes) :
    d'.target = d.target ∨ a.succeeds = true ∧ d'.target = some bytes := by
  unfold Disk.steps at h
  by_cases hopens : a.opens = true
  · rw [if_pos hopens] at h
    simp only [List.mem_cons, List.not_mem_nil, or_false] at h
    rcases h with rfl | rfl | rfl
    · exact .inl rfl
    · exact .inl rfl
    · cases hsucceeds : a.succeeds with
      | true =>
        refine .inr ⟨rfl, ?_⟩
        rw [Disk.settle, if_pos hsucceeds, written_of_succeeds hsucceeds]
      | false => exact .inl (target_settle_of_fails hsucceeds)
  · rw [if_neg hopens] at h
    cases h

end AtomicFile
