import Dk64Port.Archipelago.Checks

/-!
# Labels of a shop (`mod/shop_labels.h`)

What is shown of a shop's item comes from the names of the server, cut to two texts of 33 bytes. The
game takes only capitals, digits and blanks, ended by zeros.

* `labelTextValid`, `labelValid`: `ap_label_text_valid`, `ap_label_valid`.
* `labelTextValid_of_chars`: characters and then zeros make a valid text.
-/

namespace Dk64Port.Archipelago

open ByteLayout (Byte)

/-- `AP_LABEL_LENGTH`. -/
abbrev labelLength : Nat := 33

/-- `ap_shop_label`. -/
structure ShopLabel where
  location : Word := 0
  frames : Half := 0
  reserved : Half := 0
  item : Vector Byte labelLength := Vector.replicate _ 0
  subtitle : Vector Byte labelLength := Vector.replicate _ 0
  padding : Vector Byte 2 := Vector.replicate _ 0
deriving DecidableEq

/-- A capital, a digit or a blank. -/
def labelChar (c : Byte) : Bool :=
  decide (0x41 ≤ c ∧ c ≤ 0x5A ∨ 0x30 ≤ c ∧ c ≤ 0x39 ∨ c = 0x20)

/-- The loop of `ap_label_text_valid`: `none` where it returns, else whether it `ended` and saw
something `visible`. -/
def labelTextLoop : List Byte → Bool × Bool → Option (Bool × Bool)
  | [], seen => some seen
  | c :: text, (ended, visible) =>
    if c = 0 then labelTextLoop text (true, visible)
    else if ended || !labelChar c then none
    else labelTextLoop text (ended, visible || c != 0x20)

/-- `ap_label_text_valid`. -/
def labelTextValid (text : List Byte) (allowEmpty : Bool) : Bool :=
  match labelTextLoop text (false, false) with
  | none => false
  | some (ended, visible) => ended && (visible || allowEmpty)

/-- `ap_label_valid`. -/
def labelValid (label : ShopLabel) : Bool :=
  decide (50 ≤ label.frames ∧ label.frames ≤ 255 ∧ label.reserved = 0 ∧ label.padding[0] = 0
    ∧ label.padding[1] = 0)
  && labelTextValid label.item.toList false && labelTextValid label.subtitle.toList true

/-! ## Valid texts -/

theorem labelTextLoop_zeros (n : Nat) (ended visible : Bool) :
    labelTextLoop (List.replicate (n + 1) 0) (ended, visible) = some (true, visible) := by
  induction n generalizing ended with
  | zero => rfl
  | succ n ih =>
    rw [List.replicate_succ, labelTextLoop, if_pos rfl]
    exact ih true

theorem labelTextLoop_chars {text rest : List Byte} {visible : Bool}
    (h : ∀ c ∈ text, labelChar c = true ∧ c ≠ 0) :
    labelTextLoop (text ++ rest) (false, visible)
      = labelTextLoop rest (false, visible || text.any (· != 0x20)) := by
  induction text generalizing visible with
  | nil => rw [List.nil_append, List.any_nil, Bool.or_false]
  | cons c text ih =>
    obtain ⟨hc, h0⟩ := h c List.mem_cons_self
    rw [List.cons_append, labelTextLoop, if_neg h0, hc, List.any_cons, ← Bool.or_assoc]
    exact ih fun c' hc' => h c' (List.mem_cons_of_mem _ hc')

/-- **Characters and then zeros to the end.** -/
theorem labelTextValid_of_chars {text : List Byte} {n : Nat} {allowEmpty : Bool}
    (h : ∀ c ∈ text, labelChar c = true ∧ c ≠ 0)
    (hseen : allowEmpty = true ∨ ∃ c ∈ text, c ≠ 0x20) :
    labelTextValid (text ++ List.replicate (n + 1) 0) allowEmpty = true := by
  rw [labelTextValid, labelTextLoop_chars h, labelTextLoop_zeros]
  rcases hseen with rfl | ⟨c, hc, hne⟩
  · simp
  · have hany : text.any (· != 0x20) = true := List.any_eq_true.mpr ⟨c, hc, bne_iff_ne.mpr hne⟩
    rw [hany]
    simp

end Dk64Port.Archipelago
