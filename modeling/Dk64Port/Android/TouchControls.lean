import Dk64Port.Lib.SortedMap
import Mathlib.Data.BitVec
import Mathlib.Algebra.Group.Nat.Defs

/-!
# Touch controls (`TouchControls.java`, `DpadInput.java`)

A view over the game with the controls of an N64. A finger that comes down on a control owns it until it
is lifted; the buttons of the game are the masks of the owned controls, the D-pad and the stick follow
their fingers. Touches outside of the controls pass through to the menus.

Where a touch lies is an argument: `Geometry` has the comparisons of floats the code makes with it.

* `DpadInput.directions`, `DpadInput.withoutOpposites`: the D-pad.
* `TouchControls`: the view; `layout`, `reset`, `onTouchEvent`: what is done with it.
-/

namespace Dk64Port.Android

/-! ## The D-pad -/

/-- An `int` of buttons. -/
abbrev Buttons := BitVec 32

namespace DpadInput

def up : Buttons := 0x0800
def down : Buttons := 0x0400
def left : Buttons := 0x0200
def right : Buttons := 0x0100

/-- What `directions` compares: both coordinates are finite and at most 1, one of them is beyond a
quarter, each is and is not small beside the other, and their signs. -/
structure Reading where
  inside : Bool
  beyond : Bool
  horizontal : Bool
  vertical : Bool
  west : Bool
  north : Bool

/-- `directions`. -/
def directions (r : Reading) : Buttons :=
  if !r.inside then 0
  else if !r.beyond then 0
  else (if r.horizontal then if r.west then left else right else 0)
    ||| (if r.vertical then if r.north then up else down else 0)

/-- `withoutOpposites`. -/
def withoutOpposites (mask : Buttons) : Buttons :=
  let mask := if mask &&& (up ||| down) = up ||| down then mask &&& ~~~(up ||| down) else mask
  if mask &&& (left ||| right) = left ||| right then mask &&& ~~~(left ||| right) else mask

end DpadInput

/-! ## The view -/

/-- A `float`, by its bits. -/
abbrev FloatBits := BitVec 32

/-- A control: the label, the button or one of `STICK`, `VISIBILITY`, `MENU`, `DPAD`, the bounds. -/
structure Control (ρ : Type*) where
  label : String
  mask : Int
  bounds : ρ

def stickMask : Int := -1
def visibilityMask : Int := -2
def menuMask : Int := -3
def dpadMask : Int := -4

/-- The labels and masks of `layoutControls`, in the order they are hit. -/
def layoutControls : List (String × Int) :=
  [("", stickMask), ("D", dpadMask), ("A", 0x8000), ("B", 0x4000), ("Z", 0x2000), ("L", 0x0020),
    ("R", 0x0010), ("C↑", 0x0008), ("C↓", 0x0004), ("C←", 0x0002), ("C→", 0x0001), ("Start", 0x1000),
    ("Touch", visibilityMask), ("Menu", menuMask)]

/-- What the code computes from a position and the bounds of a control. -/
structure Geometry (ρ τ : Type*) where
  contains : ρ → τ → Bool
  reading : ρ → τ → DpadInput.Reading
  deflection : ρ → τ → FloatBits × FloatBits

/-- The arguments of `nativeTouchState`. -/
structure TouchState where
  buttons : Buttons
  x : FloatBits
  y : FloatBits

/-- The view. `sent` is the last `nativeTouchState`, `escapes` counts the presses of the menu key. -/
structure TouchControls (ρ : Type*) where
  controls : List (Control ρ) := []
  stick : Option (Control ρ) := none
  dpad : Option (Control ρ) := none
  pointers : SortedMap Nat (Control ρ) := {}
  dpadPointers : SortedMap Nat Buttons := {}
  visible : Bool := true
  deflected : FloatBits × FloatBits := (0, 0)
  sent : Option TouchState := none
  escapes : Nat := 0

inductive MotionAction
  | down | pointerDown | up | pointerUp | move | cancel
deriving DecidableEq

/-- A `MotionEvent`: the action, the index of its pointer, and the pointers with their positions. -/
structure MotionEvent (τ : Type*) where
  action : MotionAction
  touches : List (Nat × τ)
  index : Fin touches.length

namespace MotionEvent

variable {τ : Type*} (ev : MotionEvent τ)

/-- `getPointerId(getActionIndex())`. -/
def pointer : Nat := (ev.touches.get ev.index).1

/-- Where that pointer is. -/
def position : τ := (ev.touches.get ev.index).2

end MotionEvent

namespace TouchControls

variable {ρ τ : Type*} (g : Geometry ρ τ) (s : TouchControls ρ)

/-- The same control: those of a layout have masks of their own. -/
def same (c d : Option (Control ρ)) : Bool := c.map (·.mask) == d.map (·.mask)

/-- `dpadButtons`. -/
def dpadButtons : Buttons :=
  DpadInput.withoutOpposites (s.dpadPointers.entries.foldl (fun mask e => mask ||| e.2) 0)

/-- The arguments of `nativeTouchState` in `sendState`. -/
def state : TouchState where
  buttons := s.pointers.entries.foldl
    (fun buttons e => if 0 < e.2.mask then buttons ||| BitVec.ofInt 32 e.2.mask else buttons)
    s.dpadButtons
  x := s.deflected.1
  y := s.deflected.2

/-- `sendState`. -/
def sendState : TouchControls ρ := { s with sent := some s.state }

/-- `reset`. -/
def reset : TouchControls ρ :=
  { s with pointers := {}, dpadPointers := {}, deflected := (0, 0) }.sendState

/-- `layoutControls`; `place` gives the bounds, or the view has no size. -/
def layout (place : Option (Int → ρ)) : TouchControls ρ :=
  match place with
  | none => { s.reset with controls := [], stick := none, dpad := none }
  | some place =>
    { s.reset with
      controls := layoutControls.map fun c => ⟨c.1, c.2, place c.2⟩
      stick := some ⟨"", stickMask, place stickMask⟩
      dpad := some ⟨"D", dpadMask, place dpadMask⟩ }

/-- The control that a touch hits. -/
def hit (position : τ) : Option (Control ρ) :=
  s.controls.find? fun c => (s.visible || c.mask == visibilityMask || c.mask == menuMask)
    && g.contains c.bounds position

/-- `pointers.containsValue(stick)`. -/
def stickOwned : Bool := s.pointers.entries.any fun e => same (some e.2) s.stick

/-- A finger comes down on a control. -/
def press (pointer : Nat) (c : Control ρ) : TouchControls ρ :=
  if c.mask = visibilityMask then { s with visible := !s.visible }.reset
  else if c.mask = menuMask then { s with escapes := s.escapes + 1 }
  else if c.mask ≠ stickMask ∨ s.stickOwned = false then
    { s with pointers := s.pointers.set pointer c }
  else s

/-- A finger is lifted. -/
def release (pointer : Nat) : TouchControls ρ :=
  { s with
    pointers := s.pointers.erase pointer
    dpadPointers := s.dpadPointers.erase pointer
    deflected := if same (s.pointers.find pointer) s.stick then (0, 0) else s.deflected }

/-- The D-pad and the stick follow a finger. -/
def follow (touch : Nat × τ) : TouchControls ρ :=
  let owned := s.pointers.find touch.1
  let s := if s.dpad.isSome ∧ same owned s.dpad then
      { s with
        dpadPointers := s.dpadPointers.set touch.1
          (s.dpad.elim 0 fun c => DpadInput.directions (g.reading c.bounds touch.2)) }
    else s
  if s.stick.isSome ∧ same owned s.stick then
    { s with deflected := s.stick.elim s.deflected fun c => g.deflection c.bounds touch.2 }
  else s

/-- Every finger is followed, and the state is sent. -/
def track (touches : List (Nat × τ)) : TouchControls ρ := (touches.foldl (follow g) s).sendState

/-- `onTouchEvent`: whether the view takes the event, and the view after it. -/
def onTouchEvent (ev : MotionEvent τ) : Bool × TouchControls ρ :=
  match ev.action with
  | .down =>
    match s.hit g ev.position with
    | none => (false, s)
    | some c => (true, (s.press ev.pointer c).track g ev.touches)
  | .pointerDown =>
    match s.hit g ev.position with
    | none => (true, s.track g ev.touches)
    | some c => (true, (s.press ev.pointer c).track g ev.touches)
  | .up | .pointerUp => (true, (s.release ev.pointer).track g ev.touches)
  | .cancel => (true, s.reset.track g ev.touches)
  | .move => (true, s.track g ev.touches)

end TouchControls

end Dk64Port.Android
