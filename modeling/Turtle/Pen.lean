import Turtle.Primitive

/-!
# The pen

The pen the turtle carries: down or up, with a color and a width. Primitives about the pen change
it, the others leave it alone.

* `Pen.snapshot` are three primitives that set every attribute;
* `Pen.foldl_apply_snapshot`: they turn any pen into the one they were taken from.
-/

namespace Turtle

/-- The attributes of the pen. -/
structure Pen where
  down : Bool
  color : Rgb
  width : UInt8
  deriving DecidableEq, Repr

namespace Pen

/-- The pen of a session that has no settings. -/
def standard : Pen := ⟨true, Rgb.ofNewPen, 1⟩

/-- The pen after a primitive. -/
def apply (pen : Pen) : Primitive → Pen
  | .penUp => { pen with down := false }
  | .penDown => { pen with down := true }
  | .color c => { pen with color := c.rgb }
  | .pen c => { pen with color := c }
  | .penWidth w => { pen with width := w }
  | .move _ | .reverse _ | .left _ | .right _ | .circle _ | .reset => pen

/-- Primitives that set every attribute to what it is. -/
def snapshot (pen : Pen) : List Primitive :=
  [.pen pen.color, .penWidth pen.width, if pen.down then .penDown else .penUp]

/-- A snapshot makes any pen the one it was taken from. -/
theorem foldl_apply_snapshot (pen other : Pen) : pen.snapshot.foldl apply other = pen := by
  rcases pen with ⟨_ | _, color, width⟩ <;> rfl

end Pen

end Turtle
