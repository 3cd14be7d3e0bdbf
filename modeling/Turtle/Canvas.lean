import Turtle.Scene
import Turtle.Pen
import Turtle.Disk
import Turtle.Fault

/-!
# The canvas

A canvas has a size, the turtle with its position and heading, and what has been drawn. The turtle
begins at home, in the centre, and looks up; turns to the right are positive. The pen comes with
every step that may draw.

* `Canvas.step` is the place a step leads to;
* `Canvas.clear` wipes what has been drawn, `Canvas.reset` sends the turtle home;
* `Canvas.save` and `Canvas.load` keep what has been drawn in an image file; an image is drawn on
  top of what is there.
-/

namespace Turtle

/-- A surface to draw on, and the turtle on it. -/
structure Canvas (R : Type) where
  width : UInt16
  height : UInt16
  position : Point R
  heading : R
  scene : Scene R
  deriving DecidableEq, Repr

/-- Why an image cannot be saved or loaded. -/
inductive ImageError where
  | cannotCreate (path : Path) (cause : DiskError)
  /-- The file was created, and then there was no room for the image. -/
  | brokenOff
  | cannotOpen (path : Path) (cause : DiskError)
  | notAnImage (path : Path)
  deriving DecidableEq, Repr

/-- The error as it is shown. -/
def ImageError.fault : ImageError → Fault
  | cannotCreate path cause => ⟨"cannot create " ++ path.text, some cause.message⟩
  | brokenOff => .plain DiskError.noRoom.message
  | cannotOpen path cause => ⟨"cannot open " ++ path.text, some cause.message⟩
  | notAnImage path =>
    ⟨path.text ++ " is not a canvas image", some "it does not hold strokes and rings"⟩

/-- Why an image cannot be saved whose file cannot be written. -/
def ImageError.ofWrite (path : Path) : WriteError → ImageError
  | .unopened cause => cannotCreate path cause
  | .brokenOff _ => brokenOff

namespace Canvas

variable {R : Type} [Scalar R]

/-- Home, the centre of the canvas. -/
def home : Point R :=
  ⟨Scalar.zero, Scalar.zero⟩

/-- An empty canvas with the turtle at home. -/
def blank (width height : UInt16) : Canvas R :=
  ⟨width, height, home, Scalar.zero, {}⟩

/-- The place a step of some length leads to. -/
def step (p : Point R) (heading : R) (distance : Int32) : Point R :=
  let d : R := Scalar.ofInt distance.toInt
  ⟨Scalar.add p.x (Scalar.mul d (Scalar.sin heading)),
    Scalar.add p.y (Scalar.mul d (Scalar.cos heading))⟩

/-- Moves the turtle; a negative distance moves it backwards. -/
def forward (c : Canvas R) (distance : Int32) (pen : Pen) : Canvas R :=
  let stop := step c.position c.heading distance
  let scene :=
    if pen.down then
      { c.scene with
        strokes := c.scene.strokes.push ⟨c.position, stop, pen.color.ink, pen.width⟩ }
    else c.scene
  { c with position := stop, scene := scene }

/-- Turns the turtle to the right; a negative angle turns it to the left. -/
def turn (c : Canvas R) (degrees : R) : Canvas R :=
  { c with heading := Scalar.wrap (Scalar.add c.heading degrees) }

/-- Draws a circle around the turtle. -/
def circle (c : Canvas R) (radius : Int32) (pen : Pen) : Canvas R :=
  if pen.down then
    { c with
      scene := { c.scene with
        rings := c.scene.rings.push
          ⟨c.position, Scalar.ofInt radius.toInt, pen.color.ink, pen.width⟩ } }
  else c

/-- Wipes what has been drawn. -/
def clear (c : Canvas R) : Canvas R :=
  { c with scene := {} }

/-- Sends the turtle home. -/
def reset (c : Canvas R) : Canvas R :=
  { c with position := home, heading := Scalar.zero }

/-- The canvas after a primitive, drawn with a pen. -/
def apply (c : Canvas R) (pen : Pen) : Primitive → Canvas R
  | .move d => c.forward d pen
  | .reverse d => c.forward (-d) pen
  | .left d => c.turn (Scalar.neg (Scalar.ofInt d.toInt))
  | .right d => c.turn (Scalar.ofInt d.toInt)
  | .circle r => c.circle r pen
  | .reset => c.reset
  | .penUp | .penDown | .color _ | .pen _ | .penWidth _ => c

/-! ## Images -/

/-- The disk after what has been drawn was saved; if that fails, the error and the disk. -/
def save (c : Canvas R) (disk : Disk) (path : Path) : Except (ImageError × Disk) Disk :=
  match disk.write path c.scene.encode with
  | .ok disk => .ok disk
  | .error e => .error (.ofWrite path e, e.leaves disk)

/-- The canvas with an image drawn on it. A directory can be opened but holds no image. -/
def load (c : Canvas R) (disk : Disk) (path : Path) : Except ImageError (Canvas R) :=
  match disk.open? path with
  | .error e => .error (.cannotOpen path e)
  | .ok .directory => .error (.notAnImage path)
  | .ok (.file bytes) =>
    match Scene.decode? bytes with
    | none => .error (.notAnImage path)
    | some image => .ok { c with scene := c.scene.append image }

end Canvas

end Turtle
