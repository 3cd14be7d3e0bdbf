import Turtle.Scalar
import Turtle.Color
import Turtle.Json.Parser
import Turtle.Json.Pretty

/-!
# Scenes

What has been drawn: strokes and rings, each in the order in which they were drawn. A scene is
also the content of an image file.

* `Scene.encode` are the bytes of an image, `Scene.decode?` the scene that bytes hold.
-/

namespace Turtle

/-- A place on the canvas. Home is the centre, and `y` grows upwards. -/
structure Point (R : Type) where
  x : R
  y : R
  deriving DecidableEq, Repr

/-- A straight line. -/
structure Stroke (R : Type) where
  start : Point R
  stop : Point R
  ink : Ink
  width : UInt8
  deriving DecidableEq, Repr

/-- A circle. -/
structure Ring (R : Type) where
  center : Point R
  radius : R
  ink : Ink
  width : UInt8
  deriving DecidableEq, Repr

/-- What has been drawn. -/
structure Scene (R : Type) where
  strokes : Array (Stroke R) := #[]
  rings : Array (Ring R) := #[]
  deriving DecidableEq, Repr

namespace Scene

variable {R : Type}

/-- Nothing has been drawn. -/
def isEmpty (s : Scene R) : Bool :=
  s.strokes.isEmpty && s.rings.isEmpty

/-- One scene on top of another. -/
def append (s t : Scene R) : Scene R :=
  ⟨s.strokes ++ t.strokes, s.rings ++ t.rings⟩

end Scene

/-! ## Images -/

section Image

variable {R : Type} [Scalar R]

/-- A number in an image; one that cannot be written is null. -/
def scalarJson (x : R) : Json :=
  match Scalar.toNumeral? x with
  | some n => .number n
  | none => .null

/-- The number that a value in an image stands for. -/
def scalar? : Json → Option R
  | .number n => Scalar.ofNumeral? n
  | _ => none

/-- A place in an image. -/
def Point.toJson (p : Point R) : Json :=
  .array [scalarJson p.x, scalarJson p.y]

/-- The place that a value in an image stands for. -/
def Point.ofJson? : Json → Option (Point R)
  | .array [x, y] => do return ⟨← scalar? x, ← scalar? y⟩
  | _ => none

/-- A color in an image. -/
def Ink.toJson (i : Ink) : Json :=
  .array [.ofNat i.red.toNat, .ofNat i.green.toNat, .ofNat i.blue.toNat]

/-- The color that a value in an image stands for. -/
def Ink.ofJson? : Json → Option Ink
  | .array [r, g, b] => do return ⟨← r.byte?, ← g.byte?, ← b.byte?⟩
  | _ => none

/-- A structure with given fields. -/
def fieldsJson (fields : List (String × Json)) : Json :=
  .object (fields.map fun f => (Text.encode f.1, f.2))

/-- A stroke in an image. -/
def Stroke.toJson (s : Stroke R) : Json :=
  fieldsJson [("from", s.start.toJson), ("to", s.stop.toJson), ("color", s.ink.toJson),
    ("width", .ofNat s.width.toNat)]

/-- The stroke that a value in an image stands for. -/
def Stroke.ofJson? (v : Json) : Option (Stroke R) :=
  match v.fields? ["from", "to", "color", "width"] with
  | some [start, stop, ink, width] => do
    return ⟨← Point.ofJson? start, ← Point.ofJson? stop, ← Ink.ofJson? ink, ← width.byte?⟩
  | _ => none

/-- A ring in an image. -/
def Ring.toJson (r : Ring R) : Json :=
  fieldsJson [("center", r.center.toJson), ("radius", scalarJson r.radius),
    ("color", r.ink.toJson), ("width", .ofNat r.width.toNat)]

/-- The ring that a value in an image stands for. -/
def Ring.ofJson? (v : Json) : Option (Ring R) :=
  match v.fields? ["center", "radius", "color", "width"] with
  | some [center, radius, ink, width] => do
    return ⟨← Point.ofJson? center, ← scalar? radius, ← Ink.ofJson? ink, ← width.byte?⟩
  | _ => none

namespace Scene

/-- A scene as the value that an image holds. -/
def toJson (s : Scene R) : Json :=
  fieldsJson [("strokes", .array (s.strokes.toList.map Stroke.toJson)),
    ("rings", .array (s.rings.toList.map Ring.toJson))]

/-- The scene that a value stands for. -/
def ofJson? (v : Json) : Option (Scene R) :=
  match v.fields? ["strokes", "rings"] with
  | some [strokes, rings] => do
    let strokes ← (← strokes.items?).mapM Stroke.ofJson?
    let rings ← (← rings.items?).mapM Ring.ofJson?
    return ⟨strokes.toArray, rings.toArray⟩
  | _ => none

/-- The bytes of an image. -/
def encode (s : Scene R) : Bytes :=
  s.toJson.write

/-- The scene that the bytes of an image hold. -/
def decode? (bytes : Bytes) : Option (Scene R) :=
  (Json.parse? bytes).bind ofJson?

end Scene

end Image

end Turtle
