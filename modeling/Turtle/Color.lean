import Turtle.WholeNumber

/-!
# Colors

A pen color has three components, any numbers of 32 bits: they are kept as they were given. What
is drawn shows them as bytes, each component moved to the nearest number between 0 and 255.

* `NamedColor` are the four colors that have a name of their own;
* `NamedColor.ofName?_name`: each is found by its name.
-/

namespace Turtle

/-- The color of a pen. -/
structure Rgb where
  red : Int32
  green : Int32
  blue : Int32
  deriving DecidableEq, Repr

/-- A color as it is shown on a canvas. -/
structure Ink where
  red : UInt8
  green : UInt8
  blue : UInt8
  deriving DecidableEq, Repr

namespace Rgb

/-- The color a new pen has. -/
def ofNewPen : Rgb := ⟨0, 0, 255⟩

/-- The nearest byte to a color component. -/
def channel (c : Int32) : UInt8 :=
  UInt8.ofNat (min c.toInt.toNat 255)

/-- The color as it is shown. -/
def ink (c : Rgb) : Ink :=
  ⟨channel c.red, channel c.green, channel c.blue⟩

/-- The three components with a space between them. -/
def text (c : Rgb) : String :=
  writeInt32 c.red ++ " " ++ writeInt32 c.green ++ " " ++ writeInt32 c.blue

end Rgb

/-- The colors that have a name. -/
inductive NamedColor where
  | red
  | green
  | pink
  | black
  deriving DecidableEq, Repr

namespace NamedColor

/-- The name of a color, as it stands in commands. -/
def name : NamedColor → String
  | red => "red"
  | green => "green"
  | pink => "pink"
  | black => "black"

/-- The components of a named color. -/
def rgb : NamedColor → Rgb
  | red => ⟨255, 0, 0⟩
  | green => ⟨0, 255, 0⟩
  | pink => ⟨255, 175, 175⟩
  | black => ⟨0, 0, 0⟩

/-- The named colors. -/
def all : List NamedColor := [red, green, pink, black]

/-- The color with a given name. -/
def ofName? (name : String) : Option NamedColor :=
  all.find? fun color => color.name == name

theorem ofName?_name (color : NamedColor) : ofName? color.name = some color := by
  cases color <;> decide

end NamedColor

end Turtle
