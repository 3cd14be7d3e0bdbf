import Turtle.Color

/-!
# Primitives

The single steps of a drawing. A primitive is what the command log holds, what is undone and
redone one at a time, and what a command file has on its lines.
-/

namespace Turtle

/-- A step of a drawing that cannot be divided. -/
inductive Primitive where
  | move (distance : Int32)
  | reverse (distance : Int32)
  | left (degrees : Int32)
  | right (degrees : Int32)
  | penUp
  | penDown
  | color (color : NamedColor)
  | pen (color : Rgb)
  | penWidth (width : UInt8)
  | circle (radius : Int32)
  | reset
  deriving DecidableEq, Repr

namespace Primitive

/-- The text of a primitive: the command that does the same. -/
def text : Primitive → String
  | move d => "move " ++ writeInt32 d
  | reverse d => "reverse " ++ writeInt32 d
  | left d => "left " ++ writeInt32 d
  | right d => "right " ++ writeInt32 d
  | penUp => "penup"
  | penDown => "pendown"
  | color c => c.name
  | pen c => "pen " ++ c.text
  | penWidth w => "penwidth " ++ writeUInt8 w
  | circle r => "circle " ++ writeInt32 r
  | reset => "reset"

end Primitive

end Turtle
