import Turtle.Primitive
import Turtle.Json.Parser

/-!
# Primitives as records

Primitives in JSON. One without details is its name; any other is an object with the name as its
only key and the details as the value. A name may also be a key, with null for its value.
-/

namespace Turtle

/-- An integer of 32 bits in JSON. -/
def Json.int32? : Json → Option Int32
  | .number n => n.integer?.bind int32OfInt?
  | _ => none

/-- The number of an integer. -/
def Json.ofInt (n : Int) : Json :=
  .number { Numeral.ofNat n.natAbs with negative := n < 0 }

/-- A name as a string. -/
def Json.ofName (name : String) : Json :=
  .string (Text.encode name)

/-- The name of a record, and its details if it has any. -/
def Json.record? : Json → Option (String × Option Json)
  | .string raw => (Json.decodeString? raw).map fun name => (name, none)
  | .object [(key, value)] => (Json.decodeString? key).map fun name => (name, some value)
  | _ => none

/-- There are no details: none at all, or null. -/
def Json.noDetails : Option Json → Bool
  | none | some .null => true
  | some _ => false

/-- The color that a value in JSON stands for. -/
def Rgb.ofJson? (v : Json) : Option Rgb :=
  match v.fields? ["r", "g", "b"] with
  | some [r, g, b] => do return ⟨← r.int32?, ← g.int32?, ← b.int32?⟩
  | _ => none

/-- A color in JSON. -/
def Rgb.toJson (c : Rgb) : Json :=
  .object ([("r", c.red), ("g", c.green), ("b", c.blue)].map fun m =>
    (Text.encode m.1, .ofInt m.2.toInt))

namespace NamedColor

/-- The name of a color in JSON. -/
def recordName : NamedColor → String
  | red => "Red"
  | green => "Green"
  | pink => "Pink"
  | black => "Black"

/-- The named color that a value in JSON stands for. -/
def ofJson? (v : Json) : Option NamedColor := do
  let (name, details) ← v.record?
  guard (Json.noDetails details)
  all.find? fun c => c.recordName == name

end NamedColor

namespace Primitive

/-- A record with a name and details. -/
def detailed (name : String) (details : Json) : Json :=
  .object [(Text.encode name, details)]

/-- A primitive in JSON. -/
def toJson : Primitive → Json
  | move d => detailed "Move" (.ofInt d.toInt)
  | reverse d => detailed "Reverse" (.ofInt d.toInt)
  | left d => detailed "Left" (.ofInt d.toInt)
  | right d => detailed "Right" (.ofInt d.toInt)
  | penUp => .ofName "PenUp"
  | penDown => .ofName "PenDown"
  | color c => detailed "Color" (.ofName c.recordName)
  | pen c => detailed "Pen" c.toJson
  | penWidth w => detailed "PenWidth" (.ofNat w.toNat)
  | circle r => detailed "Circle" (.ofInt r.toInt)
  | reset => .ofName "Reset"

/-- A primitive with details by its name. -/
def ofDetails? (name : String) (details : Json) : Option Primitive :=
  match name with
  | "Move" => details.int32?.map move
  | "Reverse" => details.int32?.map reverse
  | "Left" => details.int32?.map left
  | "Right" => details.int32?.map right
  | "Color" => (NamedColor.ofJson? details).map color
  | "Pen" => (Rgb.ofJson? details).map pen
  | "PenWidth" => details.byte?.map penWidth
  | "Circle" => details.int32?.map circle
  | _ => none

/-- A primitive without details by its name. -/
def ofName? (name : String) : Option Primitive :=
  match name with
  | "PenUp" => some penUp
  | "PenDown" => some penDown
  | "Reset" => some reset
  | _ => none

/-- The primitive that a value in JSON stands for. -/
def ofJson? (v : Json) : Option Primitive := do
  let (name, details) ← v.record?
  match ofName? name with
  | some p => if Json.noDetails details then some p else none
  | none => ofDetails? name (← details)

end Primitive

end Turtle
