import Turtle.Json

/-!
# Writing JSON

Values are written over several lines: every item of an array and every member of an object has a
line of its own, two columns further in than the brackets. An empty container is a pair of
brackets.
-/

namespace Turtle.Json

/-- The end of a line and the blanks in front of the next one. -/
def newline (depth : Nat) : Bytes :=
  0x0A :: List.replicate (2 * depth) 0x20

/-- A container: brackets around entries on lines of their own. -/
def bracketed (depth : Nat) (opening closing : UInt8) (entries : List Bytes) : Bytes :=
  match entries with
  | [] => [opening, closing]
  | _ =>
    opening :: (entries.map (newline (depth + 1) ++ ·) |>.intersperse [0x2C]).flatten
      ++ newline depth ++ [closing]

/-- The bytes of a string with its quotes. -/
def quoted (raw : Bytes) : Bytes :=
  0x22 :: raw ++ [0x22]

/-- A value, written at some depth inside others. -/
def pretty (depth : Nat) : Json → Bytes
  | null => Text.encode "null"
  | bool b => Text.encode (if b then "true" else "false")
  | number n => Text.encode (String.ofList n.write)
  | string raw => quoted raw
  | array items =>
    bracketed depth 0x5B 0x5D (items.attach.map fun item => pretty (depth + 1) item.1)
  | object members =>
    bracketed depth 0x7B 0x7D (members.attach.map fun m =>
      quoted m.1.1 ++ [0x3A, 0x20] ++ pretty (depth + 1) m.1.2)
termination_by v => sizeOf v
decreasing_by
  · have := List.sizeOf_lt_of_mem item.2
    simp only [array.sizeOf_spec]
    omega
  · have := List.sizeOf_lt_of_mem m.2
    have : sizeOf m.1.2 < sizeOf m.1 := by
      rcases m with ⟨⟨k, v⟩, h⟩
      simp only [Prod.mk.sizeOf_spec]
      omega
    simp only [object.sizeOf_spec]
    omega

/-- The bytes of a value that stands alone. -/
def write (v : Json) : Bytes :=
  pretty 0 v

end Turtle.Json
