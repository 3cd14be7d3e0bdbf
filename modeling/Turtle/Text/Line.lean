import Turtle.Text.Blank

/-!
# Lines

A line ends at a line feed, or at a carriage return and a line feed. A carriage return anywhere
else is an ordinary character, and the text after the last line feed is a line of its own unless
it is empty.
-/

namespace Turtle.Text

/-- A line as it stood in front of its line feed, without the carriage return at its end. -/
def stripReturn (line : List Char) : List Char :=
  if line.getLast? = some '\r' then line.dropLast else line

/-- The lines of a text, in order, without their ends. -/
def lines (s : List Char) : List (List Char) :=
  let pieces := s.splitOn '\n'
  pieces.dropLast.map stripReturn ++ (pieces.getLast?.toList.filter fun line => !line.isEmpty)

/-- The lines of a string, in order, without their ends. -/
def linesOf (s : String) : List String :=
  (lines s.toList).map String.ofList

/-- The items of a list, each with its position counted from one. -/
def numbered {α : Type} (items : List α) : List (Nat × α) :=
  items.zipIdx.map fun item => (item.2 + 1, item.1)

@[simp]
theorem lines_nil : lines [] = [] := by
  simp [lines]

end Turtle.Text
