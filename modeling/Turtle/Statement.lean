import Turtle.Text.Lowercase
import Turtle.Text.Blank

/-!
# Statements

A statement is a verb and its arguments: the words of a piece of text, the first of them in lower
case. Semicolons separate the statements of a line, and blank pieces are no statements.

* `Statement.readAll_append_semicolon`: the statements on two sides of a semicolon are read
  separately.
-/

namespace Turtle

/-- A verb and its arguments. -/
structure Statement where
  verb : String
  args : List String
  deriving DecidableEq, Repr

namespace Statement

/-- The statement with given words. -/
def ofWords? : List (List Char) → Option Statement
  | [] => none
  | verb :: args => some ⟨String.ofList (Text.lowerChars verb), args.map String.ofList⟩

/-- Reads a piece of text without semicolons. -/
def ofChars? (s : List Char) : Option Statement :=
  ofWords? (Text.words s)

/-- Reads one statement; a blank text has none. -/
def read? (segment : String) : Option Statement :=
  ofChars? segment.toList

/-- Reads the statements of a text with semicolons. -/
def ofLine (s : List Char) : List Statement :=
  (s.splitOn ';').filterMap ofChars?

/-- Reads the statements of a line. -/
def readAll (line : String) : List Statement :=
  ofLine line.toList

/-- A semicolon separates the statements on its two sides. -/
theorem ofLine_append_semicolon (a b : List Char) :
    ofLine (a ++ ';' :: b) = ofLine a ++ ofLine b := by
  simp [ofLine, List.splitOn_append_cons_self]

theorem readAll_append_semicolon (a b : String) :
    readAll (a ++ ";" ++ b) = readAll a ++ readAll b := by
  simp [readAll, String.toList_append, ofLine_append_semicolon]

end Statement

end Turtle
