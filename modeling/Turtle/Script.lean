import Turtle.Statement
import Turtle.Text.Line
import Turtle.WholeNumber

/-!
# Scripts

A script is a text of lines with statements. A line that is blank or begins with `#` has none, and
neither has one that consists of semicolons; such lines are left out, but they count.
-/

namespace Turtle

/-- A line of a script that has statements. -/
structure ScriptLine where
  /-- The position of the line, counted from one. -/
  number : Nat
  /-- The line without the blanks around it. -/
  content : String
  statements : List Statement
  deriving DecidableEq, Repr

/-- What is wrong with a line of a script or of a settings file. -/
structure LineError where
  number : Nat
  content : String
  message : String
  deriving DecidableEq, Repr

/-- The error with the line it is about. -/
def LineError.text (e : LineError) : String :=
  "Error at line " ++ natText e.number ++ ": " ++ e.message ++ "\n  | " ++ e.content

/-- Reads one line of a script. -/
def ScriptLine.ofChars? (number : Nat) (line : List Char) : Option ScriptLine :=
  let content := Text.trim line
  if content.head? = some '#' then none
  else match Statement.ofLine content with
    | [] => none
    | statements => some ⟨number, String.ofList content, statements⟩

/-- Reads the line of a script that has a given number. -/
def ScriptLine.read? (number : Nat) (line : String) : Option ScriptLine :=
  ofChars? number line.toList

/-- The lines of a script that have statements. -/
def Script.read (text : String) : List ScriptLine :=
  (Text.numbered (Text.lines text.toList)).filterMap fun line => ScriptLine.ofChars? line.1 line.2

end Turtle
