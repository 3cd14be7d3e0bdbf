import Turtle.World
import Turtle.Text.Lowercase

/-!
# The console

A host that writes its messages and questions one after the other and reads a line of input for
every question. A line that is not UTF-8 is no answer, and neither is the end of the input. Output
that cannot be written is lost, and nothing else changes.

* `Console.takeLine` is the next line of the input with its end, and what follows it.
-/

namespace Turtle

/-- The input still to be read, the output so far, and whether output is lost. -/
structure Console where
  input : Bytes
  output : String
  broken : Bool
  deriving DecidableEq, Repr

namespace Console

/-- The bytes up to the first line feed and with it, and those behind it. -/
def splitLine : Bytes → Bytes × Bytes
  | [] => ([], [])
  | b :: bytes =>
    if b = 0x0A then ([b], bytes)
    else
      let (line, rest) := splitLine bytes
      (b :: line, rest)

/-- Writes a text. -/
def write (c : Console) (s : String) : Console :=
  if c.broken then c else { c with output := c.output ++ s }

/-- Takes the next line of the input, if there is one. -/
def takeLine (c : Console) : Option Bytes × Console :=
  if c.input.isEmpty then (none, c)
  else
    let (line, rest) := splitLine c.input
    (some line, { c with input := rest })

/-- The answer that a line gives, without the blanks around it. -/
def answer? (line : Bytes) : Option String :=
  (Text.decode? line).map Text.trimmed

/-- Asks for a line. -/
def ask (c : Console) (prompt : String) : Option String × Console :=
  let (line, c) := (c.write (prompt ++ " ")).takeLine
  (line.bind answer?, c)

/-- An answer that means yes. -/
def isYes (answer : String) : Bool :=
  let s := Text.lowercase answer
  s == "y" || s == "yes"

/-- Asks a question that is answered by yes or no. -/
def confirm (question : String) (c : Console) : Bool × Console :=
  let (answer, c) := c.ask (question ++ " [y/N]")
  (answer.any isYes, c)

/-- Asks for a path. -/
def pick (dialog : Dialog) (c : Console) : Option Path × Console :=
  let (answer, c) := c.ask (dialog.title ++ ":")
  ((answer.filter fun s => !s.isEmpty).map Path.ofText, c)

instance : Host Console where
  report message c := c.write (message ++ "\n")
  confirm := confirm
  pick := pick
  note line c := { c with output := c.output ++ line }
  announces _ := false

end Console

end Turtle
