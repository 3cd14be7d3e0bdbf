/-!
# Faults

An error that is shown to the user: what went wrong and, if it is known, what caused it.
-/

namespace Turtle

/-- What went wrong, and why. -/
structure Fault where
  text : String
  cause : Option String
  deriving DecidableEq, Repr

namespace Fault

/-- A fault without a cause. -/
def plain (text : String) : Fault := ⟨text, none⟩

/-- The fault and its cause on one line. -/
def line (f : Fault) : String :=
  match f.cause with
  | none => f.text
  | some cause => f.text ++ ": " ++ cause

/-- A text with every line moved to the right. -/
def indented (s : String) : String :=
  String.ofList (s.toList.flatMap fun c => if c = '\n' then "\n    ".toList else [c])

/-- The fault as a program shows it that ends with it. -/
def report (f : Fault) : String :=
  "Error: " ++ f.text ++ "\n" ++
    match f.cause with
    | none => ""
    | some cause => "\nCaused by:\n    " ++ indented cause ++ "\n"

end Fault

end Turtle
