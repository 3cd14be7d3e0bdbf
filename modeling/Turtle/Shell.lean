import Turtle.Session.Statement
import Turtle.Terminal

/-!
# The shell

The interactive program: a line of input above a session in a terminal, with the lines that were
entered before to be recalled.

* `Shell.submit` runs the line, `Shell.older` and `Shell.newer` recall earlier ones;
* `Shell.press` does what a key means, `Shell.run` takes keys until the user has quit.
-/

namespace Turtle

/-- A session in a terminal with a line of input. -/
structure Shell (R : Type) where
  session : Session R Terminal
  input : String
  /-- The lines that were entered, the first one first. -/
  history : List String
  /-- The line that is recalled, if one is. -/
  cursor : Option Nat
  quitting : Bool

namespace Shell

variable {R : Type} [Scalar R]

/-- A shell around a session. -/
def start (session : Session R Terminal) : Shell R :=
  ⟨session, "", [], none, false⟩

/-- Runs the line of input. A blank line is dropped. -/
def submit (s : Shell R) : Shell R :=
  let line := s.input
  let s := { s with input := "", cursor := none }
  if (Text.trim line.toList).isEmpty then s
  else { s with history := s.history ++ [line], session := (s.session.runLine line).2 }

/-- Shows the line of the history at a cursor; without one, an empty line. -/
def recallAt (s : Shell R) (cursor : Option Nat) : Shell R :=
  { s with cursor := cursor, input := (cursor.bind fun i => s.history[i]?).getD "" }

/-- Recalls the line before; at first, the last line. -/
def older (s : Shell R) : Shell R :=
  if s.history.isEmpty then s
  else
    match s.cursor with
    | none => s.recallAt (some (s.history.length - 1))
    | some i => s.recallAt (some (i - 1))

/-- Recalls the line behind; there is none behind the last one. -/
def newer (s : Shell R) : Shell R :=
  if s.history.isEmpty then s
  else
    match s.cursor with
    | none => s.recallAt none
    | some i => s.recallAt (if i < s.history.length - 1 then some (i + 1) else none)

/-- The question before unsaved work is left behind. -/
def quitQuestion : String :=
  "You have unsaved changes. Quit anyway?"

/-- Quits, unless the user wants to keep what has not been saved. -/
def requestQuit (s : Shell R) : Shell R :=
  if s.session.dirty then
    let (yes, world) := s.session.world.confirm quitQuestion
    { s with session := { s.session with world := world }, quitting := s.quitting || yes }
  else { s with quitting := true }

/-- Adds a character to the input. -/
def typeChar (s : Shell R) (c : Char) : Shell R :=
  { s with input := s.input.push c }

/-- Drops the last character of the input. -/
def dropChar (s : Shell R) : Shell R :=
  { s with input := String.ofList s.input.toList.dropLast }

/-- Does what a key means outside prompts. -/
def press (s : Shell R) (key : Key) : Shell R :=
  if key.pressed then
    match key.code with
    | .esc => s.requestQuit
    | .enter => s.submit
    | .up => s.older
    | .down => s.newer
    | .backspace => s.dropChar
    | .char c => if c = 'c' ∧ key.control then s.requestQuit else s.typeChar c
    | .other => s
  else s

/-- Takes the next key that is waiting. -/
def takeKey? (s : Shell R) : Option (Key × Shell R) :=
  match s.session.world.host.keys with
  | [] => none
  | key :: keys =>
    let world := s.session.world
    let host := { world.host with keys := keys }
    some (key, { s with session := { s.session with world := { world with host := host } } })

/-- Takes at most so many keys, until the user has quit. -/
def runFor : Nat → Shell R → Shell R
  | 0, s => s
  | count + 1, s =>
    if s.quitting then s
    else
      match s.takeKey? with
      | none => s
      | some (key, s) => runFor count (s.press key)

/-- Takes keys until the user has quit or no key is waiting. Every step takes at least one, so
there are no more steps than keys. -/
def run (s : Shell R) : Shell R :=
  runFor s.session.world.host.keys.length s

/-! ## What is shown -/

/-- The line about the pen, the log and unsaved work. -/
def statusLine (s : Shell R) : String :=
  let pen := s.session.pen
  let timeline := s.session.timeline
  "  Turtle Graphics   pen " ++ pen.color.text ++ " │ width " ++ writeUInt8 pen.width ++ " │ "
    ++ (if pen.down then "down" else "up") ++ "   log " ++ natText timeline.size
    ++ " │ redo " ++ natText timeline.future.length
    ++ (if s.session.dirty then "   ●" else "")

end Shell

end Turtle
