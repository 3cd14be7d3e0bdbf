import Turtle.Session.Files

/-!
# Statements in a session

What a session does with a statement, a line of statements, and a script. A statement is typed by
the user or stands on a line of a script. In a script the text of a primitive stands for that
primitive alone, so that a saved log loads as it was, and another script cannot be loaded.

A script never runs inside another, so there are two ways to do a statement: `obeyInScript` for
the statements of a script, which has no use for loading, and `obey` for all others, which loads a
script by running its statements in the first way.
-/

namespace Turtle

/-- Where a statement came from. -/
inductive Origin where
  | user
  /-- The line of a script that has this number. -/
  | line (number : Nat)
  deriving DecidableEq, Repr

/-- A message about a statement, with the line it stands on. -/
def Origin.locate (message : String) : Origin → String
  | user => message
  | line number => "Line " ++ natText number ++ ": " ++ message

namespace Session

variable {R H : Type} [Scalar R] [Host H]

/-- Draws primitives for a statement. -/
def draw (s : Session R H) (ps : List Primitive) : Outcome × Session R H :=
  (.drawn ps.length, { s.runAll ps with dirty := true })

/-- Shows and records why a statement is refused. -/
def reject (s : Session R H) (verb : String) (origin : Origin) (e : CommandError) :
    Outcome × Session R H :=
  let message := origin.locate e.message
  (.rejected e, (s.record (.rejected message verb e.kind)).report message)

/-- Refuses to load a command file while one is being run. -/
def permit (s : Session R H) (c : Command) : Except CommandError Command :=
  if s.loading then c.checkInScript else .ok c

/-- What the program says about itself. -/
def aboutText : String := "Turtle Graphics 0.1.0"

/-- Does what is asked of the session; `load` loads a command file. -/
def request (load : Session R H → Outcome × Session R H) (s : Session R H) :
    SessionCommand → Outcome × Session R H
  | .about => (.informed, s.report aboutText)
  | .help => (.informed, s.report Verb.helpText)
  | .clear => s.clear
  | .undo => s.undo
  | .redo => s.redo
  | .saveCommands => s.saveCommands
  | .loadCommands => load s
  | .saveImage => s.saveImage
  | .loadImage => s.loadImage

/-- Does what a command asks for. -/
def execute (load : Session R H → Outcome × Session R H) (s : Session R H) :
    Command → Outcome × Session R H
  | .primitive p => s.draw [p]
  | .shape shape =>
    match shape.expand? s.pen with
    | some ps => s.draw ps
    | none => (.faulted, s)
  | .session c => s.request load c

/-- What a command stands for on a line of a script. -/
def asWritten (origin : Origin) (c : Command) : Command :=
  match origin, c.canonical? with
  | .line _, some p => .primitive p
  | _, _ => c

/-- Does a statement; `load` loads a command file. -/
def obeyWith (load : Session R H → Outcome × Session R H) (s : Session R H)
    (statement : Statement) (origin : Origin) : Outcome × Session R H :=
  match statement.validate >>= s.permit with
  | .error e => s.reject statement.verb origin e
  | .ok c => s.execute load (asWritten origin c)

/-- Does a statement of a script. Loading is refused before it could happen. -/
def obeyInScript (s : Session R H) (statement : Statement) (origin : Origin) :
    Outcome × Session R H :=
  s.obeyWith (fun s => (.cancelled, s)) statement origin

/-- Does a statement on a line of a script, and adds to the errors if it is refused. -/
def scriptStep (line : ScriptLine) (state : List LineError × Session R H)
    (statement : Statement) : List LineError × Session R H :=
  match state.2.obeyInScript statement (.line line.number) with
  | (.rejected e, s) => (state.1 ++ [line.errorAt e], s)
  | (_, s) => (state.1, s)

/-- Does the statements of a line of a script. -/
def scriptLine (state : List LineError × Session R H) (line : ScriptLine) :
    List LineError × Session R H :=
  line.statements.foldl (scriptStep line) state

/-- Runs the text of a script to its end and lists what was refused. -/
def runScript (s : Session R H) (text : String) : List LineError × Session R H :=
  let (errors, after) := (Script.read text).foldl scriptLine ([], { s with loading := true })
  (errors, { after with loading := s.loading })

/-- Loads a command file. -/
def loadCommands (s : Session R H) : Outcome × Session R H :=
  s.loadCommandsWith runScript

/-- Does a statement. -/
def obey (s : Session R H) (statement : Statement) (origin : Origin) : Outcome × Session R H :=
  s.obeyWith loadCommands statement origin

/-- Does a statement after others, and adds to their outcomes. -/
def lineStep (state : List Outcome × Session R H) (statement : Statement) :
    List Outcome × Session R H :=
  let (outcome, s) := state.2.obey statement .user
  (state.1 ++ [outcome], s)

/-- Does the statements of a line that the user typed. Each succeeds or fails on its own. -/
def runLine (s : Session R H) (line : String) : List Outcome × Session R H :=
  (Statement.readAll line).foldl lineStep ([], s)

end Session

end Turtle
