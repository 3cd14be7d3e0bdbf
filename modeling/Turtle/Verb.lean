import Turtle.Command
import Turtle.Script

/-!
# Verbs

The table of verbs and the check of a statement against it. A statement is valid if its verb is in
the table, it has enough arguments, and those the verb reads are whole numbers in range. Arguments
that the verb does not read are not looked at.

* `Statement.validate` is the command of a statement or the first fault it has;
* `Statement.validateInScript` also refuses to load a command file;
* `Script.check` lists the faults of a script without running it.
-/

namespace Turtle

/-- What a verb needs, how it is explained, and the command it makes of its arguments. -/
structure Verb where
  name : String
  minArgs : Nat
  usage : String
  summary : String
  build : List String → Except CommandError Command

namespace Verb

/-- The argument at a position, as a whole number. -/
def wholeNumber (verb : String) (args : List String) (i : Nat) : Except CommandError Int32 :=
  match args[i]? with
  | none => .error (.missingParameter verb)
  | some value =>
    match readInt32? value with
    | none => .error (.invalidParameter verb value)
    | some n => .ok n

/-- A distance lies between 1 and 200. -/
def checkDistance (n : Int32) : Except CommandError Int32 :=
  if 1 ≤ n ∧ n ≤ 200 then .ok n else .error (.distanceOutOfRange n)

/-- The argument at a position, as a distance. -/
def distance (verb : String) (args : List String) (i : Nat) : Except CommandError Int32 :=
  wholeNumber verb args i >>= checkDistance

/-- The first argument as degrees; without arguments, a right angle. -/
def degrees (verb : String) (args : List String) : Except CommandError Int32 :=
  if args.isEmpty then .ok 90 else wholeNumber verb args 0

/-- A pen width lies between 1 and 10. -/
def checkWidth (n : Int32) : Except CommandError UInt8 :=
  if 1 ≤ n ∧ n ≤ 10 then .ok (UInt8.ofNat n.toInt.toNat) else .error (.penWidthOutOfRange n)

/-- A polygon has between 3 and 12 sides. -/
def checkSides (n : Int32) : Except CommandError Int32 :=
  if 3 ≤ n ∧ n ≤ 12 then .ok n else .error (.polygonSidesOutOfRange n)

/-! ## What each verb makes of its arguments -/

/-- A primitive with one distance. -/
def ofDistance (verb : String) (make : Int32 → Command) (args : List String) :
    Except CommandError Command :=
  make <$> distance verb args 0

/-- A turn. -/
def ofDegrees (verb : String) (make : Int32 → Primitive) (args : List String) :
    Except CommandError Command :=
  (fun n => .primitive (make n)) <$> degrees verb args

/-- A color by its three components. -/
def buildPen (args : List String) : Except CommandError Command := do
  let red ← wholeNumber "pen" args 0
  let green ← wholeNumber "pen" args 1
  let blue ← wholeNumber "pen" args 2
  return .primitive (.pen ⟨red, green, blue⟩)

/-- A pen width. -/
def buildPenWidth (args : List String) : Except CommandError Command := do
  let width ← checkWidth (← wholeNumber "penwidth" args 0)
  return .primitive (.penWidth width)

/-- A triangle with one size or three sides. -/
def buildTriangle (args : List String) : Except CommandError Command :=
  match args.length with
  | 1 => return .shape (.triangle (← distance "triangle" args 0))
  | 3 => do
    let a ← distance "triangle" args 0
    let b ← distance "triangle" args 1
    let c ← distance "triangle" args 2
    return .shape (.triangleSides a b c)
  | count => .error (.triangleArity count)

/-- A polygon. Both arguments are read before either is checked. -/
def buildPolygon (args : List String) : Except CommandError Command := do
  let sides ← wholeNumber "polygon" args 0
  let length ← wholeNumber "polygon" args 1
  let sides ← checkSides sides
  let length ← checkDistance length
  return .shape (.polygon sides length)

/-- A verb that makes one command whatever its arguments. -/
def plain (name summary : String) (command : Command) : Verb :=
  ⟨name, 0, name, summary, fun _ => .ok command⟩

/-- The verb of a named color. -/
def ofColor (color : NamedColor) : Verb :=
  plain color.name "set a named pen color" (.primitive (.color color))

/-- The verb of a request to the session. -/
def ofSession (name summary : String) (command : SessionCommand) : Verb :=
  plain name summary (.session command)

/-- All verbs, in the order in which they are explained. -/
def table : List Verb := [
  ⟨"move", 1, "move <distance>", "move forward (1-200)",
    ofDistance "move" fun d => .primitive (.move d)⟩,
  ⟨"reverse", 1, "reverse <distance>", "move backward (1-200)",
    ofDistance "reverse" fun d => .primitive (.reverse d)⟩,
  ⟨"left", 0, "left [degrees]", "turn left (default 90)", ofDegrees "left" .left⟩,
  ⟨"right", 0, "right [degrees]", "turn right (default 90)", ofDegrees "right" .right⟩,
  plain "penup" "lift the pen" (.primitive .penUp),
  plain "pendown" "lower the pen" (.primitive .penDown),
  ofColor .red,
  ofColor .green,
  ofColor .pink,
  ofColor .black,
  ⟨"pen", 3, "pen <r> <g> <b>", "set an RGB pen color", buildPen⟩,
  ⟨"penwidth", 1, "penwidth <width>", "set the stroke width (1-10)", buildPenWidth⟩,
  plain "reset" "move the turtle home" (.primitive .reset),
  ⟨"square", 1, "square <length>", "draw a square (1-200)",
    ofDistance "square" fun d => .shape (.square d)⟩,
  ⟨"triangle", 1, "triangle <size> | <a> <b> <c>", "draw a triangle (sides 1-200)",
    buildTriangle⟩,
  ⟨"circle", 1, "circle <radius>", "draw a circle (1-200)",
    ofDistance "circle" fun d => .shape (.circle d)⟩,
  ⟨"polygon", 2, "polygon <sides> <length>", "draw a polygon (3-12 sides, 1-200 length)",
    buildPolygon⟩,
  ofSession "undo" "undo the last drawing step" .undo,
  ofSession "redo" "redo the last undone step" .redo,
  ofSession "clear" "wipe the canvas and history" .clear,
  ofSession "savecmd" "save the command log to a file" .saveCommands,
  ofSession "loadcmd" "replay a command file" .loadCommands,
  ofSession "save_ig" "save the canvas as a .scene.json vector image" .saveImage,
  ofSession "load_ig" "draw a .scene.json image onto the canvas" .loadImage,
  ofSession "about" "about this program" .about,
  ofSession "help" "show this help" .help]

/-- The verb with a given name. -/
def find? (name : String) : Option Verb :=
  table.find? fun verb => verb.name == name

/-! ## The help text -/

/-- A line of the help text: the usage in a column of 30 characters, then the summary. -/
def helpLine (usage summary : String) : String :=
  "- " ++ usage ++ String.ofList (List.replicate (30 - usage.length) ' ') ++ ": " ++ summary

/-- All verbs with their usage. The named colors share a line. -/
def helpText : String :=
  let others := table.filter fun verb => (NamedColor.ofName? verb.name).isNone
  let colors := " | ".intercalate (NamedColor.all.map NamedColor.name)
  "\n".intercalate (others.map (fun verb => helpLine verb.usage verb.summary) ++
    [helpLine colors "set a named pen color", "- separate multiple commands using ;"])

end Verb

/-! ## Checking statements -/

/-- The command of a statement, or the first fault it has. -/
def Statement.validate (s : Statement) : Except CommandError Command :=
  match Verb.find? s.verb with
  | none => .error (.invalidCommand s.verb)
  | some verb =>
    if s.args.length < verb.minArgs then .error (.missingParameter verb.name)
    else verb.build s.args

/-- A command file does not load another one. -/
def Command.checkInScript : Command → Except CommandError Command
  | .session .loadCommands => .error .nestedLoad
  | command => .ok command

/-- The command of a statement in a command file, or the first fault it has. -/
def Statement.validateInScript (s : Statement) : Except CommandError Command :=
  s.validate >>= Command.checkInScript

/-- A fault of a statement, with the line of the script where it stands. -/
def ScriptLine.errorAt (line : ScriptLine) (e : CommandError) : LineError :=
  ⟨line.number, line.content, e.message⟩

/-- The faults of the statements of a line, in order. -/
def ScriptLine.check (line : ScriptLine) : List LineError :=
  line.statements.filterMap fun s =>
    match s.validateInScript with
    | .ok _ => none
    | .error e => some (line.errorAt e)

/-- The faults of all statements of a script, in order. -/
def Script.check (lines : List ScriptLine) : List LineError :=
  lines.flatMap ScriptLine.check

end Turtle
