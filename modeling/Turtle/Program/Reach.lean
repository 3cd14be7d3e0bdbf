import Turtle.Program

/-!
# What the program may touch

The files that a run of the program can read or write, and whether it can ask the user something,
as far as its arguments and its input tell. A machine has to look at no others.
-/

namespace Turtle

/-- The paths that arguments name. -/
def Invocation.paths : Invocation → List Path
  | job options .shell => options.config.toList ++ options.logFile.toList
  | job options (.check script) => script :: options.config.toList ++ options.logFile.toList
  | job options (.run script image) =>
    script :: image.toList ++ options.config.toList ++ options.logFile.toList
  | help | version | misused => []

/-- The paths that lines of the standard input may name. -/
def pathsOfInput (input : String) : List Path :=
  (Text.linesOf input).map fun line => Path.ofText (Text.trimmed line)

/-- The location a component leads to from another one, whatever is there. -/
def stepAlong (l : Location) (name : Bytes) : Location :=
  if name = Path.here then l else if name = Path.above then l.dropLast else l ++ [name]

/-- The locations that a path leads through and to. -/
def locationsOf (workdir : Location) (p : Path) : List Location :=
  let start := if p.isAbsolute then [] else workdir
  (List.range (p.components.length + 1)).map fun n => (p.components.take n).foldl stepAlong start

/-- The statement may ask the user something. -/
def Statement.mayAsk (s : Statement) : Bool :=
  match s.validate with
  | .ok (.session c) => c ∉ [.about, .help, .undo, .redo]
  | _ => false

/-- The invocation may ask the user something while it runs a script. -/
def Invocation.mayAsk (disk : Disk) : Invocation → Bool
  | job _ (.run script _) =>
    match disk.readText script with
    | .ok text => (Script.read text).any fun line => line.statements.any Statement.mayAsk
    | .error _ => false
  | _ => false

end Turtle
