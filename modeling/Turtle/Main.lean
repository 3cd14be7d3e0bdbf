import Std.Time.DateTime
import Turtle.Program.Reach
import Turtle.Shell.Screen
import Turtle.Terminal.Input

/-!
# The command

The program on a machine. It looks at the files that it may touch, lets `Program` do the work on
what it saw, and writes back what has changed. The journal carries the time of the start.

A script that asks nothing is run without the standard input; one that may ask is given all of it.
The shell takes the standard input as its keys and paints its screen whenever it has used them up.
-/

namespace Turtle

/-! ## The machine -/

/-- The name of a location on the machine. -/
def Location.name (l : Location) : String :=
  "/" ++ "/".intercalate (l.map Text.decodeLossy)

/-- What the machine has at a location; what cannot be read counts as absent. -/
def entryAt (l : Location) : IO (Option Entry) := do
  let path := (← IO.currentDir) / l.name
  try
    if ← path.isDir then return some .directory
    return some (.file (← IO.FS.readBinFile path).data.toList)
  catch _ => return none

/-- Adds to a disk what the machine has along some paths. -/
def survey (disk : Disk) (paths : List Path) : IO Disk := do
  let mut disk := disk
  for l in (paths ++ paths.map Path.asImage).flatMap (locationsOf disk.workdir) do
    if (disk.lookup l).isNone then
      match ← entryAt l with
      | some e => disk := disk.put l e
      | none => pure ()
  return disk

/-- The working directory of the machine with nothing in it. -/
def emptyDisk : IO Disk := do
  let workdir := (Path.ofText (← IO.currentDir).toString).components
  return ⟨(List.range (workdir.length + 1)).map fun n => (workdir.take n, .directory), workdir,
    []⟩

/-- Writes the files that have changed to the machine. -/
def install (before after : Disk) : IO Unit := do
  for (l, e) in after.entries do
    if before.lookup l ≠ some e then
      match e with
      | .file bytes => IO.FS.writeBinFile l.name ⟨bytes.toArray⟩
      | .directory => pure ()

/-- The time of the machine, to the microsecond. -/
def timeStamp : IO String := do
  let t := Std.Time.PlainDateTime.ofWallTime 
    ((← Std.Time.Timestamp.now).toWallTime Std.Time.TimeZone.Offset.zero)
  let padded (width : Nat) (n : Int) : String :=
    let digits := natText n.toNat
    String.ofList (List.replicate (width - digits.length) '0') ++ digits
  return padded 4 t.year.toInt ++ "-" ++ padded 2 t.month.val ++ "-" ++ padded 2 t.day.val
    ++ "T" ++ padded 2 t.hour.val ++ ":" ++ padded 2 t.minute.val ++ ":" ++ padded 2 t.second.val
    ++ "." ++ padded 6 (t.nanosecond.val / 1000) ++ "Z"

/-- The rest of an input. -/
partial def readRest (input : IO.FS.Stream) (seen : ByteArray) : IO ByteArray := do
  let chunk ← input.read 65536
  if chunk.isEmpty then return seen else readRest input (seen ++ chunk)

/-! ## Running -/

/-- Does what a result says and hands out its code. -/
def finish (disk : Disk) (r : Result) : IO UInt32 := do
  install disk r.disk
  (← IO.getStdout).putStr r.stdout
  (← IO.getStderr).putStr r.stderr
  return r.code

/-- Runs anything but the shell. -/
def runCommand (args : List String) (disk : Disk) (time : String) : IO UInt32 := do
  let input ←
    if (Invocation.read args).mayAsk disk then
      readRest (← IO.getStdin) .empty
    else pure .empty
  let stdin := input.data.toList
  let disk ← survey disk (pathsOfInput (Text.decodeLossy stdin))
  finish disk (Program.perform args disk time stdin [])

/-- Paints the screen of a shell. -/
def paint (s : Shell Float) : IO Unit := do
  match s.screen? 80 24 with
  | some screen =>
    let output ← IO.getStdout
    output.putStr ("\x1b[2J\x1b[H" ++ "\n".intercalate screen.rows ++ "\n")
    output.flush
  | none => pure ()

/-- Runs the shell on all input so far, and again when there is more, until the user has quit or
the input ends. -/
partial def runShell (options : Options) (disk : Disk) (time : String) (input : String) :
    IO UInt32 := do
  let disk ← survey disk (pathsOfInput input)
  let keys := Key.ofLine input.toList
  match Program.openShell options disk time keys with
  | .error _ => finish disk (Program.shell options disk time keys)
  | .ok s =>
    let s := s.run
    paint s
    let line ← if s.quitting then pure "" else (← IO.getStdin).getLine
    if line.isEmpty then finish disk (Program.shell options disk time keys)
    else runShell options disk time (input ++ line)

end Turtle

open Turtle in
/-- Does what the arguments ask for. -/
def main (args : List String) : IO UInt32 := do
  let invocation := Invocation.read args
  let time ← timeStamp
  let disk ← survey (← emptyDisk) invocation.paths
  match invocation with
  | .job options .shell => runShell options disk time ""
  | _ => runCommand args disk time
