import Turtle.Binary64.Scalar
import Turtle.CommandLine
import Turtle.Console
import Turtle.Shell

/-!
# The program

The three commands, each from its arguments and its input to its output, its exit code, and the
disk it leaves behind.

* `Program.check` looks for faults in a script, `Program.run` runs one and prints its log,
  `Program.shell` lets the user draw;
* every command first opens its journal and reads its settings.
-/

namespace Turtle

/-- What a command leaves behind. -/
structure Result where
  code : UInt32
  stdout : String
  stderr : String
  disk : Disk
  deriving DecidableEq, Repr

namespace Program

/-- The name and version of the program. -/
def versionText : String := "turtle-shell 0.1.0\n"

/-! ## The beginning of every command -/

/-- Where the journal goes that the options ask for; `otherwise` if they name no file. -/
def openSink (options : Options) (otherwise : Sink) (disk : Disk) : Except Fault (Sink × Disk) :=
  match options.logFile with
  | none => .ok (otherwise, disk)
  | some path =>
    match disk.openAppend path with
    | .ok (location, disk) => .ok (.file location, disk)
    | .error e => .error ⟨"cannot open log file " ++ path.text, some e.message⟩

/-- Records the keys of a settings file that mean nothing. -/
def recordUnknown {H : Type} [Host H] (w : World H) (path : Path) : World H :=
  match w.disk.readText path with
  | .error _ => w
  | .ok text => (Settings.unknownKeys text).foldl (fun w key => w.record (.unknownSetting key)) w

/-- The settings that the options ask for. -/
def loadSettings {H : Type} [Host H] (w : World H) (options : Options) :
    Except Fault Settings × World H :=
  match options.config with
  | none => (.ok .standard, w.record (.settings .standard))
  | some path =>
    let recorded := recordUnknown w path
    match Settings.load w.disk path with
    | .error e => (.error e, recorded)
    | .ok settings => (.ok settings, recorded.record (.settings settings))

/-- A result without a fault. -/
def success (stdout : String) (w : World Console) : Result :=
  ⟨0, stdout, w.host.output, w.disk⟩

/-- A result that ends in a fault. -/
def failure (stdout : String) (w : World Console) (fault : Fault) : Result :=
  ⟨1, stdout, w.host.output ++ fault.report, w.disk⟩

/-- Writes among the messages. -/
def note (w : World Console) (s : String) : World Console :=
  { w with host := { w.host with output := w.host.output ++ s } }

/-! ## Scripts -/

/-- How a count of bad statements is reported. -/
def countFault (count : Nat) (before : String) (path : Path) (behind : String) : Fault :=
  .plain (natText count ++ before ++ path.text ++ behind)

/-- Looks for faults in a script. -/
def check (w : World Console) (script : Path) : Result :=
  match w.disk.readText script with
  | .error e => failure "" w (.plain e.message)
  | .ok text =>
    let lines := Script.read text
    let statements := lines.flatMap ScriptLine.statements
    match Script.check lines with
    | [] =>
      success ("Script '" ++ script.text ++ "' is valid: " ++ natText lines.length ++ " lines, "
        ++ natText statements.length ++ " statements\n") w
    | errors =>
      let w := errors.foldl (fun w e => note w (e.text ++ "\n")) w
      failure "" w (countFault errors.length " invalid statement(s) in '" script "'")

/-- Saves the image that was asked for; if that fails, the fault and the world. -/
def saveImage (s : Session Float Console) (image : Option Path) :
    Except (Fault × World Console) (World Console) :=
  match image with
  | none => .ok s.world
  | some path =>
    let path := path.asImage
    match s.canvas.save s.world.disk path with
    | .error (e, disk) => .error (e.fault, { s.world with disk := disk })
    | .ok disk => .ok (note { s.world with disk := disk } ("Image saved as " ++ path.text ++ "\n"))

/-- Runs a script and prints its log. -/
def run (w : World Console) (settings : Settings) (script : Path) (image : Option Path) :
    Result :=
  match w.disk.readText script with
  | .error e => failure "" w (.plain e.message)
  | .ok text =>
    let (errors, s) := (Session.ofSettings settings w : Session Float Console).runScript text
    let stdout := Session.commandFile s.timeline.entries
    match saveImage s image with
    | .error (fault, w) => failure stdout w fault
    | .ok w =>
      if errors.isEmpty then success stdout w
      else failure stdout w (countFault errors.length " statement(s) in '" script "' failed")

/-- A command that works without a terminal. -/
def headless (options : Options) (disk : Disk) (time : String) (stdin : Bytes)
    (command : World Console → Settings → Result) : Result :=
  let console : Console := ⟨stdin, "", false⟩
  match openSink options .messages disk with
  | .error fault => failure "" ⟨console, disk, Journal.silent⟩ fault
  | .ok (sink, disk) =>
    match loadSettings ⟨console, disk, ⟨Level.ofVerbosity options.verbosity, sink, time⟩⟩
        options with
    | (.error fault, w) => failure "" w fault
    | (.ok settings, w) => command w settings

/-! ## The shell -/

/-- The shell before the first key. It keeps a journal only in a file. -/
def openShell (options : Options) (disk : Disk) (time : String) (keys : List Key) :
    Except (Fault × Disk) (Shell Float) :=
  match openSink options .nowhere disk with
  | .error fault => .error (fault, disk)
  | .ok (sink, disk) =>
    let world : World Terminal :=
      ⟨{ keys := keys }, disk, ⟨Level.ofVerbosity options.verbosity, sink, time⟩⟩
    match loadSettings world options with
    | (.error fault, w) => .error (fault, w.disk)
    | (.ok settings, w) => .ok (Shell.start (Session.ofSettings settings w))

/-- Lets the user draw until the user quits. What is painted meanwhile is not part of the
output. -/
def shell (options : Options) (disk : Disk) (time : String) (keys : List Key) : Result :=
  match openShell options disk time keys with
  | .error (fault, disk) => ⟨1, "", fault.report, disk⟩
  | .ok s => ⟨0, "", "", s.run.session.world.disk⟩

/-! ## All commands -/

/-- How the program is used. -/
def usageText : String :=
  "usage: turtle-shell [--config PATH] [--log-file PATH] [-v]... COMMAND\n" ++
  "commands: shell | run SCRIPT [--image PATH] | check SCRIPT\n"

/-- Does what the arguments ask for. -/
def perform (args : List String) (disk : Disk) (time : String) (stdin : Bytes) (keys : List Key) :
    Result :=
  match Invocation.read args with
  | .version => ⟨0, versionText, "", disk⟩
  | .help => ⟨0, usageText, "", disk⟩
  | .misused => ⟨2, "", usageText, disk⟩
  | .job options .shell => shell options disk time keys
  | .job options (.run script image) =>
    headless options disk time stdin fun w settings => run w settings script image
  | .job options (.check script) =>
    headless options disk time stdin fun w _ => check w script

end Program

end Turtle
