import Turtle.Session

/-!
# Files of a session

Saving and loading. A command file holds the log, a primitive on each line; an image holds what
has been drawn. Every operation first asks for a path, and without one nothing happens. What goes
wrong is shown and recorded, and changes nothing else but the file whose writing was broken off.
-/

namespace Turtle.Session

variable {R H : Type} [Scalar R] [Host H]

/-- The text of a command file. -/
def commandFile (entries : List Primitive) : String :=
  String.ofList (entries.flatMap fun p => p.text.toList ++ ['\n'])

/-- Asks for a path. -/
def pick (s : Session R H) (dialog : Dialog) : Option Path × Session R H :=
  let (path, world) := s.world.pick dialog
  (path, { s with world := world })

/-- Shows and records what went wrong. -/
def fail (s : Session R H) (what : String) (fault : Fault) : Outcome × Session R H :=
  let message := what ++ ": " ++ fault.line
  (.failed message, (s.record (.failed message)).report message)

/-- The session with another disk. -/
def withDisk (s : Session R H) (disk : Disk) : Session R H :=
  { s with world := { s.world with disk := disk } }

/-- Saves the log. -/
def saveCommands (s : Session R H) : Outcome × Session R H :=
  match s.pick .saveCommands with
  | (none, s) => (.cancelled, s)
  | (some path, s) =>
    match s.world.disk.write path (Text.encode (commandFile s.timeline.entries)) with
    | .error e =>
      (s.withDisk (e.leaves s.world.disk)).fail "Error saving file" (.plain e.cause.message)
    | .ok disk =>
      let s := (s.withDisk disk).record (.savedCommands path s.timeline.size)
      (.fileDone, { s with dirty := false }.report ("Commands saved to " ++ path.name))

/-- Loads a command file; `runScript` runs its text and counts the lines that failed. -/
def loadCommandsWith (runScript : Session R H → String → List LineError × Session R H)
    (s : Session R H) : Outcome × Session R H :=
  match s.pick .loadCommands with
  | (none, s) => (.cancelled, s)
  | (some path, s) =>
    match s.world.disk.readText path with
    | .error e => s.fail "Error loading file" (.plain e.message)
    | .ok text =>
      let (errors, s) := runScript s text
      let s := s.record (.loadedCommands path errors.length)
      (.fileDone, s.report ("Commands loaded from " ++ path.name))

/-- Saves what has been drawn. -/
def saveImage (s : Session R H) : Outcome × Session R H :=
  match s.pick .saveImage with
  | (none, s) => (.cancelled, s)
  | (some path, s) =>
    let path := path.asImage
    match s.canvas.save s.world.disk path with
    | .error (e, disk) => (s.withDisk disk).fail "Error saving image" e.fault
    | .ok disk =>
      let s := (s.withDisk disk).record (.savedImage path)
      (.fileDone, s.report ("Image saved as " ++ path.text))

/-- Draws an image onto the canvas. -/
def loadImage (s : Session R H) : Outcome × Session R H :=
  match s.pick .loadImage with
  | (none, s) => (.cancelled, s)
  | (some path, s) =>
    match s.canvas.load s.world.disk path with
    | .error e => s.fail "Error loading image" e.fault
    | .ok canvas =>
      let s := { s with canvas := canvas }.record (.loadedImage path)
      (.fileDone, { s with dirty := true }.report ("Image loaded from " ++ path.text))

end Turtle.Session
