import Turtle.Journal

/-!
# The world of a session

What a session deals with outside its drawing: a host that talks to the user, the disk, and the
journal. A host may be anything that takes messages and answers questions.
-/

namespace Turtle

/-- A question for a path. -/
inductive Dialog where
  | saveCommands
  | loadCommands
  | saveImage
  | loadImage
  deriving DecidableEq, Repr

namespace Dialog

/-- What the user is asked for. -/
def title : Dialog → String
  | saveCommands => "Save Command File"
  | loadCommands => "Load Command File"
  | saveImage => "Save Image"
  | loadImage => "Load Image"

/-- The path is one to write to. -/
def isSave : Dialog → Bool
  | saveCommands | saveImage => true
  | loadCommands | loadImage => false

end Dialog

/-- Those who talk to the user. -/
class Host (H : Type) where
  /-- Shows a message. -/
  report : String → H → H
  /-- Asks a question that is answered by yes or no. -/
  confirm : String → H → Bool × H
  /-- Asks for a path; without an answer there is none. -/
  pick : Dialog → H → Option Path × H
  /-- Writes a line of the journal among the messages. -/
  note : String → H → H
  /-- Messages are events for the journal. -/
  announces : H → Bool

/-- A host, the disk and the journal. -/
structure World (H : Type) where
  host : H
  disk : Disk
  journal : Journal

namespace World

variable {H : Type} [Host H]

/-- Records an event, if the journal keeps it. -/
def record (w : World H) (e : Event) : World H :=
  if w.journal.keeps e then
    match w.journal.sink with
    | .nowhere => w
    | .messages => { w with host := Host.note (w.journal.line e) w.host }
    | .file location =>
      { w with disk := w.disk.append location (Text.encode (w.journal.line e)) }
  else w

/-- Shows a message. -/
def report (w : World H) (message : String) : World H :=
  let w := if Host.announces w.host then w.record (.report message) else w
  { w with host := Host.report message w.host }

/-- Asks a question that is answered by yes or no. -/
def confirm (w : World H) (question : String) : Bool × World H :=
  let (answer, host) := Host.confirm question w.host
  (answer, { w with host := host })

/-- Asks for a path. -/
def pick (w : World H) (dialog : Dialog) : Option Path × World H :=
  let (path, host) := Host.pick dialog w.host
  (path, { w with host := host })

end World

end Turtle
