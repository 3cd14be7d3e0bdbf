import Turtle.Canvas
import Turtle.Timeline
import Turtle.World

/-!
# Sessions

A session keeps three things in step: the pen, the canvas, and the timeline. Every primitive goes
the same way: it changes the pen, is drawn, and is added to the timeline. To undo one, the canvas
is wiped and the rest of the log goes that way again.

* `Session.run` does one primitive, `Session.runAll` several;
* `Session.undo`, `Session.redo` and `Session.clear` work on the timeline as a whole.
-/

namespace Turtle

/-- What a statement did. -/
inductive Outcome where
  /-- So many primitives were drawn. -/
  | drawn (count : Nat)
  | undone
  | redone
  | cleared
  /-- There was nothing to undo or redo. -/
  | noOp
  /-- A message was shown. -/
  | informed
  | fileDone
  /-- The user said no, or gave no path. -/
  | cancelled
  | rejected (e : CommandError)
  | failed (message : String)
  /-- A shape without sides was to be drawn. No valid statement asks for one. -/
  | faulted
  deriving DecidableEq, Repr

/-- A drawing in progress. -/
structure Session (R H : Type) where
  canvas : Canvas R
  /-- The pen as it is. -/
  pen : Pen
  /-- The pen that the session began with and that it returns to. -/
  defaults : Pen
  timeline : Timeline
  /-- Something has changed since it was saved. -/
  dirty : Bool
  /-- A command file is being run. -/
  loading : Bool
  world : World H

namespace Session

variable {R H : Type} [Scalar R] [Host H]

/-- A session that begins on a canvas. -/
def start (canvas : Canvas R) (defaults : Pen) (world : World H) : Session R H :=
  ⟨canvas, defaults, defaults, {}, false, false, world⟩

/-- A session with an empty canvas, as the settings want it. -/
def ofSettings (settings : Settings) (world : World H) : Session R H :=
  start (Canvas.blank settings.canvasWidth settings.canvasHeight) settings.pen world

/-- Records an event. -/
def record (s : Session R H) (e : Event) : Session R H :=
  { s with world := s.world.record e }

/-- Shows a message. -/
def report (s : Session R H) (message : String) : Session R H :=
  { s with world := s.world.report message }

/-- Does one primitive. -/
def run (s : Session R H) (p : Primitive) : Session R H :=
  let pen := s.pen.apply p
  let timeline := s.timeline.push p
  { s with
    pen := pen
    canvas := s.canvas.apply pen p
    timeline := timeline
    world := s.world.record (.applied p timeline.replaying) }

/-- Does several primitives. -/
def runAll (s : Session R H) (ps : List Primitive) : Session R H :=
  ps.foldl run s

/-- An empty canvas, the turtle at home, and the pen of the beginning. -/
def restart (s : Session R H) : Session R H :=
  { s with canvas := s.canvas.clear.reset, pen := s.defaults }

/-- Ends playing primitives again. -/
def endReplay (s : Session R H) : Session R H :=
  { s with timeline := s.timeline.endReplay, dirty := true }

/-- Takes back the last primitive. -/
def undo (s : Session R H) : Outcome × Session R H :=
  match s.timeline.beginUndo? with
  | none => (.noOp, s)
  | some (rest, timeline) =>
    let s := { s with timeline := timeline }.record (.undo rest.length)
    (.undone, (s.restart.runAll rest).endReplay)

/-- Does the primitive again that was taken back last. -/
def redo (s : Session R H) : Outcome × Session R H :=
  match s.timeline.beginRedo? with
  | none => (.noOp, s)
  | some (p, timeline) =>
    let s := { s with timeline := timeline }.record (.redo p)
    (.redone, (s.run p).endReplay)

/-- The question before unsaved work is thrown away. -/
def clearQuestion : String :=
  "You have unsaved changes. Clear anyway?"

/-- Throws everything away. -/
def wipe (s : Session R H) : Session R H :=
  let s := s.record (.clear s.timeline.size)
  { s.restart with timeline := {}, dirty := false }

/-- Throws everything away, unless the user wants to keep what has not been saved. -/
def clear (s : Session R H) : Outcome × Session R H :=
  if s.dirty then
    let (yes, world) := s.world.confirm clearQuestion
    let s := { s with world := world }
    if yes then (.cleared, s.wipe) else (.cancelled, s)
  else (.cleared, s.wipe)

end Session

end Turtle
