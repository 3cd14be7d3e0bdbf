import Mathlib.Data.List.Forall2
import Mathlib.Data.List.Induction
import Turtle.Proofs.Canvas.Course
import Turtle.Proofs.Session.Replay

/-!
# What is drawn is what the log says

A log says everything about the picture that it draws. An entry that goes a step leaves a stroke if
the pen is down, and a circle leaves a ring. How the pen is, is said by the entries before: by the
last one that lifts or lowers it, the last one that sets its color and the last one that sets its
width, each on its own.

* `lastSet` is what the last entry of a log that says something has said, and
  `Pen.foldl_apply_eq_lastSet` that the pen is so in every respect;
* `LogEntry.LeavesStroke` and `LogEntry.LeavesRing` say what an entry leaves on a canvas;
* `Session.picture_follows_log`: these are the strokes and rings of a session, one for each entry
  that leaves one, in order.
-/

namespace Turtle

/-! ## How the pen is -/

namespace Primitive

/-- Whether the pen is down, for a primitive that says so. -/
def setsDown? : Primitive → Option Bool
  | penUp => some false
  | penDown => some true
  | _ => none

/-- The color of the pen, for a primitive that says it. -/
def setsColor? : Primitive → Option Rgb
  | color c => some c.rgb
  | pen c => some c
  | _ => none

/-- The width of the pen, for a primitive that says it. -/
def setsWidth? : Primitive → Option UInt8
  | penWidth w => some w
  | _ => none

/-- A primitive that goes a step, forwards or backwards. -/
def goes : Primitive → Bool
  | move _ | reverse _ => true
  | _ => false

/-- A primitive that draws a circle. -/
def isCircle : Primitive → Bool
  | circle _ => true
  | _ => false

end Primitive

/-- What was said last in a log; what holds at the beginning if it says nothing. -/
def lastSet {α : Type} (sets : Primitive → Option α) (beginning : α) (log : List Primitive) : α :=
  (log.reverse.findSome? sets).getD beginning

theorem lastSet_concat {α : Type} (sets : Primitive → Option α) (beginning : α)
    (log : List Primitive) (p : Primitive) :
    lastSet sets beginning (log ++ [p]) = (sets p).getD (lastSet sets beginning log) := by
  rw [lastSet, List.reverse_concat, List.findSome?_cons, lastSet]
  cases sets p <;> rfl

/-- In every respect the pen is as was said last. -/
theorem Pen.foldl_apply_eq_lastSet (pen : Pen) (log : List Primitive) :
    log.foldl apply pen = ⟨lastSet Primitive.setsDown? pen.down log,
      lastSet Primitive.setsColor? pen.color log, lastSet Primitive.setsWidth? pen.width log⟩ := by
  induction log using List.reverseRecOn with
  | nil => rfl
  | append_singleton log p ih =>
    rw [List.foldl_concat, ih, lastSet_concat, lastSet_concat, lastSet_concat]
    cases p <;> rfl

/-- A primitive that leaves something on a canvas says nothing about the pen. -/
theorem Pen.apply_of_goes (pen : Pen) {p : Primitive} (h : p.goes = true) : pen.apply p = pen := by
  cases p with
  | move _ | reverse _ => rfl
  | _ => cases h

/-! ## Entries of a log -/

/-- An entry of a log, and the entries before it. -/
structure LogEntry where
  before : List Primitive
  step : Primitive

namespace LogEntry

/-- The entries of a log, in order. -/
def ofLog (log : List Primitive) : List LogEntry :=
  log.mapIdx fun i p => ⟨log.take i, p⟩

theorem ofLog_concat (log : List Primitive) (p : Primitive) :
    ofLog (log ++ [p]) = ofLog log ++ [⟨log, p⟩] := by
  have hbefore : (log.mapIdx fun i q => (⟨(log ++ [p]).take i, q⟩ : LogEntry)) = ofLog log := by
    refine List.ext_getElem (by simp [ofLog]) fun i hi _ => ?_
    have hi : i ≤ log.length := Nat.le_of_lt (by simpa using hi)
    simp [ofLog, List.take_append_of_le_length hi]
  rw [ofLog, List.mapIdx_concat, hbefore, List.take_left]

/-- The pen is down at an entry. -/
def isDown (defaults : Pen) (e : LogEntry) : Bool :=
  lastSet Primitive.setsDown? defaults.down e.before

/-- The color of the pen at an entry. -/
def color (defaults : Pen) (e : LogEntry) : Rgb :=
  lastSet Primitive.setsColor? defaults.color e.before

/-- The width of the pen at an entry. -/
def width (defaults : Pen) (e : LogEntry) : UInt8 :=
  lastSet Primitive.setsWidth? defaults.width e.before

end LogEntry

/-- Each component of a color is shown as the nearest number between 0 and 255. -/
structure Ink.Shows (i : Ink) (c : Rgb) : Prop where
  red : (i.red.toNat : Int) = max 0 (min c.red.toInt 255)
  green : (i.green.toNat : Int) = max 0 (min c.green.toInt 255)
  blue : (i.blue.toNat : Int) = max 0 (min c.blue.toInt 255)

theorem Rgb.toNat_channel (c : Int32) :
    ((channel c).toNat : Int) = max 0 (min c.toInt 255) := by
  rw [channel, UInt8.toNat_ofNat']
  omega

theorem Rgb.shows_ink (c : Rgb) : c.ink.Shows c :=
  ⟨toNat_channel _, toNat_channel _, toNat_channel _⟩

namespace LogEntry

variable {R : Type} [Scalar R]

/-- The stroke that an entry leaves: from where the entries before have led to where the entry
    itself leads, with the pen as it is. -/
structure LeavesStroke (defaults : Pen) (e : LogEntry) (s : Stroke R) : Prop where
  start : s.start = (Course.ofLog e.before).position
  stop : s.stop = (Course.ofLog (e.before ++ [e.step])).position
  ink : s.ink.Shows (e.color defaults)
  width : s.width = e.width defaults

/-- The ring that an entry leaves: around the place to which the entries before have led, with the
    pen as it is. -/
structure LeavesRing (defaults : Pen) (e : LogEntry) (r : Ring R) : Prop where
  center : r.center = (Course.ofLog e.before).position
  radius : ∃ n, e.step = .circle n ∧ r.radius = Scalar.ofInt n.toInt
  ink : r.ink.Shows (e.color defaults)
  width : r.width = e.width defaults

end LogEntry

/-! ## Strokes and rings -/

namespace Canvas

variable {R : Type} [Scalar R]

/-- The stroke that a primitive adds, if it adds one. -/
def newStrokes (c : Canvas R) (pen : Pen) (p : Primitive) : List (Stroke R) :=
  if p.goes && pen.down then
    [⟨c.position, (c.course.after p).position, pen.color.ink, pen.width⟩]
  else []

/-- The ring that a primitive adds, if it adds one. -/
def newRings (c : Canvas R) (pen : Pen) : Primitive → List (Ring R)
  | .circle r =>
    if pen.down then [⟨c.position, Scalar.ofInt r.toInt, pen.color.ink, pen.width⟩] else []
  | _ => []

theorem strokes_apply (c : Canvas R) (pen : Pen) (p : Primitive) :
    (c.apply pen p).scene.strokes.toList = c.scene.strokes.toList ++ c.newStrokes pen p := by
  have forward (d : Int32) : (c.forward d pen).scene.strokes.toList = c.scene.strokes.toList ++
      if pen.down then [⟨c.position, step c.position c.heading d, pen.color.ink, pen.width⟩]
      else [] := by
    rw [Canvas.forward]
    split <;> simp
  cases p with
  | move d => exact forward d
  | reverse d => exact forward (-d)
  | circle r =>
    rw [apply, circle]
    split <;> exact (List.append_nil _).symm
  | _ => exact (List.append_nil _).symm

theorem rings_apply (c : Canvas R) (pen : Pen) (p : Primitive) :
    (c.apply pen p).scene.rings.toList = c.scene.rings.toList ++ c.newRings pen p := by
  have forward (d : Int32) : (c.forward d pen).scene.rings = c.scene.rings := by
    rw [Canvas.forward]
    split <;> rfl
  cases p with
  | move d => simp [apply, forward, newRings]
  | reverse d => simp [apply, forward, newRings]
  | circle r =>
    rw [apply, circle, newRings]
    split <;> simp
  | _ => exact (List.append_nil _).symm

/-- What is drawn with one primitive more. -/
theorem applyAll_concat (c : Canvas R) (pen : Pen) (log : List Primitive) (p : Primitive) :
    c.applyAll pen (log ++ [p]) =
      (c.applyAll pen log).apply ((log.foldl Pen.apply pen).apply p) p := by
  rw [applyAll_append]
  rfl

section Entry

variable {c : Canvas R} {defaults : Pen} {log : List Primitive}
  (hcourse : c.course = Course.ofLog log)
include hcourse

/-- Behind a log, a primitive adds the stroke that it leaves as an entry. -/
theorem leavesStroke_newStrokes (p : Primitive) :
    List.Forall₂ (LogEntry.LeavesStroke defaults)
      ([⟨log, p⟩].filter fun e => e.step.goes && e.isDown defaults)
      (c.newStrokes ((log.foldl Pen.apply defaults).apply p) p) := by
  have hposition : c.position = (Course.ofLog log).position := congrArg Course.position hcourse
  rw [newStrokes, List.filter_singleton]
  cases hgoes : p.goes with
  | false => exact .nil
  | true =>
    rw [Pen.apply_of_goes _ hgoes, Pen.foldl_apply_eq_lastSet]
    cases hdown : lastSet Primitive.setsDown? defaults.down log with
    | false => simp [LogEntry.isDown, hdown]
    | true =>
      simp only [LogEntry.isDown, hdown, Bool.and_self, if_true]
      refine .cons ⟨hposition, ?_, Rgb.shows_ink _, rfl⟩ .nil
      rw [hcourse, Course.ofLog_concat]

/-- Behind a log, a primitive adds the ring that it leaves as an entry. -/
theorem leavesRing_newRings (p : Primitive) :
    List.Forall₂ (LogEntry.LeavesRing defaults)
      ([⟨log, p⟩].filter fun e => e.step.isCircle && e.isDown defaults)
      (c.newRings ((log.foldl Pen.apply defaults).apply p) p) := by
  have hposition : c.position = (Course.ofLog log).position := congrArg Course.position hcourse
  cases p with
  | circle r =>
    rw [newRings, List.filter_singleton, Pen.apply, Pen.foldl_apply_eq_lastSet]
    cases hdown : lastSet Primitive.setsDown? defaults.down log with
    | false => simp [LogEntry.isDown, hdown]
    | true =>
      simp only [LogEntry.isDown, hdown, Primitive.isCircle, Bool.and_self, if_true]
      exact .cons ⟨hposition, ⟨r, rfl, rfl⟩, Rgb.shows_ink _, rfl⟩ .nil
  | _ => exact .nil

end Entry

/-- From a blank canvas on, the entries of a log leave the strokes and rings that there are. -/
theorem forall₂_applyAll (width height : UInt16) (defaults : Pen) (log : List Primitive) :
    let c := (blank width height : Canvas R).applyAll defaults log
    List.Forall₂ (LogEntry.LeavesStroke defaults)
        ((LogEntry.ofLog log).filter fun e => e.step.goes && e.isDown defaults)
        c.scene.strokes.toList ∧
      List.Forall₂ (LogEntry.LeavesRing defaults)
        ((LogEntry.ofLog log).filter fun e => e.step.isCircle && e.isDown defaults)
        c.scene.rings.toList := by
  induction log using List.reverseRecOn with
  | nil => exact ⟨.nil, .nil⟩
  | append_singleton log p ih =>
    obtain ⟨hstrokes, hrings⟩ := ih
    have hcourse := course_applyAll (blank width height : Canvas R) defaults log
    dsimp only
    rw [LogEntry.ofLog_concat, List.filter_append, List.filter_append, applyAll_concat,
      strokes_apply, rings_apply]
    exact ⟨List.rel_append hstrokes (leavesStroke_newStrokes hcourse p),
      List.rel_append hrings (leavesRing_newRings hcourse p)⟩

end Canvas

namespace Session

variable {R H : Type} [Scalar R] [Host H]

/-- Whatever is run from a blank canvas, with whatever pen, the picture is what the log says. There
    is one stroke for each entry that goes a step with the pen down, and one ring for each circle
    with the pen down, in order; no other entry leaves anything. -/
theorem picture_follows_log (width height : UInt16) (defaults : Pen) (w : World H)
    (log : List Primitive) :
    let s := (start (Canvas.blank width height : Canvas R) defaults w).runAll log
    s.timeline.entries = log ∧ s.canvas.course = Course.ofLog log ∧
      List.Forall₂ (LogEntry.LeavesStroke defaults)
        ((LogEntry.ofLog log).filter fun e => e.step.goes && e.isDown defaults)
        s.canvas.scene.strokes.toList ∧
      List.Forall₂ (LogEntry.LeavesRing defaults)
        ((LogEntry.ofLog log).filter fun e => e.step.isCircle && e.isDown defaults)
        s.canvas.scene.rings.toList := by
  intro s
  obtain ⟨w', hs⟩ := (start (Canvas.blank width height : Canvas R) defaults w).runAll_eq log
  obtain ⟨hstrokes, hrings⟩ := Canvas.forall₂_applyAll (R := R) width height defaults log
  rw [show s = _ from hs]
  exact ⟨entries_foldl_push _ log, Canvas.course_applyAll _ _ _, hstrokes, hrings⟩

end Session

end Turtle
