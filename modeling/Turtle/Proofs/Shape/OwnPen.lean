import Turtle.Binary64.Scalar
import Turtle.Console
import Turtle.Proofs.Canvas.Course
import Turtle.Proofs.Session.Change

/-!
# A shape carries its own pen

The expansion of a shape begins with a snapshot of the pen for which it was made, and nothing behind
the snapshot is about the pen. So it does not matter with which pen the expansion is begun: it draws
the same, and leaves the pen of the snapshot. Nor does it matter what the log says of the pen before
it, for the pen has no part in where the turtle is.

* `Primitive.setsPen` are the primitives about the pen;
* `Shape.setsPen_of_mem_body?`: there are none behind the snapshot of a shape;
* `Course.foldl_after_of_filter_eq`: without them the turtle comes to the same place;
* `Session.shape_carries_its_pen`: the expansion of a shape, begun with any pen.
-/

namespace Turtle

/-! ## Primitives about the pen -/

/-- A primitive about the pen. -/
def Primitive.setsPen : Primitive → Bool
  | penUp | penDown | color _ | pen _ | penWidth _ => true
  | move _ | reverse _ | left _ | right _ | circle _ | reset => false

/-- Primitives about other things leave the pen as it is. -/
theorem Pen.foldl_apply_of_forall (pen : Pen) {ps : List Primitive}
    (h : ∀ p ∈ ps, p.setsPen = false) : ps.foldl apply pen = pen := by
  induction ps with
  | nil => rfl
  | cons p ps ih =>
    obtain ⟨hp, hps⟩ := List.forall_mem_cons.1 h
    have happly : pen.apply p = pen := by
      cases p with
      | penUp | penDown | color _ | pen _ | penWidth _ => cases hp
      | _ => rfl
    rw [List.foldl_cons, happly, ih hps]

namespace Course

variable {R : Type} [Scalar R]

/-- Primitives about the pen may as well be left out of a course. -/
theorem foldl_after_filter (c : Course R) (ps : List Primitive) :
    (ps.filter fun p => !p.setsPen).foldl after c = ps.foldl after c := by
  induction ps generalizing c with
  | nil => rfl
  | cons p ps ih => cases p <;> exact ih _

/-- Primitives that differ only in what is said of the pen lead to the same place. -/
theorem foldl_after_of_filter_eq {ps qs : List Primitive}
    (h : (qs.filter fun p => !p.setsPen) = ps.filter fun p => !p.setsPen) (c : Course R) :
    qs.foldl after c = ps.foldl after c := by
  rw [← foldl_after_filter c qs, h, foldl_after_filter]

end Course

/-! ## Shapes -/

theorem setsPen_of_mem_sidesOf {turn : Int32} {closing : Bool} {lengths : List Int32}
    {p : Primitive} (h : p ∈ sidesOf turn closing lengths) : p.setsPen = false := by
  rcases eq_of_mem_sidesOf h with rfl | ⟨_, -, rfl⟩ <;> rfl

namespace Shape

/-- Behind the snapshot of a shape there is nothing about the pen. -/
theorem setsPen_of_mem_body? {shape : Shape} {body : List Primitive} (h : shape.body? = some body)
    {p : Primitive} (hp : p ∈ body) : p.setsPen = false := by
  cases shape with
  | square _ | triangle _ | triangleSides _ _ _ =>
    cases h
    exact setsPen_of_mem_sidesOf hp
  | circle _ =>
    cases h
    rw [List.mem_singleton.1 hp]
    rfl
  | polygon sides length =>
    obtain ⟨turn, -, rfl⟩ := Option.map_eq_some_iff.1 h
    exact setsPen_of_mem_sidesOf hp

/-- Only a polygon without sides has no expansion. -/
theorem expand?_eq_none_iff {shape : Shape} {pen : Pen} :
    shape.expand? pen = none ↔ ∃ length, shape = polygon 0 length := by
  cases shape with
  | polygon sides length =>
    simp [expand?, body?, exteriorAngle?]
  | _ => simp [expand?, body?]

end Shape

namespace Session

variable {R H : Type} [Scalar R] [Host H]

/-- With whatever pen it is begun, a snapshot leads to the same session. -/
theorem runAll_snapshot (s : Session R H) (pen other : Pen) :
    { s with pen := other }.runAll pen.snapshot = { s with pen := pen }.runAll pen.snapshot := by
  rcases pen with ⟨_ | _, color, width⟩ <;> rfl

/-- With whatever pen it is begun, an expansion leads to the same session. -/
theorem runAll_expand? {shape : Shape} {pen : Pen} {ps : List Primitive}
    (h : shape.expand? pen = some ps) (s : Session R H) (other : Pen) :
    { s with pen := other }.runAll ps = { s with pen := pen }.runAll ps := by
  obtain ⟨body, -, rfl⟩ := Option.map_eq_some_iff.1 h
  simp only [runAll, List.foldl_append]
  exact congrArg (runAll · body) (s.runAll_snapshot pen other)

/-- An expansion leaves the pen for which it was made. -/
theorem pen_runAll_expand? {shape : Shape} {pen : Pen} {ps : List Primitive}
    (h : shape.expand? pen = some ps) (s : Session R H) : (s.runAll ps).pen = pen := by
  obtain ⟨body, hbody, rfl⟩ := Option.map_eq_some_iff.1 h
  obtain ⟨w, hw⟩ := s.runAll_eq (pen.snapshot ++ body)
  rw [hw]
  show (pen.snapshot ++ body).foldl Pen.apply s.pen = pen
  rw [List.foldl_append, Pen.foldl_apply_snapshot]
  exact pen.foldl_apply_of_forall fun p hp => Shape.setsPen_of_mem_body? hbody hp

/-- What an expansion draws in a session is what it draws with its own pen on the canvas. -/
theorem canvas_runAll_expand? {shape : Shape} {pen : Pen} {ps : List Primitive}
    (h : shape.expand? pen = some ps) (s : Session R H) :
    (s.runAll ps).canvas = s.canvas.applyAll pen ps := by
  have hown : s.runAll ps = { s with pen := pen }.runAll ps := runAll_expand? h s s.pen
  obtain ⟨w, hw⟩ := runAll_eq { s with pen := pen } ps
  rw [hown, hw]

/-- The canvases behind two logs that differ only in what they say of the pen are aligned. -/
theorem aligned_runAll_of_filter_eq (s : Session R H) {log log' : List Primitive}
    (h : (log'.filter fun p => !p.setsPen) = log.filter fun p => !p.setsPen) :
    Canvas.Aligned (s.runAll log).canvas (s.runAll log').canvas := by
  obtain ⟨w, hw⟩ := s.runAll_eq log
  obtain ⟨w', hw'⟩ := s.runAll_eq log'
  have hcourse : (s.runAll log).canvas.course = (s.runAll log').canvas.course := by
    rw [hw, hw']
    show (s.canvas.applyAll s.pen log).course = (s.canvas.applyAll s.pen log').course
    rw [Canvas.course_applyAll, Canvas.course_applyAll, Course.foldl_after_of_filter_eq h]
  exact ⟨congrArg Course.position hcourse, congrArg Course.heading hcourse⟩

/-- A shape that was expanded for a pen draws the same in a session with any other pen, and leaves
    the pen for which it was expanded; only a polygon without sides cannot be expanded. And behind
    logs that differ only in what they say of the pen, it adds the same to what is there. -/
theorem shape_carries_its_pen (shape : Shape) (pen : Pen) :
    (shape.expand? pen = none ↔ ∃ length, shape = .polygon 0 length) ∧
    ∀ ps, shape.expand? pen = some ps → ∀ s : Session R H,
      (∀ other, { s with pen := other }.runAll ps = { s with pen := pen }.runAll ps ∧
        ({ s with pen := other }.runAll ps).pen = pen) ∧
      ∀ log log', ((log'.filter fun p => !p.setsPen) = log.filter fun p => !p.setsPen) →
        ∃ new : Scene R,
          ((s.runAll log).runAll ps).canvas.scene = (s.runAll log).canvas.scene.append new ∧
          ((s.runAll log').runAll ps).canvas.scene = (s.runAll log').canvas.scene.append new ∧
          ((s.runAll log').runAll ps).canvas.course = ((s.runAll log).runAll ps).canvas.course ∧
          ((s.runAll log').runAll ps).pen = ((s.runAll log).runAll ps).pen := by
  refine ⟨Shape.expand?_eq_none_iff, fun ps h s => ⟨fun other => ⟨runAll_expand? h s other,
    pen_runAll_expand? h _⟩, fun log log' hlog => ?_⟩⟩
  obtain ⟨new, haligned, hnew, hnew'⟩ := (s.aligned_runAll_of_filter_eq hlog).exists_applyAll pen ps
  simp only [canvas_runAll_expand? h, pen_runAll_expand? h, and_true]
  refine ⟨new, hnew, hnew', ?_⟩
  rw [Canvas.course, Canvas.course, haligned.position, haligned.heading]

/-- A pentagon for a wide red pen, begun with a pen that is up, and behind two logs with the same
    step and turn. -/
theorem shape_carries_its_pen_pentagon :
    let pen : Pen := ⟨true, ⟨255, 0, 0⟩, 4⟩
    let lifted : Pen := ⟨false, Rgb.ofNewPen, 1⟩
    let w : World Console := ⟨⟨[], "", false⟩, ⟨[], [], []⟩, Journal.silent⟩
    let s : Session Float Console := ofSettings Settings.standard w
    ∃ ps, (Shape.polygon 5 30).expand? pen = some ps ∧ ps.length = 13 ∧
      { s with pen := lifted }.runAll ps = { s with pen := pen }.runAll ps ∧
      ({ s with pen := lifted }.runAll ps).pen = pen ∧
      ({ s with pen := lifted }.runAll ps).canvas.scene.strokes.size = 5 ∧
      ∃ new : Scene Float,
        ((s.runAll [.move 7, .penUp, .left 30]).runAll ps).canvas.scene =
          (s.runAll [.move 7, .penUp, .left 30]).canvas.scene.append new ∧
        ((s.runAll [.penWidth 9, .move 7, .left 30]).runAll ps).canvas.scene =
          (s.runAll [.penWidth 9, .move 7, .left 30]).canvas.scene.append new := by
  intro pen lifted w s
  have hps : (Shape.polygon 5 30).expand? pen = some
      (pen.snapshot ++ sidesOf 72 true (List.replicate 5 30)) := by decide
  obtain ⟨hsame, hlogs⟩ := (shape_carries_its_pen (.polygon 5 30) pen).2 _ hps s
  obtain ⟨new, hnew, hnew', -, -⟩ := hlogs [.move 7, .penUp, .left 30]
    [.penWidth 9, .move 7, .left 30] (by decide)
  exact ⟨_, hps, by decide, (hsame lifted).1, (hsame lifted).2, by decide +kernel, new, hnew, hnew'⟩

end Session

end Turtle
