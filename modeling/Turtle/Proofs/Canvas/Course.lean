import Mathlib.Tactic.Common
import Turtle.Proofs.Canvas.Drawing

/-!
# The course of the turtle

Where primitives lead the turtle: a place and a heading, step by step. The pen has no part in it,
and neither has anything that was drawn.

* `Course.after` is the course after one primitive, `Course.ofLog` that after several from home;
* `Canvas.course_applyAll`: the turtle of a canvas keeps to the course of what is drawn.
-/

namespace Turtle

/-- The place of a turtle, and the way it looks. -/
structure Course (R : Type) where
  position : Point R
  heading : R

variable {R : Type} [Scalar R]

namespace Course

/-- At home, with the heading of the beginning. -/
def home : Course R := ⟨Canvas.home, Scalar.zero⟩

/-- The course after a turn by some angle. -/
def turned (c : Course R) (degrees : R) : Course R :=
  { c with heading := Scalar.wrap (Scalar.add c.heading degrees) }

/-- The course after a step of some length. -/
def stepped (c : Course R) (distance : Int32) : Course R :=
  { c with position := Canvas.step c.position c.heading distance }

/-- The course after a primitive. -/
def after (c : Course R) : Primitive → Course R
  | .move d => c.stepped d
  | .reverse d => c.stepped (-d)
  | .left d => c.turned (Scalar.neg (Scalar.ofInt d.toInt))
  | .right d => c.turned (Scalar.ofInt d.toInt)
  | .reset => home
  | .circle _ | .penUp | .penDown | .color _ | .pen _ | .penWidth _ => c

/-- The course after all entries of a log. -/
def ofLog (ps : List Primitive) : Course R :=
  ps.foldl after home

theorem ofLog_concat (ps : List Primitive) (p : Primitive) :
    (ofLog (ps ++ [p]) : Course R) = (ofLog ps).after p := by
  rw [ofLog, List.foldl_append]
  rfl

end Course

namespace Canvas

/-- The course of the turtle on a canvas. -/
def course (c : Canvas R) : Course R := ⟨c.position, c.heading⟩

@[simp]
theorem course_reset (c : Canvas R) : c.reset.course = Course.home := rfl

/-- The turtle keeps to the course, whatever the pen. -/
theorem course_apply (c : Canvas R) (pen : Pen) (p : Primitive) :
    (c.apply pen p).course = c.course.after p := by
  cases p with
  | circle r =>
    rw [apply, circle]
    split <;> rfl
  | _ => rfl

theorem course_applyAll (c : Canvas R) (pen : Pen) (ps : List Primitive) :
    (c.applyAll pen ps).course = ps.foldl Course.after c.course := by
  induction ps generalizing c pen with
  | nil => rfl
  | cons p ps ih => rw [applyAll, ih, course_apply, List.foldl_cons]

end Canvas

end Turtle
