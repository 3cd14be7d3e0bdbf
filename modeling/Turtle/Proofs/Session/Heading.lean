import Turtle.Console
import Turtle.Proofs.Canvas.Heading
import Turtle.Proofs.Session.Moment
import Turtle.Proofs.Session.Replay

/-!
# The heading is the sum of the turns

The turtle of a session keeps to the course of the log, and so the log says where it looks: whatever
was turned to the right since the last reset, less what was turned to the left. This holds between
two statements and also in the middle of one, when some primitives of a shape have been drawn or
when a part of the log has been played again behind an undo.

* `Session.Underway` are the states in which a session is between two primitives of a statement;
* `Session.OnCourse` says that the turtle is where the log leads to;
* `Session.heading_is_sum_of_turns`: the heading is exactly the sum of the turns, a whole number of
  degrees, and no number that comes up in a turn is rounded.
-/

namespace Turtle

namespace Session

variable {R H : Type} [Scalar R] [Host H]

/-- The states that a session goes through while something is done in it, after each of the
    primitives. -/
inductive Underway (s : Session R H) : Session R H → Prop
  /-- Some primitives have been drawn. -/
  | drawing (ps : List Primitive) : Underway s (s.runAll ps)
  /-- The last primitive was taken back, and as many of the rest have been drawn again. -/
  | undoing {rest : List Primitive} {timeline : Timeline}
      (h : s.timeline.beginUndo? = some (rest, timeline)) (count : Nat) :
      Underway s (({ s with timeline := timeline }.record (.undo rest.length)).restart.runAll
        (rest.take count))
  /-- The primitive that was taken back last has been drawn again. -/
  | redoing {p : Primitive} {timeline : Timeline}
      (h : s.timeline.beginRedo? = some (p, timeline)) :
      Underway s (({ s with timeline := timeline }.record (.redo p)).run p)

/-- An undo goes through these states: it ends when all of the rest is drawn again. -/
theorem exists_underway_undo {s : Session R H} (h : s.undo.1 = .undone) :
    ∃ t, s.Underway t ∧ s.undo.2 = t.endReplay := by
  rw [undo] at h ⊢
  cases hbegin : s.timeline.beginUndo? with
  | none =>
    rw [hbegin] at h
    cases h
  | some x =>
    have hall := Underway.undoing hbegin x.1.length
    rw [List.take_length] at hall
    exact ⟨_, hall, rfl⟩

/-- The turtle is where the log leads to. -/
def OnCourse (s : Session R H) : Prop :=
  s.canvas.course = Course.ofLog s.timeline.entries

omit [Host H] in
theorem Replays.onCourse {m : MarkedScene R} {s : Session R H} (h : Replays m s) : OnCourse s := by
  obtain ⟨hposition, hheading⟩ := h.aligned
  have hreplayed : s.replayed.course = Course.ofLog s.timeline.entries :=
    Canvas.course_applyAll _ _ _
  rw [OnCourse, ← hreplayed, Canvas.course, Canvas.course, hposition, hheading]

theorem OnCourse.runAll {s : Session R H} (h : OnCourse s) (ps : List Primitive) :
    OnCourse (s.runAll ps) := by
  obtain ⟨w, hw⟩ := s.runAll_eq ps
  rw [hw, OnCourse]
  dsimp only
  rw [Canvas.course_applyAll, entries_foldl_push, show s.canvas.course = _ from h, Course.ofLog,
    Course.ofLog, List.foldl_append]

/-- Whatever is underway, the turtle is where the log leads to. -/
theorem Underway.onCourse {s t : Session R H} (h : s.Underway t) (hs : OnCourse s) :
    OnCourse t := by
  cases h with
  | drawing ps => exact hs.runAll ps
  | @undoing rest timeline h count =>
    -- The log is empty before it is played again, and the turtle is at home.
    have hempty : timeline.past = [] := by
      rw [Timeline.beginUndo?] at h
      split at h <;> cases h
      rfl
    refine OnCourse.runAll ?_ _
    show s.canvas.clear.reset.course = Course.ofLog timeline.past.reverse
    rw [hempty]
    rfl
  | @redoing p timeline h =>
    -- The log is as it was when the primitive is drawn.
    have hpast : timeline.past = s.timeline.past := by
      rw [Timeline.beginRedo?] at h
      split at h <;> cases h
      rfl
    refine OnCourse.runAll ?_ [p]
    show s.canvas.course = Course.ofLog timeline.past.reverse
    rw [hpast]
    exact hs

/-- Between the turns of a history, and while one of them is underway, the heading is exactly the
    sum of the turns in the log since its last reset: a whole number of degrees that is less than a
    full turn. Whatever primitive is next, the numbers that come up if it is a turn are whole too,
    and have no more than 32 binary digits, so that nothing is rounded; the last of them is the
    next heading. -/
theorem heading_is_sum_of_turns (settings : Settings) (w : World H) (ops : List (Operation H))
    {turns : List (Turn Float H)} {s t : Session Float H}
    (hs : (ofSettings settings w : Session Float H).Moment ops turns s) (ht : s.Underway t) :
    let heading := headingOf t.timeline.entries
    (Binary64.value? t.canvas.heading = some (heading : ℚ) ∧ 0 ≤ heading ∧ heading ≤ 359) ∧
      ∀ p, List.Forall₂ (fun x (n : Int) => Binary64.value? x = some (n : ℚ))
          (turnNumbers t.canvas.heading p) (turnValues heading p) ∧
        (∀ n ∈ turnValues heading p, |n| < 2 ^ 32) ∧
        ∀ x ∈ (turnNumbers t.canvas.heading p).getLast?, (t.run p).canvas.heading = x := by
  intro heading
  have hcourse : OnCourse t :=
    ht.onCourse (hs.run.replays (replays_ofSettings settings w)).onCourse
  have hwhole : Binary64.Whole t.canvas.heading heading := by
    rw [show t.canvas.heading = _ from congrArg Course.heading hcourse]
    exact Course.whole_heading_ofLog _
  obtain ⟨hlow, hhigh⟩ := headingOf_bounds t.timeline.entries
  refine ⟨⟨hwhole.value?_eq, hlow, hhigh⟩, fun p => ⟨?_, fun n hn => ?_, fun x hx => ?_⟩⟩
  · exact (whole_turnNumbers hwhole hlow hhigh p).imp fun _ _ h => h.value?_eq
  · rw [Int.abs_eq_natAbs]
    exact_mod_cast natAbs_lt_of_mem_turnValues hlow hhigh hn
  · rw [← getLast?_turnNumbers t.canvas.course hx]
    exact congrArg Course.heading (t.canvas.course_apply _ p)

/-- The greatest turns that there are, to the left and to the right, are 255 degrees together; and
    when the second one is undone, what is played again is 128 degrees. -/
theorem greatest_turns_are_exact :
    let w : World Console := ⟨⟨[], "", false⟩, ⟨[], [], []⟩, Journal.silent⟩
    let fresh : Session Float Console := ofSettings Settings.standard w
    let s := fresh.performAll [.line "left -2147483648; right 2147483647"]
    Binary64.value? s.canvas.heading = some 255 ∧
      ∃ t, s.Underway t ∧ t.timeline.entries = [.left Int32.minValue] ∧
        Binary64.value? t.canvas.heading = some 128 := by
  intro w fresh s
  have hentries : s.timeline.entries = [.left Int32.minValue, .right Int32.maxValue] := by
    decide +kernel
  have hbegin : s.timeline.beginUndo? =
      some ([.left Int32.minValue], ⟨[], [.right Int32.maxValue], true⟩) := by
    decide +kernel
  have hs : fresh.Moment _ _ s := .last
  have hdone := (heading_is_sum_of_turns Settings.standard w _ hs (.drawing [])).1.1
  have hundoing := Underway.undoing hbegin 1
  have hagain := (heading_is_sum_of_turns Settings.standard w _ hs hundoing).1.1
  refine ⟨?_, _, hundoing, rfl, hagain⟩
  have hheading : headingOf s.timeline.entries = 255 := by
    rw [hentries]
    decide
  rw [show s.runAll [] = s from rfl, hheading] at hdone
  exact hdone

end Session

end Turtle
