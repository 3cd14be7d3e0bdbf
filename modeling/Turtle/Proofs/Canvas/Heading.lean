import Turtle.Proofs.Binary64.Whole
import Turtle.Proofs.Canvas.Course

/-!
# The heading of the turtle

A turn is made with doubles, and still nothing is rounded. The heading is always a whole number of
degrees, and so is everything that comes up in a turn: the angle, which is made a double before it
is taken negative, the sum, and its remainder. A heading is less than a full turn and an angle has
31 binary digits, so that none of these numbers has more than 32, and a double has room for 53.

* `headingOf` is the heading that a log leads to: the sum of its turns since the last reset;
* `turnNumbers` are the doubles that come up in a turn, `turnValues` the whole numbers they are;
* `whole_heading_ofLog`: behind every log the heading is this whole number.
-/

namespace Turtle

namespace Primitive

/-- How far a primitive turns to the right. -/
def degreesRight : Primitive → Int
  | right d => d.toInt
  | _ => 0

/-- How far a primitive turns to the left. -/
def degreesLeft : Primitive → Int
  | left d => d.toInt
  | _ => 0

end Primitive

/-! ## The heading by the log -/

/-- The entries of a log behind its last reset. If there is none, these are all entries. -/
def sinceReset (log : List Primitive) : List Primitive :=
  log.rtakeWhile (· ≠ .reset)

/-- The heading that a log leads to, in degrees: what was turned to the right since the last reset,
    less what was turned to the left. -/
def headingOf (log : List Primitive) : Int :=
  (((sinceReset log).map Primitive.degreesRight).sum -
    ((sinceReset log).map Primitive.degreesLeft).sum) % 360

theorem headingOf_bounds (log : List Primitive) : 0 ≤ headingOf log ∧ headingOf log ≤ 359 := by
  rw [headingOf]
  omega

theorem headingOf_concat_reset (log : List Primitive) : headingOf (log ++ [.reset]) = 0 := by
  rw [headingOf, sinceReset, List.rtakeWhile_concat]
  rfl

theorem headingOf_concat (log : List Primitive) {p : Primitive} (h : p ≠ .reset) :
    headingOf (log ++ [p]) = (headingOf log + (p.degreesRight - p.degreesLeft)) % 360 := by
  have hsince : sinceReset (log ++ [p]) = sinceReset log ++ [p] := by
    rw [sinceReset, List.rtakeWhile_concat, if_pos (decide_eq_true h), sinceReset]
  rw [headingOf, hsince, headingOf]
  simp only [List.map_append, List.sum_append, List.map_singleton, List.sum_singleton]
  omega

/-! ## Turns -/

open Binary64 (Whole remainder360 wrap360)

/-- The doubles that come up when an angle is added to a heading: the angle itself, the sum, its
    remainder, and the new heading. If the remainder is negative, the new heading is a full turn
    more. -/
def turnNumbersBy (heading angle : Float) : List Float :=
  let sum := heading + angle
  [angle, sum, remainder360 sum, wrap360 sum]

/-- The whole numbers that should come up. -/
def turnValuesBy (heading angle : Int) : List Int :=
  let sum := heading + angle
  [angle, sum, sum.tmod 360, sum % 360]

/-- The doubles that come up in a turn. To the left, the angle is made a double first. -/
def turnNumbers (heading : Float) : Primitive → List Float
  | .left d => Float.ofInt d.toInt :: turnNumbersBy heading (-Float.ofInt d.toInt)
  | .right d => turnNumbersBy heading (Float.ofInt d.toInt)
  | _ => []

/-- The whole numbers that should come up in a turn. -/
def turnValues (heading : Int) : Primitive → List Int
  | .left d => d.toInt :: turnValuesBy heading (-d.toInt)
  | .right d => turnValuesBy heading d.toInt
  | _ => []

/-- The last of the doubles is the new heading. -/
theorem getLast?_turnNumbers (c : Course Float) {p : Primitive} {x : Float}
    (h : x ∈ (turnNumbers c.heading p).getLast?) : (c.after p).heading = x := by
  cases p with
  | left d | right d => exact Option.some.inj h
  | _ => cases h

section Turn

variable {heading angle : Float} {h n : Int}

theorem whole_turnNumbersBy (hheading : Whole heading h) (hangle : Whole angle n)
    (hsum : (h + n).natAbs < 2 ^ 53) :
    List.Forall₂ Whole (turnNumbersBy heading angle) (turnValuesBy h n) := by
  have hadd := hheading.add hangle hsum
  exact .cons hangle (.cons hadd (.cons hadd.remainder360 (.cons hadd.wrap360 .nil)))

theorem natAbs_lt_of_mem_turnValuesBy (hlow : 0 ≤ h) (hhigh : h ≤ 359) (hn : n.natAbs ≤ 2 ^ 31)
    {v : Int} (hv : v ∈ turnValuesBy h n) : v.natAbs < 2 ^ 32 := by
  have htmod : ((h + n).tmod 360).natAbs ≤ (h + n).natAbs := by
    rw [Int.natAbs_tmod]
    exact Nat.mod_le _ _
  simp only [turnValuesBy, List.mem_cons, List.not_mem_nil, or_false] at hv
  omega

end Turn

theorem natAbs_toInt_le (d : Int32) : d.toInt.natAbs ≤ 2 ^ 31 := by
  have := d.le_toInt
  have := d.toInt_lt
  omega

theorem whole_ofInt_toInt (d : Int32) : Whole (Float.ofInt d.toInt) d.toInt :=
  Binary64.whole_ofInt (Nat.lt_of_le_of_lt (natAbs_toInt_le d) (by decide))

theorem natAbs_lt_of_mem_turnValues {h : Int} (hlow : 0 ≤ h) (hhigh : h ≤ 359) {p : Primitive}
    {v : Int} (hv : v ∈ turnValues h p) : v.natAbs < 2 ^ 32 := by
  cases p with
  | left d =>
    have hd := natAbs_toInt_le d
    rcases List.mem_cons.1 hv with rfl | hv
    · omega
    · exact natAbs_lt_of_mem_turnValuesBy hlow hhigh (by rwa [Int.natAbs_neg]) hv
  | right d => exact natAbs_lt_of_mem_turnValuesBy hlow hhigh (natAbs_toInt_le d) hv
  | _ => cases hv

/-- Nothing is rounded in a turn. -/
theorem whole_turnNumbers {heading : Float} {h : Int} (hheading : Whole heading h) (hlow : 0 ≤ h)
    (hhigh : h ≤ 359) (p : Primitive) :
    List.Forall₂ Whole (turnNumbers heading p) (turnValues h p) := by
  have sum_lt {n : Int} (hn : n.natAbs ≤ 2 ^ 31) : (h + n).natAbs < 2 ^ 53 := by omega
  cases p with
  | left d =>
    have hd := natAbs_toInt_le d
    exact .cons (whole_ofInt_toInt d)
      (whole_turnNumbersBy hheading (whole_ofInt_toInt d).neg (sum_lt (by rwa [Int.natAbs_neg])))
  | right d =>
    exact whole_turnNumbersBy hheading (whole_ofInt_toInt d) (sum_lt (natAbs_toInt_le d))
  | _ => exact .nil

namespace Course

/-- One entry more changes the heading as it should. -/
theorem whole_heading_after {c : Course Float} {log : List Primitive}
    (h : Whole c.heading (headingOf log)) (p : Primitive) :
    Whole (c.after p).heading (headingOf (log ++ [p])) := by
  obtain ⟨hlow, hhigh⟩ := headingOf_bounds log
  have turned {angle : Float} {n : Int} (hangle : Whole angle n) (hn : n.natAbs ≤ 2 ^ 31) :
      Whole (c.turned angle).heading ((headingOf log + n) % 360) :=
    (h.add hangle (by omega)).wrap360
  have kept : (headingOf log + (0 - 0)) % 360 = headingOf log := by omega
  by_cases hreset : p = .reset
  · rw [hreset, headingOf_concat_reset]
    exact Binary64.whole_ofInt (n := 0) (by decide)
  rw [headingOf_concat log hreset]
  cases p with
  | reset => exact absurd rfl hreset
  | left d =>
    have hd := natAbs_toInt_le d
    show Whole (c.turned _).heading ((headingOf log + (0 - d.toInt)) % 360)
    rw [Int.zero_sub]
    exact turned (whole_ofInt_toInt d).neg (by rwa [Int.natAbs_neg])
  | right d =>
    show Whole (c.turned _).heading ((headingOf log + (d.toInt - 0)) % 360)
    rw [Int.sub_zero]
    exact turned (whole_ofInt_toInt d) (natAbs_toInt_le d)
  | _ =>
    show Whole c.heading ((headingOf log + (0 - 0)) % 360)
    rwa [kept]

/-- Behind every log the heading is a whole number, the sum of the turns. -/
theorem whole_heading_ofLog (log : List Primitive) :
    Whole (ofLog log : Course Float).heading (headingOf log) := by
  induction log using List.reverseRecOn with
  | nil => exact Binary64.whole_ofInt (n := 0) (by decide)
  | append_singleton log p ih =>
    rw [ofLog_concat]
    exact whole_heading_after ih p

end Course

end Turtle
