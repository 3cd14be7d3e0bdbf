import Mathlib.Algebra.BigOperators.Group.List.Basic
import Mathlib.Algebra.Ring.Int.Defs
import Mathlib.Data.List.Chain
import Mathlib.Tactic.Common
import Turtle.Shape

/-!
# Sides and turns

Every shape but a circle is a path of sides with the same turn at its corners. What such a path
looks like is settled by its sides: they come in their order, with a turn behind each, and only the
last turn may be missing. A regular polygon has equal sides and divides the full turn among its
corners, but for the remainder; a square and a triangle are polygons.

* `IsPath` says what the primitives of a path are, and `isPath_sidesOf` that `sidesOf` makes one;
* `exists_exteriorAngle?` is the turn at a corner, `sum_turns` what all of them come to;
* `Shape.expansions_follow_one_law`: the expansions of the shapes that have sides.
-/

namespace Turtle

namespace Primitive

/-- The length of a side. -/
def side? : Primitive → Option Int32
  | move length => some length
  | _ => none

/-- The angle of a turn to the right. -/
def corner? : Primitive → Option Int32
  | right degrees => some degrees
  | _ => none

variable (n : Int32)

@[simp]
theorem side?_move : (move n).side? = some n := rfl

@[simp]
theorem side?_right : (right n).side? = none := rfl

@[simp]
theorem corner?_move : (move n).corner? = none := rfl

@[simp]
theorem corner?_right : (right n).corner? = some n := rfl

end Primitive

/-! ## Paths -/

/-- Primitives are a path with given sides: the sides come in order, with a turn between any two
    of them and, if the path is closed, one more behind the last. -/
structure IsPath (turn : Int32) (closing : Bool) (lengths : List Int32) (ps : List Primitive) :
    Prop where
  sides : ps.filterMap Primitive.side? = lengths
  turns : ps.filterMap Primitive.corner? =
    List.replicate (if closing then lengths.length else lengths.length - 1) turn
  /-- There is nothing on a path but sides and turns. -/
  only : ∀ p ∈ ps, p.side?.isSome ∨ p.corner?.isSome
  begins : ∀ p ∈ ps.head?, p.side?.isSome
  /-- No two sides follow one another, and no two turns. -/
  alternate : ps.IsChain fun p q => p.side?.isSome ≠ q.side?.isSome

/-- A path with sides may have one more side and a turn in front of it. -/
theorem IsPath.cons {turn : Int32} {closing : Bool} {lengths : List Int32} {ps : List Primitive}
    (h : IsPath turn closing lengths ps) (hne : lengths ≠ []) (length : Int32) :
    IsPath turn closing (length :: lengths) (.move length :: .right turn :: ps) := by
  obtain ⟨hsides, hturns, honly, hbegins, halternate⟩ := h
  constructor
  · simp [List.filterMap_cons, hsides]
  · -- With a side behind the new one, the turn between them is no closing turn.
    obtain ⟨next, rest, rfl⟩ := List.exists_cons_of_ne_nil hne
    cases closing <;> simp [List.filterMap_cons, hturns, List.replicate_succ]
  · simpa using honly
  · simp
  · refine (halternate.cons fun p hp => ?_).cons fun p hp => ?_
    · simp [hbegins p hp]
    · simp [← Option.some.inj hp]

/-- The sides and turns of given lengths are a path with these sides. -/
theorem isPath_sidesOf (turn : Int32) (closing : Bool) (lengths : List Int32) :
    IsPath turn closing lengths (sidesOf turn closing lengths) := by
  fun_induction sidesOf turn closing lengths with
  | case1 => constructor <;> simp
  | case2 length hclosing =>
    subst hclosing
    constructor <;> simp [List.filterMap_cons]
  | case3 length hclosing =>
    rw [Bool.not_eq_true] at hclosing
    subst hclosing
    constructor <;> simp [List.filterMap_cons]
  | case4 length lengths hne ih => exact ih.cons (fun h => hne h) length

section Sides

variable (turn : Int32)

theorem sidesOf_cons_cons (closing : Bool) (length next : Int32) (lengths : List Int32) :
    sidesOf turn closing (length :: next :: lengths) =
      .move length :: .right turn :: sidesOf turn closing (next :: lengths) := rfl

/-- A closed path is a side and a turn for each length. -/
theorem sidesOf_true (lengths : List Int32) :
    sidesOf turn true lengths = lengths.flatMap fun length => [.move length, .right turn] := by
  induction lengths with
  | nil => rfl
  | cons length lengths ih =>
    cases lengths with
    | nil => rfl
    | cons next lengths => rw [sidesOf_cons_cons, ih, List.flatMap_cons]; rfl

/-- A path with sides is closed by one more turn. -/
theorem sidesOf_true_eq_concat {lengths : List Int32} (hne : lengths ≠ []) :
    sidesOf turn true lengths = sidesOf turn false lengths ++ [.right turn] := by
  induction lengths with
  | nil => exact absurd rfl hne
  | cons length lengths ih =>
    cases lengths with
    | nil => rfl
    | cons next lengths =>
      rw [sidesOf_cons_cons, sidesOf_cons_cons, ih (List.cons_ne_nil _ _)]
      rfl

end Sides

/-! ## Polygons -/

/-- With one side or more, the turn at a corner is the full turn divided by the number of sides,
    less what is left over. -/
theorem exists_exteriorAngle? {sides : Int32} (h : 1 ≤ sides) :
    ∃ turn : Int32, exteriorAngle? sides = some turn ∧ turn.toInt = 360 / sides.toInt := by
  have hne : sides ≠ 0 := by
    rintro rfl
    exact absurd h (by decide)
  refine ⟨360 / sides, if_neg hne, ?_⟩
  rw [Int32.toInt_div_of_ne_left _ _ (by decide), show (360 : Int32).toInt = 360 by decide]
  exact Int.tdiv_eq_ediv_of_nonneg (by decide)

/-- As many such turns as there are sides add up to the full turn, but for the remainder. -/
theorem sum_turns {sides turn : Int32} (h : 1 ≤ sides) (hturn : turn.toInt = 360 / sides.toInt) :
    ((List.replicate sides.toInt.toNat turn).map Int32.toInt).sum = 360 - 360 % sides.toInt := by
  have hpos : (1 : Int) ≤ sides.toInt := Int32.le_iff_toInt_le.1 h
  have hcount : (sides.toInt.toNat : Int) = sides.toInt := Int.toNat_of_nonneg (by omega)
  have hdivided := Int.mul_ediv_add_emod 360 sides.toInt
  rw [List.map_replicate, List.sum_replicate, nsmul_eq_mul, hturn, hcount]
  omega

namespace Shape

/-- A regular polygon of any number of sides is the snapshot of the pen and, for each side, the side
    and a turn, and its turns come to the full turn but for the remainder. Squares and triangles are
    polygons, and a triangle of three equal sides goes without the last turn of the triangle. And
    whatever its sides are, the path along them is a path. -/
theorem expansions_follow_one_law (pen : Pen) :
    (∀ sides length : Int32, 1 ≤ sides → ∃ (turn : Int32) (body : List Primitive),
      turn.toInt = 360 / sides.toInt ∧
      body = (List.replicate sides.toInt.toNat [.move length, .right turn]).flatten ∧
      (polygon sides length).expand? pen = some (pen.snapshot ++ body) ∧
      ((body.filterMap Primitive.corner?).map Int32.toInt).sum = 360 - 360 % sides.toInt) ∧
    (∀ length, (square length).expand? pen = (polygon 4 length).expand? pen) ∧
    (∀ size, (triangle size).expand? pen = (polygon 3 size).expand? pen) ∧
    (∀ size, ∃ ps, (triangleSides size size size).expand? pen = some ps ∧
      (triangle size).expand? pen = some (ps ++ [.right 120])) ∧
    ∀ turn closing lengths, IsPath turn closing lengths (sidesOf turn closing lengths) := by
  refine ⟨fun sides length h => ?_, fun _ => rfl, fun _ => rfl, fun size => ?_, isPath_sidesOf⟩
  · obtain ⟨turn, hturn, hdegrees⟩ := exists_exteriorAngle? h
    let lengths := List.replicate sides.toInt.toNat length
    have hpath := isPath_sidesOf turn true lengths
    refine ⟨turn, sidesOf turn true lengths, hdegrees, ?_, by rw [expand?, body?, hturn]; rfl, ?_⟩
    · rw [sidesOf_true, List.flatMap_replicate]
    · rw [hpath.turns, if_pos rfl, List.length_replicate, sum_turns h hdegrees]
  · have hclosed : sidesOf 120 true (List.replicate 3 size) =
        sidesOf 120 false [size, size, size] ++ [.right 120] :=
      sidesOf_true_eq_concat 120 (List.cons_ne_nil _ _)
    refine ⟨_, rfl, ?_⟩
    rw [expand?, body?, hclosed, List.append_assoc]
    rfl

/-- Seven corners of 51 degrees come to 357 degrees. -/
theorem expansions_follow_one_law_heptagon :
    (1 : Int32) ≤ 7 ∧ ∃ body : List Primitive,
      body = (List.replicate 7 [.move 20, .right 51]).flatten ∧
      (polygon 7 20).expand? Pen.standard = some (Pen.standard.snapshot ++ body) ∧
      ((body.filterMap Primitive.corner?).map Int32.toInt).sum = 357 := by
  obtain ⟨hpolygon, -⟩ := expansions_follow_one_law Pen.standard
  obtain ⟨turn, body, hturn, hbody, hexpand, hsum⟩ := hpolygon 7 20 (by decide)
  obtain rfl : turn = 51 := Int32.toInt_inj.1 hturn
  exact ⟨by decide, body, hbody, hexpand, hsum⟩

end Shape

end Turtle
