import Turtle.Pen

/-!
# Shapes

Figures of several primitives. A shape is drawn by its expansion: a snapshot of the pen, so that
the figure looks the same wherever its steps are replayed, and then its sides with a turn behind
each.

* `sidesOf` are the sides and turns of a path; the turn behind the last side is the closing turn;
* `Shape.expand?` is the expansion of a shape; only a polygon without sides has none.
-/

namespace Turtle

/-- A figure of several primitives. -/
inductive Shape where
  | square (length : Int32)
  | triangle (size : Int32)
  | triangleSides (a b c : Int32)
  | circle (radius : Int32)
  | polygon (sides length : Int32)
  deriving DecidableEq, Repr

/-- The turn at the corners of a regular polygon in whole degrees, rounded toward zero; there is
none without sides. -/
def exteriorAngle? (sides : Int32) : Option Int32 :=
  if sides = 0 then none else some (360 / sides)

/-- Sides of given lengths with the same turn between them, and behind the last one if the path is
to be closed. -/
def sidesOf (turn : Int32) (closing : Bool) : List Int32 → List Primitive
  | [] => []
  | [length] => if closing then [.move length, .right turn] else [.move length]
  | length :: lengths => .move length :: .right turn :: sidesOf turn closing lengths

/-- A path has its sides, the turn, and nothing else. -/
theorem eq_of_mem_sidesOf {turn : Int32} {closing : Bool} {lengths : List Int32} {p : Primitive}
    (h : p ∈ sidesOf turn closing lengths) :
    p = .right turn ∨ ∃ length ∈ lengths, p = .move length := by
  fun_induction sidesOf turn closing lengths with
  | case1 => cases h
  | case2 length => simpa [or_comm] using h
  | case3 length => exact .inr ⟨length, List.mem_cons_self, List.mem_singleton.1 h⟩
  | case4 length lengths hne ih =>
    rcases List.mem_cons.1 h with rfl | h
    · exact .inr ⟨length, List.mem_cons_self, rfl⟩
    · rcases List.mem_cons.1 h with rfl | h
      · exact .inl rfl
      · rcases ih h with rfl | ⟨next, hnext, rfl⟩
        · exact .inl rfl
        · exact .inr ⟨next, List.mem_cons_of_mem _ hnext, rfl⟩

namespace Shape

/-- The primitives of a shape behind the snapshot. A negative number of sides is none. -/
def body? : Shape → Option (List Primitive)
  | square length => some (sidesOf 90 true (List.replicate 4 length))
  | triangle size => some (sidesOf 120 true (List.replicate 3 size))
  | triangleSides a b c => some (sidesOf 120 false [a, b, c])
  | circle radius => some [.circle radius]
  | polygon sides length =>
    (exteriorAngle? sides).map fun turn =>
      sidesOf turn true (List.replicate sides.toInt.toNat length)

/-- The primitives of a shape drawn with a pen. -/
def expand? (shape : Shape) (pen : Pen) : Option (List Primitive) :=
  shape.body?.map (pen.snapshot ++ ·)

end Shape

end Turtle
