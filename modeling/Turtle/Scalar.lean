import Turtle.Numeral

/-!
# Scalars

The arithmetic of the canvas. Positions and headings are numbers of a type with the operations of
`Scalar`; which numbers those are the canvas does not ask, so what is said of it holds in any
arithmetic. Angles are in degrees, clockwise from above.
-/

namespace Turtle

/-- Numbers for positions and headings. -/
class Scalar (R : Type) where
  /-- The number of an integer. -/
  ofInt : Int → R
  neg : R → R
  add : R → R → R
  mul : R → R → R
  /-- The angle between nought and a full turn that points the same way. -/
  wrap : R → R
  /-- The sine of an angle. -/
  sin : R → R
  /-- The cosine of an angle. -/
  cos : R → R
  /-- How a number is written in an image, if it can be. -/
  toNumeral? : R → Option Numeral
  /-- The number that a numeral of an image stands for, if there is one. -/
  ofNumeral? : Numeral → Option R

/-- Nought, the position of home and the heading straight up. -/
def Scalar.zero {R : Type} [Scalar R] : R :=
  Scalar.ofInt 0

end Turtle
