import Turtle.Binary64.Numeral
import Turtle.Scalar

/-!
# Doubles as scalars

The arithmetic in which the program draws.
-/

namespace Turtle

instance : Scalar Float where
  ofInt := Float.ofInt
  neg x := -x
  add x y := x + y
  mul x y := x * y
  wrap := Binary64.wrap360
  sin x := Float.sin (Binary64.radians x)
  cos x := Float.cos (Binary64.radians x)
  toNumeral? := Binary64.toNumeral?
  ofNumeral? := Binary64.ofNumeral?

end Turtle
