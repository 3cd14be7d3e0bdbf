/-!
# Binary floating point

A finite double is a sign and a whole number of units, where a unit is a power of two.

* `parts?` takes a double apart;
* `remainder360` is the exact remainder after division by a full turn, with the sign of the
  double; the result is a double again, so nothing is rounded;
* `wrap360` is the angle between nought and a full turn.
-/

namespace Turtle.Binary64

/-- A finite number: `units` times two to the power `scale`, with a sign. -/
structure Parts where
  negative : Bool
  units : Nat
  scale : Int
  deriving DecidableEq, Repr

/-- The units from which on a double has all its digits: two to the power 52. -/
def fullUnits : Nat := 0x10000000000000

/-- The parts of a finite double. -/
def parts? (x : Float) : Option Parts :=
  let bits : Nat := x.toBits.toNat
  let negative := bits >>> 63 == 1
  let exponent : Nat := bits / fullUnits % 2048
  let fraction : Nat := bits % fullUnits
  if exponent = 2047 then none
  else if exponent = 0 then some ⟨negative, fraction, -1074⟩
  else some ⟨negative, fullUnits + fraction, (exponent : Int) - 1075⟩

/-- A power of two that is a double. -/
def powerOfTwo (k : Int) : Float :=
  let bits := if -1022 ≤ k then (k + 1023).toNat * fullUnits else Nat.pow 2 (k + 1074).toNat
  Float.ofBits (UInt64.ofNat bits)

/-- The double with given parts, if there is one. -/
def ofParts (p : Parts) : Float :=
  let x := Float.ofNat p.units * powerOfTwo p.scale
  if p.negative then -x else x

/-- The remainder of a number after division by 360, with the sign of the number. -/
def Parts.remainder360 (p : Parts) : Parts :=
  if 0 ≤ p.scale then { p with units := (p.units <<< p.scale.toNat) % 360, scale := 0 }
  else { p with units := p.units % (360 <<< p.scale.natAbs) }

/-- The remainder of a double after division by 360. Infinities have none. -/
def remainder360 (x : Float) : Float :=
  match parts? x with
  | some p => ofParts p.remainder360
  | none => 0.0 / 0.0

/-- The angle in degrees between 0 and 360 that points the same way. -/
def wrap360 (x : Float) : Float :=
  let r := remainder360 x
  if r < 0 then r + 360 else r

/-- Half a turn, in radians. -/
def pi : Float := 3.14159265358979323846264338327950288

/-- Degrees as radians. -/
def radians (degrees : Float) : Float :=
  degrees * (pi / 180)

end Turtle.Binary64
