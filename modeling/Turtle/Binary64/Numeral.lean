import Turtle.Binary64.Shortest
import Turtle.Numeral

/-!
# Doubles as numerals

How a double is written in an image file and how it is read back.

* A double is written with the fewest digits that read back. The point stands among the digits or
  zeros if the number has at most sixteen digits in front of it and fewer than five zeros behind
  it; otherwise it stands behind the first digit, and a power of ten follows. There is always a
  fraction or a power of ten.
* A numeral is read as a whole number, made of as many of its digits as 64 bits hold, and one
  power of ten, both rounded to doubles, and then multiplied or divided. Digits that are left out
  in front of the point count as zeros, behind it not at all.
-/

namespace Turtle.Binary64

/-! ## Writing -/

/-- The digits of a decimal without the zeros at its end, and the place of the point among them:
how many digits stand in front of it. -/
def Decimal.layout (d : Decimal) : List Char × Int :=
  let ds := Nat.toDigits 10 d.units
  ((ds.reverse.dropWhile (· = '0')).reverse, ds.length + d.scale)

/-- The numeral of a decimal by its digits and the place of its point. -/
def layoutNumeral (negative : Bool) (ds : List Char) (point : Int) : Numeral :=
  if ds.length ≤ point ∧ point ≤ 16 then
    ⟨negative, ds ++ List.replicate (point - ds.length).toNat '0', some ['0'], none⟩
  else if 0 < point ∧ point ≤ 16 then
    ⟨negative, ds.take point.toNat, some (ds.drop point.toNat), none⟩
  else if -5 < point ∧ point ≤ 0 then
    ⟨negative, ['0'], some (List.replicate (-point).toNat '0' ++ ds), none⟩
  else
    ⟨negative, ds.take 1, if ds.length ≤ 1 then none else some (ds.drop 1), some (point - 1)⟩

/-- The numeral of a double. Only finite doubles have one. -/
def toNumeral? (x : Float) : Option Numeral :=
  (parts? x).map fun p =>
    if p.units = 0 then ⟨p.negative, ['0'], some ['0'], none⟩
    else
      let (ds, point) := p.shortest.layout
      layoutNumeral p.negative ds point

/-! ## Reading -/

/-- The digits of a numeral, read so far. -/
structure Significand where
  /-- The digits that were kept, as a number of at most 64 bits. -/
  value : Nat
  /-- The power of ten that goes with it. -/
  scale : Int
  /-- Some digit did not fit. -/
  full : Bool

/-- Keeps the next digit in front of the point, if it fits. -/
def Significand.addWhole (s : Significand) (c : Char) : Significand :=
  let value := 10 * s.value + Numeral.digit c
  if s.full || UInt64.size ≤ value then { s with scale := s.scale + 1, full := true }
  else { s with value := value }

/-- Keeps the next digit behind the point, if it fits. -/
def Significand.addFraction (s : Significand) (c : Char) : Significand :=
  let value := 10 * s.value + Numeral.digit c
  if s.full || UInt64.size ≤ value then { s with full := true }
  else { s with value := value, scale := s.scale - 1 }

/-- The digits of a numeral with the power of ten they stand for. -/
def significand (n : Numeral) : Significand :=
  let whole := n.whole.foldl Significand.addWhole ⟨0, 0, false⟩
  let all := (n.fraction.getD []).foldl Significand.addFraction { whole with full := false }
  { all with scale := all.scale + n.exponent.getD 0 }

/-- A power of ten up to the greatest that a double holds. -/
def powerOfTen (k : Nat) : Float :=
  Float.ofScientific 1 false k

/-- The greatest power of ten that a double holds. -/
def maxPower : Nat := 308

/-- Divides by a power of ten, the greatest one at a time. After three of these every number is
zero. -/
def divideByPower : Nat → Float → Nat → Float
  | 0, x, _ => x
  | fuel + 1, x, k =>
    if k ≤ maxPower then x / powerOfTen k
    else if x == 0 then x
    else divideByPower fuel (x / powerOfTen maxPower) (k - maxPower)

/-- Multiplies by a power of ten, if the result is finite. -/
def multiplyByPower? (x : Float) (k : Nat) : Option Float :=
  if k ≤ maxPower then
    let y := x * powerOfTen k
    if y.isInf then none else some y
  else if x == 0 then some x
  else none

/-- The double of a numeral; a number that is too large has none. -/
def ofNumeral? (n : Numeral) : Option Float :=
  let s := significand n
  let x := (UInt64.ofNat s.value).toFloat
  let size? :=
    if 0 ≤ s.scale then multiplyByPower? x s.scale.toNat
    else some (divideByPower 4 x s.scale.natAbs)
  size?.map fun y => if n.negative then -y else y

end Turtle.Binary64
