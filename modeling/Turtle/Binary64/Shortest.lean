import Turtle.Binary64

/-!
# The shortest decimal of a double

A double stands for every real number that is rounded to it. Among the decimals in that interval
the shortest one is its text, and of several of the same length the nearest.

For each number of digits there is a grid of decimals, and if a point of the grid lies in the
interval then so does one of the two neighbours of the double on the grid. So it is enough to look
at those two for one digit, for two digits, and so on; with seventeen digits one of them always
lies in the interval.
-/

namespace Turtle.Binary64

/-- A positive fraction. -/
structure Ratio where
  num : Nat
  den : Nat

/-- A number of units of a power of two, as a fraction. -/
def ratio (units : Nat) (scale : Int) : Ratio :=
  if 0 ≤ scale then ⟨units <<< scale.toNat, 1⟩ else ⟨units, 1 <<< scale.natAbs⟩

/-- A number of units of a power of ten, as a fraction. -/
def decimalRatio (units : Nat) (scale : Int) : Ratio :=
  if 0 ≤ scale then ⟨units * Nat.pow 10 scale.toNat, 1⟩ else ⟨units, Nat.pow 10 scale.natAbs⟩

/-- A decimal: a whole number of units of a power of ten. -/
structure Decimal where
  units : Nat
  scale : Int
  deriving DecidableEq, Repr

/-- The real numbers that are rounded to a double: its value and the ends of the interval, all as
multiples of one power of two, and whether the ends belong to it. -/
structure Interval where
  low : Nat
  value : Nat
  high : Nat
  scale : Int
  closed : Bool

/-- The interval of a positive double. Below a power of two the doubles lie closer together. -/
def Parts.interval (p : Parts) : Interval :=
  let lowGap := if p.units = fullUnits ∧ p.scale ≠ -1074 then 1 else 2
  ⟨4 * p.units - lowGap, 4 * p.units, 4 * p.units + 2, p.scale - 2, p.units % 2 == 0⟩

/-- Compares a decimal with a number of units of a power of two. -/
def Decimal.cmp (d : Decimal) (units : Nat) (scale : Int) : Ordering :=
  let a := decimalRatio d.units d.scale
  let b := ratio units scale
  compare (a.num * b.den) (b.num * a.den)

/-- A decimal is rounded to the double of an interval. -/
def Interval.contains (i : Interval) (d : Decimal) : Bool :=
  let low := d.cmp i.low i.scale
  let high := d.cmp i.high i.scale
  (low == .gt || (i.closed && low == .eq)) && (high == .lt || (i.closed && high == .eq))

/-- The first power of ten above a positive number; it is one of three near the estimate. -/
def magnitude (units : Nat) (scale : Int) : Int :=
  let estimate := ((Nat.log2 units : Int) + scale) * 30103 / 100000
  ([estimate, estimate + 1].find? fun k => Decimal.cmp ⟨1, k⟩ units scale == .gt).getD
    (estimate + 2)

/-- The nearer of the two neighbours on a grid, among those in the interval. The upper one is
nearer if twice the way to it is shorter; half-way the even one is taken. -/
def Interval.onGrid? (i : Interval) (scale : Int) : Option Decimal :=
  let step := decimalRatio 1 scale
  let value := ratio i.value i.scale
  let below := value.num * step.den / (value.den * step.num)
  let lower : Decimal := ⟨below, scale⟩
  let upper : Decimal := ⟨below + 1, scale⟩
  match i.contains lower, i.contains upper with
  | true, true =>
    match Decimal.cmp ⟨2 * below + 1, scale⟩ (2 * i.value) i.scale with
    | .lt => some upper
    | .gt => some lower
    | .eq => some (if below % 2 = 0 then lower else upper)
  | true, false => some lower
  | false, true => some upper
  | false, false => none

/-- The shortest decimal that is rounded to a positive double. -/
def Parts.shortest (p : Parts) : Decimal :=
  let i := p.interval
  let top := magnitude i.value i.scale
  ((List.range 17).findSome? fun (n : Nat) => i.onGrid? (top - (n + 1))).getD ⟨0, 0⟩

end Turtle.Binary64
