/-!
# Numerals

The number notation of image files, by its parts: a sign, digits without a needless zero in front,
and, if there are any, digits of a fraction and an exponent.

* `Numeral.read?` takes a text apart, or refuses it;
* `Numeral.write` puts the parts together again;
* `Numeral.natural?` is the value of a numeral that has digits only.
-/

namespace Turtle

/-- A number as it is written. -/
structure Numeral where
  negative : Bool
  /-- The digits in front of the point. -/
  whole : List Char
  /-- The digits behind the point, if there is one. -/
  fraction : Option (List Char)
  /-- The power of ten behind the `e`, if there is one. -/
  exponent : Option Int
  deriving DecidableEq, Repr

namespace Numeral

/-- The value of a digit. -/
def digit (c : Char) : Nat :=
  c.toNat - '0'.toNat

/-- The value of a list of digits. -/
def digits (s : List Char) : Nat :=
  s.foldl (fun n c => 10 * n + digit c) 0

/-- Splits off the digits in front of a text, of which there has to be at least one. -/
def takeDigits? (s : List Char) : Option (List Char × List Char) :=
  match s.span Char.isDigit with
  | ([], _) => none
  | (ds, rest) => some (ds, rest)

/-- The digits of a whole number do not begin with a needless zero. -/
def plainWhole : List Char → Bool
  | ['0'] => true
  | '0' :: _ => false
  | _ => true

/-- Splits off the fraction in front of a text, if it begins with one. -/
def takeFraction? : List Char → Option (Option (List Char) × List Char)
  | '.' :: s => (takeDigits? s).map fun (ds, rest) => (some ds, rest)
  | s => some (none, s)

/-- The value of an exponent: digits behind an optional sign. -/
def readExponent? (s : List Char) : Option Int :=
  let (negative, s) := match s with
    | '-' :: s => (true, s)
    | '+' :: s => (false, s)
    | s => (false, s)
  match takeDigits? s with
  | some (ds, []) => some (if negative then -(digits ds : Int) else digits ds)
  | _ => none

/-- Reads what may follow the fraction. -/
def takeExponent? : List Char → Option (Option Int)
  | [] => some none
  | c :: s => if c = 'e' ∨ c = 'E' then (readExponent? s).map some else none

/-- Reads a numeral without its sign. -/
def readUnsigned? (negative : Bool) (s : List Char) : Option Numeral := do
  let (whole, s) ← takeDigits? s
  guard (plainWhole whole)
  let (fraction, s) ← takeFraction? s
  let exponent ← takeExponent? s
  return ⟨negative, whole, fraction, exponent⟩

/-- Reads a whole text as a numeral. -/
def read? : List Char → Option Numeral
  | '-' :: s => readUnsigned? true s
  | s => readUnsigned? false s

/-- The text of an exponent, always with its sign. -/
def writeExponent (e : Int) : List Char :=
  (if e < 0 then '-' else '+') :: Nat.toDigits 10 e.natAbs

/-- The text of a numeral. -/
def write (n : Numeral) : List Char :=
  (if n.negative then ['-'] else []) ++ n.whole
    ++ (match n.fraction with
      | none => []
      | some ds => '.' :: ds)
    ++ (match n.exponent with
      | none => []
      | some e => 'e' :: writeExponent e)

/-- The numeral of a natural number. -/
def ofNat (n : Nat) : Numeral :=
  ⟨false, Nat.toDigits 10 n, none, none⟩

/-- The value of a numeral that has no sign, fraction or exponent. -/
def natural? (n : Numeral) : Option Nat :=
  if n.negative ∨ n.fraction.isSome ∨ n.exponent.isSome then none else some (digits n.whole)

/-- The value of a numeral that has no fraction or exponent. A zero with a sign is no integer. -/
def integer? (n : Numeral) : Option Int :=
  let value := digits n.whole
  if n.fraction.isSome ∨ n.exponent.isSome ∨ (n.negative ∧ value = 0) then none
  else some (if n.negative then -(value : Int) else value)

end Numeral

end Turtle
