import Turtle.Numeral
import Turtle.Text.Utf8
import Turtle.WholeNumber

/-!
# JSON

Values of the notation that images are kept in. Strings are held as the bytes between their
quotes, since most of them are never looked at: `Json.decodeString?` is what such bytes spell, if
their escapes and their encoding are in order.
-/

namespace Turtle

/-- A value in JSON. -/
inductive Json where
  | null
  | bool (b : Bool)
  | number (n : Numeral)
  | string (raw : Bytes)
  | array (items : List Json)
  | object (members : List (Bytes × Json))

namespace Json

/-- The value of a hexadecimal digit. -/
def hexDigit? (b : UInt8) : Option Nat :=
  if 0x30 ≤ b && b ≤ 0x39 then some (b.toNat - 0x30)
  else if 0x41 ≤ b && b ≤ 0x46 then some (b.toNat - 0x41 + 10)
  else if 0x61 ≤ b && b ≤ 0x66 then some (b.toNat - 0x61 + 10)
  else none

/-- The value of four hexadecimal digits. -/
def hex4? (a b c d : UInt8) : Option Nat := do
  return (((← hexDigit? a) * 16 + (← hexDigit? b)) * 16 + (← hexDigit? c)) * 16 + (← hexDigit? d)

/-- The byte that a letter behind a backslash stands for. -/
def escapedByte? (b : UInt8) : Option UInt8 :=
  match Char.ofNat b.toNat with
  | '"' => some 0x22
  | '\\' => some 0x5C
  | '/' => some 0x2F
  | 'b' => some 0x08
  | 'f' => some 0x0C
  | 'n' => some 0x0A
  | 'r' => some 0x0D
  | 't' => some 0x09
  | _ => none

/-- The bytes of the character with a given number. -/
def charBytes (n : Nat) : Bytes :=
  String.utf8EncodeChar (Char.ofNat n)

/-- The bytes that a string spells. A character beyond the first plane is written as a pair of
surrogates, neither of which may stand alone. -/
def unescape : Bytes → Option Bytes
  | [] => some []
  | 0x5C :: 0x75 :: a :: b :: c :: d :: 0x5C :: 0x75 :: e :: f :: g :: h :: rest => do
    let n ← hex4? a b c d
    if 0xD800 ≤ n ∧ n < 0xDC00 then
      let m ← hex4? e f g h
      if 0xDC00 ≤ m ∧ m < 0xE000 then
        return charBytes (0x10000 + (n - 0xD800) * 0x400 + (m - 0xDC00)) ++ (← unescape rest)
      else none
    else if 0xDC00 ≤ n ∧ n < 0xE000 then none
    else return charBytes n ++ (← unescape (0x5C :: 0x75 :: e :: f :: g :: h :: rest))
  | 0x5C :: 0x75 :: a :: b :: c :: d :: rest => do
    let n ← hex4? a b c d
    if 0xD800 ≤ n ∧ n < 0xE000 then none else return charBytes n ++ (← unescape rest)
  | 0x5C :: b :: rest => do return (← escapedByte? b) :: (← unescape rest)
  | 0x5C :: [] => none
  | b :: rest => do return b :: (← unescape rest)

/-- The text that a string spells. -/
def decodeString? (raw : Bytes) : Option String :=
  (unescape raw).bind Text.decode?

/-! ## Structures

A structure with fields is an object with their names, or an array of their values in order. -/

/-- The value of the one member with a given name. -/
def member? (members : List (String × Json)) (name : String) : Option Json :=
  match members.filter fun m => m.1 == name with
  | [m] => some m.2
  | _ => none

/-- The values of the fields of a structure. Members with other names are passed over, but each
name has to be readable. -/
def fields? (names : List String) : Json → Option (List Json)
  | array items => if items.length = names.length then some items else none
  | object members => do
    let named ← members.mapM fun m => (decodeString? m.1).map fun name => (name, m.2)
    names.mapM (member? named)
  | _ => none

/-- The value of a natural number that a byte holds. -/
def byte? : Json → Option UInt8
  | number n => n.natural?.bind uint8OfNat?
  | _ => none

/-- The items of an array. -/
def items? : Json → Option (List Json)
  | array items => some items
  | _ => none

/-- The number of a natural number. -/
def ofNat (n : Nat) : Json :=
  number (Numeral.ofNat n)

end Json

end Turtle
