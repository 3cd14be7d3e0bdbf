/-!
# Text as bytes

Files, paths and input are bytes; messages and statements are text. `encode` writes a text as
UTF-8, `decode?` reads bytes that are UTF-8 throughout, and `decodeLossy` reads any bytes, with
the replacement character for each longest piece that begins no character.

* `decode?_encode`: what `encode` writes is read back.
-/

namespace Turtle

/-- What a file, a path or an input stream holds. -/
abbrev Bytes := List UInt8

namespace Text

/-- The bytes of a text in UTF-8. -/
def encode (s : String) : Bytes :=
  s.toUTF8.data.toList

/-- The text that bytes spell in UTF-8, if they are well formed throughout. -/
def decode? (bytes : Bytes) : Option String :=
  String.fromUTF8? ⟨bytes.toArray⟩

/-- What is written is read back. -/
theorem decode?_encode (s : String) : decode? (encode s) = some s := by
  simp [decode?, encode, String.fromUTF8?, String.fromUTF8, String.toUTF8, s.isValidUTF8]

theorem encode_append (s t : String) : encode (s ++ t) = encode s ++ encode t := by
  simp [encode]

/-! ## Reading bytes that may be damaged -/

/-- A character of several bytes that has begun: what its bytes so far spell, how many are still
to come, and the range in which the next one has to lie. -/
structure Pending where
  value : Nat
  missing : Nat
  low : UInt8
  high : UInt8

/-- The character of several bytes that a byte begins, if it begins one. -/
def Pending.ofLead? (b : UInt8) : Option Pending :=
  if 0xC2 ≤ b && b ≤ 0xDF then some ⟨b.toNat - 0xC0, 1, 0x80, 0xBF⟩
  else if b == 0xE0 then some ⟨0, 2, 0xA0, 0xBF⟩
  else if b == 0xED then some ⟨0xD, 2, 0x80, 0x9F⟩
  else if 0xE1 ≤ b && b ≤ 0xEF then some ⟨b.toNat - 0xE0, 2, 0x80, 0xBF⟩
  else if b == 0xF0 then some ⟨0, 3, 0x90, 0xBF⟩
  else if b == 0xF4 then some ⟨4, 3, 0x80, 0x8F⟩
  else if 0xF1 ≤ b && b ≤ 0xF3 then some ⟨b.toNat - 0xF0, 3, 0x80, 0xBF⟩
  else none

/-- The mark for a piece of the input that is no character. -/
def replacement : Char := '\uFFFD'

/-- A byte where a character begins: the characters it completes, and the one it begins. -/
def beginChar (b : UInt8) : List Char × Option Pending :=
  if b < 0x80 then ([Char.ofNat b.toNat], none)
  else match Pending.ofLead? b with
    | some p => ([], some p)
    | none => ([replacement], none)

/-- One byte after the bytes of an unfinished character: the characters it completes, and the one
it leaves unfinished. -/
def nextByte (pending : Option Pending) (b : UInt8) : List Char × Option Pending :=
  match pending with
  | none => beginChar b
  | some p =>
    if p.low ≤ b && b ≤ p.high then
      let value := p.value * 64 + (b.toNat - 0x80)
      if p.missing ≤ 1 then ([Char.ofNat value], none)
      else ([], some ⟨value, p.missing - 1, 0x80, 0xBF⟩)
    else
      let (done, rest) := beginChar b
      (replacement :: done, rest)

/-- The characters of bytes that follow an unfinished character. -/
def lossyFrom : Option Pending → Bytes → List Char
  | none, [] => []
  | some _, [] => [replacement]
  | pending, b :: bytes =>
    let (done, rest) := nextByte pending b
    done ++ lossyFrom rest bytes

/-- The text of any bytes, with `replacement` for what is no character. -/
def decodeLossy (bytes : Bytes) : String :=
  (decode? bytes).getD (String.ofList (lossyFrom none bytes))

end Text

end Turtle
