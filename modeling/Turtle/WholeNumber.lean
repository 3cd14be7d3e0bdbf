/-!
# Whole numbers

The text of whole numbers: an optional sign and ASCII digits, nothing else. Leading zeros are
allowed when a number is read and never written.

* `readInt?` reads a number with either sign, `readNat?` one that may only carry a `+`;
* `readInt32?`, `readUInt8?` and `readUInt16?` refuse what lies outside their range;
* `readInt?_writeInt`, `readInt32?_writeInt32`: what is written is read back.
-/

namespace Turtle

/-- The value of ASCII digits, of which there has to be at least one. -/
def readDigits? (s : List Char) : Option Nat :=
  if s ≠ [] ∧ s.all Char.isDigit then
    some (s.foldl (fun n c => 10 * n + (c.toNat - '0'.toNat)) 0)
  else
    none

/-- Reads digits behind an optional sign. -/
def readInt? : List Char → Option Int
  | '+' :: s => (readDigits? s).map Int.ofNat
  | '-' :: s => (readDigits? s).map fun n => -(n : Int)
  | s => (readDigits? s).map Int.ofNat

/-- Reads digits behind an optional plus sign. -/
def readNat? : List Char → Option Nat
  | '+' :: s => readDigits? s
  | s => readDigits? s

/-- The decimal digits of a number, without leading zeros. -/
def writeNat (n : Nat) : List Char :=
  Nat.toDigits 10 n

/-- The decimal text of a number; a negative one has a minus sign in front. -/
def writeInt : Int → List Char
  | .ofNat n => writeNat n
  | .negSucc n => '-' :: writeNat (n + 1)

/-- The decimal text of a natural number, as a string. -/
def natText (n : Nat) : String :=
  String.ofList (writeNat n)

/-! ## Numbers of fixed width -/

/-- The number of 32 bits with a given value, if there is one. -/
def int32OfInt? (n : Int) : Option Int32 :=
  if -2147483648 ≤ n ∧ n ≤ 2147483647 then some (Int32.ofInt n) else none

/-- The number of 8 bits with a given value, if there is one. -/
def uint8OfNat? (n : Nat) : Option UInt8 :=
  if n < UInt8.size then some (UInt8.ofNat n) else none

/-- The number of 16 bits with a given value, if there is one. -/
def uint16OfNat? (n : Nat) : Option UInt16 :=
  if n < UInt16.size then some (UInt16.ofNat n) else none

/-- Reads a number of 32 bits with a sign. -/
def readInt32? (s : String) : Option Int32 :=
  (readInt? s.toList).bind int32OfInt?

/-- The decimal text of a number of 32 bits with a sign. -/
def writeInt32 (n : Int32) : String :=
  String.ofList (writeInt n.toInt)

/-- Reads a number of 8 bits without a sign. -/
def readUInt8? (s : String) : Option UInt8 :=
  (readNat? s.toList).bind uint8OfNat?

/-- The decimal text of a number of 8 bits. -/
def writeUInt8 (n : UInt8) : String :=
  natText n.toNat

/-- Reads a number of 16 bits without a sign. -/
def readUInt16? (s : String) : Option UInt16 :=
  (readNat? s.toList).bind uint16OfNat?

/-- The decimal text of a number of 16 bits. -/
def writeUInt16 (n : UInt16) : String :=
  natText n.toNat

/-! ## Reading what was written -/

/-- The digit characters stand for the digits. -/
theorem digitChar_isDigit {d : Nat} (h : d < 10) :
    d.digitChar.isDigit = true ∧ d.digitChar.toNat - '0'.toNat = d := by
  have all : ∀ e : Fin 10, (e : Nat).digitChar.isDigit = true ∧
      (e : Nat).digitChar.toNat - '0'.toNat = e := by decide
  exact all ⟨d, h⟩

/-- Every digit of a number but its last is a digit of its tenth. -/
theorem writeNat_of_ten_le {n : Nat} (h : 10 ≤ n) :
    writeNat n = writeNat (n / 10) ++ [(n % 10).digitChar] := by
  have step := @Nat.toDigits_append_toDigits 10 (n / 10) (n % 10) (by omega) (by omega) (by omega)
  rw [Nat.toDigits_of_lt_base (show n % 10 < 10 by omega)] at step
  rw [writeNat, writeNat, step, Nat.div_add_mod]

theorem writeNat_of_lt_ten {n : Nat} (h : n < 10) : writeNat n = [n.digitChar] :=
  Nat.toDigits_of_lt_base h

/-- The digits of a number are digits, there is at least one, and their value is the number. -/
theorem readDigits?_writeNat (n : Nat) : readDigits? (writeNat n) = some n := by
  induction n using Nat.strongRecOn with
  | ind n ih =>
    by_cases h : n < 10
    · have hd := digitChar_isDigit h
      rw [writeNat_of_lt_ten h, readDigits?, if_pos ⟨by simp, by simp [hd.1]⟩]
      simp only [List.foldl_cons, List.foldl_nil, hd.2, Nat.mul_zero, Nat.zero_add]
    · have hd := digitChar_isDigit (d := n % 10) (by omega)
      have ih' := ih (n / 10) (by omega)
      rw [readDigits?] at ih'
      split at ih'
      · next hq =>
        rw [writeNat_of_ten_le (by omega), readDigits?,
          if_pos ⟨by simp, by simpa [hd.1] using hq.2⟩, List.foldl_append, Option.some.inj ih']
        simp only [List.foldl_cons, List.foldl_nil, hd.2]
        congr 1
        omega
      · cases ih'

/-- No digit of a number is a sign. -/
theorem isDigit_of_mem_writeNat {n : Nat} {c : Char} (h : c ∈ writeNat n) : c.isDigit = true := by
  have hn := readDigits?_writeNat n
  rw [readDigits?] at hn
  split at hn
  · next hq => exact List.all_eq_true.mp hq.2 c h
  · cases hn

/-- The text of a number is read back as the number. -/
theorem readInt?_writeInt (n : Int) : readInt? (writeInt n) = some n := by
  cases n with
  | negSucc n => simp [writeInt, readInt?, readDigits?_writeNat, Int.negSucc_eq]
  | ofNat n =>
    have hn := readDigits?_writeNat n
    have hd := fun c => @isDigit_of_mem_writeNat n c
    rw [writeInt]
    revert hn hd
    generalize writeNat n = s
    intro hn hd
    unfold readInt?
    split
    · exact absurd (hd '+' List.mem_cons_self) (by decide)
    · exact absurd (hd '-' List.mem_cons_self) (by decide)
    · simp [hn]

/-- Every number of 32 bits is the one with its value. -/
theorem int32OfInt?_toInt (n : Int32) : int32OfInt? n.toInt = some n := by
  have lo := n.le_toInt
  have hi := n.toInt_lt
  rw [int32OfInt?, if_pos ⟨by omega, by omega⟩, Int32.ofInt_toInt]

/-- The text of a number of 32 bits is read back as the number. -/
theorem readInt32?_writeInt32 (n : Int32) : readInt32? (writeInt32 n) = some n := by
  simp [readInt32?, writeInt32, readInt?_writeInt, int32OfInt?_toInt]

end Turtle
