import Mathlib.Data.Nat.Digits.Defs
import Mathlib.Tactic.Common
import Turtle.WholeNumber

/-!
# Numbers in words

Which texts are read as whole numbers, and as which: ASCII digits with an optional sign in front,
by their decimal value. Leading zeros make no difference. A text is a number of 32 bits if its
value is one.

* `Spells` says which number a text spells, and `readInt?_eq_some_iff` that it is read so;
* `readInt32?_eq_some_iff`: the same for the numbers of 32 bits, out of which statements are made;
* `readUInt16?_eq_some_iff`, `readUInt8?_eq_some_iff`: and for the positive ones without a sign that
  settings have.
-/

namespace Turtle

/-- The value of decimal digits, the last of which stands for the ones. -/
def decimalValue (digits : List Char) : Nat :=
  Nat.ofDigits 10 (digits.reverse.map fun c => c.toNat - '0'.toNat)

/-- ASCII digits, at least one of them. -/
structure AreDigits (s : List Char) : Prop where
  ne_nil : s ≠ []
  isDigit : ∀ c ∈ s, c.isDigit = true

/-- A text spells a whole number. -/
inductive Spells : List Char → Int → Prop
  | plain {digits : List Char} (h : AreDigits digits) : Spells digits (decimalValue digits)
  | plus {digits : List Char} (h : AreDigits digits) : Spells ('+' :: digits) (decimalValue digits)
  | minus {digits : List Char} (h : AreDigits digits) :
      Spells ('-' :: digits) (-decimalValue digits)

theorem not_areDigits_cons {c : Char} (hc : c.isDigit = false) (s : List Char) :
    ¬AreDigits (c :: s) := by
  intro h
  rw [h.isDigit c List.mem_cons_self] at hc
  cases hc

/-- Digits are read from the first to the last, and counted from the last to the first. -/
theorem foldl_eq_decimalValue (digits : List Char) :
    digits.foldl (fun n c => 10 * n + (c.toNat - '0'.toNat)) 0 = decimalValue digits := by
  rw [decimalValue, Nat.ofDigits_eq_foldr, List.foldr_map, List.foldr_reverse]
  simp only [Nat.cast_id, Nat.add_comm]

theorem readDigits?_eq_some_iff {s : List Char} {n : Nat} :
    readDigits? s = some n ↔ AreDigits s ∧ decimalValue s = n := by
  rw [readDigits?, foldl_eq_decimalValue]
  split
  · next h =>
    have hdigits : AreDigits s := ⟨h.1, List.all_eq_true.1 h.2⟩
    exact ⟨fun e => ⟨hdigits, Option.some.inj e⟩, fun e => congrArg some e.2⟩
  · next h =>
    refine ⟨fun e => ?_, fun e => absurd ?_ h⟩
    · cases e
    · exact ⟨e.1.ne_nil, List.all_eq_true.2 e.1.isDigit⟩

/-- Behind a minus sign the value of the digits is negated. -/
theorem readInt?_minus (s : List Char) :
    readInt? ('-' :: s) = (readDigits? s).map fun n : Nat => -(n : Int) := by
  rw [readInt?]
  cases readDigits? s <;> rfl

/-- A text is read as the number that it spells. -/
theorem readInt?_eq_some_iff {s : List Char} {n : Int} : readInt? s = some n ↔ Spells s n := by
  constructor
  · intro h
    rw [readInt?.eq_def] at h
    split at h
    · obtain ⟨m, hm, rfl⟩ := Option.map_eq_some_iff.1 h
      obtain ⟨hdigits, rfl⟩ := readDigits?_eq_some_iff.1 hm
      exact .plus hdigits
    · next digits =>
      rw [← readInt?, readInt?_minus] at h
      obtain ⟨m, hm, rfl⟩ := Option.map_eq_some_iff.1 h
      obtain ⟨hdigits, rfl⟩ := readDigits?_eq_some_iff.1 hm
      exact .minus hdigits
    · obtain ⟨m, hm, rfl⟩ := Option.map_eq_some_iff.1 h
      obtain ⟨hdigits, rfl⟩ := readDigits?_eq_some_iff.1 hm
      exact .plain hdigits
  · intro h
    have hread {digits : List Char} (h : AreDigits digits) :
        readDigits? digits = some (decimalValue digits) := readDigits?_eq_some_iff.2 ⟨h, rfl⟩
    cases h with
    | plus h => rw [readInt?, hread h]; rfl
    | minus h => rw [readInt?_minus, hread h]; rfl
    | plain h =>
      -- A sign is no digit, so that the text begins with none.
      rw [readInt?.eq_def]
      split
      · exact absurd h (not_areDigits_cons (by decide) _)
      · exact absurd h (not_areDigits_cons (by decide) _)
      · rw [hread h]; rfl

/-- A whole number is one of 32 bits if it is the value of one. -/
theorem int32OfInt?_eq_some_iff {m : Int} {n : Int32} : int32OfInt? m = some n ↔ n.toInt = m := by
  constructor
  · intro h
    rw [int32OfInt?] at h
    split at h
    · next hm =>
      rw [← Option.some.inj h]
      exact Int32.toInt_ofInt_of_le (by omega) (by omega)
    · cases h
  · rintro rfl
    exact int32OfInt?_toInt n

/-- A text is read as the number of 32 bits whose value it spells. -/
theorem readInt32?_eq_some_iff {text : String} {n : Int32} :
    readInt32? text = some n ↔ Spells text.toList n.toInt := by
  simp only [readInt32?, Option.bind_eq_some_iff, readInt?_eq_some_iff, int32OfInt?_eq_some_iff]
  constructor
  · rintro ⟨m, h, rfl⟩
    exact h
  · intro h
    exact ⟨n.toInt, h, rfl⟩

/-- Without a minus sign in front, a text is read as the number that it spells if it is not zero. -/
theorem readNat?_eq_some_iff {s : List Char} {n : Nat} (hn : n ≠ 0) :
    readNat? s = some n ↔ Spells s n := by
  constructor
  · intro h
    rw [readNat?.eq_def] at h
    split at h
    · obtain ⟨hdigits, rfl⟩ := readDigits?_eq_some_iff.1 h
      exact .plus hdigits
    · obtain ⟨hdigits, rfl⟩ := readDigits?_eq_some_iff.1 h
      exact .plain hdigits
  · intro h
    generalize hm : (n : Int) = m at h
    cases h with
    | plus h => exact readDigits?_eq_some_iff.2 ⟨h, (Int.ofNat_inj.1 hm).symm⟩
    | minus h => omega
    | plain h =>
      rw [readNat?.eq_def]
      split
      · exact absurd h (not_areDigits_cons (by decide) _)
      · exact readDigits?_eq_some_iff.2 ⟨h, (Int.ofNat_inj.1 hm).symm⟩

/-- A number is one of 16 bits if it is the value of one. -/
theorem uint16OfNat?_eq_some_iff {m : Nat} {n : UInt16} :
    uint16OfNat? m = some n ↔ n.toNat = m := by
  rw [uint16OfNat?]
  constructor
  · intro h
    split at h
    · next hm => rw [← Option.some.inj h, UInt16.toNat_ofNat_of_lt' hm]
    · cases h
  · rintro rfl
    rw [if_pos n.toNat_lt_size, UInt16.ofNat_toNat]

/-- A number is one of 8 bits if it is the value of one. -/
theorem uint8OfNat?_eq_some_iff {m : Nat} {n : UInt8} : uint8OfNat? m = some n ↔ n.toNat = m := by
  rw [uint8OfNat?]
  constructor
  · intro h
    split at h
    · next hm => rw [← Option.some.inj h, UInt8.toNat_ofNat_of_lt' hm]
    · cases h
  · rintro rfl
    rw [if_pos n.toNat_lt_size, UInt8.ofNat_toNat]

theorem readUInt16?_eq_some_iff {text : String} {n : UInt16} (hn : n.toNat ≠ 0) :
    readUInt16? text = some n ↔ Spells text.toList n.toNat := by
  rw [readUInt16?, Option.bind_eq_some_iff, ← readNat?_eq_some_iff hn]
  simp only [uint16OfNat?_eq_some_iff, exists_eq_right']

theorem readUInt8?_eq_some_iff {text : String} {n : UInt8} (hn : n.toNat ≠ 0) :
    readUInt8? text = some n ↔ Spells text.toList n.toNat := by
  rw [readUInt8?, Option.bind_eq_some_iff, ← readNat?_eq_some_iff hn]
  simp only [uint8OfNat?_eq_some_iff, exists_eq_right']

/-- A text that is not read spells no number of 32 bits. -/
theorem readInt32?_eq_none_iff {text : String} :
    readInt32? text = none ↔ ∀ n : Int32, ¬Spells text.toList n.toInt := by
  simp only [Option.eq_none_iff_forall_ne_some, ne_eq, readInt32?_eq_some_iff]

/-- A text spells one number at most. -/
theorem Spells.unique {text : String} {n m : Int32} (hn : Spells text.toList n.toInt)
    (hm : Spells text.toList m.toInt) : n = m :=
  Option.some.inj ((readInt32?_eq_some_iff.2 hn).symm.trans (readInt32?_eq_some_iff.2 hm))

end Turtle
