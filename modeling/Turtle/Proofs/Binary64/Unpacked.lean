import Mathlib
import Turtle.Binary64

/-!
# The parts of a double

Arithmetic is defined on doubles that are unpacked: a sign, a mantissa and an exponent, or a zero,
an infinity or no number at all. The parts of a double are taken from its bits, and they are the
same.

* `partsOf?` are the parts of an unpacked double;
* `parts?_eq`: these are the parts of the double.
-/

namespace Turtle.Binary64

open Float.Model

/-! ## Fields of bits -/

section Fields

variable (b : BitVec Format.binary64.numBits)

theorem toNat_unpackExponent :
    (UnpackedFloat.unpackExponent b).toNat = b.toNat / fullUnits % 2048 := by
  simp [UnpackedFloat.unpackExponent, BitVec.extractLsb, fullUnits, Nat.shiftRight_eq_div_pow]

theorem toNat_unpackMantissa : (UnpackedFloat.unpackMantissa b).toNat = b.toNat % fullUnits := by
  simp [UnpackedFloat.unpackMantissa, BitVec.extractLsb, fullUnits]

theorem toNat_unpackSign : (UnpackedFloat.unpackSign b).toNat = b.toNat >>> 63 := by
  have hlt : b.toNat / 2 ^ 63 < 2 := Nat.div_lt_of_lt_mul b.isLt
  simp [UnpackedFloat.unpackSign, BitVec.extractLsb, Nat.shiftRight_eq_div_pow]
  omega

theorem unpackExponent_eq_ones_iff :
    UnpackedFloat.unpackExponent b = -1#_ ↔ b.toNat / fullUnits % 2048 = 2047 := by
  rw [← BitVec.toNat_inj, toNat_unpackExponent]
  rfl

theorem unpackExponent_eq_zero_iff :
    UnpackedFloat.unpackExponent b = 0#_ ↔ b.toNat / fullUnits % 2048 = 0 := by
  rw [← BitVec.toNat_inj, toNat_unpackExponent]
  rfl

theorem unpackMantissa_eq_zero_iff :
    UnpackedFloat.unpackMantissa b = 0#_ ↔ b.toNat % fullUnits = 0 := by
  rw [← BitVec.toNat_inj, toNat_unpackMantissa]
  rfl

/-- The bit that is not stored stands above those that are. -/
theorem toNat_one_append_unpackMantissa :
    (1#1 ++ UnpackedFloat.unpackMantissa b).toNat = fullUnits + b.toNat % fullUnits := by
  rw [BitVec.toNat_append, ← Nat.shiftLeft_add_eq_or_of_lt (UnpackedFloat.unpackMantissa b).isLt,
    toNat_unpackMantissa]
  rfl

end Fields

/-! ## Parts -/

/-- A sign that says that a double is negative. -/
def isMinus : UnpackedFloat.Sign → Bool
  | .negative => true
  | .positive => false

/-- The parts of an unpacked double, if it is finite. -/
def partsOf? : UnpackedFloat → Option Parts
  | .zero s => some ⟨isMinus s, 0, -1074⟩
  | .finite s m e _ => some ⟨isMinus s, m, e⟩
  | .infinity _ | .notANumber => none

theorem isSome_partsOf? (u : UnpackedFloat) : (partsOf? u).isSome = u.isFinite := by
  cases u <;> rfl

theorem isMinus_ofBitVec (b : BitVec 1) :
    isMinus (UnpackedFloat.Sign.ofBitVec b) = (b.toNat == 1) := by
  rcases BitVec.eq_zero_or_eq_one b with rfl | rfl <;> rfl

/-- An unpacked double that is positive is known by its parts. -/
theorem eq_finite_of_partsOf? {u : UnpackedFloat} {m : Nat} {e : Int}
    (h : partsOf? u = some ⟨false, m, e⟩) (hm : 0 < m) : u = .finite .positive m e hm := by
  cases u with
  | infinity s | notANumber => cases h
  | zero s =>
    obtain ⟨-, rfl, -⟩ := Parts.mk.inj (Option.some.inj h)
    exact absurd hm (Nat.lt_irrefl 0)
  | finite s m' e' hm' =>
    obtain ⟨hs, rfl, rfl⟩ := Parts.mk.inj (Option.some.inj h)
    cases s with
    | negative => cases hs
    | positive => rfl

/-- The parts of a double by its bits. -/
theorem partsOf?_unpack (b : BitVec Format.binary64.numBits) :
    partsOf? (UnpackedFloat.unpack Format.binary64 b) =
      if b.toNat / fullUnits % 2048 = 2047 then none
      else if b.toNat / fullUnits % 2048 = 0 then
        some ⟨b.toNat >>> 63 == 1, b.toNat % fullUnits, -1074⟩
      else
        some ⟨b.toNat >>> 63 == 1, fullUnits + b.toNat % fullUnits,
          ((b.toNat / fullUnits % 2048 : Nat) : Int) - 1075⟩ := by
  have hsign : isMinus (UnpackedFloat.Sign.ofBitVec (UnpackedFloat.unpackSign b)) =
      (b.toNat >>> 63 == 1) := by
    rw [isMinus_ofBitVec, toNat_unpackSign]
  rw [UnpackedFloat.unpack, ← hsign]
  dsimp only
  by_cases hones : UnpackedFloat.unpackExponent b = -1#_
  · rw [if_pos hones, if_pos ((unpackExponent_eq_ones_iff b).1 hones)]
    split <;> rfl
  rw [if_neg hones, if_neg (mt (unpackExponent_eq_ones_iff b).2 hones)]
  by_cases hzero : UnpackedFloat.unpackExponent b = 0#_
  · rw [if_pos hzero, if_pos ((unpackExponent_eq_zero_iff b).1 hzero)]
    by_cases hmantissa : UnpackedFloat.unpackMantissa b = 0#_
    · rw [dif_pos hmantissa, (unpackMantissa_eq_zero_iff b).1 hmantissa]
      rfl
    · rw [dif_neg hmantissa, partsOf?, toNat_unpackMantissa, hzero]
      rfl
  · rw [if_neg hzero, if_neg (mt (unpackExponent_eq_zero_iff b).2 hzero), partsOf?,
      toNat_one_append_unpackMantissa, toNat_unpackExponent]
    rfl

/-- Bits with nothing but an exponent in them are a power of two. -/
theorem partsOf?_unpack_exponent {e : Nat} (hpos : 0 < e) (hlt : e < 2047) :
    partsOf? (UnpackedFloat.unpack Format.binary64 (UInt64.ofNat (e * fullUnits)).toBitVec) =
      some ⟨false, fullUnits, e - 1075⟩ := by
  have hbits : e * fullUnits < 2 ^ 63 := by
    rw [fullUnits]
    omega
  have htoNat : (UInt64.ofNat (e * fullUnits)).toBitVec.toNat = e * fullUnits :=
    UInt64.toNat_ofNat_of_lt' (Nat.lt_trans hbits (by decide))
  have hexponent : e * fullUnits / fullUnits % 2048 = e := by
    rw [Nat.mul_div_cancel e (by decide)]
    omega
  have hsign : (e * fullUnits) >>> 63 = 0 := by
    rw [Nat.shiftRight_eq_div_pow, Nat.div_eq_of_lt hbits]
  rw [partsOf?_unpack, htoNat, hexponent, hsign, Nat.mul_mod_left, if_neg (by omega),
    if_neg (by omega)]
  rfl

/-- The parts of a double are those of the double when it is unpacked. -/
theorem parts?_eq (x : Float) : parts? x = partsOf? x.toModel.unpack :=
  (partsOf?_unpack x.toBits.toBitVec).symm

end Turtle.Binary64
