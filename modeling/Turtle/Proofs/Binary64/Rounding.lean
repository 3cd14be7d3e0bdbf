import Turtle.Proofs.Binary64.Unpacked

/-!
# Rounding that changes nothing

The result of an operation on doubles is rounded to 53 binary digits. A whole number of that many
digits, with however many zeros behind it, is not changed by that: the zeros are shifted out, or
others are shifted in, until the mantissa has all its digits.

* `mantissa` is a whole number with all the digits of a mantissa;
* `roundWithAccuracy_mul_two_pow`, `round_mul_two_pow`: a whole number is rounded to itself;
* `unpack_pack_of_log2`: such a double is packed without loss.
-/

namespace Turtle.Binary64

open Float.Model Float.Model.UnpackedFloat

/-! ## Shifting -/

theorem log2_mul_two_pow {n : Nat} (hn : n ≠ 0) (k : Nat) : (n * 2 ^ k).log2 = n.log2 + k := by
  have hne : n * 2 ^ k ≠ 0 := Nat.mul_ne_zero hn (Nat.two_pow_pos k).ne'
  rw [Nat.log2_eq_iff hne, Nat.pow_add, Nat.add_right_comm, Nat.pow_add]
  exact ⟨Nat.mul_le_mul_right _ (Nat.log2_self_le hn),
    Nat.mul_lt_mul_of_pos_right Nat.lt_log2_self (Nat.two_pow_pos k)⟩

/-- Zeros are shifted out without a trace. -/
theorem shiftRight_mul_two_pow (n k : Nat) :
    (⟨n * 2 ^ k, false, false⟩ : ExtendedMantissa) >>> k = ⟨n, false, false⟩ := by
  show k.repeat ExtendedMantissa.shiftRightOne _ = _
  induction k generalizing n with
  | zero =>
    rw [Nat.pow_zero, Nat.mul_one]
    rfl
  | succ k ih =>
    rw [Nat.repeat, Nat.pow_succ', ← Nat.mul_assoc, ih]
    simp [ExtendedMantissa.shiftRightOne]

/-- The mantissa of a whole number, with all its digits. -/
def mantissa (n : Nat) : Nat := n * 2 ^ (52 - n.log2)

section Round

variable {n : Nat} (hn : 0 < n) (hlt : n < 2 ^ 53)
include hn

theorem mantissa_pos : 0 < mantissa n :=
  Nat.mul_pos hn (Nat.two_pow_pos _)

theorem targetExponent_mul_two_pow (k : Nat) :
    Format.binary64.targetExponent (totalExponent (n * 2 ^ k) (-k)) = n.log2 - 52 := by
  rw [totalExponent, log2_mul_two_pow hn.ne', Format.targetExponent]
  have hmin : Format.binary64.minExponent = -1074 := by decide
  have hbits : Format.binary64.mantissaBits = 53 := rfl
  omega

include hlt

theorem log2_le : n.log2 ≤ 52 :=
  Nat.le_of_lt_succ ((Nat.log2_lt hn.ne').2 hlt)

theorem log2_mantissa : (mantissa n).log2 = 52 := by
  have := log2_le hn hlt
  rw [mantissa, log2_mul_two_pow hn.ne']
  omega

theorem shiftToTargetExponent_mul_two_pow {k : Nat} (hk : 52 ≤ n.log2 + k) :
    shiftToTargetExponent Format.binary64 (n * 2 ^ k) (-k) .exact =
      ((⟨mantissa n, false, false⟩ : ExtendedMantissa), (n.log2 : Int) - 52) := by
  have hlog := log2_le hn hlt
  rw [shiftToTargetExponent, targetExponent_mul_two_pow hn, shiftToExponent]
  have hshift : ((n.log2 : Int) - 52 - -k).toNat = n.log2 + k - 52 := by omega
  have hsplit : n * 2 ^ k = mantissa n * 2 ^ (n.log2 + k - 52) := by
    rw [mantissa, Nat.mul_assoc, ← Nat.pow_add]
    congr 2
    omega
  rw [hshift, ExtendedMantissa.ofMantissaAndAccuracy, hsplit, shiftRight_mul_two_pow]
  congr 1
  omega

/-- A whole number that has enough digits is rounded to itself. -/
theorem roundWithAccuracy_mul_two_pow (s : Sign) {k : Nat} (hk : 52 ≤ n.log2 + k) :
    roundWithAccuracy Format.binary64 s (n * 2 ^ k) (-k) .exact =
      .finite s (mantissa n) (n.log2 - 52) (mantissa_pos hn) := by
  have hlog := log2_le hn hlt
  -- The first shift gives the mantissa all its digits, and the second one finds them there.
  have hagain := shiftToTargetExponent_mul_two_pow hn hlt (k := 52 - n.log2) (by omega)
  have hexponent : -((52 - n.log2 : Nat) : Int) = n.log2 - 52 := by omega
  rw [hexponent, ← mantissa] at hagain
  have hrounded : (⟨mantissa n, false, false⟩ : ExtendedMantissa).roundedMantissa = mantissa n :=
    rfl
  simp only [roundWithAccuracy, shiftToTargetExponent_mul_two_pow hn hlt hk, hrounded, hagain,
    (mantissa_pos hn).ne', dite_false]

/-- A whole number is rounded to itself. -/
theorem round_mul_two_pow (s : Sign) (k : Nat) :
    UnpackedFloat.round Format.binary64 s (n * 2 ^ k) (-k) =
      .finite s (mantissa n) (n.log2 - 52) (mantissa_pos hn) := by
  have hlog := log2_le hn hlt
  rw [UnpackedFloat.round, targetExponent_mul_two_pow hn, decreaseExponent]
  dsimp only
  -- There are `j` digits to be added, and then there are enough.
  obtain ⟨j, hj⟩ : ∃ j, (-(k : Int) - (n.log2 - 52)).toNat = j := ⟨_, rfl⟩
  have hexponent : -(k : Int) - j = -((k + j : Nat) : Int) := by omega
  rw [hj, Nat.shiftLeft_eq, Nat.mul_assoc, ← Nat.pow_add, hexponent]
  exact roundWithAccuracy_mul_two_pow hn hlt s (by omega)

end Round

/-! ## Packing -/

/-- A double with all the digits of a mantissa is packed and unpacked again, if its exponent is not
    too small or too large. -/
theorem unpack_pack_of_log2 (s : Sign) {m : Nat} (hpos : 0 < m) (hm : m.log2 = 52) {e : Int}
    (hlow : -1074 ≤ e) (hhigh : e ≤ 971) :
    (Float.Model.pack (.finite s m e hpos)).unpack = .finite s m e hpos := by
  obtain ⟨k, hk⟩ : ∃ k, (e + (1023 : Nat) + (52 : Nat)).toNat = k := ⟨_, rfl⟩
  have hexponent : (BitVec.ofNat 11 k).toNat = k := by
    rw [BitVec.toNat_ofNat, Nat.mod_eq_of_lt (by omega)]
  have hones : BitVec.ofNat 11 k ≠ -1#_ := by
    rw [ne_eq, ← BitVec.toNat_inj, hexponent]
    show k ≠ 2047
    omega
  have hzero : BitVec.ofNat 11 k ≠ 0#_ := by
    rw [ne_eq, ← BitVec.toNat_inj, hexponent]
    show k ≠ 0
    omega
  have hpack : UnpackedFloat.pack Format.binary64 (.finite s m e hpos) =
      packComponents Format.binary64 s (BitVec.ofNat 11 k) (BitVec.ofNat 52 m) := by
    show (if 2 ^ 11 ≤ (e + (1023 : Nat) + (52 : Nat)).toNat + 1 then _ else
      if m.log2 + 1 = 53 then packComponents Format.binary64 s
        (BitVec.ofNat 11 (e + (1023 : Nat) + (52 : Nat)).toNat) (BitVec.ofNat 52 m) else _) = _
    rw [hk, if_neg (by omega), if_pos (by omega)]
  -- The first digit of the mantissa is not stored, for it is a one.
  have hmantissa : (1#1 ++ BitVec.ofNat 52 m).toNat = m := by
    obtain ⟨hle, hlt⟩ := (Nat.log2_eq_iff hpos.ne').1 hm
    rw [BitVec.toNat_append, ← Nat.shiftLeft_add_eq_or_of_lt (BitVec.ofNat 52 m).isLt,
      BitVec.toNat_ofNat]
    show 1 <<< 52 + m % 2 ^ 52 = m
    omega
  show UnpackedFloat.unpack Format.binary64 (UnpackedFloat.pack Format.binary64 _) = _
  rw [hpack, UnpackedFloat.unpack]
  simp only [unpackExponent_packComponents, unpackMantissa_packComponents,
    unpackSign_packComponents, Sign.ofBitVec_toBitVec, hones, hzero, if_false, hmantissa, hexponent]
  congr 1
  show (k : Int) - (1023 + 52) = e
  omega

end Turtle.Binary64
