import Turtle.Binary64.Scalar
import Turtle.Proofs.Binary64.Rounding

/-!
# Whole numbers as doubles

A double has 53 binary digits. As long as the numbers are whole and have no more digits than that,
doubles add, take negative and take remainders as whole numbers do: nothing is rounded, for there is
nothing to round.

* `value?` is the number that a double stands for;
* `Whole` says that a double is a whole number, and `Whole.value?_eq` that it stands for it;
* `whole_ofInt`, `Whole.neg` and `Whole.add`: arithmetic is exact;
* `Whole.wrap360`: so is the remainder that makes an angle less than a full turn.
-/

namespace Turtle.Binary64

open Float.Model Float.Model.UnpackedFloat

/-! ## Unpacked whole numbers -/

/-- An unpacked double that is a whole number, with all the digits of a mantissa. -/
inductive IsWhole : UnpackedFloat → Int → Prop
  | zero (s : Sign) : IsWhole (.zero s) 0
  | finite (s : Sign) {n : Nat} (hn : 0 < n) (hlt : n < 2 ^ 53) :
      IsWhole (.finite s (mantissa n) (n.log2 - 52) (mantissa_pos hn)) (s.apply n)

section Sign

variable (s : Sign) (m n : Int)

theorem sign_apply_mul : s.apply (m * n) = s.apply m * n := by
  cases s with
  | positive => rfl
  | negative => exact (Int.neg_mul m n).symm

theorem sign_neg_apply : (-s).apply n = -s.apply n := by
  cases s with
  | positive => rfl
  | negative => exact (Int.neg_neg n).symm

theorem natAbs_sign_apply : (s.apply n).natAbs = n.natAbs := by
  cases s with
  | positive => rfl
  | negative => exact Int.natAbs_neg n

theorem exists_eq_sign_apply : ∃ s : Sign, n = s.apply n.natAbs := by
  rcases n.natAbs_eq with h | h
  exacts [⟨.positive, h⟩, ⟨.negative, h⟩]

theorem sign_apply_inj {s s' : Sign} {m n : Nat} (hm : 0 < m) (h : s.apply m = s'.apply n) :
    s = s' ∧ m = n := by
  cases s <;> cases s' <;> simp only [Sign.apply] at h
  case positive.negative | negative.positive => omega
  all_goals exact ⟨rfl, by omega⟩

end Sign

theorem normalize_sign_apply (s : Sign) {m : Nat} (hm : 0 < m) (e : Int) (zero : Sign) :
    normalize Format.binary64 (s.apply m) e zero = UnpackedFloat.round Format.binary64 s m e := by
  have hpos : (0 : Int) < m := Int.natCast_pos.2 hm
  cases s with
  | positive =>
    show (match compare (m : Int) 0 with | .lt => _ | .eq => _ | .gt => _) = _
    rw [Int.compare_eq_gt.2 hpos]
    rfl
  | negative =>
    show (match compare (-(m : Int)) 0 with | .lt => _ | .eq => _ | .gt => _) = _
    rw [Int.compare_eq_lt.2 (Int.neg_neg_of_pos hpos)]
    show UnpackedFloat.round Format.binary64 .negative (- -(m : Int)).toNat e = _
    rw [Int.neg_neg, Int.toNat_natCast]

/-- A whole number is normalized to itself, with however many zeros behind it. -/
theorem isWhole_normalize {z : Int} (hz : z.natAbs < 2 ^ 53) (k : Nat) :
    IsWhole (normalize Format.binary64 (z * 2 ^ k) (-k) .positive) z := by
  obtain ⟨s, hs⟩ := exists_eq_sign_apply z
  generalize z.natAbs = n at hs hz
  rcases n.eq_zero_or_pos with rfl | hn
  · have hzero : z = 0 := by rw [hs]; cases s <;> rfl
    rw [hzero, Int.zero_mul]
    exact .zero .positive
  · have hmul : z * 2 ^ k = s.apply (n * 2 ^ k : Nat) := by
      rw [hs, ← sign_apply_mul]
      push_cast
      rfl
    rw [hmul, normalize_sign_apply s (Nat.mul_pos hn (Nat.two_pow_pos k)),
      round_mul_two_pow hn hz, hs]
    exact .finite s hn hz

theorem decreaseExponent_mantissa {n k : Nat} (hle : n.log2 ≤ 52) (hk : 52 ≤ n.log2 + k) :
    (decreaseExponent (mantissa n) (n.log2 - 52) (-k)).1 = n * 2 ^ k := by
  have hshift : ((n.log2 : Int) - 52 - -k).toNat = n.log2 + k - 52 := by omega
  have hsum : 52 - n.log2 + (n.log2 + k - 52) = k := by omega
  show mantissa n <<< ((n.log2 : Int) - 52 - -k).toNat = _
  rw [hshift, Nat.shiftLeft_eq, mantissa, Nat.mul_assoc, ← Nat.pow_add, hsum]

theorem mantissa_mul_two_pow {n k : Nat} (hn : 0 < n) (hlog : (n * 2 ^ k).log2 ≤ 52) :
    mantissa (n * 2 ^ k) * 2 ^ 52 = n * 2 ^ (104 - n.log2) := by
  rw [log2_mul_two_pow hn.ne'] at hlog
  have hsum : k + (52 - (n.log2 + k) + 52) = 104 - n.log2 := by omega
  rw [mantissa, log2_mul_two_pow hn.ne', Nat.mul_assoc, Nat.mul_assoc, ← Nat.pow_add,
    ← Nat.pow_add, hsum]

namespace IsWhole

variable {u v : UnpackedFloat} {m n : Int}

theorem neg (h : IsWhole u n) : IsWhole u.neg (-n) := by
  cases h with
  | zero s => exact .zero (-s)
  | finite s hn hlt =>
    rw [← sign_neg_apply]
    exact .finite (-s) hn hlt

theorem add (hu : IsWhole u m) (hv : IsWhole v n) (h : (m + n).natAbs < 2 ^ 53) :
    IsWhole (UnpackedFloat.add Format.binary64 u v) (m + n) := by
  cases hu with
  | zero s =>
    cases hv with
    | zero s' =>
      show IsWhole (if s == s' then _ else _) 0
      split <;> exact .zero _
    | finite s' hn hlt =>
      rw [Int.zero_add]
      exact .finite s' hn hlt
  | @finite s m hm hlt =>
    cases hv with
    | zero s' =>
      rw [Int.add_zero]
      exact .finite s hm hlt
    | @finite s' n hn hlt' =>
      have hlog := log2_le hm hlt
      have hlog' := log2_le hn hlt'
      -- Both are brought to the smaller exponent.
      obtain ⟨k, hk⟩ : ∃ k : Nat, min ((m.log2 : Int) - 52) (n.log2 - 52) = -k :=
        ⟨52 - min m.log2 n.log2, by omega⟩
      show IsWhole (normalize Format.binary64
        (s.apply (decreaseExponent (mantissa m) (m.log2 - 52) (min _ _)).1 +
          s'.apply (decreaseExponent (mantissa n) (n.log2 - 52) (min _ _)).1) (min _ _) _) _
      rw [hk, decreaseExponent_mantissa hlog (by omega), decreaseExponent_mantissa hlog' (by omega)]
      have hsum : s.apply (m * 2 ^ k : Nat) + s'.apply (n * 2 ^ k : Nat) =
          (s.apply m + s'.apply n) * 2 ^ k := by
        push_cast
        rw [sign_apply_mul, sign_apply_mul, Int.add_mul]
      rw [hsum]
      exact isWhole_normalize h k

/-- A power of two divides a whole number that has so many zeros behind it. -/
theorem mul_two_pow_neg {k : Nat} (h : IsWhole u (n * 2 ^ k)) :
    IsWhole (UnpackedFloat.mul Format.binary64 u
      (.finite .positive (2 ^ 52) (-k - 52) (Nat.two_pow_pos 52))) n := by
  generalize hz : n * 2 ^ k = z at h
  cases h with
  | zero s =>
    have hn : n = 0 := (Int.mul_eq_zero.1 hz).resolve_right (Int.pow_pos (by decide)).ne'
    rw [hn]
    exact .zero _
  | @finite s l hl hlt =>
    -- The mantissa is that of the quotient, with more zeros behind it.
    obtain ⟨s', hn⟩ := exists_eq_sign_apply n
    have hl' : s.apply l = s'.apply (n.natAbs * 2 ^ k : Nat) := by
      rw [← hz]
      conv_lhs => rw [hn, ← sign_apply_mul]
      push_cast
      rfl
    obtain ⟨rfl, rfl⟩ := sign_apply_inj hl hl'
    generalize n.natAbs = r at *
    have hr : 0 < r := Nat.pos_of_mul_pos_right hl
    have hlog := log2_le hl hlt
    have hlog' := log2_mul_two_pow hr.ne' k
    have hexponent : ((r * 2 ^ k).log2 : Int) - 52 + (-k - 52) = -(104 - r.log2 : Nat) := by omega
    have hsign : s * Sign.positive = s := by cases s <;> rfl
    have hlt' : r < 2 ^ 53 := Nat.lt_of_le_of_lt (Nat.le_mul_of_pos_right r (Nat.two_pow_pos k)) hlt
    show IsWhole (roundWithAccuracy Format.binary64 (s * .positive) (mantissa (r * 2 ^ k) * 2 ^ 52)
      (((r * 2 ^ k).log2 : Int) - 52 + (-k - 52)) .exact) n
    rw [hsign, mantissa_mul_two_pow hr hlog, hexponent,
      roundWithAccuracy_mul_two_pow hr hlt' s (by omega), hn]
    exact .finite s hr hlt'

/-- A comparison with nought, whatever its sign. -/
theorem lt_iff (hu : IsWhole u m) (hv : IsWhole v 0) : u.lt v = true ↔ m < 0 := by
  generalize hz : (0 : Int) = z at hv
  cases hv with
  | @finite s' n hn hlt =>
    have hn' := congrArg Int.natAbs hz
    rw [natAbs_sign_apply] at hn'
    exact absurd hn'.symm hn.ne'
  | zero s' =>
    cases hu with
    | zero s => exact iff_of_false Bool.false_ne_true (Int.lt_irrefl 0)
    | @finite s n hn hlt =>
      cases s with
      | negative => exact iff_of_true rfl (Int.neg_neg_of_pos (Int.natCast_pos.2 hn))
      | positive => exact iff_of_false Bool.false_ne_true (Int.not_lt.2 (Int.natCast_nonneg n))

theorem unpack_pack (h : IsWhole u n) : (Float.Model.pack u).unpack = u := by
  cases h with
  | zero s => cases s <;> rfl
  | @finite s n hn hlt =>
    have hlog := log2_le hn hlt
    exact unpack_pack_of_log2 s _ (log2_mantissa hn hlt) (by omega) (by omega)

end IsWhole

/-! ## Doubles -/

/-- The number that parts stand for. -/
def Parts.value (p : Parts) : ℚ :=
  (if p.negative then -1 else 1) * p.units * 2 ^ p.scale

/-- The number that a finite double stands for. -/
def value? (x : Float) : Option ℚ :=
  (parts? x).map Parts.value

/-- A double that is a whole number of less than 54 binary digits. -/
def Whole (x : Float) (n : Int) : Prop := IsWhole x.toModel.unpack n

namespace Whole

variable {x y : Float} {m n : Int}

theorem of_pack {u : UnpackedFloat} (h : IsWhole u n) : Whole ⟨Float.Model.pack u⟩ n := by
  rw [Whole, h.unpack_pack]
  exact h

theorem neg (h : Whole x n) : Whole (-x) (-n) :=
  of_pack (IsWhole.neg h)

theorem add (hx : Whole x m) (hy : Whole y n) (h : (m + n).natAbs < 2 ^ 53) :
    Whole (x + y) (m + n) :=
  of_pack (IsWhole.add hx hy h)

/-- A whole number stands for itself. -/
theorem value?_eq (h : Whole x n) : value? x = some (n : ℚ) := by
  rw [value?, parts?_eq]
  rw [Whole] at h
  generalize x.toModel.unpack = u at h
  cases h with
  | zero s =>
    show some (Parts.value ⟨isMinus s, 0, -1074⟩) = _
    simp [Parts.value]
  | @finite s n hn hlt =>
    have hlog := log2_le hn hlt
    have hscale : (n.log2 : Int) - 52 = -(52 - n.log2 : Nat) := by omega
    have hpow : (2 : ℚ) ^ (52 - n.log2) ≠ 0 := pow_ne_zero _ two_ne_zero
    have hsign : (if isMinus s then -1 else 1 : ℚ) * n = (s.apply n : Int) := by
      cases s <;> simp [isMinus, Sign.apply]
    have hvalue : Parts.value ⟨isMinus s, mantissa n, n.log2 - 52⟩ = (s.apply n : Int) := by
      rw [Parts.value, hscale, zpow_neg, zpow_natCast, mantissa, ← hsign]
      push_cast
      rw [← mul_assoc, mul_inv_cancel_right₀ hpow]
    exact congrArg some hvalue

end Whole

/-! ## Powers of two -/

theorem unpack_powerOfTwo {k : Nat} (hk : k ≤ 52) :
    (powerOfTwo (-k)).toModel.unpack =
      .finite .positive (2 ^ 52) (-k - 52) (Nat.two_pow_pos 52) := by
  have hexponent : (-(k : Int) + 1023).toNat = 1023 - k := by omega
  have hscale : ((1023 - k : Nat) : Int) - 1075 = -k - 52 := by omega
  have hparts := partsOf?_unpack_exponent (e := 1023 - k) (by omega) (by omega)
  rw [hscale] at hparts
  rw [powerOfTwo, if_pos (by omega), hexponent]
  show (Float.Model.pack (UnpackedFloat.unpack Format.binary64
    (UInt64.ofNat ((1023 - k) * fullUnits)).toBitVec)).unpack = _
  rw [eq_finite_of_partsOf? hparts (Nat.two_pow_pos 52)]
  exact unpack_pack_of_log2 _ _ Nat.log2_two_pow (by omega) (by omega)

theorem whole_mul_powerOfTwo {x : Float} {n : Int} {k : Nat} (hk : k ≤ 52)
    (h : Whole x (n * 2 ^ k)) : Whole (x * powerOfTwo (-k)) n := by
  refine Whole.of_pack (u := UnpackedFloat.mul Format.binary64 _ _) ?_
  rw [unpack_powerOfTwo hk]
  exact IsWhole.mul_two_pow_neg h

theorem whole_toFloat {n : Nat} (h : n < 2 ^ 53) : Whole n.toUInt64.toFloat n := by
  have hn : n.toUInt64.toNat = n := UInt64.toNat_ofNat_of_lt' (Nat.lt_trans h (by decide))
  have hwhole := isWhole_normalize (z := n) h 0
  rw [Int.pow_zero, Int.mul_one] at hwhole
  refine Whole.of_pack (u := normalize Format.binary64 (n.toUInt64.toNat : Int) 0 .positive) ?_
  rwa [hn]

theorem whole_ofNat {n : Nat} (h : n < 2 ^ 53) : Whole (Float.ofNat n) n := by
  have hone : Float.exactlyRepresentablePowersOfTen[0] = powerOfTwo (-(0 : Nat)) := by decide
  show Whole (Float.ofScientific n false 0) n
  rw [Float.ofScientific, dif_pos ⟨h, Nat.zero_le 22⟩]
  show Whole (n.toUInt64.toFloat * Float.exactlyRepresentablePowersOfTen[0]) n
  rw [hone]
  refine whole_mul_powerOfTwo (Nat.zero_le 52) ?_
  rw [Int.pow_zero, Int.mul_one]
  exact whole_toFloat h

theorem whole_ofInt {n : Int} (h : n.natAbs < 2 ^ 53) : Whole (Float.ofInt n) n := by
  cases n with
  | ofNat n => exact whole_ofNat h
  | negSucc n => exact (whole_ofNat h).neg

/-! ## Remainders -/

theorem whole_ofParts (negative : Bool) {n k : Nat} (hlt : n * 2 ^ k < 2 ^ 53) (hk : k ≤ 52) :
    Whole (ofParts ⟨negative, n * 2 ^ k, -k⟩) (if negative then -n else n) := by
  have h : Whole (Float.ofNat (n * 2 ^ k) * powerOfTwo (-k)) n := by
    refine whole_mul_powerOfTwo hk ?_
    have hcast := whole_ofNat hlt
    push_cast at hcast
    exact hcast
  cases negative with
  | false => exact h
  | true => exact h.neg

/-- Nought has a sign, but its scale does not matter. -/
theorem whole_ofParts_zero (negative : Bool) : Whole (ofParts ⟨negative, 0, -1074⟩) 0 := by
  have hplus : ofParts ⟨false, 0, -1074⟩ = Float.ofNat 0 := by decide +kernel
  have hminus : ofParts ⟨true, 0, -1074⟩ = -Float.ofNat 0 := by decide +kernel
  have hzero : Whole (Float.ofNat 0) 0 := whole_ofNat (n := 0) (by decide)
  cases negative with
  | false => rwa [hplus]
  | true =>
    rw [hminus]
    exact hzero.neg

/-- The zeros behind a number are behind its remainder too. -/
theorem remainder360_mantissa (negative : Bool) {n : Nat} (hle : n.log2 ≤ 52) :
    Parts.remainder360 ⟨negative, mantissa n, n.log2 - 52⟩ =
      ⟨negative, n % 360 * 2 ^ (52 - n.log2), -(52 - n.log2 : Nat)⟩ := by
  rw [Parts.remainder360]
  dsimp only
  rcases hle.eq_or_lt with hlog | hlog
  · rw [if_pos (by omega), mantissa, hlog]
    simp
  · have hscale : (n.log2 : Int) - 52 = -(52 - n.log2 : Nat) := by omega
    rw [if_neg (by omega), mantissa, hscale, Int.natAbs_neg, Int.natAbs_natCast, Nat.shiftLeft_eq,
      Nat.mul_mod_mul_right]

theorem sign_apply_tmod (s : Sign) (n k : Nat) :
    (s.apply n).tmod k = if isMinus s then -((n % k : Nat) : Int) else (n % k : Nat) := by
  cases s with
  | positive => exact (Int.ofNat_tmod n k).symm
  | negative => exact (Int.neg_tmod n k).trans (congrArg Neg.neg (Int.ofNat_tmod n k).symm)

namespace Whole

variable {x : Float} {n : Int}

theorem remainder360 (h : Whole x n) : Whole (remainder360 x) (n.tmod 360) := by
  rw [Binary64.remainder360, parts?_eq]
  rw [Whole] at h
  generalize x.toModel.unpack = u at h
  cases h with
  | zero s => exact whole_ofParts_zero (isMinus s)
  | @finite s n hn hlt =>
    have hlog := log2_mantissa hn hlt
    have hle : n % 360 * 2 ^ (52 - n.log2) ≤ mantissa n :=
      Nat.mul_le_mul_right _ (Nat.mod_le n 360)
    have hmantissa : mantissa n < 2 ^ 53 := (Nat.log2_lt (mantissa_pos hn).ne').1 (by omega)
    show Whole (ofParts (Parts.remainder360 ⟨isMinus s, mantissa n, n.log2 - 52⟩))
      ((s.apply n).tmod (360 : Nat))
    rw [remainder360_mantissa _ (log2_le hn hlt), sign_apply_tmod]
    exact whole_ofParts _ (Nat.lt_of_le_of_lt hle hmantissa) (Nat.sub_le 52 _)

theorem lt_zero_iff (h : Whole x n) : x < 0 ↔ n < 0 :=
  decide_eq_true_iff.trans (IsWhole.lt_iff h (whole_ofNat (n := 0) (by decide)))

theorem wrap360 (h : Whole x n) : Whole (wrap360 x) (n % 360) := by
  have hr := h.remainder360
  -- The remainder has the sign of the number, and a full turn makes up for it.
  have hemod : n % 360 = if n.tmod 360 < 0 then n.tmod 360 + 360 else n.tmod 360 := by
    have htmod : n.tmod 360 = n % 360 - (if 0 ≤ n ∨ 360 ∣ n then 0 else 360 : Nat) :=
      Int.tmod_eq_emod
    split at htmod <;> split <;> omega
  rw [Binary64.wrap360, hemod]
  by_cases hneg : n.tmod 360 < 0
  · rw [if_pos (hr.lt_zero_iff.2 hneg), if_pos hneg]
    exact hr.add (whole_ofNat (n := 360) (by decide)) (by omega)
  · rw [if_neg (mt hr.lt_zero_iff.1 hneg), if_neg hneg]
    exact hr

end Whole

end Turtle.Binary64
