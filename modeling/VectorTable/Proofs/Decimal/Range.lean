import VectorTable.Proofs.Decimal.Whole
import VectorTable.Value.Reading

/-!
# Whole numbers in the range of doubles

Rounding a whole number keeps the 53 bits that come first and may carry into one more. The exponent grows with the carry, and only then can a number that is not too long overflow. A number below `doubleLimit` does not carry that far, so the nearest double is a number again.
-/

namespace VectorTable

namespace Whole

open Float.Model Float.Model.UnpackedFloat

/-! ### Finite doubles -/

/-- Doubles before they are packed that are numbers and stay so: they do not overflow. -/
def Fits : UnpackedFloat → Prop
  | .zero _ => True
  | .finite _ _ exponent _ => exponent ≤ 971
  | .infinity _ | .notANumber => False

/-- The bits of the exponent are all set in doubles that are no numbers. -/
theorem isFinite_ofFloat_iff {x : Float} : (Decimal.Double.ofFloat x).isFinite = true ↔
    @unpackExponent .binary64 x.toModel.toBits.toBitVec ≠ -1#11 := by
  have hbits : (@unpackExponent .binary64 x.toModel.toBits.toBitVec).toNat =
      x.toBits.toNat / 2 ^ 52 % 2048 := by
    simp [unpackExponent, Nat.shiftRight_eq_div_pow, Float.toBits]
  have hall : @unpackExponent .binary64 x.toModel.toBits.toBitVec = -1#11 ↔
      x.toBits.toNat / 2 ^ 52 % 2048 = 2047 := by
    rw [← BitVec.toNat_inj, hbits]
    rfl
  rw [ne_eq, hall, Decimal.Double.ofFloat]
  generalize x.toBits.toNat / 2 ^ 52 % 2048 = biased
  by_cases hspecial : biased = 2047
  · simp only [if_pos hspecial]
    split <;> simp [Decimal.Double.isFinite, hspecial]
  · simp only [if_neg hspecial]
    split <;> simp [Decimal.Double.isFinite, hspecial]

theorem isFinite_pack {u : UnpackedFloat} (hu : Fits u) :
    (Decimal.Double.ofFloat (.ofModel (.pack u))).isFinite = true := by
  rw [isFinite_ofFloat_iff]
  change unpackExponent (UnpackedFloat.pack Format.binary64 u) ≠ -1#11
  cases u with
  | infinity sign => cases hu
  | notANumber => cases hu
  | zero sign =>
    rw [UnpackedFloat.pack, packedZero, unpackExponent_packComponents]
    decide
  | finite sign mantissa exponent hpos =>
    have hexponent : exponent ≤ 971 := hu
    have hbias : Format.binary64.exponentBias = 1023 := by decide
    have hbiased : (exponent + (1023 : Nat) + (52 : Nat)).toNat ≤ 2046 := by omega
    have hfits : ¬2 ^ 11 ≤ (exponent + (1023 : Nat) + (52 : Nat)).toNat + 1 := by omega
    rw [UnpackedFloat.pack]
    simp only [hbias, if_neg hfits]
    split
    · rw [unpackExponent_packComponents]
      intro heq
      have hall := congrArg BitVec.toNat heq
      rw [BitVec.toNat_ofNat, show (-1#11).toNat = 2047 from rfl] at hall
      omega
    · rw [unpackExponent_packComponents]
      decide

theorem fits_unpack {x : Float} (hx : (Decimal.Double.ofFloat x).isFinite = true) :
    Fits x.toModel.unpack := by
  rw [isFinite_ofFloat_iff] at hx
  have hbias : Format.binary64.exponentBias = 1023 := by decide
  rw [Float.Model.unpack, UnpackedFloat.unpack]
  simp only [if_neg hx, hbias]
  generalize @unpackExponent .binary64 x.toModel.toBits.toBitVec = biased at hx
  have hless : biased.toNat < 2047 := by
    have hbound : biased.toNat < 2 ^ 11 := biased.isLt
    have hnotAll : biased.toNat ≠ 2047 := (BitVec.toNat_inj (y := -1#11)).not.mpr hx
    omega
  split
  case isTrue hsmall =>
    split
    · trivial
    · show (biased.toNat : Int) - ((1023 : Nat) + (52 : Nat)) + 1 ≤ 971
      rw [hsmall]
      decide
  case isFalse =>
    show (biased.toNat : Int) - ((1023 : Nat) + (52 : Nat)) ≤ 971
    omega

theorem Fits.neg {u : UnpackedFloat} (hu : Fits u) : Fits u.neg := by
  cases u with
  | zero sign => trivial
  | finite sign mantissa exponent hpos => exact hu
  | infinity sign => cases hu
  | notANumber => cases hu

theorem isFinite_neg {x : Float} (hx : (Decimal.Double.ofFloat x).isFinite = true) :
    (Decimal.Double.ofFloat x.neg).isFinite = true :=
  isFinite_pack (fits_unpack hx).neg

/-! ### Rounding -/

theorem mantissa_shiftRight (em : ExtendedMantissa) (k : Nat) :
    (em >>> k).mantissa = em.mantissa / 2 ^ k := by
  induction k with
  | zero => exact (Nat.div_one em.mantissa).symm
  | succ k ih =>
    change (em >>> k).mantissa / 2 = _
    rw [ih, Nat.div_div_eq_div_mul, Nat.pow_succ]

/-- Rounding goes up only if the first bit that is dropped is set. -/
theorem roundedMantissa_shiftRight_le (em : ExtendedMantissa) (k : Nat) :
    (em >>> (k + 1)).roundedMantissa ≤ (em.mantissa / 2 ^ k + 1) / 2 := by
  change (em >>> k).shiftRightOne.roundedMantissa ≤ _
  rw [← mantissa_shiftRight]
  obtain ⟨m, dropped, further⟩ := em >>> k
  simp only [ExtendedMantissa.shiftRightOne, ExtendedMantissa.roundedMantissa]
  rcases Nat.mod_two_eq_zero_or_one m with hm | hm <;>
    cases dropped <;> cases further <;>
      simp [hm, ExtendedMantissa.accuracy, Accuracy.roundToNearestEven] <;> omega

/-- The bits of a number that are looked at when it is rounded, one more than are kept. -/
def leadingBits (n : Nat) : Nat := n * 2 ^ 53 / 2 ^ n.log2

theorem leadingBits_lt (n : Nat) : leadingBits n < 2 ^ 54 := by
  have hhigh : n < 2 ^ (n.log2 + 1) := Nat.lt_log2_self
  rw [Nat.pow_succ] at hhigh
  rw [leadingBits, Nat.div_lt_iff_lt_mul (by positivity)]
  omega

/-- Among the largest numbers those below the limit are the ones whose leading bits are not all set. -/
theorem leadingBits_lt_of_lt_limit {n : Nat} (hn : n < 2 ^ 1024 - 2 ^ 970) (hlog : n.log2 = 1023) :
    leadingBits n < 2 ^ 54 - 1 := by
  rw [leadingBits, hlog, Nat.div_lt_iff_lt_mul (by positivity)]
  omega

/-- A whole number below the limit is rounded without a carry out of the range. -/
theorem fits_roundWithAccuracy {n : Nat} (hpos : 0 < n) (hn : n < 2 ^ 1024 - 2 ^ 970) :
    Fits (roundWithAccuracy Format.binary64 .positive (n * 2 ^ 53) (-53) .exact) := by
  have hleast : Format.binary64.minExponent = -1074 := by decide
  have hbits : Format.binary64.mantissaBits = 53 := rfl
  have hlog : n.log2 < 1024 := (Nat.log2_lt hpos.ne').mpr (by omega)
  have htarget : Format.binary64.targetExponent (totalExponent (n * 2 ^ 53) (-53)) =
      (n.log2 : Int) - 52 := by
    rw [targetExponent_mul_pow hpos.ne' (by omega)]
    omega
  have hshift : ((n.log2 : Int) - 52 - -53).toNat = n.log2 + 1 := by omega
  have hkept := leadingBits_lt n
  have hrounded : (ExtendedMantissa.ofMantissaAndAccuracy (n * 2 ^ 53) .exact >>>
      (n.log2 + 1)).roundedMantissa ≤ (leadingBits n + 1) / 2 :=
    roundedMantissa_shiftRight_le _ n.log2
  rw [roundWithAccuracy, shiftToTargetExponent, htarget, shiftToExponent, hshift]
  dsimp only
  generalize (ExtendedMantissa.ofMantissaAndAccuracy (n * 2 ^ 53) .exact >>>
    (n.log2 + 1)).roundedMantissa = rounded at hrounded ⊢
  have hcarry : rounded.log2 < 54 := by
    rw [Nat.log2_eq_log_two]
    exact Nat.log_lt_of_lt_pow' (by decide) (by omega)
  have hnoCarry : n.log2 = 1023 → rounded.log2 < 53 := by
    intro hlog
    have hlargest := leadingBits_lt_of_lt_limit hn hlog
    rw [Nat.log2_eq_log_two]
    exact Nat.log_lt_of_lt_pow' (by decide) (by omega)
  split
  · trivial
  · show _ ≤ (971 : Int)
    simp only [shiftToTargetExponent, shiftToExponent, Format.targetExponent, totalExponent,
      hleast, hbits]
    omega

/-! ### Doubles of whole numbers -/

theorem fits_ofScientific {n : Nat} (hpos : 0 < n) (hn : n < 2 ^ 1024 - 2 ^ 970) :
    Fits (UnpackedFloat.ofScientific Format.binary64 n 0) := by
  have hlarge : ¬(0 : Int) > 2 ^ Format.binary64.exponentBits := by decide
  have hsmall : ¬(0 : Int) < -((2 ^ Format.binary64.exponentBits : Int) + n.log2) := by
    have hbits : (2 : Int) ^ Format.binary64.exponentBits = 2048 := by decide
    omega
  have hmantissa : n <<< Format.binary64.mantissaBits * 10 ^ (0 : Int).toNat = n * 2 ^ 53 := by
    rw [Nat.shiftLeft_eq, Int.toNat_zero, Nat.pow_zero, Nat.mul_one]
    rfl
  rw [UnpackedFloat.ofScientific, dif_neg hpos.ne', if_neg hlarge, if_neg hsmall, if_pos le_rfl,
    UnpackedFloat.mul, hmantissa]
  exact fits_roundWithAccuracy hpos hn

theorem isFinite_ofNat {n : Nat} (hn : n < 2 ^ 1024 - 2 ^ 970) :
    (Decimal.Double.ofFloat (Float.ofNat n)).isFinite = true := by
  rcases Nat.lt_or_ge limit n with hlarge | hsmall
  · have hslow : ¬(n < 2 ^ 53 ∧ 0 ≤ 22) := by
      rw [limit] at hlarge
      omega
    change (Decimal.Double.ofFloat (Float.ofScientific n false 0)).isFinite = true
    rw [Float.ofScientific, dif_neg hslow]
    exact isFinite_pack (fits_ofScientific (by omega) hn)
  · rw [ofNat_eq_double hsmall]
    refine isFinite_pack ?_
    rw [unpacked]
    split
    case isTrue hpos =>
      have hlog := log2_le_of_le_limit hpos hsmall
      show (n.log2 : Int) - 52 ≤ 971
      omega
    case isFalse => trivial

theorem isFinite_ofInt {n : Int} (hn : n.natAbs < 2 ^ 1024 - 2 ^ 970) :
    (Decimal.Double.ofFloat (Float.ofInt n)).isFinite = true := by
  cases n with
  | ofNat n => exact isFinite_ofNat hn
  | negSucc n => exact isFinite_neg (isFinite_ofNat hn)

end Whole

/-- Whole numbers that have a double have one that is a number. -/
theorem isFinite_of_floatOfInt {n : Int} {x : Float} (hx : floatOfInt n = .ok x) :
    (Decimal.Double.ofFloat x).isFinite = true := by
  rw [floatOfInt] at hx
  split at hx
  case isTrue hn =>
    cases hx
    exact Whole.isFinite_ofInt hn
  case isFalse => cases hx

end VectorTable
