import Mathlib
import VectorTable.Decimal.Double

/-!
# Whole numbers as doubles

A double has a mantissa of 53 bits, so it holds every whole number up to `2 ^ 53`, and adding such numbers is exact as long as the sum is one of them. Each of them has one form in which the first bit of the mantissa is set, and rounding a multiple of that mantissa finds it again.
-/

namespace VectorTable.Whole

open Float.Model Float.Model.UnpackedFloat

/-! ### Exponents -/

theorem log2_mul_pow {n : Nat} (hn : n ≠ 0) (k : Nat) : (n * 2 ^ k).log2 = n.log2 + k := by
  rw [Nat.log2_eq_iff (by positivity), Nat.pow_add, Nat.add_right_comm, Nat.pow_add]
  exact ⟨Nat.mul_le_mul_right _ (Nat.log2_self_le hn),
    Nat.mul_lt_mul_of_pos_right Nat.lt_log2_self (by positivity)⟩

/-- The exponent that a number is rounded to, if it is large enough for a mantissa of full length. -/
theorem targetExponent_mul_pow {n : Nat} (hn : n ≠ 0) {k : Nat} {e : Int}
    (he : -1022 ≤ n.log2 + k + e) :
    Format.binary64.targetExponent (totalExponent (n * 2 ^ k) e) = n.log2 + k + e - 52 := by
  have hleast : Format.binary64.minExponent = -1074 := by decide
  have hbits : Format.binary64.mantissaBits = 53 := rfl
  rw [Format.targetExponent, totalExponent, log2_mul_pow hn, hleast, hbits]
  omega

/-! ### Rounding without loss -/

/-- A mantissa with as many bits as a double has. -/
def IsFull (q : Nat) : Prop := 2 ^ 52 ≤ q ∧ q < 2 ^ 53

theorem IsFull.pos {q : Nat} (h : IsFull q) : 0 < q := Nat.lt_of_lt_of_le (by decide) h.1

theorem IsFull.log2 {q : Nat} (h : IsFull q) : q.log2 = 52 := (Nat.log2_eq_iff h.pos.ne').mpr h

theorem shiftRight_exact (q k : Nat) :
    ExtendedMantissa.ofMantissaAndAccuracy (q * 2 ^ k) .exact >>> k =
      ExtendedMantissa.ofMantissaAndAccuracy q .exact := by
  induction k generalizing q with
  | zero => rw [Nat.pow_zero, Nat.mul_one]; rfl
  | succ k ih =>
    have hshift := ih (q * 2)
    rw [Nat.mul_assoc, ← Nat.pow_succ'] at hshift
    change ExtendedMantissa.shiftRightOne
      (ExtendedMantissa.ofMantissaAndAccuracy (q * 2 ^ (k + 1)) .exact >>> k) = _
    rw [hshift]
    simp [ExtendedMantissa.shiftRightOne, ExtendedMantissa.ofMantissaAndAccuracy]

theorem shiftToTargetExponent_exact {q k : Nat} {e : Int} (hq : IsFull q) (he : -1074 ≤ e + k) :
    shiftToTargetExponent Format.binary64 (q * 2 ^ k) e .exact =
      (ExtendedMantissa.ofMantissaAndAccuracy q .exact, e + k) := by
  have hlog := hq.log2
  have htarget : Format.binary64.targetExponent (totalExponent (q * 2 ^ k) e) = e + k := by
    rw [targetExponent_mul_pow hq.pos.ne' (by omega)]
    omega
  have hamount : (e + k - e).toNat = k := by omega
  rw [shiftToTargetExponent, htarget, shiftToExponent, hamount, shiftRight_exact]

theorem roundWithAccuracy_exact (sign : Sign) {q k : Nat} {e : Int} (hq : IsFull q)
    (he : -1074 ≤ e + k) :
    roundWithAccuracy Format.binary64 sign (q * 2 ^ k) e .exact =
      .finite sign q (e + k) hq.pos := by
  have hagain := shiftToTargetExponent_exact (k := 0) hq (by simpa using he)
  rw [Nat.pow_zero, Nat.mul_one] at hagain
  rw [roundWithAccuracy, shiftToTargetExponent_exact hq he]
  simp only [ExtendedMantissa.roundedMantissa, ExtendedMantissa.accuracy,
    ExtendedMantissa.ofMantissaAndAccuracy, Accuracy.roundToNearestEven] at hagain ⊢
  simp only [hagain, hq.pos.ne', dite_false]
  simp

/-! ### The form of a whole number -/

/-- The largest whole number up to which doubles hold them all. -/
def limit : Nat := 2 ^ 53

/-- The mantissa of a whole number, with its first bit set. -/
def mantissa (n : Nat) : Nat := n * 2 ^ 52 / 2 ^ n.log2

theorem mantissa_mul {n : Nat} (hn : n ≤ limit) : mantissa n * 2 ^ n.log2 = n * 2 ^ 52 := by
  refine Nat.div_mul_cancel ?_
  rcases Nat.lt_or_ge n.log2 53 with hlog | hlog
  · exact Nat.dvd_mul_left_of_dvd (Nat.pow_dvd_pow 2 (by omega)) n
  · have hne : n ≠ 0 := by
      rintro rfl
      simp at hlog
    have hlarge : n = limit := Nat.le_antisymm hn ((Nat.le_log2 hne).mp hlog)
    rw [hlarge, limit, Nat.log2_two_pow]
    exact Nat.dvd_mul_right _ _

theorem isFull_mantissa {n : Nat} (hpos : 0 < n) : IsFull (mantissa n) := by
  have hlow : 2 ^ n.log2 ≤ n := Nat.log2_self_le hpos.ne'
  have hhigh : n < 2 ^ (n.log2 + 1) := Nat.lt_log2_self
  have htwo : 0 < 2 ^ n.log2 := Nat.two_pow_pos _
  constructor
  · rw [mantissa, Nat.le_div_iff_mul_le htwo, Nat.mul_comm]
    exact Nat.mul_le_mul_right _ hlow
  · rw [mantissa, Nat.div_lt_iff_lt_mul htwo]
    rw [Nat.pow_succ] at hhigh
    omega

/-- A whole number as a double, before it is packed into bits. -/
def unpacked (n : Nat) : UnpackedFloat :=
  if h : 0 < n then .finite .positive (mantissa n) (n.log2 - 52) (isFull_mantissa h).pos
  else .zero .positive

theorem unpacked_of_pos {n : Nat} (hpos : 0 < n) :
    unpacked n = .finite .positive (mantissa n) (n.log2 - 52) (isFull_mantissa hpos).pos :=
  dif_pos hpos

theorem log2_le_of_le_limit {n : Nat} (hpos : 0 < n) (hn : n ≤ limit) : n.log2 ≤ 53 := by
  have hlog := (Nat.log2_lt hpos.ne').mpr (Nat.lt_of_le_of_lt hn (by decide : limit < 2 ^ 54))
  omega

/-- A whole number with some bits behind the point is rounded to its form. -/
theorem round_scaled {n j : Nat} (hpos : 0 < n) (hn : n ≤ limit) :
    round Format.binary64 .positive (n * 2 ^ j) (-j) = unpacked n := by
  have hlog := log2_le_of_le_limit hpos hn
  have htarget : Format.binary64.targetExponent (totalExponent (n * 2 ^ j) (-j)) =
      (n.log2 : Int) - 52 := by
    rw [targetExponent_mul_pow hpos.ne' (by omega)]
    omega
  -- The bits that are added behind the point and those that are cut off again.
  obtain ⟨s, hs⟩ : ∃ s, s = (-(j : Int) - ((n.log2 : Int) - 52)).toNat := ⟨_, rfl⟩
  obtain ⟨k, hk⟩ : ∃ k, n.log2 + (j + s) = 52 + k := ⟨n.log2 + (j + s) - 52, by omega⟩
  have hshifted : n * 2 ^ j * 2 ^ s = mantissa n * 2 ^ k := by
    apply Nat.eq_of_mul_eq_mul_right (Nat.two_pow_pos 52)
    calc n * 2 ^ j * 2 ^ s * 2 ^ 52 = n * 2 ^ 52 * 2 ^ (j + s) := by rw [Nat.pow_add]; ring
      _ = mantissa n * (2 ^ n.log2 * 2 ^ (j + s)) := by rw [← mantissa_mul hn]; ring
      _ = mantissa n * 2 ^ k * 2 ^ 52 := by rw [← Nat.pow_add, hk, Nat.pow_add]; ring
  have hexponent : -(j : Int) - s + k = n.log2 - 52 := by omega
  rw [UnpackedFloat.round, htarget]
  simp only [decreaseExponent, ← hs, Nat.shiftLeft_eq, hshifted]
  rw [roundWithAccuracy_exact .positive (isFull_mantissa hpos) (by omega), unpacked_of_pos hpos]
  simp only [hexponent]

theorem normalize_scaled {n j : Nat} (hn : n ≤ limit) :
    normalize Format.binary64 ((n * 2 ^ j : Nat) : Int) (-j) .positive = unpacked n := by
  rcases Nat.eq_zero_or_pos n with rfl | hpos
  · rw [Nat.zero_mul]
    rfl
  · have hscaled : 0 < ((n * 2 ^ j : Nat) : Int) := by
      have hne : 0 < n * 2 ^ j := Nat.mul_pos hpos (Nat.two_pow_pos j)
      omega
    rw [UnpackedFloat.normalize, Int.compare_eq_gt.mpr hscaled]
    exact round_scaled hpos hn

/-! ### Adding -/

theorem decreaseExponent_mantissa {n l : Nat} (hn : n ≤ limit) (hl : l ≤ n.log2) (hl' : l ≤ 52) :
    (decreaseExponent (mantissa n) (n.log2 - 52) (l - 52)).1 = n * 2 ^ (52 - l) := by
  have hamount : ((n.log2 : Int) - 52 - (l - 52)).toNat = n.log2 - l := by omega
  rw [decreaseExponent, hamount, Nat.shiftLeft_eq]
  apply Nat.eq_of_mul_eq_mul_right (Nat.two_pow_pos l)
  calc mantissa n * 2 ^ (n.log2 - l) * 2 ^ l = mantissa n * 2 ^ n.log2 := by
        rw [Nat.mul_assoc, ← Nat.pow_add, Nat.sub_add_cancel hl]
    _ = n * 2 ^ (52 - l) * 2 ^ l := by
        rw [mantissa_mul hn, Nat.mul_assoc, ← Nat.pow_add, Nat.sub_add_cancel hl']

theorem add_unpacked {a b : Nat} (h : a + b ≤ limit) :
    add Format.binary64 (unpacked a) (unpacked b) = unpacked (a + b) := by
  rcases Nat.eq_zero_or_pos a with rfl | ha
  · rw [Nat.zero_add, unpacked, dif_neg (by omega)]
    rcases Nat.eq_zero_or_pos b with rfl | hb
    · rfl
    · rw [unpacked_of_pos hb]
      rfl
  rcases Nat.eq_zero_or_pos b with rfl | hb
  · rw [Nat.add_zero, unpacked_of_pos ha]
    rfl
  -- Both are aligned to the smaller exponent, which leaves no bit out.
  have halog : a.log2 ≤ 52 := by
    have hlog := (Nat.log2_lt ha.ne').mpr (by rw [limit] at h; omega : a < 2 ^ 53)
    omega
  obtain ⟨l, hl⟩ : ∃ l, l = min a.log2 b.log2 := ⟨_, rfl⟩
  have hexponent : min ((a.log2 : Int) - 52) (b.log2 - 52) = (l : Int) - 52 := by omega
  have hnegative : (l : Int) - 52 = -((52 - l : Nat) : Int) := by omega
  rw [unpacked_of_pos ha, unpacked_of_pos hb]
  simp only [UnpackedFloat.add, hexponent, Sign.apply]
  rw [decreaseExponent_mantissa (by omega) (by omega) (by omega),
    decreaseExponent_mantissa (by omega) (by omega) (by omega), ← Int.natCast_add, ← Nat.add_mul,
    hnegative]
  exact normalize_scaled h

/-! ### Packing -/

theorem unpackSign_packComponents_positive (exponent : BitVec 11) (bits : BitVec 52) :
    unpackSign (packComponents Format.binary64 .positive exponent bits) = 0#1 := by
  apply BitVec.eq_of_getLsbD_eq
  intro i hi
  obtain rfl : i = 0 := by omega
  simp only [unpackSign, packComponents, Sign.toBitVec, BitVec.getLsbD_cast,
    BitVec.getLsbD_extractLsb, BitVec.getLsbD_append]
  simp

/-- The first bit of a full mantissa is not packed, and put back when it is unpacked. -/
theorem toNat_implicit {q : Nat} (hq : IsFull q) : (1#1 ++ BitVec.ofNat 52 q).toNat = q := by
  obtain ⟨hlow, hhigh⟩ := hq
  have hrest : q % 2 ^ 52 < 2 ^ 52 := Nat.mod_lt _ (by decide)
  rw [BitVec.toNat_append]
  simp only [BitVec.toNat_ofNat]
  rw [← Nat.shiftLeft_add_eq_or_of_lt hrest, Nat.shiftLeft_eq]
  omega

theorem unpack_pack_unpacked {n : Nat} (hn : n ≤ limit) :
    UnpackedFloat.unpack Format.binary64 (UnpackedFloat.pack Format.binary64 (unpacked n)) =
      unpacked n := by
  rcases Nat.eq_zero_or_pos n with rfl | hpos
  · rfl
  have hlog := log2_le_of_le_limit hpos hn
  have hfull := isFull_mantissa hpos
  have hbits : (mantissa n).log2 = 52 := hfull.log2
  have hbiased : ((n.log2 : Int) - 52 + (1023 : Nat) + (52 : Nat)).toNat = n.log2 + 1023 := by omega
  have hpacked : UnpackedFloat.pack Format.binary64 (unpacked n) =
      packComponents Format.binary64 .positive (BitVec.ofNat 11 (n.log2 + 1023))
        (BitVec.ofNat 52 (mantissa n)) := by
    have hfits : ¬2 ^ 11 ≤ n.log2 + 1023 + 1 := by omega
    have hnormal : (mantissa n).log2 + 1 = Format.binary64.mantissaBits := by rw [hbits]; rfl
    rw [unpacked_of_pos hpos, UnpackedFloat.pack]
    have hbias : Format.binary64.exponentBias = 1023 := by decide
    simp only [hbias, hbiased, if_neg hfits, if_pos hnormal]
  rw [hpacked, UnpackedFloat.unpack]
  have hexponent : (BitVec.ofNat 11 (n.log2 + 1023)).toNat = n.log2 + 1023 := by
    rw [BitVec.toNat_ofNat]
    omega
  have hfinite : BitVec.ofNat 11 (n.log2 + 1023) ≠ -1#11 := by
    intro heq
    have hall := hexponent.symm.trans (congrArg BitVec.toNat heq)
    rw [show (-1#11).toNat = 2047 from rfl] at hall
    omega
  have hnormal : BitVec.ofNat 11 (n.log2 + 1023) ≠ 0#11 := by
    intro heq
    have hnone := hexponent.symm.trans (congrArg BitVec.toNat heq)
    rw [show (0#11).toNat = 0 from rfl] at hnone
    omega
  have hbias : Format.binary64.exponentBias = 1023 := by decide
  have hunbiased : ((n.log2 + 1023 : Nat) : Int) - ((1023 : Nat) + (52 : Nat)) = n.log2 - 52 := by
    omega
  simp only [unpackMantissa_packComponents, unpackExponent_packComponents,
    unpackSign_packComponents_positive, if_neg hfinite, if_neg hnormal, hexponent, hbias,
    toNat_implicit hfull, hunbiased, unpacked_of_pos hpos]
  rfl

/-- A whole number as a double. -/
def double (n : Nat) : Float := .ofModel (.pack (unpacked n))

theorem unpack_double {n : Nat} (hn : n ≤ limit) : (double n).toModel.unpack = unpacked n :=
  unpack_pack_unpacked hn

theorem double_add {a b : Nat} (h : a + b ≤ limit) : double a + double b = double (a + b) := by
  change Float.ofModel (.pack (add Format.binary64 (double a).toModel.unpack
    (double b).toModel.unpack)) = _
  rw [unpack_double (by omega), unpack_double (by omega), add_unpacked h]
  rfl

theorem toFloat_toUInt64 {n : Nat} (hn : n ≤ limit) : n.toUInt64.toFloat = double n := by
  have hscaled := normalize_scaled (j := 0) hn
  rw [Nat.pow_zero, Nat.mul_one] at hscaled
  have hsame : n.toUInt64.toNat = n := by
    rw [Nat.toUInt64_eq, UInt64.toNat_ofNat']
    exact Nat.mod_eq_of_lt (Nat.lt_of_le_of_lt hn (by decide))
  change Float.ofModel (.pack (normalize Format.binary64 (n.toUInt64.toNat : Int) 0 .positive)) = _
  rw [hsame]
  exact congrArg (fun u => Float.ofModel (.pack u)) hscaled

/-- Multiplying by one, as a numeral without an exponent does. -/
theorem mul_one_unpacked {n : Nat} (hn : n ≤ limit) :
    mul Format.binary64 (unpacked n) (unpacked 1) = unpacked n := by
  rcases Nat.eq_zero_or_pos n with rfl | hpos
  · rfl
  have hlog := log2_le_of_le_limit hpos hn
  have hone : mantissa 1 = 2 ^ 52 := by decide
  have hrounded := roundWithAccuracy_exact .positive (k := 52) (e := (n.log2 : Int) - 52 - 52)
    (isFull_mantissa hpos) (by omega)
  have hexponent : (n.log2 : Int) - 52 - 52 + (52 : Nat) = n.log2 - 52 := by omega
  rw [unpacked_of_pos hpos, unpacked_of_pos Nat.one_pos]
  change roundWithAccuracy Format.binary64 .positive (mantissa n * mantissa 1)
    ((n.log2 : Int) - 52 + (0 - 52)) .exact = _
  rw [hone, Int.zero_sub, ← Int.sub_eq_add_neg, hrounded]
  simp only [hexponent]

theorem double_mul_one {n : Nat} (hn : n ≤ limit) : double n * double 1 = double n := by
  change Float.ofModel (.pack (mul Format.binary64 (double n).toModel.unpack
    (double 1).toModel.unpack)) = _
  rw [unpack_double hn, unpack_double (by decide), mul_one_unpacked hn]
  rfl

theorem ofNat_eq_double {n : Nat} (hn : n ≤ limit) : Float.ofNat n = double n := by
  rcases Nat.eq_or_lt_of_le hn with rfl | hless
  · decide +kernel
  · have hfast : n < 2 ^ 53 ∧ 0 ≤ 22 := ⟨hless, by decide⟩
    have hone : Float.exactlyRepresentablePowersOfTen[0] = double 1 := by decide +kernel
    change Float.ofScientific n false 0 = _
    rw [Float.ofScientific, dif_pos hfast]
    simp only [hone, toFloat_toUInt64 hn, Bool.false_eq_true, if_false]
    exact double_mul_one hn

theorem ofNat_add {a b : Nat} (h : a + b ≤ limit) :
    Float.ofNat a + Float.ofNat b = Float.ofNat (a + b) := by
  rw [ofNat_eq_double (by omega), ofNat_eq_double (by omega), ofNat_eq_double h, double_add h]

end VectorTable.Whole
