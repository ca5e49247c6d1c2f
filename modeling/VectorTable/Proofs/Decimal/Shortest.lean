import Mathlib.Data.List.DropRight
import VectorTable.Decimal.Layout

/-!
# The first digit of a written number

A number other than zero is written with a first digit other than zero. The interval of numbers that round to a positive double does not reach down to zero, so zero is never the shortest decimal in it, and its digits begin with one that is significant.
-/

namespace VectorTable.Decimal

/-! ### Digits of natural numbers -/

theorem lt_pow_digitCount (n : Nat) : n < 10 ^ digitCount n :=
  (Nat.length_toDigits_le_iff (by decide) Nat.length_toDigits_pos).mp (Nat.le_refl _)

theorem pow_digitCount_le {n : Nat} (hn : n ≠ 0) : 10 ^ (digitCount n - 1) ≤ n := by
  rcases Nat.eq_zero_or_pos (digitCount n - 1) with hone | hmore
  · rw [hone, Nat.pow_zero]
    exact Nat.pos_of_ne_zero hn
  · refine Nat.le_of_not_lt fun hless => ?_
    have hcount : digitCount n ≤ digitCount n - 1 :=
      (Nat.length_toDigits_le_iff (by decide) hmore).mpr hless
    omega

theorem exists_toDigits {n : Nat} (hn : n ≠ 0) :
    ∃ first rest, Nat.toDigits 10 n = first :: rest ∧ first ≠ '0' := by
  induction n using Nat.strongRecOn with
  | ind n ih =>
    rcases Nat.lt_or_ge n 10 with hless | hge
    · have hdigit : ∀ n < 10, n ≠ 0 → n.digitChar ≠ '0' := by decide
      exact ⟨n.digitChar, [], Nat.toDigits_of_lt_base hless, hdigit n hless hn⟩
    · obtain ⟨first, rest, hdigits, hfirst⟩ := ih (n / 10) (by omega) (by omega)
      rw [Nat.toDigits_of_base_le (by decide) hge, hdigits]
      exact ⟨first, rest ++ [(n % 10).digitChar], rfl, hfirst⟩

theorem exists_significant {n : Nat} (hn : n ≠ 0) :
    ∃ first rest, significant n = first :: rest ∧ first ≠ '0' := by
  obtain ⟨first, rest, hdigits, hfirst⟩ := exists_toDigits hn
  have hkept : significant n = (first :: rest).rdropWhile (· == '0') := by
    rw [significant, hdigits]
    rfl
  have hne : significant n ≠ [] := by
    rw [hkept, ne_eq, List.rdropWhile_eq_nil_iff]
    intro hzeros
    exact hfirst (by simpa using hzeros first List.mem_cons_self)
  obtain ⟨dropped, hprefix⟩ := hkept ▸ List.rdropWhile_prefix (· == '0') (first :: rest)
  cases hsignificant : significant n with
  | nil => exact absurd hsignificant hne
  | cons c cs =>
    rw [hsignificant] at hprefix
    injection hprefix with hsame
    exact ⟨c, cs, rfl, hsame ▸ hfirst⟩

/-! ### Intervals -/

namespace Interval

variable {i : Interval}

/-- The first digit stands no higher than the number reaches. -/
theorem pow_leading_le (hunit : 0 < i.unit) (hvalue : 0 < i.value) :
    i.unit * 10 ^ i.leading.toNat ≤ i.value * 10 ^ (-i.leading).toNat := by
  rw [leading]
  split
  case isTrue hle =>
    have hquotient : i.value / i.unit ≠ 0 := (Nat.div_pos hle hunit).ne'
    have hcount : 0 < digitCount (i.value / i.unit) := Nat.length_toDigits_pos
    have hup : ((digitCount (i.value / i.unit) : Int) - 1).toNat =
        digitCount (i.value / i.unit) - 1 := by omega
    have hdown : (-((digitCount (i.value / i.unit) : Int) - 1)).toNat = 0 := by omega
    rw [hup, hdown, Nat.pow_zero, Nat.mul_one]
    calc i.unit * 10 ^ (digitCount (i.value / i.unit) - 1) ≤ i.unit * (i.value / i.unit) :=
          Nat.mul_le_mul_left _ (pow_digitCount_le hquotient)
      _ ≤ i.value := Nat.mul_div_le _ _
  case isFalse hless =>
    have hcount : 0 < digitCount (i.unit / i.value) := Nat.length_toDigits_pos
    dsimp only
    split
    case isTrue hreach =>
      have hup : (1 - (digitCount (i.unit / i.value) : Int)).toNat = 0 := by omega
      have hdown : (-(1 - (digitCount (i.unit / i.value) : Int))).toNat =
          digitCount (i.unit / i.value) - 1 := by omega
      rwa [hup, hdown, Nat.pow_zero, Nat.mul_one]
    case isFalse =>
      have hup : (-(digitCount (i.unit / i.value) : Int)).toNat = 0 := by omega
      have hdown : (-(-(digitCount (i.unit / i.value) : Int))).toNat =
          digitCount (i.unit / i.value) := by omega
      rw [hup, hdown, Nat.pow_zero, Nat.mul_one]
      have hquotient := lt_pow_digitCount (i.unit / i.value)
      rw [Nat.div_lt_iff_lt_mul hvalue, Nat.mul_comm] at hquotient
      exact hquotient.le

theorem digits_ne_zero_of_contains (hlow : 0 < i.low) {d : Scientific}
    (hd : i.contains d = true) : d.digits ≠ 0 := by
  intro hzero
  have hscaled : 0 < i.low * 10 ^ (-d.exponent).toNat :=
    Nat.mul_pos hlow (Nat.pow_pos (by decide))
  rw [contains, hzero, Nat.zero_mul, Nat.zero_mul] at hd
  split at hd
  · simp only [Bool.and_eq_true, decide_eq_true_eq] at hd
    omega
  · simp only [Bool.and_eq_true, decide_eq_true_eq] at hd
    omega

theorem digits_ne_zero_of_pick (hlow : 0 < i.low) {exponent : Int} {d : Scientific}
    (hd : i.pick exponent = some d) : d.digits ≠ 0 := by
  rw [pick] at hd
  split at hd
  · cases hd
  · cases hd
    exact digits_ne_zero_of_contains hlow ‹_›
  · cases hd
    exact Nat.succ_ne_zero _
  · dsimp only at hd
    split at hd
    · cases hd
      exact digits_ne_zero_of_contains hlow ‹_›
    · cases hd
      exact Nat.succ_ne_zero _

/-- Digits that are counted from the first digit of the number, or from a lower place, are not zero. -/
theorem div_ne_zero_of_le_leading (hunit : 0 < i.unit) (hvalue : 0 < i.value) {exponent : Int}
    (hexponent : exponent ≤ i.leading) :
    i.value * 10 ^ (-exponent).toNat / (i.unit * 10 ^ exponent.toNat) ≠ 0 := by
  have hpositive : ∀ k, 0 < 10 ^ k := fun k => Nat.pow_pos (by decide)
  refine (Nat.div_pos ?_ (Nat.mul_pos hunit (hpositive _))).ne'
  calc i.unit * 10 ^ exponent.toNat ≤ i.unit * 10 ^ i.leading.toNat :=
        Nat.mul_le_mul_left _ (Nat.pow_le_pow_right (by decide) (by omega))
    _ ≤ i.value * 10 ^ (-i.leading).toNat := pow_leading_le hunit hvalue
    _ ≤ i.value * 10 ^ (-exponent).toNat :=
        Nat.mul_le_mul_left _ (Nat.pow_le_pow_right (by decide) (by omega))

theorem digits_shortest_ne_zero (hlow : 0 < i.low) (hunit : 0 < i.unit) (hvalue : 0 < i.value) :
    i.shortest.digits ≠ 0 := by
  rw [shortest]
  dsimp only
  generalize hfound : (List.range 17).findSome? _ = found
  cases found with
  | some d =>
    obtain ⟨count, -, hpick⟩ := List.exists_of_findSome?_eq_some hfound
    exact digits_ne_zero_of_pick hlow hpick
  | none => exact div_ne_zero_of_le_leading hunit hvalue (by omega)

/-- The shortest decimal of a positive double is not zero. -/
theorem digits_shortest_around_ne_zero {mantissa : Nat} (hmantissa : mantissa ≠ 0)
    (exponent : Int) : (around mantissa exponent).shortest.digits ≠ 0 := by
  have hpositive : ∀ k, 0 < 2 ^ k := fun k => Nat.pow_pos (by decide)
  refine digits_shortest_ne_zero (Nat.mul_pos ?_ (hpositive _)) (hpositive _)
    (Nat.mul_pos (by omega) (hpositive _))
  split <;> omega

end Interval

end VectorTable.Decimal
