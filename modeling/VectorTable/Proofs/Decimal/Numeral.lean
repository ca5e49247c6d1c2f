import Mathlib.Data.Nat.Digits.Defs
import VectorTable.Proofs.Vector.Text

/-!
# Numerals of natural numbers

The decimal digits of a natural number are read back as the number, unless there are more of them than are ever read.
-/

namespace VectorTable.Decimal

open Text

theorem digitValue?_of_isDigit {c : Char} (hc : c.isDigit = true) :
    digitValue? c = some (c.toNat - 48) := by
  have hrange : 48 ≤ c.toNat ∧ c.toNat ≤ 57 := by
    simpa [Char.isDigit, UInt32.le_iff_toNat_le] using hc
  rw [digitValue?, if_pos (by omega), if_pos hc]

theorem moreDigits_of_isDigit {cs : List Char} (hcs : ∀ c ∈ cs, c.isDigit = true) :
    moreDigits cs = (cs.map fun c => c.toNat - 48, []) := by
  induction cs with
  | nil => rfl
  | cons c cs ih =>
    have hc := digitValue?_of_isDigit (hcs c List.mem_cons_self)
    have hrest := ih fun e he => hcs e (List.mem_cons_of_mem _ he)
    cases cs with
    | nil => rw [moreDigits, hc]; rfl
    | cons e cs =>
      rw [moreDigits, hc, hrest]
      rfl

theorem isNumeralBlank_of_isDigit {c : Char} (hc : c.isDigit = true) : isNumeralBlank c = false := by
  have hrange : 48 ≤ c.toNat ∧ c.toNat ≤ 57 := by
    simpa [Char.isDigit, UInt32.le_iff_toNat_le] using hc
  simp [isNumeralBlank, isBlank]
  omega

theorem splitSign_of_isDigit {cs : List Char} (hcs : ∀ c ∈ cs, c.isDigit = true) :
    splitSign cs = (false, cs) := by
  rw [splitSign.eq_def]
  split
  · exact absurd (hcs _ List.mem_cons_self) (by decide)
  · exact absurd (hcs _ List.mem_cons_self) (by decide)
  · rfl

theorem readInt?_toDigits {n : Nat} (hn : n < 10 ^ mostDigits) :
    readInt? (String.ofList (Nat.toDigits 10 n)) = some (n : Int) := by
  have hdigits : ∀ c ∈ Nat.toDigits 10 n, c.isDigit = true := fun c hc =>
    Nat.isDigit_of_mem_toDigits (by decide) (by decide) hc
  have htrimmed : trimBy isNumeralBlank (Nat.toDigits 10 n) = Nat.toDigits 10 n := by
    refine trimBy_of_ends (fun c hc => ?_) fun c hc => ?_
    · exact isNumeralBlank_of_isDigit (hdigits c (List.mem_of_mem_head? hc))
    · exact isNumeralBlank_of_isDigit (hdigits c (List.mem_of_getLast? hc))
  have hlength : (Nat.toDigits 10 n).length ≤ mostDigits :=
    Nat.toDigits_length 10 n mostDigits (by decide) hn
  have hvalue : Nat.ofDigitChars 10 (Nat.toDigits 10 n) 0 = n := Nat.ofDigitChars_ten_toDigits
  have hread : ofDigits ((Nat.toDigits 10 n).map fun c => c.toNat - 48) = n := by
    rw [ofDigits, List.foldl_map]
    exact hvalue
  rw [readInt?, String.toList_ofList, htrimmed, splitSign_of_isDigit hdigits]
  cases hcs : Nat.toDigits 10 n with
  | nil => exact absurd hcs Nat.toDigits_ne_nil
  | cons c cs =>
    rw [hcs] at hdigits hlength hread
    have hfirst : ((c :: cs).head?.bind digitValue?).isSome = true := by
      rw [List.head?_cons, Option.bind_some, digitValue?_of_isDigit (hdigits c List.mem_cons_self)]
      rfl
    have hfew : ¬mostDigits ≤ (cs.map fun c => c.toNat - 48).length := by
      rw [List.length_map]
      exact Nat.not_le_of_lt hlength
    simp only [digitRun, hfirst, if_true, moreDigits_of_isDigit hdigits, List.map_cons, if_neg hfew,
      Bool.false_eq_true, if_false]
    rw [← List.map_cons (f := fun c : Char => c.toNat - 48), hread]

end VectorTable.Decimal
