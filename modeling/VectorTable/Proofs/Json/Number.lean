import VectorTable.Proofs.Decimal.Layout
import VectorTable.Proofs.Decimal.Shortest
import VectorTable.Proofs.Json.Grammar

/-!
# Written numbers are JSON numbers

Whole numbers and doubles are written as the grammar of JSON has them, in whatever layout: the whole part has no zero in front, a point has a digit on either side, and an exponent has a digit.
-/

namespace VectorTable.Json

open Decimal

/-! ### Digits -/

theorem isDigits_toDigits (n : Nat) : IsDigits (Nat.toDigits 10 n) where
  ne_nil := Nat.toDigits_ne_nil
  digits _ hc := Nat.isDigit_of_mem_toDigits (by decide) (by decide) hc

theorem isDigits_zero : IsDigits ['0'] where
  ne_nil := List.cons_ne_nil _ _
  digits := List.forall_mem_singleton.mpr rfl

theorem isDigit_of_mem_zeros {zeros : Nat} {c : Char} (hc : c ∈ List.replicate zeros '0') :
    c.isDigit = true := by
  rw [List.eq_of_mem_replicate hc]
  decide

theorem IsDigits.zeros_append {digits : List Char} (hdigits : IsDigits digits) (zeros : Nat) :
    IsDigits (List.replicate zeros '0' ++ digits) where
  ne_nil := by simp [hdigits.ne_nil]
  digits := List.forall_mem_append.mpr ⟨fun _ => isDigit_of_mem_zeros, hdigits.digits⟩

theorem isWhole_toDigits (n : Nat) : IsWhole (Nat.toDigits 10 n) := by
  rcases Nat.eq_zero_or_pos n with rfl | hpos
  · exact .zero
  · obtain ⟨first, rest, hdigits, hfirst⟩ := exists_toDigits hpos.ne'
    have hall := isDigits_toDigits n
    rw [hdigits] at hall ⊢
    exact .digits hfirst hall

theorem isExponent_exponentPart (width : Nat) (exponent : Int) :
    IsExponent (exponentPart width exponent) := by
  have hdigits : IsDigits (padded width (Nat.toDigits 10 exponent.natAbs)) :=
    (isDigits_toDigits _).zeros_append _
  rw [exponentPart]
  split
  · have hsign : ['-'] ∈ [[], ['-'], ['+']] := by decide
    exact .digits (by decide) hsign hdigits
  · have hsign : ['+'] ∈ [[], ['-'], ['+']] := by decide
    exact .digits (by decide) hsign hdigits

/-- A whole number is written as its digits, with a sign before them if it is negative. -/
theorem exists_toString_int (n : Int) :
    ∃ sign ∈ [[], ['-']], (toString n).toList = sign ++ Nat.toDigits 10 n.natAbs := by
  cases n with
  | ofNat n => exact ⟨[], by decide, Nat.toList_repr⟩
  | negSucc n =>
    refine ⟨['-'], by decide, ?_⟩
    change ("-" ++ Nat.repr (n + 1)).toList = _
    rw [String.toList_append, Nat.toList_repr]
    rfl

theorem isNumber_int (n : Int) : IsNumber (toString n).toList := by
  obtain ⟨sign, hsign, htext⟩ := exists_toString_int n
  rw [htext]
  simpa using IsNumber.parts hsign (isWhole_toDigits n.natAbs) .none .none

/-! ### Doubles -/

theorem isDigits_significant {n : Nat} (hn : n ≠ 0) : IsDigits (significant n) := by
  obtain ⟨first, rest, hdigits, -⟩ := exists_significant hn
  refine ⟨?_, fun c => isDigit_of_mem_significant⟩
  rw [hdigits]
  exact List.cons_ne_nil _ _

/-- Significant digits up to some place, filled up with zeros, have no zero in front. -/
theorem isWhole_significant {n : Nat} (hn : n ≠ 0) (count zeros : Nat) :
    IsWhole ((significant n).take (count + 1) ++ List.replicate zeros '0') := by
  obtain ⟨first, rest, hdigits, hfirst⟩ := exists_significant hn
  have hall := (isDigits_significant hn).digits
  rw [hdigits] at hall ⊢
  rw [List.take_succ_cons, List.cons_append]
  obtain ⟨hdigit, hrest⟩ := List.forall_mem_cons.mp hall
  refine .digits hfirst ⟨List.cons_ne_nil _ _, List.forall_mem_cons.mpr ⟨hdigit, ?_⟩⟩
  exact List.forall_mem_append.mpr
    ⟨fun c hc => hrest c (List.mem_of_mem_take hc), fun _ => isDigit_of_mem_zeros⟩

section Written

variable {digits : List Char} {leading : Int}

theorem isDigits_written (h : AreWritten digits leading) : IsDigits digits := by
  cases h with
  | zero => exact isDigits_zero
  | significant hn => exact isDigits_significant hn

theorem isWhole_written (h : AreWritten digits leading) :
    IsWhole (digits.take (leading.toNat + 1) ++
      List.replicate (leading.toNat + 1 - digits.length) '0') := by
  cases h with
  | zero => exact .zero
  | significant hn => exact isWhole_significant hn _ _

theorem isWhole_first (h : AreWritten digits leading) : IsWhole (digits.take 1) := by
  cases h with
  | zero => exact .zero
  | significant hn => simpa using isWhole_significant hn 0 0

theorem IsDigits.drop (h : IsDigits digits) {count : Nat} (hne : digits.drop count ≠ []) :
    IsDigits (digits.drop count) :=
  ⟨hne, fun c hc => h.digits c (List.mem_of_mem_drop hc)⟩

/-- Digits in their places are a number: the part before the point, the part after it and the exponent. -/
theorem isNumber_place (layout : Layout) (h : AreWritten digits leading) {sign : List Char}
    (hsign : sign ∈ [[], ['-']]) : IsNumber (sign ++ layout.place digits leading) := by
  have hdigits := isDigits_written h
  rw [Layout.place]
  split
  · split
    · simpa using IsNumber.parts hsign .zero (.digits (hdigits.zeros_append _)) .none
    · have hafter : IsDigits (if (digits.drop (leading.toNat + 1)).isEmpty then ['0']
          else digits.drop (leading.toNat + 1)) := by
        split
        case isTrue => exact isDigits_zero
        case isFalse hne => exact hdigits.drop (by simpa using hne)
      simpa using IsNumber.parts hsign (isWhole_written h) (.digits hafter) .none
  · have hfraction : IsFraction (if (digits.drop 1).isEmpty then [] else '.' :: digits.drop 1) := by
      split
      case isTrue => exact .none
      case isFalse hne => exact .digits (hdigits.drop (by simpa using hne))
    simpa using IsNumber.parts hsign (isWhole_first h) hfraction
      (isExponent_exponentPart layout.exponentWidth leading)

end Written

theorem isNumber_write (layout : Layout) {x : Float} (hx : (Double.ofFloat x).isFinite = true) :
    IsNumber (layout.write x).toList := by
  obtain ⟨digits, leading, negative, hdigits, htext⟩ := layout.exists_write hx
  rw [htext]
  apply isNumber_place layout hdigits
  cases negative <;> decide

end VectorTable.Json
