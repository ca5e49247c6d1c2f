import VectorTable.Proofs.Decimal.Shortest

/-!
# The characters of a written double

A double that is a number is written with digits, signs, a point and the mark of an exponent, and
never with no character at all. So whatever stands between written doubles can be told from them:
commas, brackets and blanks do not occur.
-/

namespace VectorTable.Decimal

def isNumberChar (c : Char) : Bool := c.isDigit || ['-', '+', '.', 'e'].contains c

theorem isNumberChar_of_isDigit {c : Char} (hc : c.isDigit = true) : isNumberChar c = true := by
  rw [isNumberChar, hc, Bool.true_or]

theorem isDigit_of_mem_significant {n : Nat} {c : Char} (hc : c ∈ significant n) :
    c.isDigit = true := by
  rw [significant, withoutLastZeros, List.mem_reverse] at hc
  have hmem := (List.dropWhile_sublist _).mem hc
  rw [List.mem_reverse] at hmem
  exact Nat.isDigit_of_mem_toDigits (by decide) (by decide) hmem

theorem isNumberChar_of_mem_exponentPart {width : Nat} {exponent : Int} {c : Char}
    (hc : c ∈ exponentPart width exponent) : isNumberChar c = true := by
  simp only [exponentPart, padded, List.mem_cons, List.mem_append, List.mem_replicate] at hc
  rcases hc with rfl | rfl | ⟨-, rfl⟩ | hdigit
  · decide
  · split <;> decide
  · decide
  · exact isNumberChar_of_isDigit (Nat.isDigit_of_mem_toDigits (by decide) (by decide) hdigit)

/-- The digits that are written of a double, with the exponent of the first: those of a number that is not zero, or the zero before the point. -/
inductive AreWritten : List Char → Int → Prop
  | zero : AreWritten ['0'] 0
  | significant {n : Nat} (hn : n ≠ 0) (leading : Int) : AreWritten (significant n) leading

theorem AreWritten.isDigit {digits : List Char} {leading : Int} (h : AreWritten digits leading) :
    ∀ c ∈ digits, c.isDigit = true := by
  cases h with
  | zero => exact List.forall_mem_singleton.mpr rfl
  | significant => exact fun c => isDigit_of_mem_significant

namespace Layout

variable (layout : Layout)

theorem place_ne_nil (digits : List Char) (leading : Int) : layout.place digits leading ≠ [] := by
  unfold place
  split
  · split <;> simp
  · simp [exponentPart]

theorem isNumberChar_of_mem_place {digits : List Char} (hdigits : ∀ c ∈ digits, c.isDigit = true)
    {leading : Int} {c : Char} (hc : c ∈ layout.place digits leading) : isNumberChar c = true := by
  have hdigit : ∀ c ∈ digits, isNumberChar c = true := fun c hc =>
    isNumberChar_of_isDigit (hdigits c hc)
  have hzeros : ∀ count, ∀ c ∈ List.replicate count '0', isNumberChar c = true := by
    intro count c hc
    rw [List.eq_of_mem_replicate hc]
    decide
  have hpoint : isNumberChar '.' = true := by decide
  unfold place at hc
  split at hc
  · split at hc
    · simp only [List.mem_cons, List.mem_append] at hc
      rcases hc with (rfl | rfl | hzero) | hlast
      · decide
      · exact hpoint
      · exact hzeros _ c hzero
      · exact hdigit c hlast
    · simp only [List.mem_cons, List.mem_append] at hc
      rcases hc with (hfirst | hzero) | rfl | hafter
      · exact hdigit c (List.mem_of_mem_take hfirst)
      · exact hzeros _ c hzero
      · exact hpoint
      · split at hafter
        · exact hzeros 1 c hafter
        · exact hdigit c (List.mem_of_mem_drop hafter)
  · simp only [List.mem_append] at hc
    rcases hc with (hfirst | hrest) | hexponent
    · exact hdigit c (List.mem_of_mem_take hfirst)
    · split at hrest
      · cases hrest
      · rcases List.mem_cons.mp hrest with rfl | hrest
        · exact hpoint
        · exact hdigit c (List.mem_of_mem_drop hrest)
    · exact isNumberChar_of_mem_exponentPart hexponent

/-- A number is written as digits in their places, perhaps with a sign before them. -/
theorem exists_write {x : Float} (hx : (Double.ofFloat x).isFinite = true) :
    ∃ (digits : List Char) (leading : Int) (negative : Bool), AreWritten digits leading ∧
      (layout.write x).toList =
        (if negative then ['-'] else []) ++ layout.place digits leading := by
  cases hdouble : Double.ofFloat x with
  | nan | infinite =>
    rw [hdouble] at hx
    cases hx
  | finite negative mantissa exponent =>
    by_cases hzero : mantissa = 0
    · refine ⟨['0'], 0, negative, .zero, ?_⟩
      rw [write, hdouble]
      cases negative <;> simp [hzero]
    · let nearest := (Interval.around mantissa exponent).shortest
      have hdigits : nearest.digits ≠ 0 := Interval.digits_shortest_around_ne_zero hzero exponent
      refine ⟨significant nearest.digits, digitCount nearest.digits - 1 + nearest.exponent,
        negative, .significant hdigits _, ?_⟩
      rw [write, hdouble]
      cases negative <;> simp [hzero, nearest]

theorem write_ne_nil {x : Float} (hx : (Double.ofFloat x).isFinite = true) :
    (layout.write x).toList ≠ [] := by
  obtain ⟨digits, leading, negative, -, htext⟩ := layout.exists_write hx
  rw [htext]
  simp [layout.place_ne_nil]

theorem isNumberChar_of_mem_write {x : Float} (hx : (Double.ofFloat x).isFinite = true) {c : Char}
    (hc : c ∈ (layout.write x).toList) : isNumberChar c = true := by
  obtain ⟨digits, leading, negative, hdigits, htext⟩ := layout.exists_write hx
  rw [htext, List.mem_append] at hc
  rcases hc with hsign | hplace
  · cases negative with
    | false => cases hsign
    | true =>
      rw [List.mem_singleton.mp hsign]
      decide
  · exact layout.isNumberChar_of_mem_place hdigits.isDigit hplace

end Layout

end VectorTable.Decimal
