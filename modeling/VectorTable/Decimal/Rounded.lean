import VectorTable.Decimal.Layout

/-!
# Numbers with a chosen count of digits

A positive number `mantissa * 2 ^ exponent` is rounded to a count of decimal places or to a count of significant digits, by exact arithmetic and with a half going to the even neighbour. It is written in one of three ways: with a fixed count of places, with an exponent, or in whichever of the two suits its size, then without zeros at the end. With `full` the point and the zeros always stay.
-/

namespace VectorTable.Decimal

/-- A fraction to the nearest whole number; a half goes to the even neighbour. -/
def roundHalfEven (num den : Nat) : Nat :=
  let (q, r) := (num / den, num % den)
  if den < 2 * r ∨ (2 * r = den ∧ q % 2 = 1) then q + 1 else q

/-- The whole number nearest to `mantissa * 2 ^ exponent * 10 ^ shift`. -/
def roundedShift (mantissa : Nat) (exponent shift : Int) : Nat :=
  roundHalfEven (mantissa * 2 ^ exponent.toNat * 10 ^ shift.toNat)
    (2 ^ (-exponent).toNat * 10 ^ (-shift).toNat)

/-- The first `count` digits of a number, rounded, and the exponent of the first. Rounding may carry into one more digit, which is then a one followed by zeros. -/
def roundedDigits (count mantissa : Nat) (exponent : Int) : List Char × Int :=
  if mantissa = 0 then (List.replicate count '0', 0)
  else
    let leading := (Interval.around mantissa exponent).leading
    let digits := Nat.toDigits 10 (roundedShift mantissa exponent (count - 1 - leading))
    if digits.length ≤ count then (digits, leading) else (digits.take count, leading + 1)

/-- Digits before and after a point, which falls away if nothing follows it. -/
def pointed (full : Bool) (whole fraction : List Char) : List Char :=
  if fraction.isEmpty && !full then whole else whole ++ '.' :: fraction

def writeFixed (full : Bool) (places mantissa : Nat) (exponent : Int) : List Char :=
  let digits := padded (places + 1) (Nat.toDigits 10 (roundedShift mantissa exponent places))
  let whole := digits.length - places
  pointed full (digits.take whole) (digits.drop whole)

/-- The least count of digits of an exponent. -/
def exponentWidth : Nat := 2

def writeExponent (full : Bool) (places mantissa : Nat) (exponent : Int) : List Char :=
  let (digits, leading) := roundedDigits (places + 1) mantissa exponent
  pointed full (digits.take 1) (digits.drop 1) ++ exponentPart exponentWidth leading

/-- A number with a count of significant digits, with an exponent if it is below `0.0001` or has more digits before the point than the count. -/
def writeGeneral (full : Bool) (count mantissa : Nat) (exponent : Int) : List Char :=
  let count := max count 1
  let (digits, leading) := roundedDigits count mantissa exponent
  let kept (fraction : List Char) := if full then fraction else withoutLastZeros fraction
  if leading < -4 ∨ count ≤ leading then
    pointed full (digits.take 1) (kept (digits.drop 1)) ++ exponentPart exponentWidth leading
  else if leading < 0 then
    pointed full ['0'] (kept (List.replicate (-leading - 1).toNat '0' ++ digits))
  else
    let whole := leading.toNat + 1
    pointed full (digits.take whole) (kept (digits.drop whole))

end VectorTable.Decimal
