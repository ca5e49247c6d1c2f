import VectorTable.Decimal.Shortest

/-!
# Written numbers

A number is written with the fewest digits that read back to it. A `Layout` holds the decisions that are left: which exponents are written positionally, how wide an exponent is, and the words for the doubles that are not numbers.
-/

namespace VectorTable.Decimal

structure Layout where
  /-- The least exponent of the first digit that is written positionally. -/
  positionalFrom : Int
  /-- The least exponent above it that is not. -/
  positionalBelow : Int
  /-- The least count of digits of an exponent. -/
  exponentWidth : Nat
  nan : String
  infinity : String
  negativeInfinity : String

def padded (width : Nat) (digits : List Char) : List Char :=
  List.replicate (width - digits.length) '0' ++ digits

/-- Digits without the zeros at the end. -/
def withoutLastZeros (digits : List Char) : List Char :=
  (digits.reverse.dropWhile (· == '0')).reverse

/-- The decimal digits of a number without the zeros at the end. -/
def significant (n : Nat) : List Char := withoutLastZeros (Nat.toDigits 10 n)

/-- An exponent with its mark, its sign and at least `width` digits. -/
def exponentPart (width : Nat) (exponent : Int) : List Char :=
  'e' :: (if exponent < 0 then '-' else '+') :: padded width (Nat.toDigits 10 exponent.natAbs)

/-- The text of the number with the given significant digits whose first digit has exponent `leading`. -/
def Layout.place (layout : Layout) (digits : List Char) (leading : Int) : List Char :=
  if layout.positionalFrom ≤ leading ∧ leading < layout.positionalBelow then
    if leading < 0 then
      '0' :: '.' :: List.replicate (-leading - 1).toNat '0' ++ digits
    else
      let whole := leading.toNat + 1
      let before := digits.take whole ++ List.replicate (whole - digits.length) '0'
      let after := digits.drop whole
      before ++ '.' :: (if after.isEmpty then ['0'] else after)
  else
    let rest := digits.drop 1
    digits.take 1 ++ (if rest.isEmpty then [] else '.' :: rest)
      ++ exponentPart layout.exponentWidth leading

def Layout.write (layout : Layout) (x : Float) : String :=
  match Double.ofFloat x with
  | .nan => layout.nan
  | .infinite negative => if negative then layout.negativeInfinity else layout.infinity
  | .finite negative mantissa exponent =>
    let body :=
      if mantissa = 0 then layout.place ['0'] 0
      else
        let nearest := (Interval.around mantissa exponent).shortest
        let leading : Int := digitCount nearest.digits - 1 + nearest.exponent
        layout.place (significant nearest.digits) leading
    String.ofList (if negative then '-' :: body else body)

end VectorTable.Decimal
