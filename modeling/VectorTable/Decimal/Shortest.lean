import VectorTable.Decimal.Double

/-!
# The shortest decimal that reads back

Among all decimals that round to a given double there are some with the fewest digits, and among those one lies nearest to the double. `shortest` finds it by exact arithmetic on naturals. For each count of digits it looks at the two neighbours of the double on the grid of decimals with that many digits: if any point of the grid lies in the interval of numbers that round to the double, then so does one of these two.
-/

namespace VectorTable.Decimal

/-- The number `digits * 10 ^ exponent`. -/
structure Scientific where
  digits : Nat
  exponent : Int
deriving DecidableEq, Repr

/-- A positive double `value / unit` between the bounds of the numbers that round to it. The bounds belong to the interval when the mantissa is even, since a tie is rounded to the even neighbour. -/
structure Interval where
  low : Nat
  value : Nat
  high : Nat
  unit : Nat
  closed : Bool

/-- The interval around `mantissa * 2 ^ exponent`. The neighbour below the least mantissa of a binade is half as far away as the neighbour above. -/
def Interval.around (mantissa : Nat) (exponent : Int) : Interval :=
  let below := if mantissa = 2 ^ 52 ∧ exponent ≠ -1074 then 1 else 2
  let scale := 2 ^ (exponent - 2).toNat
  { low := (4 * mantissa - below) * scale
    value := 4 * mantissa * scale
    high := (4 * mantissa + 2) * scale
    unit := 2 ^ (2 - exponent).toNat
    closed := mantissa % 2 == 0 }

/-- Whether `digits * 10 ^ exponent` rounds to the double. -/
def Interval.contains (i : Interval) (d : Scientific) : Bool :=
  let point := d.digits * 10 ^ d.exponent.toNat * i.unit
  let scale := 10 ^ (-d.exponent).toNat
  if i.closed then i.low * scale ≤ point && point ≤ i.high * scale
  else i.low * scale < point && point < i.high * scale

/-- The number of decimal digits of a natural; zero has one. -/
def digitCount (n : Nat) : Nat := (Nat.toDigits 10 n).length

/-- The exponent of the first decimal digit of `value / unit`. -/
def Interval.leading (i : Interval) : Int :=
  if i.unit ≤ i.value then digitCount (i.value / i.unit) - 1
  else
    let places := digitCount (i.unit / i.value)
    if i.unit ≤ i.value * 10 ^ (places - 1) then 1 - places else -places

/-- The grid point nearer to the double among those of the two neighbours at `exponent` that round to it; of two equally near, the one with an even last digit. -/
def Interval.pick (i : Interval) (exponent : Int) : Option Scientific :=
  let num := i.value * 10 ^ (-exponent).toNat
  let den := i.unit * 10 ^ exponent.toNat
  let lower : Scientific := ⟨num / den, exponent⟩
  let upper : Scientific := ⟨num / den + 1, exponent⟩
  match i.contains lower, i.contains upper with
  | false, false => none
  | true, false => some lower
  | false, true => some upper
  | true, true =>
    let twice := 2 * (num % den)
    if twice < den ∨ (twice = den ∧ num / den % 2 = 0) then some lower else some upper

/-- The decimal with the fewest digits that rounds to the double. Seventeen digits always suffice. -/
def Interval.shortest (i : Interval) : Scientific :=
  let exponent (count : Nat) : Int := i.leading - count
  ((List.range 17).findSome? fun count => i.pick (exponent count)).getD
    ⟨i.value * 10 ^ (-(exponent 16)).toNat / (i.unit * 10 ^ (exponent 16).toNat), exponent 16⟩

end VectorTable.Decimal
