/-!
# What the bits of a double stand for

A finite double is a natural number times a power of two. The sign is kept apart, because zero has one too.
-/

namespace VectorTable.Decimal

/-- Powers are those of the core library, also where another library has its own. -/
@[default_instance 20000]
scoped instance (priority := 2000) powOfCore {α : Type} [NatPow α] : Pow α Nat := instPowNat

/-- A double by its meaning. A finite one is `± mantissa * 2 ^ exponent`. -/
inductive Double
  | nan
  | infinite (negative : Bool)
  | finite (negative : Bool) (mantissa : Nat) (exponent : Int)
deriving DecidableEq, Repr

/-- The meaning of a double, read off its bits. -/
def Double.ofFloat (x : Float) : Double :=
  let bits := x.toBits.toNat
  let negative := bits / 2 ^ 63 % 2 == 1
  let biased : Nat := bits / 2 ^ 52 % 2048
  let fraction := bits % 2 ^ 52
  if biased = 2047 then
    if fraction = 0 then .infinite negative else .nan
  else if biased = 0 then .finite negative fraction (-1074)
  else .finite negative (2 ^ 52 + fraction) ((biased : Int) - 1075)

/-- The bound from which whole numbers round to no double. -/
def doubleLimit : Nat := 2 ^ 1024 - 2 ^ 970

/-- Whether the double is a number: neither infinite nor the one that stands for no number. -/
def Double.isFinite : Double → Bool
  | .finite .. => true
  | _ => false

end VectorTable.Decimal
