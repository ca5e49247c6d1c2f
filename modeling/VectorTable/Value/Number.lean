import VectorTable.Decimal.Double
import VectorTable.Value.Basic

/-!
# Comparing numbers

Truth values, whole numbers and doubles are compared by the exact number each stands for, with no rounding of a whole number to a double. Truth counts as one and falsehood as zero. The double that stands for no number compares with nothing, not even itself.
-/

namespace VectorTable

open Decimal

/-- The exact worth of a value that can be compared as a number: `numerator / 2 ^ scale` when it is finite. -/
inductive Magnitude
  | nan
  | infinite (negative : Bool)
  | exact (numerator : Int) (scale : Nat)

namespace Magnitude

def ofFloat (x : Float) : Magnitude :=
  match Double.ofFloat x with
  | .nan => nan
  | .infinite negative => infinite negative
  | .finite negative mantissa exponent =>
    let n : Int := mantissa * 2 ^ exponent.toNat
    exact (if negative then -n else n) (-exponent).toNat

def equal : Magnitude → Magnitude → Bool
  | infinite a, infinite b => a == b
  | exact a s, exact b t => a * 2 ^ t == b * 2 ^ s
  | _, _ => false

def atMost : Magnitude → Magnitude → Bool
  | nan, _ | _, nan => false
  | infinite true, _ => true
  | _, infinite false => true
  | infinite false, _ => false
  | _, infinite true => false
  | exact a s, exact b t => a * 2 ^ t ≤ b * 2 ^ s

def below (a b : Magnitude) : Bool := a.atMost b && !a.equal b

end Magnitude

def Value.magnitude? : Value → Option Magnitude
  | .bool b => some (.exact (if b then 1 else 0) 0)
  | .int n => some (.exact n 0)
  | .float x => some (.ofFloat x)
  | _ => none

end VectorTable
