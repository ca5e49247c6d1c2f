import VectorTable.Decimal.Reader
import VectorTable.Failure

/-!
# Reading values

What a value gives when it is used as a collection or as a number. A text gives its characters, a dictionary its keys and a byte string its numbers; a text is a number if it spells one, and a whole number is the nearest double unless it lies beyond their range.
-/

namespace VectorTable

open Decimal

/-- The double nearest to a whole number. -/
def floatOfInt (n : Int) : Except Failure Float :=
  if n.natAbs < doubleLimit then .ok (Float.ofInt n) else .error (.misfit .tooLarge)

def floatOfText (s : String) : Except Failure Float :=
  match readFloat? s with
  | some x => .ok x
  | none => .error (.misfit (.notNumeral (Text.quoted s)))

/-- The double that a byte string spells in ASCII. The ASCII separators are no blanks there. -/
def floatOfBytes (data : List UInt8) : Except Failure Float :=
  let refused : Except Failure Float := .error (.misfit (.notNumeral (Text.quotedBytes data)))
  if data.all (· < 128) then
    match readFloat? (String.ofList (data.map fun byte => Char.ofNat byte.toNat)) with
    | some x => .ok x
    | none => refused
  else refused

namespace Value

def toFloat : Value → Except Failure Float
  | bool b => .ok (if b then 1.0 else 0.0)
  | int n => floatOfInt n
  | float x => .ok x
  | text s => floatOfText s
  | bytes data => floatOfBytes data
  | v => .error (.misfit (.notReal v.kind))

def items : Value → Except Failure (List Value)
  | list vs => .ok vs
  | text s => .ok (s.toList.map fun c => text c.toString)
  | bytes data => .ok (data.map fun byte => int byte.toNat)
  | dictionary entries => .ok (entries.map Prod.fst)
  | v => .error (.misfit (.notIterable v.kind))

def length : Value → Except Failure Nat
  | list vs => .ok vs.length
  | text s => .ok s.length
  | bytes data => .ok data.length
  | dictionary entries => .ok entries.length
  | v => .error (.misfit (.noLength v.kind))

/-- Whether one number is at most another; values that are not numbers cannot be compared with numbers. -/
def atMost (operator : String) (v w : Value) : Except Failure Bool :=
  match v.magnitude?, w.magnitude? with
  | some a, some b => .ok (a.atMost b)
  | _, _ => .error (.misfit (.incomparable operator v.kind w.kind))

/-- Whether one number is less than another, with the same restriction. -/
def lessThan (operator : String) (v w : Value) : Except Failure Bool :=
  match v.magnitude?, w.magnitude? with
  | some a, some b => .ok (a.below b)
  | _, _ => .error (.misfit (.incomparable operator v.kind w.kind))

end Value

end VectorTable
