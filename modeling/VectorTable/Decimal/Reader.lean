import VectorTable.Decimal.Shortest
import VectorTable.Text.Blank
import VectorTable.Text.Case
import VectorTable.Text.Digit

/-!
# Reading numbers

A numeral may stand between blanks, may have a sign, may group its digits with single underscores and may use the digits of any script. An integer is a sign and digits. A number in decimal notation has digits before or after an optional point, then an optional exponent; the words for infinity and for no number are read in any letter case.
-/

namespace VectorTable.Decimal

open Text

/-- The blanks that may stand around a numeral. The ASCII separators are blank in text and not here. -/
def isNumeralBlank (c : Char) : Bool :=
  isBlank c && !(28 ≤ c.toNat && c.toNat ≤ 31)

/-- Digits of which each may be preceded by one underscore, and what follows them. -/
def moreDigits : List Char → List Nat × List Char
  | [] => ([], [])
  | [c] =>
    match digitValue? c with
    | some d => ([d], [])
    | none => ([], [c])
  | c :: e :: cs =>
    match digitValue? c with
    | some d =>
      let (ds, rest) := moreDigits (e :: cs)
      (d :: ds, rest)
    | none =>
      match (if c = '_' then digitValue? e else none) with
      | some d =>
        let (ds, rest) := moreDigits cs
        (d :: ds, rest)
      | none => ([], c :: e :: cs)

/-- A run of digits with single underscores between them, and what follows it. -/
def digitRun (cs : List Char) : List Nat × List Char :=
  if (cs.head?.bind digitValue?).isSome then moreDigits cs else ([], cs)

def ofDigits (digits : List Nat) : Nat :=
  digits.foldl (fun n d => 10 * n + d) 0

/-- Whether a numeral starts with a minus sign, and what follows its sign. -/
def splitSign : List Char → Bool × List Char
  | '-' :: cs => (true, cs)
  | '+' :: cs => (false, cs)
  | cs => (false, cs)

def mostDigits : Nat := 4300

def readInt? (s : String) : Option Int :=
  let (negative, cs) := splitSign (trimBy isNumeralBlank s.toList)
  match digitRun cs with
  | (d :: ds, []) =>
    if mostDigits ≤ ds.length then none
    else
      let n : Int := ofDigits (d :: ds)
      some (if negative then -n else n)
  | _ => none

/-- The exponent at the end of a number in decimal notation; none at all is zero. -/
def readExponent? : List Char → Option Int
  | [] => some 0
  | c :: cs =>
    if c = 'e' ∨ c = 'E' then
      let (negative, rest) := splitSign cs
      match digitRun rest with
      | (d :: ds, []) =>
        let n : Int := ofDigits (d :: ds)
        some (if negative then -n else n)
      | _ => none
    else none

/-- The number an unsigned numeral stands for, apart from the words. -/
def readScientific? (cs : List Char) : Option Scientific :=
  let (whole, rest) := digitRun cs
  let (fraction, rest) :=
    match rest with
    | '.' :: more => digitRun more
    | other => ([], other)
  if whole.isEmpty && fraction.isEmpty then none
  else (readExponent? rest).map fun exponent =>
    ⟨ofDigits (whole ++ fraction), exponent - fraction.length⟩

/-- The double nearest to a decimal. Far beyond the range of doubles the answer is known without arithmetic. -/
def Scientific.toFloat (d : Scientific) : Float :=
  let leading : Int := digitCount d.digits + d.exponent
  if d.digits = 0 ∨ leading < -330 then 0.0
  else if 310 < leading then 1.0 / 0.0
  else Float.ofScientific d.digits (d.exponent < 0) d.exponent.natAbs

def readUnsigned? (cs : List Char) : Option Float :=
  let word := String.ofList (cs.map lowerAsciiChar)
  if word = "inf" ∨ word = "infinity" then some (1.0 / 0.0)
  else if word = "nan" then some (0.0 / 0.0)
  else (readScientific? cs).map Scientific.toFloat

def readFloat? (s : String) : Option Float :=
  let (negative, cs) := splitSign (trimBy isNumeralBlank s.toList)
  (readUnsigned? cs).map fun x => if negative then -x else x

end VectorTable.Decimal
