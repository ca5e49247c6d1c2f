import VectorTable.Setting.Url
import VectorTable.Value.Reading

/-!
# Reading settings

The rules by which the values of settings are read. The rules are lax: a whole number may come as text, as a truth value or as a double without fraction, a number and a truth value likewise. Texts are read with ASCII digits only, perhaps with single underscores among them, and a byte string is read as the text it encodes.
-/

namespace VectorTable.Setting

open Decimal Text

/-- The text of a value that is text, or of bytes that encode one; nothing for other kinds of values. Bytes that encode none are refused by the complaint `broken`. -/
def textOf? (broken : Complaint) : Value → Except Complaint (Option String)
  | .text s => .ok (some s)
  | .bytes data => (String.fromUTF8? ⟨data.toArray⟩).elim (.error broken) fun s => .ok (some s)
  | _ => .ok none

/-- What is left of a numeral when a fraction of zeros is dropped. -/
def withoutZeroFraction (cs : List Char) : List Char :=
  match cs.dropWhile (· != '.') with
  | '.' :: fraction => if fraction.all (· == '0') then cs.takeWhile (· != '.') else cs
  | _ => cs

def hasDoubleUnderscore : List Char → Bool
  | '_' :: '_' :: _ => true
  | _ :: cs => hasDoubleUnderscore cs
  | [] => false

/-- A numeral without its underscores, which stand single and at neither end. -/
def withoutUnderscores? (cs : List Char) : Option (List Char) :=
  if cs.head? = some '_' || cs.getLast? = some '_' || hasDoubleUnderscore cs then none
  else some (cs.filter (· != '_'))

/-- The whole number that digits after an optional minus sign spell. After a minus sign there are no zeros in front. -/
def signedDigits? (cs : List Char) : Option Int :=
  let (negative, digits) := match cs with
    | '-' :: digits => (true, digits)
    | digits => (false, digits)
  let n : Int := ofDigits (digits.map fun c => c.toNat - 48)
  if digits.isEmpty || !digits.all Char.isDigit then none
  else if negative && digits.head? = some '0' && 1 < digits.length then none
  else some (if negative then -n else n)

def integerOfText (s : String) : Except Complaint Int :=
  let cs := trimBy isNumeralBlank s.toList
  let unsigned := match cs with
    | '+' :: '-' :: _ => []
    | '+' :: rest => rest
    | cs => cs
  if mostDigits < cs.length then .error .oversized
  else match (withoutUnderscores? (withoutZeroFraction unsigned)).bind signedDigits? with
    | some n => .ok n
    | none => .error .notIntegerText

def integerOfFloat (x : Float) : Except Complaint Int :=
  match Double.ofFloat x with
  | .nan | .infinite _ => .error .notFinite
  | .finite negative mantissa exponent =>
    let den := 2 ^ (-exponent).toNat
    let num := mantissa * 2 ^ exponent.toNat
    if num % den != 0 then .error .fractional
    else if num / den < 2 ^ 63 then
      .ok (if negative then -((num / den : Nat) : Int) else ((num / den : Nat) : Int))
    else .error .oversized

def readInteger (v : Value) : Except Complaint Int :=
  match v with
  | .int n => .ok n
  | .bool b => .ok (if b then 1 else 0)
  | .float x => integerOfFloat x
  | v => do
    match ← textOf? .notIntegerText v with
    | some s => integerOfText s
    | none => throw .notInteger

def readAtLeast (low : Int) (v : Value) : Except Complaint { n : Int // low ≤ n } := do
  let n ← readInteger v
  if h : low ≤ n then return ⟨n, h⟩ else throw (.below low)

def readBetween (low high : Int) (v : Value) :
    Except Complaint { n : Int // low ≤ n ∧ n ≤ high } := do
  let ⟨n, hLow⟩ ← readAtLeast low v
  if hHigh : n ≤ high then return ⟨n, hLow, hHigh⟩ else throw (.above high)

/-- The number that a numeral of ASCII without blanks and underscores spells. -/
def plainNumber? (cs : List Char) : Option Float :=
  if cs.all fun c => c.toNat < 128 && c != '_' && !isBlank c then readFloat? (String.ofList cs)
  else none

/-- The number that a text spells: between blanks, or else with underscores. -/
def numberOfText (s : String) : Except Complaint Float :=
  match (plainNumber? (trimBy isNumeralBlank s.toList)).or
      ((withoutUnderscores? s.toList).bind plainNumber?) with
  | some x => .ok x
  | none => .error .notNumberText

def readNumber (v : Value) : Except Complaint Float := do
  match ← textOf? .notNumberText v with
  | some s => numberOfText s
  | none =>
    match v with
    | .bool _ | .int _ | .float _ => v.toFloat.mapError fun _ => .notNumber
    | _ => throw .notNumber

def readPositive (v : Value) : Except Complaint { x : Float // 0 < x } := do
  let x ← readNumber v
  if h : 0 < x then return ⟨x, h⟩ else throw .notPositive

/-- Nothing, or a value read by a rule. -/
def readOptional {α : Type} (rule : Value → Except Complaint α) (v : Value) :
    Except Complaint (Option α) :=
  match v with
  | .null => .ok none
  | v => some <$> rule v

/-- The words for truth and for falsehood, in any letter case. -/
def truthOfText (s : String) : Except Complaint Bool :=
  let word := String.ofList (s.toList.map Char.toLower)
  if ["1", "true", "t", "yes", "y", "on"].contains word then .ok true
  else if ["0", "false", "f", "no", "n", "off"].contains word then .ok false
  else .error .notTruthText

def truthOfInteger (n : Int) : Except Complaint Bool :=
  if n = 1 then .ok true else if n = 0 then .ok false else .error .notTruthText

def readTruth (v : Value) : Except Complaint Bool :=
  match v with
  | .bool b => .ok b
  | .int n => if -2 ^ 63 ≤ n ∧ n < 2 ^ 63 then truthOfInteger n else .error .notTruth
  | .float x =>
    match integerOfFloat x with
    | .ok n => truthOfInteger n
    | .error _ => .error .notTruth
  | v => do
    match ← textOf? .notTruthText v with
    | some s => truthOfText s
    | none => throw .notTruth

def readText (v : Value) : Except Complaint String := do
  match ← textOf? .notUnicode v with
  | some s => return s
  | none => throw .notText

/-- One of several named choices, by its exact name. -/
def readChoice {α : Type} (choices : List (String × α)) (v : Value) : Except Complaint α :=
  let refused := .error (.notAChoice (choices.map Prod.fst))
  match v with
  | .text s => match choices.lookup s with
    | some choice => .ok choice
    | none => refused
  | _ => refused

def readDatabaseUrl (v : Value) : Except Complaint String := do
  match ← textOf? .notUrl v with
  | some s => readUrl s
  | none => throw .notUrl

end VectorTable.Setting
