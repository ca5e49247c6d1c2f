import VectorTable.Decimal.Rounded
import VectorTable.Value.Display

/-!
# Slots of templates

A slot says how a value is written: by its letter as text, as a whole number in base ten, sixteen or eight, as a number with a count of digits or as a single character; by its flags with a sign, a mark of the base, zeros in front or blanks behind; with a least width and with a precision.
-/

namespace VectorTable

open Decimal

inductive TemplateFault
  | tooFew
  | tooMany
  | incomplete
  | incompleteName
  | unknownLetter (letter : Char) (position : Nat)
  | needsEntries
  | missingEntry (name : String)
  | needsNumber (letter : Char) (kind : String)
  | needsWhole (letter : Char) (kind : String)
  | needsReal (kind : String)
  | needsCharacter
  | needsWholeSize
  | noCharacter
  | notWhole
  | infinite
  | tooLarge
  | widthTooBig
  | precisionTooBig
  | tooLong

namespace TemplateFault

def name : TemplateFault → String
  | incomplete | incompleteName | unknownLetter .. | notWhole | widthTooBig | precisionTooBig =>
    "ValueError"
  | missingEntry _ => "KeyError"
  | noCharacter | infinite | tooLarge => "OverflowError"
  | tooLong => "MemoryError"
  | _ => "TypeError"

/-- A letter as a message shows it, if it is one of printable ASCII or the last control before it. -/
def shownLetter (letter : Char) : String :=
  if 31 ≤ letter.toNat ∧ letter.toNat ≤ 126 then letter.toString else "?"

def message : TemplateFault → String
  | tooFew => "not enough arguments for format string"
  | tooMany => "not all arguments converted during string formatting"
  | incomplete => "incomplete format"
  | incompleteName => "incomplete format key"
  | unknownLetter letter position =>
    "unsupported format character '" ++ shownLetter letter ++ "' (0x"
      ++ String.ofList (Nat.toDigits 16 letter.toNat) ++ ") at index " ++ toString position
  | needsEntries => "format requires a mapping"
  | missingEntry name => Text.quoted name
  | needsNumber letter kind =>
    "%" ++ letter.toString ++ " format: a real number is required, not " ++ kind
  | needsWhole letter kind =>
    "%" ++ letter.toString ++ " format: an integer is required, not " ++ kind
  | needsReal kind => "must be real number, not " ++ kind
  | needsCharacter => "%c requires int or char"
  | needsWholeSize => "* wants int"
  | noCharacter => "%c arg not in range(0x110000)"
  | notWhole => "cannot convert float NaN to integer"
  | infinite => "cannot convert float infinity to integer"
  | tooLarge => "int too large to convert to float"
  | widthTooBig => "width too big"
  | precisionTooBig => "precision too big"
  | tooLong => ""

end TemplateFault

structure Slot where
  flags : List Char
  width : Nat
  precision : Option Nat
  letter : Char
  position : Nat

/-- A number written down: its sign, the mark of its base and its digits. -/
structure Numeral where
  negative : Bool
  mark : List Char
  digits : List Char

namespace Slot

def longest : Nat := 2 ^ 27

def has (slot : Slot) (flag : Char) : Bool := slot.flags.contains flag

def fill (slot : Slot) (body : List Char) : List Char :=
  let gap := List.replicate (slot.width - body.length) ' '
  if slot.has '-' then body ++ gap else gap ++ body

/-- The sign of a number, as the flags want it. -/
def sign (slot : Slot) (negative : Bool) : List Char :=
  if negative then ['-']
  else if slot.has '+' then ['+']
  else if slot.has ' ' then [' ']
  else []

/-- A number filled up to the width of a slot, with zeros before its digits if the flags want them. -/
def fillNumeral (slot : Slot) (n : Numeral) : List Char :=
  let lead := slot.sign n.negative ++ n.mark
  if slot.has '0' && !slot.has '-' then lead ++ padded (slot.width - lead.length) n.digits
  else slot.fill (lead ++ n.digits)

def writeText (slot : Slot) (s : String) : List Char :=
  slot.fill (slot.precision.elim s.toList fun n => s.toList.take n)

/-- A whole number in a base, with as many digits as the precision at least. -/
def writeWhole (slot : Slot) (base : Nat) (mark : List Char) (n : Int) : List Char :=
  slot.fillNumeral ⟨n < 0, if slot.has '#' then mark else [],
    padded (slot.precision.getD 0) (Nat.toDigits base n.natAbs)⟩

def asciiOnly (s : String) : String :=
  String.ofList (s.toList.flatMap fun c => if c.toNat < 128 then [c] else Text.codeEscape c.toNat)

def wholeOfIdentifier (canonical : String) : Nat :=
  (canonical.toList.filterMap Text.hexValue?).foldl (fun n digit => 16 * n + digit) 0

def exactWhole? : Value → Option Int
  | .bool b => some (if b then 1 else 0)
  | .int n => some n
  | _ => none

/-- The whole number of a value, which is cut off if it has a fraction. -/
def wholeOf (slot : Slot) (v : Value) : Except TemplateFault Int :=
  match v with
  | .float x =>
    match Double.ofFloat x with
    | .nan => .error .notWhole
    | .infinite _ => .error .infinite
    | .finite negative mantissa exponent =>
      let n : Int := (mantissa * 2 ^ exponent.toNat / 2 ^ (-exponent).toNat : Nat)
      .ok (if negative then -n else n)
  | .uuid canonical => .ok (wholeOfIdentifier canonical)
  | v => (exactWhole? v).elim (.error (.needsNumber slot.letter v.kind)) .ok

def writeBase (slot : Slot) (base : Nat) (mark : List Char) (v : Value) :
    Except TemplateFault (List Char) :=
  match exactWhole? v with
  | some n => .ok (slot.writeWhole base mark n)
  | none => .error (.needsWhole slot.letter v.kind)

def realOf (v : Value) : Except TemplateFault Float :=
  match v with
  | .float x => .ok x
  | v =>
    match exactWhole? v with
    | some n => if n.natAbs < doubleLimit then .ok (Float.ofInt n) else .error .tooLarge
    | none => .error (.needsReal v.kind)

def writeReal (slot : Slot) (digits : Bool → Nat → Nat → Int → List Char) (x : Float) :
    List Char :=
  match Double.ofFloat x with
  | .nan => slot.fillNumeral ⟨false, [], "nan".toList⟩
  | .infinite negative => slot.fillNumeral ⟨negative, [], "inf".toList⟩
  | .finite negative mantissa exponent =>
    slot.fillNumeral
      ⟨negative, [], digits (slot.has '#') (slot.precision.getD 6) mantissa exponent⟩

/-- The character that a value is, or that has its number. -/
def characterOf (v : Value) : Except TemplateFault Char :=
  match v with
  | .text s =>
    match s.toList with
    | [c] => .ok c
    | _ => .error .needsCharacter
  | v =>
    match exactWhole? v with
    | some n =>
      if 0 ≤ n ∧ n < 0x110000 then .ok (Char.ofNat n.toNat) else .error .noCharacter
    | none => .error .needsCharacter

def capitals (cs : List Char) : List Char := cs.map Char.toUpper

def write (slot : Slot) (v : Value) : Except TemplateFault (List Char) := do
  if longest < slot.width ∨ longest < slot.precision.getD 0 then throw .tooLong
  match slot.letter with
  | 's' => return slot.writeText v.plain
  | 'r' => return slot.writeText v.display
  | 'a' => return slot.writeText (asciiOnly v.display)
  | 'd' | 'i' | 'u' => return slot.writeWhole 10 [] (← slot.wholeOf v)
  | 'x' => slot.writeBase 16 ['0', 'x'] v
  | 'X' => return capitals (← slot.writeBase 16 ['0', 'x'] v)
  | 'o' => slot.writeBase 8 ['0', 'o'] v
  | 'f' => return slot.writeReal writeFixed (← realOf v)
  | 'F' => return capitals (slot.writeReal writeFixed (← realOf v))
  | 'e' => return slot.writeReal writeExponent (← realOf v)
  | 'E' => return capitals (slot.writeReal writeExponent (← realOf v))
  | 'g' => return slot.writeReal writeGeneral (← realOf v)
  | 'G' => return capitals (slot.writeReal writeGeneral (← realOf v))
  | 'c' => return slot.fill [← characterOf v]
  | letter => throw (.unknownLetter letter slot.position)

end Slot

end VectorTable
