import VectorTable.Decimal.Reader
import VectorTable.Text.Hex
import VectorTable.Value.Entries

/-!
# Values from JSON text

Reading is by recursive descent over the characters that are left. A fault names what was expected and where: positions count characters from zero, lines and columns from one. Numbers without point and exponent are whole numbers, which may have only so many digits, all others doubles; the words for doubles that are not numbers are accepted. Of two entries with one name the later gives the value and the earlier the place.
-/

namespace VectorTable.Json

open Text Decimal

/-- What is wrong with a text that is not JSON. -/
inductive Flaw
  | byteOrderMark
  | noValue
  | extraData
  | noName
  | noColon
  | noComma
  | unterminated
  | controlCharacter
  | badEscape
  | badUnitEscape
  | tooManyDigits (count : Nat)
deriving DecidableEq, Repr

/-- A flaw and the number of characters that were left when it was met. -/
structure Rejection where
  flaw : Flaw
  left : Nat
deriving DecidableEq, Repr

/-- A flaw, met where `rest` is left. -/
def reject {α : Type} (flaw : Flaw) (rest : List Char) : Except Rejection α :=
  .error ⟨flaw, rest.length⟩

def isSpace (c : Char) : Bool := c == ' ' || c == '\t' || c == '\n' || c == '\r'

def skipSpace (cs : List Char) : List Char := cs.dropWhile isSpace

def readUnit? : List Char → Option (Nat × List Char)
  | a :: b :: c :: d :: rest => do
    let value := fun (n : Nat) (digit : Char) => (hexValue? digit).map (16 * n + ·)
    let n ← value (← value (← value (← value 0 a) b) c) d
    some (n, rest)
  | _ => none

/-- The character for one UTF-16 unit that stands alone. A unit of a pair stands for no character and gives the replacement character. -/
def charOfUnit (unit : Nat) : Char :=
  if 0xD800 ≤ unit ∧ unit < 0xE000 then Char.ofNat 0xFFFD else Char.ofNat unit

/-- The character for two escapes that form a surrogate pair, and what follows them. -/
def readPair? (high : Nat) : List Char → Option (Char × List Char)
  | '\\' :: 'u' :: more =>
    match readUnit? more with
    | some (low, rest) =>
      if 0xD800 ≤ high ∧ high < 0xDC00 ∧ 0xDC00 ≤ low ∧ low < 0xE000 ∧ !rest.isEmpty then
        some (Char.ofNat (0x10000 + (high - 0xD800) * 0x400 + (low - 0xDC00)), rest)
      else none
    | none => none
  | _ => none

/-- Whether an escape follows that a high unit claims as the second of its pair although its digits are bad. -/
def spoiledPair (high : Nat) (cs : List Char) : Bool :=
  match cs with
  | '\\' :: 'u' :: more =>
    (0xD800 ≤ high && high < 0xDC00) && 4 < more.length && (readUnit? more).isNone
  | _ => false

/-- The character after a backslash that stands for a single character. -/
def simpleEscape? : Char → Option Char
  | '"' => some '"'
  | '\\' => some '\\'
  | '/' => some '/'
  | 'b' => some '\x08'
  | 'f' => some '\x0c'
  | 'n' => some '\n'
  | 'r' => some '\r'
  | 't' => some '\t'
  | _ => none

/-- The rest of a string whose opening quote, with what follows it, is `start`. The fuel bounds the number of characters read. -/
def readString (start : List Char) :
    Nat → List Char → List Char → Except Rejection (String × List Char)
  | 0, _, _ => reject .unterminated start
  | _, _, [] => reject .unterminated start
  | fuel + 1, acc, c :: cs =>
    if c = '"' then .ok (String.ofList acc.reverse, cs)
    else if c = '\\' then
      match cs with
      | [] => reject .unterminated start
      | 'u' :: more =>
        if more.length ≤ 4 then reject .badUnitEscape cs
        else match readUnit? more with
          | none => reject .badUnitEscape cs
          | some (unit, rest) =>
            if spoiledPair unit rest then reject .badUnitEscape (rest.drop 1)
            else match readPair? unit rest with
              | some (pair, rest) => readString start fuel (pair :: acc) rest
              | none => readString start fuel (charOfUnit unit :: acc) rest
      | e :: more =>
        match simpleEscape? e with
        | some escaped => readString start fuel (escaped :: acc) more
        | none => reject .badEscape (c :: cs)
    else if c.toNat < 32 then reject .controlCharacter (c :: cs)
    else readString start fuel (c :: acc) cs

/-- The digits at the start, and what follows them. -/
def spanDigits (cs : List Char) : List Char × List Char :=
  (cs.takeWhile Char.isDigit, cs.dropWhile Char.isDigit)

/-- The fraction at the start: a point with at least one digit after it. -/
def spanFraction : List Char → List Char × List Char
  | '.' :: cs =>
    match spanDigits cs with
    | ([], _) => ([], '.' :: cs)
    | (ds, rest) => ('.' :: ds, rest)
  | cs => ([], cs)

/-- The exponent at the start: a letter, an optional sign and at least one digit. -/
def spanExponent : List Char → List Char × List Char
  | [] => ([], [])
  | c :: cs =>
    if c = 'e' ∨ c = 'E' then
      let (sign, digits) :=
        match cs with
        | '-' :: more => (['-'], more)
        | '+' :: more => (['+'], more)
        | more => ([], more)
      match spanDigits digits with
      | ([], _) => ([], c :: cs)
      | (ds, rest) => (c :: sign ++ ds, rest)
    else ([], c :: cs)

/-- The whole part at the start: zero alone, or digits of which the first is not zero. -/
def spanWhole : List Char → List Char × List Char
  | '0' :: cs => (['0'], cs)
  | cs => spanDigits cs

/-- The number at the start, and what follows it. -/
def readNumber (start : List Char) : Except Rejection (Value × List Char) :=
  let (negative, cs) :=
    match start with
    | '-' :: more => (true, more)
    | more => (false, more)
  match spanWhole cs with
  | ([], _) => reject .noValue start
  | (whole, rest) =>
    let (fraction, rest) := spanFraction rest
    let (exponent, rest) := spanExponent rest
    if fraction.isEmpty && exponent.isEmpty then
      let n : Int := ofDigits (whole.map fun c => c.toNat - 48)
      if mostDigits < whole.length then reject (.tooManyDigits whole.length) start
      else .ok (.int (if negative then -n else n), rest)
    else
      match readUnsigned? (whole ++ fraction ++ exponent) with
      | some x => .ok (.float (if negative then -x else x), rest)
      | none => reject .noValue start

def words : List (List Char × Value) :=
  [("null".toList, .null), ("true".toList, .bool true), ("false".toList, .bool false),
   ("NaN".toList, .float (0.0 / 0.0)), ("Infinity".toList, .float (1.0 / 0.0)),
   ("-Infinity".toList, .float (-1.0 / 0.0))]

/-- The word at the start, and what follows it. -/
def readWord? (cs : List Char) : Option (Value × List Char) :=
  (words.find? fun word => word.1.isPrefixOf cs).map fun word => (word.2, cs.drop word.1.length)

mutual

/-- The value at the start, and what follows it. The fuel bounds the depth and the number of parts. -/
def readValue : Nat → List Char → Except Rejection (Value × List Char)
  | 0, cs => reject .noValue cs
  | fuel + 1, cs =>
    match cs with
    | [] => reject .noValue cs
    | '"' :: rest => do
      let (s, rest) ← readString cs (rest.length + 1) [] rest
      return (.text s, rest)
    | '[' :: rest =>
      match skipSpace rest with
      | ']' :: rest => .ok (.list [], rest)
      | rest => do
        let (items, rest) ← readItems fuel [] rest
        return (.list items, rest)
    | '\x7b' :: rest =>
      match skipSpace rest with
      | '\x7d' :: rest => .ok (.dictionary [], rest)
      | rest => do
        let (entries, rest) ← readEntries fuel [] rest
        return (.dictionary entries, rest)
    | _ =>
      match readWord? cs with
      | some found => .ok found
      | none => readNumber cs

def readItems : Nat → List Value → List Char → Except Rejection (List Value × List Char)
  | 0, _, cs => reject .noValue cs
  | fuel + 1, items, cs => do
    let (value, rest) ← readValue fuel cs
    match skipSpace rest with
    | ']' :: rest => return (items ++ [value], rest)
    | ',' :: rest => readItems fuel (items ++ [value]) (skipSpace rest)
    | rest => reject .noComma rest

def readEntries : Nat → List (Value × Value) → List Char →
    Except Rejection (List (Value × Value) × List Char)
  | 0, _, cs => reject .noValue cs
  | fuel + 1, entries, cs =>
    match cs with
    | '"' :: more => do
      let (name, rest) ← readString cs (more.length + 1) [] more
      match skipSpace rest with
      | ':' :: rest =>
        let (value, rest) ← readValue fuel (skipSpace rest)
        let entries := putEntry Value.same entries (.text name) value
        match skipSpace rest with
        | '\x7d' :: rest => return (entries, rest)
        | ',' :: rest => readEntries fuel entries (skipSpace rest)
        | rest => reject .noComma rest
      | rest => reject .noColon rest
    | _ => reject .noName cs

end

structure Fault where
  flaw : Flaw
  line : Nat
  column : Nat
  position : Nat
deriving DecidableEq, Repr

/-- What was expected, in words. -/
def Flaw.message : Flaw → String
  | byteOrderMark => "Unexpected UTF-8 BOM (decode using utf-8-sig)"
  | noValue => "Expecting value"
  | extraData => "Extra data"
  | noName => "Expecting property name enclosed in double quotes"
  | noColon => "Expecting ':' delimiter"
  | noComma => "Expecting ',' delimiter"
  | unterminated => "Unterminated string starting at"
  | controlCharacter => "Invalid control character at"
  | badEscape => "Invalid \\escape"
  | badUnitEscape => "Invalid \\uXXXX escape"
  | tooManyDigits count =>
    "Exceeds the limit (" ++ toString mostDigits ++ " digits) for integer string conversion: value has "
      ++ toString count ++ " digits; use sys.set_int_max_str_digits() to increase the limit"

/-- A flaw at a position of a text. The column counts from the last line break before it. -/
def Fault.locate (text : List Char) (flaw : Flaw) (position : Nat) : Fault :=
  let before := text.take position
  { flaw
    line := before.count '\n' + 1
    column := (before.reverse.takeWhile (· != '\n')).length + 1
    position }

/-- Whether a flaw is in the spelling of a text, rather than in the size of what it spells. -/
def Flaw.isMisspelling : Flaw → Bool
  | tooManyDigits _ => false
  | _ => true

def Fault.message (fault : Fault) : String :=
  if fault.flaw.isMisspelling then
    fault.flaw.message ++ ": line " ++ toString fault.line ++ " column " ++ toString fault.column
      ++ " (char " ++ toString fault.position ++ ")"
  else fault.flaw.message

/-- The value that a whole text spells, with blanks allowed around it. -/
def readAll (cs : List Char) : Except Rejection Value := do
  let (value, rest) ← readValue (2 * cs.length + 2) (skipSpace cs)
  match skipSpace rest with
  | [] => return value
  | rest => reject .extraData rest

def read (s : String) : Except Fault Value :=
  let cs := s.toList
  if cs.head? = some '\ufeff' then .error (.locate cs .byteOrderMark 0)
  else match readAll cs with
    | .ok value => .ok value
    | .error rejection => .error (.locate cs rejection.flaw (cs.length - rejection.left))

end VectorTable.Json
