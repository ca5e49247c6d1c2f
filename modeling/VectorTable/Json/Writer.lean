import VectorTable.Decimal.Reader
import VectorTable.Value.Display

/-!
# Values as JSON text

The text is pure ASCII: every other character, and every control character, is escaped by its UTF-16 units. Items and entries are separated by a comma and a space, names from values by a colon and a space. Identifiers and byte strings are written as the text messages show for them. The doubles that are not numbers are written as words, which not every reader of JSON accepts. A value has no text if a key in it cannot name an entry, or if a whole number in it has too many digits.
-/

namespace VectorTable.Json

open Text Decimal

/-- Numbers are written as messages show them, apart from the words for doubles that are not numbers. -/
def numberLayout : Layout := ⟨-4, 16, 2, "NaN", "Infinity", "-Infinity"⟩

def unitEscape (unit : Nat) : List Char := '\\' :: 'u' :: hex 4 unit

def escapeChar (c : Char) : List Char :=
  let n := c.toNat
  if c = '"' ∨ c = '\\' then ['\\', c]
  else if c = '\n' then ['\\', 'n']
  else if c = '\r' then ['\\', 'r']
  else if c = '\t' then ['\\', 't']
  else if n = 8 then ['\\', 'b']
  else if n = 12 then ['\\', 'f']
  else if 32 ≤ n ∧ n < 127 then [c]
  else if n < 0x10000 then unitEscape n
  else unitEscape (0xD800 + (n - 0x10000) / 0x400) ++ unitEscape (0xDC00 + (n - 0x10000) % 0x400)

def writeText (s : String) : String :=
  String.ofList ('"' :: s.toList.flatMap escapeChar ++ ['"'])

def nameText : Value → String
  | .null => "null"
  | .bool b => if b then "true" else "false"
  | .float x => numberLayout.write x
  | v => v.plain

mutual

def write : Value → String
  | .null => "null"
  | .bool b => if b then "true" else "false"
  | .int n => toString n
  | .float x => numberLayout.write x
  | .text s => writeText s
  | .list items => "[" ++ commaSeparated (writeItems items) ++ "]"
  | .uuid canonical => writeText canonical
  | .bytes data => writeText (quotedBytes data)
  | .dictionary entries => "\x7b" ++ commaSeparated (writeEntries entries) ++ "\x7d"

def writeItems : List Value → List String
  | [] => []
  | v :: vs => write v :: writeItems vs

def writeEntries : List (Value × Value) → List String
  | [] => []
  | (key, value) :: entries =>
    (writeText (nameText key) ++ ": " ++ write value) :: writeEntries entries

end

/-- Whether a value can name an entry of an object: text, a number, a truth value or nothing. -/
def canName : Value → Bool
  | .null | .bool _ | .int _ | .float _ | .text _ => true
  | _ => false

/-- What keeps a value from being written: a dictionary key that cannot name an entry, by its kind, or a whole number with too many digits. -/
inductive Obstacle
  | badName (kind : String)
  | tooManyDigits
deriving DecidableEq, Repr

def digitCount (n : Int) : Nat := (Nat.toDigits 10 n.natAbs).length

/-- Whole numbers with more digits than `limit` are obstacles, if there is a limit. -/
def numberObstacle? (limit : Option Nat) (n : Int) : Option Obstacle :=
  if limit.any (· < digitCount n) then some .tooManyDigits else none

def nameObstacle? (limit : Option Nat) (key : Value) : Option Obstacle :=
  match key with
  | .int n => numberObstacle? limit n
  | key => if canName key then none else some (.badName key.kind)

mutual

/-- The first obstacle, in the order in which a value is written. -/
def obstacle? (limit : Option Nat) : Value → Option Obstacle
  | .int n => numberObstacle? limit n
  | .list items => obstacleIn? limit items
  | .dictionary entries => obstacleOf? limit entries
  | _ => none

/-- The first obstacle in the items of a list. -/
def obstacleIn? (limit : Option Nat) : List Value → Option Obstacle
  | [] => none
  | v :: vs => (obstacle? limit v).or (obstacleIn? limit vs)

/-- The first obstacle in the entries of a dictionary. -/
def obstacleOf? (limit : Option Nat) : List (Value × Value) → Option Obstacle
  | [] => none
  | (key, value) :: entries =>
    (nameObstacle? limit key).or ((obstacle? limit value).or (obstacleOf? limit entries))

end

/-- The limit for whole numbers that are written for others to read. -/
def numberLimit : Option Nat := some mostDigits

/-- The text of a value, or the first obstacle to it. -/
def encode (v : Value) : Except Obstacle String :=
  match obstacle? numberLimit v with
  | some obstacle => .error obstacle
  | none => .ok (write v)

def Obstacle.message : Obstacle → String
  | badName kind => "keys must be str, int, float, bool or None, not " ++ kind
  | tooManyDigits =>
    "Exceeds the limit (" ++ toString mostDigits
      ++ " digits) for integer string conversion; use sys.set_int_max_str_digits() to increase the limit"

end VectorTable.Json
