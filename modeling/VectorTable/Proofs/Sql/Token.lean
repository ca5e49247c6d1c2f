import VectorTable.Sql.Piece

/-!
# Tokens of a statement

The text of a statement is read as the database reads it, one character after the other. A quoted name goes up to a quote that stands alone; a doubled quote inside it stands for one quote. Nothing between the quotes makes a name of no characters, which the database reads as one token before it refuses it. Words are folded to lower case. Slots, whole numbers and operators take as many characters as they can. The statements here have no string constants and no comments, so a text with one of these is refused, as is a text with any other character that starts no token.
-/

namespace VectorTable.Sql

/-- A token of a statement. A quoted name is given as it is meant, without its quotes. -/
inductive Token
  | name (identifier : String)
  | word (text : String)
  | number (value : Nat)
  | slot (index : Nat)
  | operator (text : String)
  | cast
  | mark (char : Char)
deriving DecidableEq, Repr

def isSpace (c : Char) : Bool := [' ', '\t', '\n', '\x0b', '\x0c', '\r'].contains c

/-- Punctuation, of which each character is a token. -/
def isMark (c : Char) : Bool := ['(', ')', '[', ']', ',', '.', ';'].contains c

def isLetter (c : Char) : Bool := c.isAlpha || c == '_' || 128 ≤ c.toNat

def isWordChar (c : Char) : Bool := isLetter c || c.isDigit || c == '$'

def isOperatorChar (c : Char) : Bool :=
  ['~', '!', '@', '#', '^', '&', '|', '?', '+', '-', '*', '/', '%', '<', '>', '='].contains c
    || c.toNat == 96

def digitOf (c : Char) : Nat := c.toNat - '0'.toNat

inductive Pending
  | nothing
  | word (read : List Char)
  | number (value : Nat)
  | dollar
  | slot (index : Nat)
  | operator (read : List Char)
  | colon
  | cast
  | quoted (read : List Char)
  /-- After a quote that ends a name, unless another one follows. -/
  | closed (read : List Char)
deriving DecidableEq

/-- The token that goes on with one more character, if it does. -/
def Pending.extend? : Pending → Char → Option Pending
  | word read, c => if isWordChar c then some (word (read ++ [c])) else none
  | number value, c => if c.isDigit then some (number (10 * value + digitOf c)) else none
  | dollar, c => if c.isDigit then some (slot (digitOf c)) else none
  | slot index, c => if c.isDigit then some (slot (10 * index + digitOf c)) else none
  | operator read, c => if isOperatorChar c then some (operator (read ++ [c])) else none
  | colon, c => if c = ':' then some cast else none
  | quoted read, c => some (if c = '"' then closed read else quoted (read ++ [c]))
  | closed read, c => if c = '"' then some (quoted (read ++ [c])) else none
  | nothing, _ | cast, _ => none

def opensComment : List Char → Bool
  | '-' :: '-' :: _ | '/' :: '*' :: _ => true
  | _ :: cs => opensComment cs
  | [] => false

/-- The token that has been read when it does not go on. -/
def Pending.tokens? : Pending → Option (List Token)
  | nothing => some []
  | word read => some [.word (String.ofList (read.map Char.toLower))]
  | number value => some [.number value]
  | slot index => some [.slot index]
  | operator read =>
    if opensComment read then none else some [.operator (String.ofList read)]
  | cast => some [.cast]
  | closed read => some [.name (String.ofList read)]
  | dollar | colon | quoted _ => none

/-- The token that a character begins. Punctuation is complete at once, and blank space begins none. -/
def begin? (c : Char) : Option (List Token × Pending) :=
  if isSpace c then some ([], .nothing)
  else if isMark c then some ([.mark c], .nothing)
  else if isLetter c then some ([], .word [c])
  else if c.isDigit then some ([], .number (digitOf c))
  else if isOperatorChar c then some ([], .operator [c])
  else if c = '$' then some ([], .dollar)
  else if c = ':' then some ([], .colon)
  else if c = '"' then some ([], .quoted [])
  else none

/-- How far a text has been read: the complete tokens, and the one that may go on. -/
structure Reading where
  tokens : List Token
  pending : Pending
deriving DecidableEq

namespace Reading

def start : Reading := ⟨[], .nothing⟩

def next? (r : Reading) (c : Char) : Option Reading :=
  match r.pending.extend? c with
  | some pending => some ⟨r.tokens, pending⟩
  | none => do
    let last ← r.pending.tokens?
    let (first, pending) ← begin? c
    return ⟨r.tokens ++ last ++ first, pending⟩

def readAll? (r : Reading) (cs : List Char) : Option Reading := cs.foldlM next? r

/-- The tokens read, if the text ends here. -/
def finish? (r : Reading) : Option (List Token) := do
  return r.tokens ++ (← r.pending.tokens?)

end Reading

def lex? (text : String) : Option (List Token) := do
  (← Reading.start.readAll? text.toList).finish?

def slotTokens (indexes : List Nat) : List Token := (indexes.map Token.slot).intersperse (.mark ',')

example : lex? "\"a\"\"b\" = ANY($12::int)" =
    some [.name "a\"b", .operator "=", .word "any", .mark '(', .slot 12, .cast, .word "int",
      .mark ')'] := by decide

example : lex? "\"a\" -- b" = none := by decide

end VectorTable.Sql
