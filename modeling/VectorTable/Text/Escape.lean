/-!
# Terminal escapes

A terminal escape is an escape character, an opening bracket, parameters made of digits, semicolons and question marks, and a letter. Text that does not go to a terminal is printed without them.
-/

namespace VectorTable.Text

/-- Whether a character may stand among the parameters of an escape. -/
def isEscapeParameter (c : Char) : Bool := c.isDigit || c == ';' || c == '?'

/-- The length of the escape after an escape character, if there is one. -/
def escapeLength? : List Char → Option Nat
  | '[' :: cs =>
    match cs.dropWhile isEscapeParameter with
    | c :: _ => if c.isAlpha then some ((cs.takeWhile isEscapeParameter).length + 2) else none
    | [] => none
  | _ => none

/-- Characters without escapes. `skipped` is what is left of an escape that has begun. -/
def dropEscapes (skipped : Nat) : List Char → List Char
  | [] => []
  | c :: cs =>
    match skipped with
    | n + 1 => dropEscapes n cs
    | 0 =>
      match if c = '\x1b' then escapeLength? cs else none with
      | some length => dropEscapes length cs
      | none => c :: dropEscapes 0 cs

/-- A text without terminal escapes. -/
def withoutEscapes (s : String) : String := String.ofList (dropEscapes 0 s.toList)

end VectorTable.Text
