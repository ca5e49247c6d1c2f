import VectorTable.Value.Reading

/-!
# Vectors as text

The database takes and gives vectors as text: the components in shortest decimal form between brackets, separated by commas with no blanks. Reading is more lenient: blanks and any number of brackets around the components are dropped, and a vector may also come as a collection of numbers.
-/

namespace VectorTable

/-- The components of a vector, given as any collection of numbers. -/
def vectorComponents (v : Value) : Except Failure (List Float) := do
  (← v.items).mapM Value.toFloat

def writeVector (components : List Float) : String :=
  "[" ++ String.intercalate "," (components.map showFloat) ++ "]"

def formatVector (v : Value) : Except Failure String := do
  return writeVector (← vectorComponents v)

def isBracket (c : Char) : Bool := c == '[' || c == ']'

/-- The parts of a text between a separator. There is always one part more than separators. -/
def splitAt (separator : Char) : List Char → List (List Char)
  | [] => [[]]
  | c :: cs =>
    if c = separator then [] :: splitAt separator cs
    else match splitAt separator cs with
      | [] => [[c]]
      | part :: parts => (c :: part) :: parts

def readVector (s : String) : Except Failure (List Float) :=
  let body := Text.trimBy isBracket (Text.trimBy Text.isBlank s.toList)
  if body.isEmpty then .ok []
  else (splitAt ',' body).mapM fun part => floatOfText (String.ofList part)

/-- A vector as the database gives it: nothing, text, or a collection of numbers. -/
def parseVector : Value → Except Failure (Option (List Float))
  | .null => .ok none
  | .text s => some <$> readVector s
  | v => some <$> vectorComponents v

end VectorTable
