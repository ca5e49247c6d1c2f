import VectorTable.Text.Blank
import VectorTable.Text.Case
import VectorTable.Value.Entries

/-!
# Environment files

A file of settings has one assignment after the other, each perhaps after the word `export`, and comments that begin with a number sign. A value may stand in single or double quotes, with escapes as the quotes allow, and may then have several lines; without quotes it ends at a comment or the end of the line. A reference to another name in braces after a dollar sign stands for the value of that name. A line that makes no sense is skipped.
-/

namespace VectorTable.Setting

open Text

def isLineBlank (c : Char) : Bool := isBlank c && c != '\n' && c != '\r'

def skipBlanks (cs : List Char) : List Char := cs.dropWhile isLineBlank

/-- The text up to the closing quote, and what follows it. A quote after a backslash closes only if no other does. -/
def upToQuote (quote : Char) : List Char → Option (List Char × List Char)
  | [] => none
  | [c] => if c = quote then some ([], []) else none
  | c :: d :: cs =>
    if c = quote then some ([], d :: cs)
    else if c = '\\' ∧ d = quote then
      match upToQuote quote cs with
      | some (text, rest) => some (c :: d :: text, rest)
      | none => some ([c], cs)
    else (upToQuote quote (d :: cs)).map fun (text, rest) => (c :: text, rest)

/-- Quoted text with the escapes resolved that `meaning` knows. -/
def unescape (meaning : Char → Option Char) : List Char → List Char
  | '\\' :: c :: cs =>
    match meaning c with
    | some d => d :: unescape meaning cs
    | none => '\\' :: c :: unescape meaning cs
  | c :: cs => c :: unescape meaning cs
  | [] => []

def singleQuoteEscape : Char → Option Char
  | '\\' => some '\\'
  | '\'' => some '\''
  | _ => none

def doubleQuoteEscape : Char → Option Char
  | '\\' => some '\\'
  | '\'' => some '\''
  | '"' => some '"'
  | 'a' => some '\x07'
  | 'b' => some '\x08'
  | 'f' => some '\x0c'
  | 'n' => some '\n'
  | 'r' => some '\r'
  | 't' => some '\t'
  | 'v' => some '\x0b'
  | _ => none

/-- The text before a comment. A comment starts with a number sign after a blank. -/
def beforeComment : List Char → List Char
  | [] => []
  | c :: cs =>
    if isBlank c && (cs.dropWhile isBlank).head? = some '#' then []
    else c :: beforeComment cs

/-- A value without quotes. -/
def bareValue (cs : List Char) : List Char :=
  trimBy isBlank (beforeComment cs)

def endsLine (c : Char) : Bool := c == '\n' || c == '\r'

def skipLine (cs : List Char) : List Char := (cs.dropWhile fun c => !endsLine c).drop 1

/-- Whether nothing but a comment is left of a line. -/
def isLineEnd (cs : List Char) : Bool :=
  match skipBlanks cs with
  | [] => true
  | c :: _ => c == '#' || endsLine c

/-- The value after the equals sign of an assignment, and what follows it. -/
def readAssigned (cs : List Char) : Option (String × List Char) :=
  let quotedValue (quote : Char) (meaning : Char → Option Char) (cs : List Char) :
      Option (String × List Char) :=
    (upToQuote quote cs).map fun (text, rest) => (String.ofList (unescape meaning text), rest)
  match cs with
  | '\'' :: rest => quotedValue '\'' singleQuoteEscape rest
  | '"' :: rest => quotedValue '"' doubleQuoteEscape rest
  | _ =>
    some (String.ofList (bareValue (cs.takeWhile fun c => !endsLine c)),
      cs.dropWhile fun c => !endsLine c)

/-- What is left after the word `export` and the blanks after it. -/
def skipExport (cs : List Char) : List Char :=
  match cs with
  | 'e' :: 'x' :: 'p' :: 'o' :: 'r' :: 't' :: c :: rest =>
    if isLineBlank c then skipBlanks rest else cs
  | _ => cs

/-- Whether a character may stand in a name without quotes. -/
def isNameChar (c : Char) : Bool := c != '=' && c != '#' && !isBlank c

/-- The name at the start of an assignment, and what follows it. -/
def readName (cs : List Char) : Option (String × List Char) :=
  match cs with
  | '\'' :: rest =>
    match rest.dropWhile (· != '\'') with
    | _ :: more => some (String.ofList (rest.takeWhile (· != '\'')), more)
    | [] => none
  | _ =>
    match cs.takeWhile isNameChar with
    | [] => none
    | name => some (String.ofList name, cs.dropWhile isNameChar)

/-- A line of a file: a name, and its value unless the name stands alone. -/
abbrev Assignment := String × Option String

/-- The assignment at the start of a text, and what follows it. There is none if the line makes no sense. -/
def readAssignment (cs : List Char) : Option Assignment × List Char :=
  match readName (skipExport cs) with
  | none => (none, skipExport cs)
  | some (name, rest) =>
    match skipBlanks rest with
    | '=' :: more =>
      match readAssigned (skipBlanks more) with
      | some (value, rest) => (if isLineEnd rest then some (name, some value) else none, rest)
      | none => (none, more)
    | rest => (if isLineEnd rest then some (name, none) else none, rest)

/-- The assignments of a text, in order. Each uses up a character at least, so the length of the text is fuel enough. -/
def readAssignments : Nat → List Char → List Assignment
  | 0, _ => []
  | fuel + 1, cs =>
    match cs.dropWhile isBlank with
    | [] => []
    | c :: cs =>
      let (assignment, rest) := readAssignment (c :: cs)
      assignment.toList ++ readAssignments fuel (skipLine rest)

/-- The name and the default in a reference, up to its closing brace, and what follows it. -/
def readReference (cs : List Char) : Option (String × String × List Char) :=
  let inside := cs.takeWhile (· != '\x7d')
  match cs.dropWhile (· != '\x7d') with
  | [] => none
  | _ :: rest =>
    let name := inside.takeWhile (· != ':')
    match inside.dropWhile (· != ':') with
    | [] => some (String.ofList name, "", rest)
    | ':' :: '-' :: fallback => some (String.ofList name, String.ofList fallback, rest)
    | _ => none

/-- A value with its references replaced. The fuel bounds the number of characters read. -/
def expandFrom (known : List Assignment) : Nat → List Char → List Char
  | 0, cs => cs
  | _, [] => []
  | fuel + 1, '$' :: '\x7b' :: cs =>
    match readReference cs with
    | some (name, fallback, rest) =>
      let value := match lookupName known name with
        | some value => value.getD ""
        | none => fallback
      value.toList ++ expandFrom known fuel rest
    | none => '$' :: '\x7b' :: expandFrom known fuel cs
  | fuel + 1, c :: cs => c :: expandFrom known fuel cs

/-- A value with its references replaced by what is known. A name that stands alone is known and empty. -/
def expand (known : List Assignment) (value : String) : String :=
  String.ofList (expandFrom known value.length value.toList)

/-- The values that names have in the end. A name that stands alone takes back what was said of it in any letter case. -/
def assignedValues (assignments : List Assignment) : List (String × String) :=
  assignments.foldl (fun kept (name, value) =>
    match value with
    | some value => kept ++ [(name, value)]
    | none => kept.filter fun entry => lowerAscii entry.1 != lowerAscii name) []

/-- The assignments of a file, each name once. References see the assignments before them and, for other names, the environment. -/
def readEnvFile (environment : List (String × String)) (lines : List String) :
    List (String × String) :=
  let text := String.intercalate "\n" lines
  let surrounding := environment.map fun (name, value) => (name, some value)
  assignedValues ((readAssignments text.length text.toList).foldl
    (fun done (name, value) =>
      putEntry (· == ·) done name (value.map (expand (done ++ surrounding)))) [])

end VectorTable.Setting
