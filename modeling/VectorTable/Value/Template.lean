import VectorTable.Value.Entries
import VectorTable.Value.Slot

/-!
# Templates

A template is a text with slots for values. A slot begins with a percent sign; then may come the name of an entry in parentheses, flags, a least width, a precision after a point and a letter for a size, which means nothing; it ends with the letter that says how its value is written. A width or a precision may be a star, which takes its number from the values. Two percent signs stand for one.

Values fill the slots in order and none may be left over. The first fault from the left counts, whether it lies in the template or in a value.
-/

namespace VectorTable

open Decimal

/-- The values for the slots to come, and the entries that names refer to. -/
structure TemplateValues where
  rest : List Value
  entries : Option (List (Value × Value))

namespace TemplateValues

/-- The values to fill a template with. A single dictionary fills by its entries, unless it has none. -/
def ofList (values : List Value) : TemplateValues :=
  match values with
  | [.dictionary entries] => ⟨values, if entries.isEmpty then none else some entries⟩
  | values => ⟨values, none⟩

/-- The next value, and what is left after it. -/
def next (values : TemplateValues) : Except TemplateFault (Value × TemplateValues) :=
  match values.rest with
  | [] => .error .tooFew
  | value :: rest => .ok (value, { values with rest })

/-- The values when the next slot takes the entry with a given name. Then nothing is left for the slots after it. -/
def choose (values : TemplateValues) (entries : List (Value × Value)) (name : String) :
    Except TemplateFault TemplateValues :=
  match Value.field? entries name with
  | some value => .ok { values with rest := [value] }
  | none => .error (.missingEntry name)

/-- Whether values may be left over: entries may. -/
def mayEnd (values : TemplateValues) : Bool := values.rest.isEmpty || values.entries.isSome

end TemplateValues

namespace Slot

/-- The text up to the parenthesis that closes `depth` open ones, and what follows it. -/
def upToClosing (depth : Nat) : List Char → Option (List Char × List Char)
  | [] => none
  | c :: cs =>
    if c = ')' ∧ depth = 0 then some ([], cs)
    else
      let depth := if c = '(' then depth + 1 else if c = ')' then depth - 1 else depth
      (upToClosing depth cs).map fun (text, rest) => (c :: text, rest)

/-- The name of an entry at the start of a slot: the values after its choice, and what follows it. -/
def readEntry (values : TemplateValues) (cs : List Char) :
    Except TemplateFault (TemplateValues × List Char) :=
  match cs, values.entries with
  | '(' :: _, none => .error .needsEntries
  | '(' :: cs, some entries =>
    match upToClosing 0 cs with
    | none => .error .incompleteName
    | some (name, rest) => do return (← values.choose entries (String.ofList name), rest)
  | cs, _ => .ok (values, cs)

def isFlag (c : Char) : Bool := "#0- +".toList.contains c

def countOf (cs : List Char) : Nat :=
  (cs.takeWhile Char.isDigit).foldl (fun n c => 10 * n + (c.toNat - 48)) 0

/-- A width or a precision at the start, perhaps a star: its number, the values after it, and what follows it. -/
def readSize (greatest : Nat) (tooBig : TemplateFault) (values : TemplateValues)
    (cs : List Char) : Except TemplateFault (Int × TemplateValues × List Char) :=
  match cs with
  | '*' :: rest => do
    let (value, values) ← values.next
    match exactWhole? value with
    | some n => if n.natAbs ≤ greatest then return (n, values, rest) else throw .tooLong
    | none => throw .needsWholeSize
  | cs =>
    if countOf cs ≤ greatest then .ok (countOf cs, values, cs.dropWhile Char.isDigit)
    else .error tooBig

/-- A precision after a point, if there is one. Below zero it is zero. -/
def readPrecision (values : TemplateValues) (cs : List Char) :
    Except TemplateFault (Option Nat × TemplateValues × List Char) :=
  match cs with
  | '.' :: cs => do
    let (n, values, rest) ← readSize (2 ^ 31 - 1) .precisionTooBig values cs
    return (some n.toNat, values, rest)
  | cs => .ok (none, values, cs)

/-- What follows a letter for a size, if there is one. -/
def skipSize (cs : List Char) : List Char :=
  match cs with
  | c :: rest => if "hlL".toList.contains c then rest else cs
  | [] => []

/-- The slot after a percent sign: the values for it and for the slots after it, and what follows it. A width below zero asks for blanks behind. `length` is the length of the whole template. -/
def read (length : Nat) (values : TemplateValues) (cs : List Char) :
    Except TemplateFault (Slot × TemplateValues × List Char) := do
  let (values, cs) ← readEntry values cs
  let (width, values, rest) ←
    readSize (2 ^ 63 - 1) .widthTooBig values (cs.dropWhile isFlag)
  let flags := cs.takeWhile isFlag ++ if width < 0 then ['-'] else []
  let (precision, values, rest) ← readPrecision values rest
  match skipSize rest with
  | [] => throw .incomplete
  | letter :: rest =>
    return (⟨flags, width.natAbs, precision, letter, length - rest.length - 1⟩, values, rest)

end Slot

/-- A template filled with values. The fuel bounds the number of characters read; `length` is the length of the whole template. -/
def fillFrom (length : Nat) : Nat → TemplateValues → List Char → Except TemplateFault (List Char)
  | 0, _, cs => .ok cs
  | _, values, [] => if values.mayEnd then .ok [] else .error .tooMany
  | fuel + 1, values, '%' :: '%' :: cs => do return '%' :: (← fillFrom length fuel values cs)
  | fuel + 1, values, '%' :: cs => do
    let (slot, values, rest) ← Slot.read length values cs
    let (value, values) ← values.next
    return (← slot.write value) ++ (← fillFrom length fuel values rest)
  | fuel + 1, values, c :: cs => do return c :: (← fillFrom length fuel values cs)

/-- A template filled with values. Without values nothing is a slot. -/
def fillTemplate (template : String) (values : List Value) : Except TemplateFault String :=
  if values.isEmpty then .ok template
  else do
    let cs := template.toList
    return String.ofList (← fillFrom cs.length (cs.length + 1) (.ofList values) cs)

end VectorTable
