import VectorTable.Decimal.Layout
import VectorTable.Text.Quoted
import VectorTable.Value.Basic

/-!
# Values as messages show them

`display` shows a value so that its kind can be told: text in quotes, an identifier with its kind, lists in brackets and dictionaries in braces. `plain` is the same except that text and identifiers stand for themselves.
-/

namespace VectorTable

open Decimal

/-- Numbers are written positionally from `0.0001` up to sixteen digits before the point; beyond that, with a signed exponent of two digits or more. -/
def Value.numberLayout : Layout := ⟨-4, 16, 2, "nan", "inf", "-inf"⟩

def showFloat (x : Float) : String := Value.numberLayout.write x

def commaSeparated (items : List String) : String := String.intercalate ", " items

namespace Value

def showBool (b : Bool) : String := if b then "True" else "False"

mutual

def display : Value → String
  | null => "None"
  | bool b => showBool b
  | int n => toString n
  | float x => showFloat x
  | text s => Text.quoted s
  | list items => "[" ++ commaSeparated (displayItems items) ++ "]"
  | uuid canonical => "UUID('" ++ canonical ++ "')"
  | bytes data => Text.quotedBytes data
  | dictionary entries => "\x7b" ++ commaSeparated (displayEntries entries) ++ "\x7d"

/-- The items of a list, each displayed. -/
def displayItems : List Value → List String
  | [] => []
  | v :: vs => display v :: displayItems vs

/-- The entries of a dictionary, each displayed as key and value. -/
def displayEntries : List (Value × Value) → List String
  | [] => []
  | (key, value) :: entries => (display key ++ ": " ++ display value) :: displayEntries entries

end

def plain : Value → String
  | text s => s
  | uuid canonical => canonical
  | v => display v

end Value

end VectorTable
