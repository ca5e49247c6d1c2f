/-!
# Values

The values that filters compare with, statements bind, rows hold and callers pass: nothing, truth values, whole numbers of any size, doubles, text, lists, identifiers, byte strings, and dictionaries whose entries stay in order. An identifier is kept in its canonical text.
-/

namespace VectorTable

inductive Value
  | null
  | bool (b : Bool)
  | int (n : Int)
  | float (x : Float)
  | text (s : String)
  | list (items : List Value)
  | uuid (canonical : String)
  | bytes (data : List UInt8)
  | dictionary (entries : List (Value × Value))
deriving Inhabited

namespace Value

/-- The name of a value's kind, as messages give it. -/
def kind : Value → String
  | null => "NoneType"
  | bool _ => "bool"
  | int _ => "int"
  | float _ => "float"
  | text _ => "str"
  | list _ => "list"
  | uuid _ => "UUID"
  | bytes _ => "bytes"
  | dictionary _ => "dict"

def isNull : Value → Bool
  | null => true
  | _ => false

@[simp] theorem isNull_eq_true_iff (v : Value) : v.isNull = true ↔ v = null := by
  cases v <;> simp [isNull]

/-- Whether a value counts as something: nothing, false, zero and the empty collections do not. -/
def truthy : Value → Bool
  | null => false
  | bool b => b
  | int n => n != 0
  | float x => !(x == 0.0)
  | text s => !s.isEmpty
  | list items => !items.isEmpty
  | uuid _ => true
  | bytes data => !data.isEmpty
  | dictionary entries => !entries.isEmpty

/-- A text, or nothing. -/
def ofText? : Option String → Value
  | some s => text s
  | none => null

def record (entries : List (String × Value)) : Value :=
  dictionary (entries.map fun (key, value) => (text key, value))

end Value

end VectorTable
