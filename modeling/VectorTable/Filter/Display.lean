import VectorTable.Filter.Basic

/-!
# Showing and comparing filters

A filter is shown as a term: the name of each node with its parts. Two filters are equal when they have the same shape, the same keys and equal values. A node defined elsewhere is equal to no other. Which values are equal is left open: by what they are worth, a double that is no number equals none, but one value that stands in both filters may well count as equal to itself.
-/

namespace VectorTable

/-- Values in order between parentheses; a single one is followed by a comma. -/
def showGroup (values : List Value) : String :=
  match values with
  | [only] => "(" ++ only.display ++ ",)"
  | _ => "(" ++ commaSeparated (values.map Value.display) ++ ")"

def Leaf.displayAs (node : String) : Leaf → String
  | .compare _ key operand =>
    node ++ "(key=" ++ Text.quoted key.text ++ ", value=" ++ operand.value.display ++ ")"
  | .member _ key first rest =>
    node ++ "(key=" ++ Text.quoted key.text ++ ", values="
      ++ showGroup (first.value :: rest.map Operand.value) ++ ")"

def Filter.display : Filter → String
  | .leaf condition => condition.displayAs condition.node
  | .and left right => "And(left=" ++ left.display ++ ", right=" ++ right.display ++ ")"
  | .or left right => "Or(left=" ++ left.display ++ ", right=" ++ right.display ++ ")"
  | .not inner => "Not(expression=" ++ inner.display ++ ")"
  | .custom node (some base) => base.displayAs node
  | .custom node none => node ++ "()"
  | .plain value => value.display

def Leaf.same (equal : Value → Value → Bool) : Leaf → Leaf → Bool
  | .compare a key operand, .compare b key' operand' =>
    a == b && key.text == key'.text && equal operand.value operand'.value
  | .member a key first rest, .member b key' first' rest' =>
    a == b && key.text == key'.text && equal first.value first'.value
      && (rest.map Operand.value).isEqv (rest'.map Operand.value) equal
  | _, _ => false

def Filter.same (equal : Value → Value → Bool) : Filter → Filter → Bool
  | .leaf a, .leaf b => a.same equal b
  | .and a b, .and c d => a.same equal c && b.same equal d
  | .or a b, .or c d => a.same equal c && b.same equal d
  | .not a, .not b => a.same equal b
  | .plain v, .plain w => equal v w
  | _, _ => false

end VectorTable
