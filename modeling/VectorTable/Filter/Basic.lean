import VectorTable.Value.Reading

/-!
# Metadata filters

A filter is a tree of conditions on metadata. A leaf compares the value of one key with an operand or looks it up among several; conditions are joined by conjunction and disjunction and reversed by negation. Keys are not blank, operands are never nothing and a look-up names at least one member: filters are built by functions that refuse everything else, and the types record it.

A tree may also hold nodes that no statement can express: conditions defined elsewhere, and plain values in the place of a filter. They can be built, shown and compared, and are refused when a statement is made.
-/

namespace VectorTable

inductive Comparison
  | equal
  | notEqual
  | greater
  | greaterOrEqual
  | less
  | lessOrEqual
deriving DecidableEq, Repr

inductive Membership
  | among
  | notAmong
deriving DecidableEq, Repr

def Comparison.node : Comparison → String
  | equal => "IsEqualTo"
  | notEqual => "IsNotEqualTo"
  | greater => "IsGreaterThan"
  | greaterOrEqual => "IsGreaterThanOrEqualTo"
  | less => "IsLessThan"
  | lessOrEqual => "IsLessThanOrEqualTo"

def Membership.node : Membership → String
  | among => "IsIn"
  | notAmong => "IsNotIn"

structure Key where
  text : String
  notBlank : Text.isBlankText text = false

instance : DecidableEq Key := fun a b =>
  decidable_of_iff (a.text = b.text) ⟨fun h => by cases a; cases b; cases h; rfl, congrArg Key.text⟩

structure Operand where
  value : Value
  notNull : value.isNull = false

inductive Leaf
  | compare (operator : Comparison) (key : Key) (operand : Operand)
  | member (operator : Membership) (key : Key) (first : Operand) (rest : List Operand)

inductive Filter
  | leaf (condition : Leaf)
  | and (left right : Filter)
  | or (left right : Filter)
  | not (inner : Filter)
  | custom (node : String) (base : Option Leaf)
  | plain (value : Value)

namespace Filter

/-- The key that a value stands for: a text that is not blank. -/
def key? : Value → Except Failure Key
  | .text s =>
    if h : Text.isBlankText s = false then .ok ⟨s, h⟩ else .error (.refused .blankKey)
  | _ => .error (.refused .blankKey)

/-- The operand that a value stands for: any but nothing. -/
def operand? (v : Value) : Option Operand :=
  if h : v.isNull = false then some ⟨v, h⟩ else none

/-- A comparison, checked from left to right. -/
def comparison? (operator : Comparison) (key value : Value) : Except Failure Leaf := do
  let key ← key? key
  match operand? value with
  | some operand => return .compare operator key operand
  | none => throw (.refused (.noComparisonValue key.text))

/-- A look-up among the members of a collection, reported under the name of its node. A single text is no collection here, although its characters could be listed. -/
def membership? (operator : Membership) (node : String) (key values : Value) :
    Except Failure Leaf := do
  let key ← key? key
  match values with
  | .text _ | .bytes _ => throw (.refused (.singleMember node key.text))
  | _ =>
    match ← values.items with
    | [] => throw (.refused (.noMembers node key.text))
    | first :: rest =>
      match operand? first, rest.mapM operand? with
      | some first, some rest => return .member operator key first rest
      | _, _ => throw (.refused (.nothingAmongMembers node key.text))

end Filter

/-- The members of a look-up, in order. -/
def Leaf.values : Leaf → List Value
  | compare _ _ operand => [operand.value]
  | member _ _ first rest => first.value :: rest.map Operand.value

def Leaf.key : Leaf → Key
  | compare _ key _ => key
  | member _ key _ _ => key

def Leaf.node : Leaf → String
  | compare operator _ _ => operator.node
  | member operator _ _ _ => operator.node

end VectorTable
