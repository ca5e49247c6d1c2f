import VectorTable.Filter.Basic
import VectorTable.Sql.Piece

/-!
# Filters as predicates

A filter becomes a predicate of the database with a slot for each value. Slots are numbered from left to right, starting where the caller says, and the values bound to them are collected in the same order.

A missing key never satisfies an equality and always satisfies its negation, which the text of these leaves says explicitly; the other comparisons leave missing keys to the database. Disjunctions are always in parentheses and conjunctions never are, since conjunction binds more tightly than the disjunctions around it.
-/

namespace VectorTable

open Sql

/-- The slots given out so far: the index of the next one and the values bound to the others. -/
structure Numbering where
  next : Int
  bound : List Value

def Numbering.bind (n : Numbering) (v : Value) : Piece × Numbering :=
  (.slot n.next, ⟨n.next + 1, n.bound ++ [v]⟩)

/-- The slots for several values, in order. -/
def Numbering.bindAll (n : Numbering) : List Value → List Piece × Numbering
  | [] => ([], n)
  | v :: vs =>
    let (slot, n) := n.bind v
    let (slots, n) := n.bindAll vs
    (slot :: slots, n)

/-- The operators that need no care for missing keys. -/
def Comparison.sign : Comparison → String
  | .equal => "="
  | .notEqual => "!="
  | .greater => ">"
  | .greaterOrEqual => ">="
  | .less => "<"
  | .lessOrEqual => "<="

/-- The pieces of a comparison, with the slot for its operand. -/
def Comparison.pieces (operator : Comparison) (key : Key) (slot : Piece) : List Piece :=
  let name := Piece.name key.text
  match operator with
  | .equal => [name, .raw " IS NOT NULL AND ", name, .raw " = ", slot]
  | .notEqual => [.raw "(", name, .raw " IS NULL OR ", name, .raw " != ", slot, .raw ")"]
  | ordering => [name, .raw (" " ++ ordering.sign ++ " "), slot]

/-- The pieces of a look-up, with the slots for its members. -/
def Membership.pieces (operator : Membership) (key : Key) (slots : List Piece) : List Piece :=
  let name := Piece.name key.text
  let members := separated ", " (slots.map fun slot => [slot])
  match operator with
  | .among => [name, .raw " IN ("] ++ members ++ [.raw ")"]
  | .notAmong =>
    [.raw "(", name, .raw " IS NULL OR ", name, .raw " NOT IN ("] ++ members ++ [.raw "))"]

def Leaf.translate (leaf : Leaf) (n : Numbering) : List Piece × Numbering :=
  match leaf with
  | .compare operator key operand =>
    let (slot, n) := n.bind operand.value
    (operator.pieces key slot, n)
  | .member operator key first rest =>
    let (slots, n) := n.bindAll (first.value :: rest.map Operand.value)
    (operator.pieces key slots, n)

/-- The predicate of a filter, numbered on from the slots given out before. -/
def Filter.translate : Filter → Numbering → Except Failure (List Piece × Numbering)
  | .leaf condition, n => .ok (condition.translate n)
  | .and left right, n => do
    let (leftPieces, n) ← left.translate n
    let (rightPieces, n) ← right.translate n
    return (leftPieces ++ [.raw " AND "] ++ rightPieces, n)
  | .or left right, n => do
    let (leftPieces, n) ← left.translate n
    let (rightPieces, n) ← right.translate n
    return ([.raw "("] ++ leftPieces ++ [.raw " OR "] ++ rightPieces ++ [.raw ")"], n)
  | .not inner, n => do
    let (pieces, n) ← inner.translate n
    return ([.raw "NOT("] ++ pieces ++ [.raw ")"], n)
  | .custom node _, _ => .error (.unsupportedFilter node)
  | .plain value, _ => .error (.unsupportedFilter value.kind)

/-- A predicate with the values bound to its slots, in the order of the slots. -/
structure Predicate where
  pieces : List Piece
  values : List Value

def Predicate.sql (p : Predicate) : String := render p.pieces

/-- The predicate of a filter whose first slot has the index `start`. -/
def Filter.predicate (filter : Filter) (start : Int) : Except Failure Predicate := do
  let (pieces, n) ← filter.translate ⟨start, []⟩
  return ⟨pieces, n.bound⟩

end VectorTable
