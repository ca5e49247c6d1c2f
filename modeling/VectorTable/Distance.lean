import VectorTable.Value.Reading

/-!
# Distances

The measures of nearness between vectors, each with the operator that orders rows, the function that computes the distance reported for a row, and the operator classes of its indexes. A score turns the reported distance around where need be, so that the nearer of two rows has the higher score.
-/

namespace VectorTable

inductive Distance
  | cosine
  | euclidean
  | innerProduct
deriving DecidableEq, Repr

namespace Distance

def all : List Distance := [cosine, euclidean, innerProduct]

def name : Distance → String
  | cosine => "COSINE_DISTANCE"
  | euclidean => "EUCLIDEAN"
  | innerProduct => "INNER_PRODUCT"

def ofName? (name : String) : Option Distance := all.find? fun distance => distance.name == name

/-- The operator by which rows are ordered, nearest first. -/
def operator : Distance → String
  | cosine => "<=>"
  | euclidean => "<->"
  | innerProduct => "<#>"

/-- The function that computes the distance reported for a row. For inner products it is the product itself, while the operator orders by the negated product. -/
def searchFunction : Distance → String
  | cosine => "cosine_distance"
  | euclidean => "l2_distance"
  | innerProduct => "inner_product"

/-- The operator class of most indexes. -/
def indexFunction : Distance → String
  | cosine => "vector_cosine_ops"
  | euclidean => "vector_l2_ops"
  | innerProduct => "vector_ip_ops"

def scannIndexFunction : Distance → String
  | cosine => "cosine"
  | euclidean => "l2"
  | innerProduct => "dot_product"

/-- The score of a reported distance, in any kind of numbers. There is none for a Euclidean distance of minus one. -/
def score? {α : Type} [OfNat α 0] [OfNat α 1] [Add α] [Sub α] [Div α] [BEq α]
    (distance : Distance) (d : α) : Option α :=
  match distance with
  | cosine => some (1 - d)
  | euclidean => if 1 + d == 0 then none else some (1 / (1 + d))
  | innerProduct => some d

def score (distance : Distance) (d : Float) : Except Failure Float :=
  match distance.score? d with
  | some score => .ok score
  | none => .error (.misfit .divisionByZero)

/-- A value as the right operand of an arithmetic operation on doubles. -/
private def realOperand (refused : String → String → Misfit) (v : Value) : Except Failure Float :=
  match v with
  | .bool _ | .int _ | .float _ => v.toFloat
  | _ => .error (.misfit (refused "float" v.kind))

/-- The score of a reported distance that may be any value. An inner product is its own score, whatever it is. -/
def scoreValue (distance : Distance) (v : Value) : Except Failure Value :=
  match distance with
  | cosine => do return .float (← distance.score (← realOperand .noSubtraction v))
  | euclidean => do return .float (← distance.score (← realOperand .noAddition v))
  | innerProduct => .ok v

end Distance

end VectorTable
