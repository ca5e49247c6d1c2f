import VectorTable.Distance
import VectorTable.Tuning

/-!
# Vector indexes

An index on the vector column is defined by its method with the parameters of the method, by the distance it serves, and by predicates that restrict it to part of the rows. The name of the access method is the usual one of the method unless the caller gives another.
-/

namespace VectorTable

inductive Quantizer
  | sq8
  | flat
deriving DecidableEq, Repr

def Quantizer.name : Quantizer → String
  | sq8 => "sq8"
  | flat => "flat"

inductive IndexMethod
  | hnsw (m efConstruction : AtLeast 1)
  | ivfFlat (lists : AtLeast 1)
  | ivf (lists : AtLeast 1) (quantizer : Quantizer)
  | scann (leaves : AtLeast 1) (quantizer : Quantizer)

namespace IndexMethod

def positive? (field : String) (value : Value) : Except Failure (AtLeast 1) :=
  let refused := .error (.misfit (.indexFieldNotPositive field value))
  match value with
  | .int n => if h : 1 ≤ n then .ok ⟨n, h⟩ else refused
  | _ => refused

/-- The quantizer that a value names. Collections cannot be looked up among the names. -/
def quantizer? (value : Value) : Except Failure Quantizer :=
  match value with
  | .text "sq8" => .ok .sq8
  | .text "flat" => .ok .flat
  | .list _ | .dictionary _ => .error (.misfit (.notAKey value.kind))
  | _ => .error (.misfit .unknownQuantizer)

/-- The HNSW method: links of each node and the breadth of construction. -/
def hnsw? (m efConstruction : Value) : Except Failure IndexMethod := do
  return hnsw (← positive? "m" m) (← positive? "ef_construction" efConstruction)

/-- The IVFFlat method: the number of lists. -/
def ivfFlat? (lists : Value) : Except Failure IndexMethod :=
  ivfFlat <$> positive? "lists" lists

/-- The IVF method: the number of lists, with a quantizer. -/
def ivf? (lists quantizer : Value) : Except Failure IndexMethod := do
  return ivf (← positive? "lists" lists) (← quantizer? quantizer)

/-- The ScaNN method: the number of leaves, with a quantizer. -/
def scann? (leaves quantizer : Value) : Except Failure IndexMethod := do
  return scann (← positive? "num_leaves" leaves) (← quantizer? quantizer)

def accessMethod : IndexMethod → String
  | hnsw .. => "hnsw"
  | ivfFlat _ => "ivfflat"
  | ivf .. => "ivf"
  | scann .. => "ScaNN"

def parameters : IndexMethod → String
  | hnsw m efConstruction =>
    "(m = " ++ toString m.value ++ ", ef_construction = " ++ toString efConstruction.value ++ ")"
  | ivfFlat lists => "(lists = " ++ toString lists.value ++ ")"
  | ivf lists quantizer =>
    "(lists = " ++ toString lists.value ++ ", quantizer = " ++ quantizer.name ++ ")"
  | scann leaves quantizer =>
    "(num_leaves = " ++ toString leaves.value ++ ", quantizer = " ++ quantizer.name ++ ")"

def needsExtension : IndexMethod → Bool
  | scann .. => true
  | _ => false

end IndexMethod

structure IndexDefinition where
  method : IndexMethod
  distance : Distance
  predicates : List String
  accessMethod : String

namespace IndexDefinition

/-- An index by a method, with the usual access method and no restriction. -/
def ofMethod (method : IndexMethod) (distance : Distance) : IndexDefinition :=
  { method, distance, predicates := [], accessMethod := method.accessMethod }

def operatorClass (index : IndexDefinition) : String :=
  match index.method with
  | .scann .. => index.distance.scannIndexFunction
  | _ => index.distance.indexFunction

def whereClause (index : IndexDefinition) : String :=
  if index.predicates.isEmpty then ""
  else " WHERE " ++ String.intercalate " AND " (index.predicates.map fun p => "(" ++ p ++ ")")

end IndexDefinition

end VectorTable
