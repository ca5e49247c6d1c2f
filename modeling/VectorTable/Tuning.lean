import VectorTable.Failure

/-!
# Tuning a search

Settings of the session that make one search through an index more thorough or faster. Each is a whole number with a lower bound, checked when the options are made; a setting becomes the text of one assignment.
-/

namespace VectorTable

structure AtLeast (minimum : Int) where
  value : Int
  bounded : minimum ≤ value

/-- The options of a search, by the kind of index they concern. -/
inductive Tuning
  | hnsw (efSearch : AtLeast 1)
  | ivfFlat (probes : AtLeast 1)
  | ivf (probes : AtLeast 1)
  | scann (leaves : AtLeast 1) (neighbors : AtLeast (-1))

namespace Tuning

/-- A whole number for a named option. A truth value is no number here. -/
def option? (name : String) (minimum : Int) (value : Value) : Except Failure (AtLeast minimum) :=
  match value with
  | .int n =>
    if h : minimum ≤ n then .ok ⟨n, h⟩
    else .error (.misfit (.optionTooSmall name minimum n))
  | v => .error (.misfit (.optionNotWhole name v.kind))

/-- Options for HNSW indexes: the breadth of a search. -/
def hnsw? (efSearch : Value) : Except Failure Tuning :=
  hnsw <$> option? "ef_search" 1 efSearch

/-- Options for IVFFlat indexes: the lists probed by a search. -/
def ivfFlat? (probes : Value) : Except Failure Tuning :=
  ivfFlat <$> option? "probes" 1 probes

/-- Options for IVF indexes: the lists probed by a search. -/
def ivf? (probes : Value) : Except Failure Tuning :=
  ivf <$> option? "probes" 1 probes

/-- Options for ScaNN indexes: the leaves searched, and the neighbours kept before the final order, with minus one for the default. -/
def scann? (leaves neighbors : Value) : Except Failure Tuning := do
  let leaves ← option? "num_leaves_to_search" 1 leaves
  let neighbors ← option? "pre_reordering_num_neighbors" (-1) neighbors
  return scann leaves neighbors

/-- The assignments that options stand for, in order. -/
def settings : Tuning → List String
  | hnsw efSearch => ["hnsw.ef_search = " ++ toString efSearch.value]
  | ivfFlat probes => ["ivfflat.probes = " ++ toString probes.value]
  | ivf probes => ["ivf.probes = " ++ toString probes.value]
  | scann leaves neighbors =>
    ["scann.num_leaves_to_search = " ++ toString leaves.value,
      "scann.pre_reordering_num_neighbors = " ++ toString neighbors.value]

def statements (options : Option Tuning) : List String :=
  (options.elim [] settings).map fun setting => "SET LOCAL " ++ setting

end Tuning

end VectorTable
