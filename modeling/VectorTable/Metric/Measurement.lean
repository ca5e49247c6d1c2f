import VectorTable.Value.Number

/-!
# Measurements

What is measured: operations with their outcome and perhaps their duration, rows written and deleted, and the number of matches of each search. Amounts are numbers of any kind.
-/

namespace VectorTable.Metric

inductive Measurement
  | operation (name status : String) (latency : Option Float)
  /-- A duration that is no number. It adds nothing, but the durations of the operation are shown from then on. -/
  | refusedLatency (name : String)
  | rowsWritten (amount : Value)
  | rowsDeleted (amount : Value)
  | searchResults (amount : Value)

/-- An operation that took some time. The time itself is not part of any answer, so it is taken to be nothing. -/
def completed (name status : String) : Measurement := .operation name status (some 0)

end VectorTable.Metric
