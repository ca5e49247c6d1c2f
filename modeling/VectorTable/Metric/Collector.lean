import VectorTable.Program.Basic
import VectorTable.Setting.General
import VectorTable.Value.Reading

/-!
# The collector of measurements

Measurements are collected from the first time that anybody asks for the collector. Amounts come from outside: a counter only grows, and an amount must be a number that a double can hold.
-/

namespace VectorTable

namespace Metric

def logger : String := "alloydb_vectorstore.observability.metrics"

def addend (amount : Value) : Except Failure Float :=
  match amount with
  | .bool _ | .int _ | .float _ => amount.toFloat
  | other => .error (.misfit (.noIncrease "float" other.kind))

def increase (amount : Value) : Except Failure Float := do
  if ← amount.lessThan "<" (.int 0) then throw (.misfit .negativeCount)
  addend amount

end Metric

namespace Program

def measure (m : Metric.Measurement) : Program Unit := note (.measured m)

def collectMetrics : Program Unit :=
  look fun memory =>
    if memory.collecting then pure ()
    else do
      note .collectorMade
      log (Log.line Metric.logger .info "Prometheus metrics initialized")

/-- Counting an operation with its outcome, and its duration if one is given. The operation is counted even if its duration is no number. -/
def recordOperation (name status : String) (latency : Value) : Program Unit :=
  if latency.isNull then measure (.operation name status none)
  else match Metric.addend latency with
    | .ok seconds => measure (.operation name status (some seconds))
    | .error failure => do
      measure (.operation name status none)
      measure (.refusedLatency name)
      fail failure

def recordRowsWritten (amount : Value) : Program Unit := do
  let _ ← ofExcept (Metric.increase amount)
  measure (.rowsWritten amount)

def recordRowsDeleted (amount : Value) : Program Unit := do
  let _ ← ofExcept (Metric.increase amount)
  measure (.rowsDeleted amount)

def recordSearchResults (amount : Value) : Program Unit := do
  let _ ← ofExcept (Metric.addend amount)
  measure (.searchResults amount)

/-- Serving the measurements on a port: the one given, or that of the settings. Zero and nothing count as not given. -/
def serveMetrics (settings : Except Failure Setting.General) (port : Value) : Program Value := do
  let settings ← ofExcept settings
  let port := if port.truthy then port else .int settings.metricsPort
  log (Log.line Metric.logger .info ("Prometheus metrics server started on port " ++ port.plain))
  return port

end Program

end VectorTable
