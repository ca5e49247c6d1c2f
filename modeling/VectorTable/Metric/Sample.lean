import VectorTable.Program.Event
import VectorTable.Value.Reading

/-!
# Samples

What a scrape of the metrics shows after some measurements. Counters add up; a histogram shows, for each bound, how many observations were at most the bound, with their number and their sum. Metrics without labels are shown from the start, the others from the first measurement with their labels.
-/

namespace VectorTable.Metric

structure Sample where
  name : String
  labels : List (String × String)
  value : Float

/-- The bounds of the buckets for durations, in seconds, each with its label. -/
def latencyBounds : List (Float × String) :=
  [(0.005, "0.005"), (0.01, "0.01"), (0.05, "0.05"), (0.1, "0.1"), (0.25, "0.25"), (0.5, "0.5"),
    (1.0, "1.0"), (2.5, "2.5"), (5.0, "5.0"), (10.0, "10.0")]

/-- The bounds of the buckets for numbers of matches, each with its label. -/
def resultBounds : List (Float × String) :=
  [(0.0, "0.0"), (1.0, "1.0"), (4.0, "4.0"), (10.0, "10.0"), (20.0, "20.0"), (50.0, "50.0"),
    (100.0, "100.0"), (500.0, "500.0")]

/-- The measurements of a history, in order. -/
def measurements (history : History) : List Measurement :=
  history.filterMap fun
    | .note (.measured measurement) => some measurement
    | _ => none

/-- The number of items of a list, as a double. -/
def countOf {α : Type} (items : List α) : Float := Float.ofNat items.length

def amountOf (amount : Value) : Float := amount.toFloat.toOption.getD 0

/-- The sum of doubles, added from the first to the last. -/
def total (amounts : List Float) : Float := amounts.foldl (· + ·) 0

def histogram (name : String) (labels : List (String × String)) (bounds : List (Float × String))
    (observed : List Float) : List Sample :=
  let bucket (bound : Float) (label : String) : Sample :=
    ⟨name ++ "_bucket", labels ++ [("le", label)], countOf (observed.filter fun x => x ≤ bound)⟩
  bounds.map (fun (bound, label) => bucket bound label)
    ++ [bucket (1.0 / 0.0) "+Inf",
      ⟨name ++ "_count", labels, countOf (observed.filter fun x => x ≤ 1.0 / 0.0)⟩,
      ⟨name ++ "_sum", labels, total observed⟩]

/-- The items of a list, each once. -/
def distinct {α : Type} [BEq α] (items : List α) : List α := items.eraseDups

/-- The names and outcomes of the operations, one for each measurement of an operation. -/
def operationOutcomes (measured : List Measurement) : List (String × String) :=
  measured.filterMap fun
    | .operation name status _ => some (name, status)
    | _ => none

def operationLatencies (measured : List Measurement) : List (String × Float) :=
  measured.filterMap fun
    | .operation name _ (some latency) => some (name, latency)
    | _ => none

/-- The operations whose durations are shown: those for which one was given. -/
def timedOperations (measured : List Measurement) : List String :=
  measured.filterMap fun
    | .operation name _ (some _) | .refusedLatency name => some name
    | _ => none

def writtenAmounts (measured : List Measurement) : List Value :=
  measured.filterMap fun
    | .rowsWritten amount => some amount
    | _ => none

def deletedAmounts (measured : List Measurement) : List Value :=
  measured.filterMap fun
    | .rowsDeleted amount => some amount
    | _ => none

def resultAmounts (measured : List Measurement) : List Value :=
  measured.filterMap fun
    | .searchResults amount => some amount
    | _ => none

def isListedBefore (texts others : List String) : Bool := texts.lex others fun s t => decide (s < t)

/-- The order in which samples are listed: by name, then by labels. -/
def Sample.before (a b : Sample) : Bool :=
  if a.name = b.name then
    !(b.labels.map fun l => [l.1, l.2]).lex (a.labels.map fun l => [l.1, l.2]) isListedBefore
  else decide (a.name ≤ b.name)

/-- The labels of an operation with its outcome, by name of label. -/
def outcomeLabels (outcome : String × String) : List (String × String) :=
  [("operation", outcome.1), ("status", outcome.2)]

def sortLabels (labels : List (String × String)) : List (String × String) :=
  labels.mergeSort fun a b => decide (a.1 ≤ b.1)

/-- The samples shown after some measurements, in order. -/
def samples (measured : List Measurement) : List Sample :=
  let outcomes := operationOutcomes measured
  let latencies := operationLatencies measured
  let operations : List Sample := (distinct outcomes).map fun outcome =>
    ⟨"alloydb_vectorstore_operations_total", outcomeLabels outcome,
      countOf (outcomes.filter (· == outcome))⟩
  let durations : List Sample := (distinct (timedOperations measured)).flatMap fun name =>
    histogram "alloydb_vectorstore_operation_latency_seconds" [("operation", name)] latencyBounds
      ((latencies.filter fun latency => latency.1 == name).map Prod.snd)
  let written : Sample := ⟨"alloydb_vectorstore_rows_written_total", [],
    total ((writtenAmounts measured).map amountOf)⟩
  let deleted : Sample := ⟨"alloydb_vectorstore_rows_deleted_total", [],
    total ((deletedAmounts measured).map amountOf)⟩
  let results := histogram "alloydb_vectorstore_search_results" [] resultBounds
    ((resultAmounts measured).map amountOf)
  ((operations ++ durations ++ [written, deleted] ++ results).map fun sample =>
    { sample with labels := sortLabels sample.labels }).mergeSort Sample.before

def Sample.isTiming (s : Sample) : Bool :=
  s.name == "alloydb_vectorstore_operation_latency_seconds_bucket"
    || s.name == "alloydb_vectorstore_operation_latency_seconds_sum"

end VectorTable.Metric
