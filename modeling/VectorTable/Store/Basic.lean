import VectorTable.Database
import VectorTable.Metric.Collector
import VectorTable.Query
import VectorTable.Schema.Resolve
import VectorTable.Setting.Store
import VectorTable.Store.Match
import VectorTable.Trace.Span
import VectorTable.Tuning
import VectorTable.VectorIndex

/-!
# The store

A store keeps embeddings in one table. Every operation builds its statements before it contacts the server, so that bad arguments never reach it; then it works on a single connection, inside a span of its own, and counts itself with its outcome. A batch of records is inserted in one transaction, in chunks.
-/

namespace VectorTable

/-- A store: the schema of its table, how nearness is measured, how searches are tuned, and its settings. -/
structure Store where
  schema : Schema
  distance : Distance
  tuning : Option Tuning
  settings : Setting.Store

def tableField (s : Schema) : String × Value := ("table", .text s.qualifiedTable)

namespace Program

variable {α : Type}

/-- A new identifier, different from those issued before. -/
def freshId : Program String :=
  look fun memory =>
    let digits := Nat.toDigits 10 (memory.issued + 1)
    tell .idIssued
      (pure ("00000000-0000-4000-8000-" ++ String.ofList (Decimal.padded 12 digits)))

def freshIds {β : Type} : List β → Program (List Value)
  | [] => pure []
  | _ :: rest => do
    let id ← freshId
    return .text id :: (← freshIds rest)

end Program

namespace Schema

def statementLogger : String := "alloydb_vectorstore.vectorstore.query_builder"

/-- A note of the metadata that a record loses for want of a column. -/
def noteDropped (s : Schema) (r : Record) : Program Unit :=
  let names := s.dropped r
  if names.isEmpty then pure ()
  else Program.log (Log.event statementLogger .debug "Dropping metadata keys without a column"
    [tableField s, ("record_id", r.id), ("keys", .list (names.map .text))])

/-- The rows of records, with notes of the metadata that are dropped. -/
def rowsNoted (s : Schema) : List Record → Program (List (List Value))
  | [] => pure []
  | r :: records => do
    let row ← Program.ofExcept (s.row r)
    s.noteDropped r
    return row :: (← s.rowsNoted records)

end Schema

namespace Store

variable {α : Type}

def logger : String := "alloydb_vectorstore.vectorstore.alloydb_store"

def table (s : Store) : String := s.schema.qualifiedTable

def timeout (s : Store) : Option (Option Float) := some s.settings.timeLimit

/-- Noting that an operation failed in the database, and failing for it. -/
def reportFault (s : Store) (operation : String) (fault : Fault) : Program α := do
  Program.measure (Metric.completed operation "error")
  Program.log (Log.event logger .error "Vector store operation failed"
    [tableField s.schema, ("operation", .text operation), ("error", .text fault.text)])
  Program.fail (.execution s.table operation fault)

/-- Work that is accounted for as an operation: it runs in a span, faults of the database become failures of the operation, and a success or such a failure is counted. -/
def operation (s : Store) (name : String) (attributes : Attributes) (work : Program α) :
    Program α := do
  let span := Trace.operationSpan name s.table attributes
  let result ← Program.inSpan span.1 span.2 (work.settle fun
    | .error (.fault fault) =>
      if fault.isDatabase then s.reportFault name fault else Program.fail (.fault fault)
    | result => Program.ofExcept result)
  Program.measure (Metric.completed name "success")
  return result

end Store

end VectorTable
