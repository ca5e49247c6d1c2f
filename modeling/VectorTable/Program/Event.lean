import VectorTable.Failure
import VectorTable.Log.Entry
import VectorTable.Metric.Measurement

/-!
# What happens while a program runs

A program contacts the server and takes notes. A contact is answered by a value or a fault; a note has no answer. What happened in a run is the list of its events, and everything else that is known about a run is read off that list: the calls made, the log, the measurements, the spans, whether a pool is open.
-/

namespace VectorTable

/-- How a statement is run: for its effect, for its effect on each of several rows of arguments, for its rows, or for a single value. -/
inductive StatementKind
  | execute
  | executeMany
  | fetch
  | fetchValue
deriving DecidableEq, Repr

/-- A statement sent over a connection, with its rows of arguments; all but `executeMany` have exactly one row. A time limit may be passed with it, and none at all is a time limit too. -/
structure Statement where
  kind : StatementKind
  sql : String
  rows : List (List Value)
  timeout : Option (Option Float)

/-- A block of statements that is completed or undone as a whole: a transaction, or a savepoint inside one. -/
inductive Scope
  | transaction
  | savepoint
deriving DecidableEq, Repr

structure PoolOptions where
  url : String
  minSize : Value
  maxSize : Value
  commandTimeout : Value

inductive Contact
  | createPool (options : PoolOptions)
  | closePool
  | acquire
  | release
  | enter (scope : Scope)
  | complete (scope : Scope)
  | undo (scope : Scope)
  | statement (statement : Statement)

abbrev Reply := Except Fault Value

abbrev Attributes := List (String × Value)

inductive Note
  | log (entry : Log.Entry)
  | measured (measurement : Metric.Measurement)
  | collectorMade
  | spanEntered (name : String) (attributes : Attributes)
  | spanLeft (failure : Option Failure)
  | poolOpened
  | poolDropped
  | idIssued
  | printed (text : String)

inductive Event
  | contact (contact : Contact) (reply : Reply)
  | note (note : Note)

/-- What happened in a run, in order. -/
abbrev History := List Event

/-- What a program can know about what happened before: whether a pool is open, how many identifiers were issued, and whether measurements are being collected. -/
structure Memory where
  connected : Bool
  issued : Nat
  collecting : Bool
deriving DecidableEq, Repr

namespace Memory

def fresh : Memory := ⟨false, 0, false⟩

def after (m : Memory) : Event → Memory
  | .note .poolOpened => { m with connected := true }
  | .note .poolDropped => { m with connected := false }
  | .note .idIssued => { m with issued := m.issued + 1 }
  | .note .collectorMade => { m with collecting := true }
  | _ => m

def afterAll (m : Memory) (history : History) : Memory := history.foldl after m

end Memory

end VectorTable
