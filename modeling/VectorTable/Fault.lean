import VectorTable.Text.Quoted

/-!
# Faults of the server

Whatever can go wrong while the server is being contacted: what the server answers, what the client library or the operating system reports, and errors of other kinds that pass through. Each fault belongs to one family, and the families decide which faults an operation accounts for.
-/

namespace VectorTable

inductive FaultKind
  | postgres
  | uniqueViolation
  | undefinedTable
  | undefinedColumn
  | connectionDoesNotExist
  | queryCanceled
  | deadlockDetected
  | dataError
  | interface
  | os
  | connectionRefused
  | timeout
  | runtime
  | value
  | key
  | type
  | memory
  | assertion
  | internalClient
  | cancelled
deriving DecidableEq, Repr

/-- The families of faults: answers of the server, misuse of the client library, failures of the operating system, other errors, and cancellation, which is no error at all. -/
inductive FaultFamily
  | answer
  | client
  | system
  | other
  | cancellation
deriving DecidableEq, Repr

namespace FaultKind

def family : FaultKind → FaultFamily
  | postgres | uniqueViolation | undefinedTable | undefinedColumn | connectionDoesNotExist
  | queryCanceled | deadlockDetected | dataError => .answer
  | interface => .client
  | os | connectionRefused | timeout => .system
  | runtime | value | key | type | memory | assertion | internalClient => .other
  | cancelled => .cancellation

/-- Every kind, each once. -/
def all : List FaultKind :=
  [postgres, uniqueViolation, undefinedTable, undefinedColumn, connectionDoesNotExist,
    queryCanceled, deadlockDetected, dataError, interface, os, connectionRefused, timeout, runtime,
    value, key, type, memory, assertion, internalClient, cancelled]

def name : FaultKind → String
  | postgres => "PostgresError"
  | uniqueViolation => "UniqueViolationError"
  | undefinedTable => "UndefinedTableError"
  | undefinedColumn => "UndefinedColumnError"
  | connectionDoesNotExist => "ConnectionDoesNotExistError"
  | queryCanceled => "QueryCanceledError"
  | deadlockDetected => "DeadlockDetectedError"
  | dataError => "DataError"
  | interface => "InterfaceError"
  | os => "OSError"
  | connectionRefused => "ConnectionRefusedError"
  | timeout => "TimeoutError"
  | runtime => "RuntimeError"
  | value => "ValueError"
  | key => "KeyError"
  | type => "TypeError"
  | memory => "MemoryError"
  | assertion => "AssertionError"
  | internalClient => "InternalClientError"
  | cancelled => "CancelledError"

def ofName? (name : String) : Option FaultKind :=
  all.find? fun kind => kind.name == name

/-- Whether every fault of the kind is raised with a message. The server and the client library never leave it out. -/
def isWorded (kind : FaultKind) : Bool :=
  match kind.family with
  | .answer | .client => true
  | .system | .other | .cancellation => false

theorem mem_all (kind : FaultKind) : kind ∈ all := by
  cases kind <;> decide

theorem ofName?_name (kind : FaultKind) : ofName? kind.name = some kind := by
  cases kind <;> decide

end FaultKind

/-- A fault with the message it was raised with, if any, and, from the server or the client library, further lines of detail. -/
structure Fault where
  kind : FaultKind
  message : Option String
  detail : Option String
  hint : Option String
  /-- The text of such a fault begins with its message, and without one there would be no text to show. -/
  worded : kind.isWorded = true → message.isSome = true
deriving DecidableEq, Repr

namespace Fault

/-- Whether a fault comes from the database or the way to it. Such faults are accounted for by the operation they strike; all others pass through it. -/
def isDatabase (fault : Fault) : Bool :=
  match fault.kind.family with
  | .answer | .client | .system => true
  | .other | .cancellation => false

def isAnswer (fault : Fault) : Bool :=
  fault.kind.family == .answer

/-- Whether the fault is the end of a task on request, which is not an error. -/
def isCancellation (fault : Fault) : Bool :=
  fault.kind.family == .cancellation

/-- A further line of the text, unless it would be empty. -/
def extraLine (label : String) : Option String → String
  | none => ""
  | some line => if line.isEmpty then "" else "\n" ++ label ++ ":  " ++ line

/-- The text of a fault. The server and the client library add detail and hint; a missing key is shown in quotes; an error of another kind may have been raised without saying anything. -/
def text (fault : Fault) : String :=
  if hworded : fault.kind.isWorded = true then
    fault.message.get (fault.worded hworded) ++ extraLine "DETAIL" fault.detail
      ++ extraLine "HINT" fault.hint
  else
    match fault.message with
    | none => ""
    | some message => if fault.kind = .key then Text.quoted message else message

end Fault

end VectorTable
