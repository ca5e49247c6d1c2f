import VectorTable.Program.Block
import VectorTable.Setting.General
import VectorTable.Value.Equality

/-!
# The database

A database is a pool of connections that is opened and closed once or more. A statement of its own runs on a connection that is borrowed for it alone. Whether the pool is open is known from what happened before; opening it again makes a new pool the current one, and closing it forgets the pool before the server has let it go.
-/

namespace VectorTable

namespace Database

def logger : String := "alloydb_vectorstore.storage.database"

/-- The time limit of statements unless told otherwise, in seconds. -/
def defaultTimeout : Value := .int 60

/-- How the pool is opened: as the caller says, and otherwise as the settings say. An empty address and a greatest size of zero count as not given; a least size of zero does not. -/
def options (settings : Setting.General) (url : Option String) (minSize maxSize timeout : Value) :
    PoolOptions :=
  { url := (url.filter fun url => !url.isEmpty).getD settings.databaseUrl
    minSize := if minSize.isNull then .int settings.poolMinSize.val else minSize
    maxSize := if maxSize.truthy then maxSize else .int settings.poolMaxSize.val
    commandTimeout := timeout }

/-- Opening the pool. A failure is reported and passed on; the end of the task on request is passed on in silence. -/
def connect (options : PoolOptions) : Program Unit :=
  .ask (.createPool options) fun
    | .ok _ => do
      Program.note .poolOpened
      Program.log (Log.line logger .info ("Connection pool open (size " ++ options.minSize.plain
        ++ ".." ++ options.maxSize.plain ++ ")"))
    | .error fault =>
      if fault.isCancellation then Program.fail (.fault fault)
      else do
        Program.log (Log.line logger .error ("Could not open connection pool: " ++ fault.text))
        Program.fail (.fault fault)

/-- Closing the pool, if one is open. -/
def close : Program Unit :=
  .look fun memory =>
    if memory.connected then do
      Program.note .poolDropped
      let _ ← Program.contact .closePool
      Program.log (Log.line logger .info "Connection pool closed")
    else pure ()

def isConnected : Program Bool := .look fun memory => pure memory.connected

/-- The pool, which must be open. -/
def pool : Program Unit :=
  .look fun memory => if memory.connected then pure () else Program.fail .notConnected

def run (kind : StatementKind) (sql : String) (args : List Value) : Program Value :=
  Program.withConnection (Program.statement kind sql args none)

/-- The statement that asks for the version of the vector extension. -/
def extensionQuery : String := "SELECT extversion FROM pg_extension WHERE extname = 'vector'"

/-- The version of the vector extension, or nothing if it is not there. -/
def extensionVersion : Program Value := run .fetchValue extensionQuery []

/-- Whether a failure means that the database is not well, rather than that the task is. -/
def isIllness : Failure → Bool
  | .fault fault => fault.isDatabase || fault.kind == .runtime
  | .notConnected => true
  | _ => false

def healthCheck : Program Bool :=
  (run .fetchValue "SELECT 1" []).settle fun
    | .ok answer => pure (answer.same (.int 1))
    | .error failure =>
      if isIllness failure then do
        Program.log (Log.line logger .warning ("Database health check failed: " ++ failure.message))
        pure false
      else Program.fail failure

def during {α : Type} (options : PoolOptions) (work : Program α) : Program α := do
  connect options
  work.settle fun result => do
    close
    Program.ofExcept result

end Database

namespace Program

variable {α : Type}

/-- Work whose database faults are reported as failures of an operation on a table. All other failures pass. -/
def accountFor (table operation : String) (work : Program α) : Program α :=
  work.settle fun
    | .error (.fault fault) =>
      if fault.isDatabase then fail (.execution table operation fault) else fail (.fault fault)
    | result => ofExcept result

end Program

end VectorTable
