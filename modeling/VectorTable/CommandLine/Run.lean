import VectorTable.CommandLine.Command
import VectorTable.Log.Render
import VectorTable.Store.Create
import VectorTable.Store.Index
import VectorTable.Store.Write
import VectorTable.TableSetup
import VectorTable.Text.Escape
import VectorTable.Trace.Setup

/-!
# Running command lines

What each command does, as a program whose result is an exit code. A command opens the database, works on it and closes it again, whatever happens in between. Failures of the store's own are told in one line and make the exit code one; all others escape. Before a command runs, the log and, if the settings say so, tracing are set up.
-/

namespace VectorTable

/-- Printing a text. It does not go to a terminal, so it is printed without escapes. -/
def Program.echo (text : String) : Program Unit := note (.printed (Text.withoutEscapes text))

def Program.echoAll : List String → Program Unit
  | [] => pure ()
  | text :: rest => do
    echo text
    echoAll rest

namespace CommandLine

def logger : String := "alloydb_vectorstore.cli"

structure Environment where
  general : Setting.General
  store : Except Failure Setting.Store

namespace Environment

def pool (e : Environment) : PoolOptions :=
  Database.options e.general none .null .null Database.defaultTimeout

end Environment

/-- The exit code of work: zero if it succeeds, one if it fails by a failure of the store's own, which is told after a few words on what was to be done. -/
def reporting (words : String) (work : Program Unit) : Program Nat :=
  work.settle fun
    | .ok _ => pure 0
    | .error failure =>
      if failure.isOwn then do
        Program.echo ("Failed to " ++ words ++ ": " ++ failure.message)
        return 1
      else Program.fail failure

/-- Work on the store of a table, between opening and closing the database. -/
def onStore (e : Environment) (words : String) (table : Draft) (distance : Distance)
    (work : Store → Program Unit) : Program Nat :=
  Database.during e.pool (reporting words do
    let schema ← Program.ofExcept (Schema.ofDraft table)
    work (← Store.create schema none distance none e.store))

/-- The results of the checks of a database, each with its name. -/
abbrev Checks := List (String × Bool)

/-- The checks of an open database: whether it answers, and if it does, whether it has the extension. -/
def checks : Program Checks := do
  let answers ← Database.healthCheck
  if answers then
    let version ← Database.extensionVersion
    return [("postgres", true), ("vector_extension", !version.isNull)]
  else return [("postgres", false)]

/-- Whether a failure of the checks means that the database is not well. -/
def isOutage (fault : Fault) : Bool :=
  match fault.kind.family with
  | .answer | .system => true
  | .client | .other | .cancellation => false

/-- Opening a database, checking it and closing it. -/
def examine (pool : PoolOptions) : Program Checks :=
  let guarded : Program Checks := (Database.connect pool >>= fun _ => checks).settle fun
    | .error (.fault fault) =>
      if isOutage fault then do
        Program.log (Log.event logger .error "Postgres health check failed"
          [("error", .text fault.text)])
        return [("postgres", false)]
      else Program.fail (.fault fault)
    | result => Program.ofExcept result
  guarded.settle fun result => do
    Database.close
    Program.ofExcept result

def checkLine (check : String × Bool) : String :=
  "  " ++ (if check.2 then "✓" else "✗") ++ " " ++ check.1 ++ ": " ++ Value.showBool check.2

def rule : String := String.ofList (List.replicate 40 '-')

def health (pool : PoolOptions) : Program Nat := do
  let results ← examine pool
  Program.echoAll (["\nHealth Check Results:", rule] ++ results.map checkLine ++ [rule])
  if results.all Prod.snd then do
    Program.echo "Database healthy!"
    return 0
  else do
    Program.echo "Database unhealthy!"
    return 1

def Command.run (e : Environment) : Command → Program Nat
  | initTable schema size overwrite storeMetadata =>
    Database.during e.pool (reporting "initialize table" do
      TableSetup.create schema (.int size) overwrite storeMetadata
      Program.echo ("Table " ++ schema.qualifiedTable ++ " initialized successfully"))
  | createIndex table methodWord index name concurrently =>
    onStore e "create index" table index.distance fun store => do
      let name ← store.applyIndex index name concurrently
      Program.echo ("Created " ++ methodWord ++ " index " ++ name ++ " on " ++ table.table)
  | dropIndex table name =>
    onStore e "drop index" table .cosine fun store => do
      store.dropIndex name
      Program.echo ("Dropped index " ++ store.indexName name)
  | remove table ids =>
    onStore e "delete rows" table .cosine fun store => do
      let deleted ← store.removeAll (.list (ids.map .text))
      Program.echo ("Deleted " ++ toString deleted ++ " of " ++ toString ids.length
        ++ " rows from " ++ table.table)
  | health => CommandLine.health e.pool

/-- Telling why a command line is not run. -/
def Halt.run (halt : Halt) : Program Nat := do
  Program.echoAll halt.lines
  return halt.exitCode

/-- A command line that is ready to run: how its log and its spans are set up, and what it does. -/
structure Plan where
  log : Log.Setup
  context : Log.Context
  tracing : Option Trace.Setup
  program : Program Nat

namespace Plan

def bare (program : Program Nat) : Plan :=
  ⟨⟨Log.Level.info.number, true⟩, [], none, program⟩

/-- How spans are exported, if they are. -/
def tracingOf (settings : Setting.General) : Option Trace.Setup :=
  if settings.tracingEnabled then
    some ⟨settings.serviceName, .collector settings.otlpEndpoint⟩
  else none

def logOf (settings : Setting.General) (debug : Bool) : Except Failure Log.Setup :=
  Log.Setup.make settings (if debug then some "DEBUG" else none)

/-- The plan for a command line read up to the name of a command. The other words are read after everything is set up. -/
def ofGroup (sources : Setting.Sources) (group : Group) : Except Failure Plan := do
  let settings ← (Setting.General.read sources).mapError .invalidSettings
  let log ← logOf settings group.debug
  let tracing := tracingOf settings
  let environment := ⟨settings, (Setting.Store.read sources).mapError .invalidSettings⟩
  let program := do
    tracing.forM Trace.Setup.install
    match group.command.read group.words with
    | .ok command => command.run environment
    | .error halt => halt.run
  return { log, context := [("command", .text group.command.word)], tracing, program }

def make (sources : Setting.Sources) (line : List String) : Plan :=
  match Group.read line with
  | .error halt => bare halt.run
  | .ok group =>
    match ofGroup sources group with
    | .ok plan => plan
    | .error failure => bare (Program.fail failure)

def printed (plan : Plan) (history : History) : List Log.Line :=
  plan.log.printed plan.context plan.tracing.isSome history

end Plan

def exitCode : Except Failure Nat → Nat
  | .ok code => code
  | .error _ => 1

end CommandLine

end VectorTable
