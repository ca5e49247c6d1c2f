import VectorTable.Store.Basic

/-!
# Reading from a store

Searching for the nearest rows, and fetching rows by identifier. A search runs in a transaction in which its tuning takes effect. Each setting has a savepoint of its own, so a setting that the server rejects is skipped with a warning and the search goes on as if it had not been tried.
-/

namespace VectorTable

namespace Store

def tune (s : Store) (statement : String) : Program Unit :=
  (Program.inScope .savepoint (Program.statement .execute statement [] s.timeout)).settle fun
    | .ok _ => pure ()
    | .error (.fault fault) =>
      if fault.isAnswer then
        Program.log (Log.event logger .warning "Ignoring index tuning parameter"
          [tableField s.schema, ("statement", .text statement), ("error", .text fault.text)])
      else Program.fail (.fault fault)
    | .error failure => Program.fail failure

def tuneAll (s : Store) : List String → Program Unit
  | [] => pure ()
  | statement :: rest => do
    s.tune statement
    s.tuneAll rest

def searchAttributes (request : SearchRequest) : Attributes :=
  [("max_results", request.limit), ("filtered", .bool request.filter.isSome)]

/-- Searching for the rows nearest to a vector, nearest first, without those that do not reach the least score. -/
def search (s : Store) (request : SearchRequest) : Program (List Match) := do
  let query ← Program.ofExcept (s.schema.search s.distance request)
  let answer ← s.operation "search" (searchAttributes request)
    (Program.inTransaction do
      s.tuneAll (Tuning.statements s.tuning)
      Program.statement .fetch query.sql query.args s.timeout)
  let rows ← Program.ofExcept answer.items
  let found ← Program.ofExcept (rows.mapM (s.schema.rowToMatch s.distance none))
  let kept ← Program.ofExcept (keepScored request.minScore found)
  Program.measure (.searchResults (.int kept.length))
  Program.log (Log.event logger .debug "Search complete"
    [tableField s.schema, ("returned", .int kept.length)])
  return kept

/-- The limit of a search: the one given, or that of the settings. -/
def limitOrDefault (s : Store) (limit : Value) : Value :=
  if limit.isNull then .int s.settings.defaultLimit.val else limit

/-- Searching with a limit that the settings give unless the caller does. -/
def findRelevant (s : Store) (embedding limit minScore : Value) (filter : Option Filter) :
    Program (List Match) := do
  let request ← Program.ofExcept
    (SearchRequest.make embedding (s.limitOrDefault limit) minScore filter)
  s.search request

def getByIds (s : Store) (ids : Value) : Program (List Match) :=
  if !ids.truthy then pure []
  else do
    let query ← Program.ofExcept (s.schema.getByIds ids)
    let count ← Program.ofExcept ids.length
    let answer ← s.operation "get_by_ids" [("count", .int count)]
      (Program.withConnection (Program.statement .fetch query.sql query.args s.timeout))
    let rows ← Program.ofExcept answer.items
    Program.ofExcept (rows.mapM (s.schema.rowToMatch s.distance (some 1)))

end Store

end VectorTable
