import VectorTable.Store.Basic

/-!
# Making a store

A store is made from a schema that fits its table. `create` asks the database for the columns of the table and completes the schema; `make` takes the schema as it is.
-/

namespace VectorTable

namespace Store

/-- The statement that asks for the columns of a table, in order. -/
def columnsQuery : String :=
  "\n    SELECT column_name, data_type\n    FROM information_schema.columns\n    WHERE table_name = $1 AND table_schema = $2\n    ORDER BY ordinal_position\n"

/-- A store with a schema that is taken as it is. The settings are read, and the collection of measurements begins. -/
def make (schema : Schema) (distance : Distance) (tuning : Option Tuning)
    (settings : Except Failure Setting.Store) : Program Store := do
  let settings ← Program.ofExcept settings
  Program.collectMetrics
  return { schema, distance, tuning, settings }

/-- The name of a column of the catalogue as text. Nothing in its place is an empty name. -/
def columnName : Value → Except Failure String
  | .null => .ok ""
  | name => if name.isKey then .ok name.plain else .error (.misfit (.notAKey name.kind))

def catalogueColumn (row : Value) : Except Failure (String × Value) := do
  let name ← row.requiredColumn "column_name"
  let dataType ← row.requiredColumn "data_type"
  return (← columnName name, dataType)

/-- The columns listed by the rows of the catalogue, each once. -/
def tableColumns (rows : List Value) : Except Failure TableColumns := do
  return namedEntries (← rows.mapM catalogueColumn)

def resolveRows (schema : Schema) (ignored : Option (List String)) (answer : Value) :
    Except Failure Schema :=
  if answer.truthy then do
    schema.resolve (← tableColumns (← answer.items)) ignored
  else .error (.mismatch .noTable schema.qualifiedTable)

def introspect (schema : Schema) : Program Value :=
  Program.accountFor schema.qualifiedTable "introspect"
    (Database.run .fetch columnsQuery [.text schema.table, .text schema.schema])

def create (schema : Schema) (ignored : Option (List String)) (distance : Distance)
    (tuning : Option Tuning) (settings : Except Failure Setting.Store) : Program Store :=
  if schema.declaresAndIgnores ignored then Program.fail (.refused .columnsAndIgnored)
  else do
    let answer ← introspect schema
    let resolved ← Program.ofExcept (resolveRows schema ignored answer)
    Program.log (Log.event logger .info "Vector store ready"
      [tableField schema, ("metadata_columns", .list (resolved.metadataNames.map .text)),
        ("metadata_json_column", .ofText? resolved.jsonColumn),
        ("distance_strategy", .text distance.name)])
    make resolved distance tuning settings

end Store

end VectorTable
