import VectorTable.Schema.Basic
import VectorTable.Value.Basic

/-!
# Creating tables

The statement that creates the table of a schema: a primary key, nullable text, a vector of fixed size, the metadata columns with their types and, on demand, a JSON column.
-/

namespace VectorTable

open Sql

def TypedColumn.definition (column : TypedColumn) : List Piece :=
  [.name column.name, .raw (" " ++ column.dataType ++ if column.nullable then "" else " NOT NULL")]

/-- The number of components of a vector column: a positive whole number. -/
def vectorSize? (size : Value) : Except Failure Nat :=
  match size with
  | .int (.ofNat (n + 1)) => .ok (n + 1)
  | _ => .error (.refused (.badVectorSize size))

/-- The type of a metadata column, which must be declared before the table can be created. -/
def MetadataColumn.typed? : MetadataColumn → Except Failure TypedColumn
  | typed column => .ok column
  | named name => .error (.refused (.untypedColumn name))

namespace Schema

/-- The column definitions of the table, in order. -/
def columnDefinitions (s : Schema) (size : Nat) (typed : List TypedColumn) (storeMetadata : Bool) :
    List (List Piece) :=
  [[.name s.idColumn, .raw " UUID PRIMARY KEY"],
    [.name s.contentColumn, .raw " TEXT NULL"],
    [.name s.embeddingColumn, .raw (" vector(" ++ toString size ++ ") NOT NULL")]]
    ++ typed.map TypedColumn.definition
    ++ (if storeMetadata then s.jsonColumn.toList.map fun name => [.name name, .raw " JSON"] else [])

def createTable (s : Schema) (size : Value) (storeMetadata : Bool) :
    Except Failure (List Piece) := do
  let size ← vectorSize? size
  let typed ← s.metadataColumns.mapM MetadataColumn.typed?
  return [.raw "CREATE TABLE "] ++ s.tablePieces ++ [.raw " ("]
    ++ separated ", " (s.columnDefinitions size typed storeMetadata) ++ [.raw ")"]

end Schema

end VectorTable
