import VectorTable.Distance
import VectorTable.Filter.Predicate
import VectorTable.Record
import VectorTable.SearchRequest

/-!
# Statements for a table of embeddings

The statements that insert, search, select and delete rows of a table, each with the values bound to its slots. A statement is made from the schema alone; identifiers, vectors, metadata, filter values and limits are always bound.
-/

namespace VectorTable

open Sql

/-- A statement and the values bound to its slots, in order. -/
structure Query where
  pieces : List Piece
  args : List Value

def Query.sql (q : Query) : String := render q.pieces

/-- A statement that runs once for each row of values. -/
structure Batch where
  pieces : List Piece
  rows : List (List Value)

def Batch.sql (b : Batch) : String := render b.pieces

namespace Schema

/-- The slots of an insertion, from the index `start` on. The slot of the vector is cast to its type. -/
def insertSlots (s : Schema) (start : Int) : List String → List (List Piece)
  | [] => []
  | column :: columns =>
    (Piece.slot start :: if column = s.embeddingColumn then [.raw "::vector"] else [])
      :: s.insertSlots (start + 1) columns

def nameList (names : List String) : List Piece :=
  separated ", " (names.map fun name => [.name name])

def insertPieces (s : Schema) : List Piece :=
  [.raw "INSERT INTO "] ++ s.tablePieces ++ [.raw " ("] ++ nameList s.insertColumns
    ++ [.raw ") VALUES ("] ++ separated ", " (s.insertSlots 1 s.insertColumns) ++ [.raw ")"]

/-- The insertion of records, all of which must have a row. -/
def insert (s : Schema) (records : List Record) : Except Failure Batch := do
  return ⟨s.insertPieces, ← records.mapM s.row⟩

/-- The restriction of a search to the rows that satisfy a filter, with the values bound to its slots. -/
def filterClause (filter : Option Filter) : Except Failure (List Piece × List Value) :=
  match filter with
  | none => .ok ([], [])
  | some filter => do
    let predicate ← filter.predicate 2
    return (.raw " WHERE " :: predicate.pieces, predicate.values)

/-- The search for the rows nearest to a vector. The first slot is the vector, used twice; the slots of the filter follow, and the last one is the limit. -/
def searchPieces (s : Schema) (distance : Distance) (clause : List Piece) (limit : Int) :
    List Piece :=
  [.raw "SELECT "] ++ nameList s.selectColumns
    ++ [.raw (", " ++ distance.searchFunction ++ "("), .name s.embeddingColumn, .raw ", ", .slot 1,
      .raw "::vector) AS distance FROM "]
    ++ s.tablePieces ++ clause
    ++ [.raw " ORDER BY ", .name s.embeddingColumn, .raw (" " ++ distance.operator ++ " "), .slot 1,
      .raw "::vector LIMIT ", .slot limit]

def search (s : Schema) (distance : Distance) (request : SearchRequest) : Except Failure Query := do
  let vector ← formatVector request.embedding
  let (clause, values) ← filterClause request.filter
  let args := .text vector :: values ++ [request.limit]
  return ⟨s.searchPieces distance clause args.length, args⟩

def identifierClause (s : Schema) : List Piece :=
  [.raw " WHERE ", .name s.idColumn, .raw " = ANY(", .slot 1, .raw ")"]

/-- The identifiers that a value lists. There must be at least one. -/
def identifiers (s : Schema) (operation : String) (ids : Value) : Except Failure (List Value) :=
  if ids.truthy then ids.items
  else .error (.misconfigured .noIds (some ⟨s.qualifiedTable, operation⟩))

def delete (s : Schema) (ids : Value) : Except Failure Query := do
  let ids ← s.identifiers "remove_all" ids
  return ⟨[.raw "DELETE FROM "] ++ s.tablePieces ++ s.identifierClause, [.list ids]⟩

def getByIds (s : Schema) (ids : Value) : Except Failure Query := do
  let ids ← s.identifiers "get_by_ids" ids
  return ⟨[.raw "SELECT "] ++ nameList s.selectColumns ++ [.raw " FROM "] ++ s.tablePieces
    ++ s.identifierClause, [.list ids]⟩

end Schema

end VectorTable
