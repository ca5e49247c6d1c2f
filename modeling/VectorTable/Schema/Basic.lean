import VectorTable.Failure
import VectorTable.Sql.Piece

/-!
# Table schemas

A schema names the columns of a table of embeddings: one each for the identifier, the content and the vector, columns that hold single metadata keys, and perhaps one that takes all other metadata as JSON. A metadata column is declared with its type, or by name alone until the table tells the type.

A draft is what a caller writes down. It becomes a schema when its names are not blank and no two columns share a name; a schema keeps the proof of that, so whatever is built from it can rely on distinct columns.
-/

namespace VectorTable

structure TypedColumn where
  name : String
  dataType : String
  nullable : Bool
  nameNotBlank : Text.isBlankText name = false
  dataTypeNotBlank : Text.isBlankText dataType = false
deriving DecidableEq

/-- A typed column, if neither its name nor its type is blank. -/
def TypedColumn.declare (name dataType : String) (nullable : Bool) : Except Failure TypedColumn :=
  if hName : Text.isBlankText name = false then
    if hType : Text.isBlankText dataType = false then
      .ok ⟨name, dataType, nullable, hName, hType⟩
    else .error (.refused (.noDataType name))
  else .error (.refused .blankColumn)

/-- A metadata column, declared by name alone or with its type. -/
inductive MetadataColumn
  | named (name : String)
  | typed (column : TypedColumn)
deriving DecidableEq

def MetadataColumn.name : MetadataColumn → String
  | named name => name
  | typed column => column.name

/-- The names of a table and its columns as a caller writes them down. -/
structure Draft where
  table : String
  schema : String
  idColumn : String
  contentColumn : String
  embeddingColumn : String
  metadataColumns : List MetadataColumn
  jsonColumn : Option String
deriving DecidableEq

namespace Draft

/-- The names that are used for all but the table, and no metadata columns. -/
def ofTable (table : String) : Draft :=
  { table
    schema := "public"
    idColumn := "langchain_id"
    contentColumn := "content"
    embeddingColumn := "embedding"
    metadataColumns := []
    jsonColumn := some "langchain_metadata" }

/-- The columns for identifier, content and vector. -/
def reserved (d : Draft) : List String := [d.idColumn, d.contentColumn, d.embeddingColumn]

/-- The names of the metadata columns, in order. -/
def metadataNames (d : Draft) : List String := d.metadataColumns.map MetadataColumn.name

/-- A JSON column with a blank name is no JSON column. -/
def withoutBlankJson (d : Draft) : Draft :=
  { d with jsonColumn := d.jsonColumn.filter fun name => !Text.isBlankText name }

/-- The names that must not be blank, with what they are called in messages. -/
def requiredNames (d : Draft) : List (String × String) :=
  [("table_name", d.table), ("schema_name", d.schema), ("id_column", d.idColumn),
    ("content_column", d.contentColumn), ("embedding_column", d.embeddingColumn)]

/-- The first thing wrong with a draft. -/
def fault? (d : Draft) : Option Misconfiguration :=
  match d.requiredNames.find? fun required => Text.isBlankText required.2 with
  | some required => some (.blankName required.1)
  | none =>
    if ¬ d.reserved.Nodup then some (.sharedRole d.reserved)
    else if ¬ d.metadataNames.Nodup then some (.repeatedColumns d.metadataNames)
    else if d.metadataNames.any d.reserved.contains then
      some (.reservedColumns ((d.metadataNames.filter d.reserved.contains).mergeSort))
    else match d.jsonColumn with
      | none => none
      | some name =>
        if d.reserved.contains name || d.metadataNames.contains name then
          some (.jsonColumnTaken name)
        else none

end Draft

/-- The description of a table: a draft with nothing wrong. -/
structure Schema extends Draft where
  sound : toDraft.fault? = none

namespace Schema

def ofDraft (draft : Draft) : Except Failure Schema :=
  let d := draft.withoutBlankJson
  match h : d.fault? with
  | none => .ok ⟨d, h⟩
  | some cause => .error (.refused cause)

def tablePieces (s : Schema) : List Sql.Piece :=
  [.name s.schema, .raw ".", .name s.table]

/-- The full name of the table, with both parts quoted. -/
def qualifiedTable (s : Schema) : String := Sql.render s.tablePieces

/-- The columns filled by an insertion: identifier, vector, content, the metadata columns as declared, and the JSON column if there is one. -/
def insertColumns (s : Schema) : List String :=
  [s.idColumn, s.embeddingColumn, s.contentColumn] ++ s.metadataNames ++ s.jsonColumn.toList

/-- The columns read by a selection, in the order of the statement. -/
def selectColumns (s : Schema) : List String :=
  s.metadataNames ++ [s.idColumn, s.contentColumn, s.embeddingColumn] ++ s.jsonColumn.toList

end Schema

end VectorTable
