import VectorTable.Schema.Basic
import VectorTable.Text.Case
import VectorTable.Value.Entries

/-!
# Schemas and the tables they describe

Resolving compares a schema with the columns of a live table. The columns for identifier, content and vector must exist and the last two must have fitting types; declared metadata columns must exist, and those declared by name alone take their type from the table. A JSON column that the table lacks is dropped. With a list of columns to ignore, every column that has no other part becomes a metadata column, in the order of the table.
-/

namespace VectorTable

/-- The columns of a table, with what the table says of their types, in order. -/
abbrev TableColumns := List (String × Value)

/-- Whether a data type holds text. Whatever is no text has no letters to compare. -/
def isTextType (dataType : Value) : Except Failure Bool :=
  match dataType with
  | .text s => .ok (["text", "character varying", "character"].contains (Text.lowerAscii s))
  | .bytes _ => .ok false
  | v => .error (.misfit (.noAttribute v.kind "lower"))

/-- Whether a data type is one that users define, as the type of vectors is. -/
def isVectorType (dataType : Value) : Except Failure Bool :=
  match dataType with
  | .text s => .ok (Text.upper s == "USER-DEFINED")
  | .bytes _ => .ok false
  | v => .error (.misfit (.noAttribute v.kind "upper"))

def TypedColumn.ofTable (name : String) (dataType : Value) : Except Failure TypedColumn :=
  match dataType with
  | .text s => declare name s true
  | v =>
    if Text.isBlankText name then .error (.refused .blankColumn)
    else if v.truthy then .error (.misfit (.noAttribute v.kind "strip"))
    else .error (.refused (.noDataType name))

/-- A metadata column with its type, from the table if need be. -/
def MetadataColumn.resolve (column : MetadataColumn) (columns : TableColumns) (table : String) :
    Except Failure TypedColumn :=
  match lookupName columns column.name with
  | none => .error (.mismatch (.noMetadataColumn column.name) table)
  | some dataType =>
    match column with
    | .typed column => .ok column
    | .named name => TypedColumn.ofTable name dataType

namespace Schema

/-- The metadata columns discovered in a table: all but those that have another part or are ignored. -/
def discover (columns : TableColumns) (skipped : List String) : Except Failure (List TypedColumn) :=
  (columns.filter fun column => !skipped.contains column.1).mapM fun column =>
    TypedColumn.ofTable column.1 column.2

/-- The first disagreement between the table and the columns for identifier, content and vector. -/
def roleMismatch? (s : Schema) (columns : TableColumns) : Except Failure (Option Mismatch) :=
  if (lookupName columns s.idColumn).isNone then .ok (some (.noIdColumn s.idColumn))
  else match lookupName columns s.contentColumn with
    | none => .ok (some (.noContentColumn s.contentColumn))
    | some contentType => do
      if !(← isTextType contentType) then return some (.contentNotText contentType.plain)
      else match lookupName columns s.embeddingColumn with
        | none => return some (.noEmbeddingColumn s.embeddingColumn)
        | some vectorType =>
          if ← isVectorType vectorType then return none
          else return some (.embeddingNotVector s.embeddingColumn)

/-- The JSON column if the table has it. -/
def presentJsonColumn (s : Schema) (columns : TableColumns) : Option String :=
  s.jsonColumn.filter fun name => (lookupName columns name).isSome

/-- Whether a schema declares metadata columns although columns to ignore are given. -/
def declaresAndIgnores (s : Schema) (ignored : Option (List String)) : Bool :=
  !s.metadataColumns.isEmpty && !(ignored.getD []).isEmpty

/-- The metadata columns with their types: the declared ones, or with columns to ignore the discovered ones. -/
def resolvedColumns (s : Schema) (columns : TableColumns) (ignored : List String) :
    Except Failure (List TypedColumn) := do
  let declared ← s.metadataColumns.mapM fun column => column.resolve columns s.qualifiedTable
  if ignored.isEmpty then return declared
  else discover columns (ignored ++ s.reserved ++ (s.presentJsonColumn columns).toList)

def resolve (s : Schema) (columns : TableColumns) (ignored : Option (List String)) :
    Except Failure Schema :=
  if s.declaresAndIgnores ignored then .error (.refused .columnsAndIgnored)
  else do
    match ← s.roleMismatch? columns with
    | some cause => throw (.mismatch cause s.qualifiedTable)
    | none =>
      let typed ← s.resolvedColumns columns (ignored.getD [])
      ofDraft
        { s.toDraft with
          metadataColumns := typed.map .typed
          jsonColumn := s.presentJsonColumn columns }

end Schema

end VectorTable
