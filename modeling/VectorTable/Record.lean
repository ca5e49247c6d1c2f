import VectorTable.Json.Writer
import VectorTable.Schema.Basic
import VectorTable.VectorText

/-!
# Records and the rows they fill

A record is one embedding with its identifier, text and metadata. Its row has a value for each insert column, found by the name of the column, so the order of metadata never matters. Metadata with a column of their own go there, and a missing one leaves nothing; all others go together into the JSON column as one text, or are dropped if the schema has none.
-/

namespace VectorTable

structure Record where
  id : Value
  embedding : Value
  text : Option String
  metadata : List (String × Value)

namespace Schema

/-- The metadata that have no column of their own, in order. -/
def overflow (s : Schema) (metadata : List (String × Value)) : List (String × Value) :=
  metadata.filter fun entry => !s.metadataNames.contains entry.1

/-- The value of the JSON column: nothing, or the text of an object. -/
def jsonValue (overflow : List (String × Value)) : Except Failure Value :=
  if overflow.isEmpty then .ok .null
  else
    match Json.encode (.record overflow) with
    | .error obstacle => .error (.misfit (.unwritable obstacle))
    | .ok text => .ok (.text text)

/-- The values of the metadata columns, nothing for those that the metadata lack. -/
def declaredValues (s : Schema) (metadata : List (String × Value)) : List Value :=
  s.metadataNames.map fun name => (lookupName metadata name).getD .null

/-- The value of the JSON column, if the schema has one. -/
def jsonValues (s : Schema) (metadata : List (String × Value)) : Except Failure (List Value) :=
  match s.jsonColumn with
  | some _ => do return [← jsonValue (s.overflow metadata)]
  | none => .ok []

/-- The row of a record: a value for each insert column, in order. -/
def row (s : Schema) (r : Record) : Except Failure (List Value) := do
  let vector ← formatVector r.embedding
  let json ← s.jsonValues r.metadata
  return [r.id, .text vector, Value.ofText? r.text] ++ s.declaredValues r.metadata ++ json

/-- The names of the metadata that a schema without a JSON column drops, sorted. -/
def dropped (s : Schema) (r : Record) : List String :=
  if s.jsonColumn.isSome then []
  else ((s.overflow r.metadata).map Prod.fst).mergeSort

end Schema

end VectorTable
