import VectorTable.Store.Basic

/-!
# Writing to a store

Inserting and deleting. An insertion is one transaction, whatever the number of its chunks; a deletion is one statement.
-/

namespace VectorTable

/-- A list in chunks of a given size, of which the last may be smaller. A chunk has at least one item. -/
def chunksOf {α : Type} (size : Nat) : List α → List (List α)
  | [] => []
  | x :: xs => (x :: xs.take (size - 1)) :: chunksOf size (xs.drop (size - 1))
termination_by items => items.length
decreasing_by
  simp only [List.length_drop, List.length_cons]
  omega

namespace Store

/-- What is to be inserted: vectors, and for each of them perhaps a text, metadata and an identifier. -/
structure Insertion where
  embeddings : List Value
  texts : Option (List (Option String))
  metadata : Option (List (List (String × Value)))
  ids : Option (List Value)

def records (embeddings : List Value) (texts : List (Option String))
    (metadata : List (List (String × Value))) (ids : List Value) : Except Failure (List Record) :=
  (ids.zip (embeddings.zip (texts.zip metadata))).mapM fun (id, embedding, text, metadata) => do
    return { id, embedding := .list (← embedding.items), text, metadata }

/-- Sending rows in chunks, one statement for each chunk. -/
def sendChunks (sql : String) (timeout : Option (Option Float)) :
    List (List (List Value)) → Program Unit
  | [] => pure ()
  | chunk :: rest => do
    let _ ← Program.executeMany sql chunk timeout
    sendChunks sql timeout rest

def insertRecords (s : Store) (records : List Record) : Program Unit := do
  let rows ← s.schema.rowsNoted records
  s.operation "add_all" [("batch_size", .int records.length)]
    (Program.inTransaction
      (sendChunks (Sql.render s.schema.insertPieces) s.timeout (chunksOf s.settings.batchRows rows)))
  Program.measure (.rowsWritten (.int records.length))
  Program.log (Log.event logger .info "Inserted embeddings"
    [tableField s.schema, ("count", .int records.length)])

/-- Inserting a batch. Identifiers are issued if none are given. The result is the identifiers in order. -/
def addAll (s : Store) (insertion : Insertion) : Program (List Value) := do
  let count := insertion.embeddings.length
  let ids ← match insertion.ids with
    | some ids => pure ids
    | none => Program.freshIds insertion.embeddings
  let texts := insertion.texts.getD (List.replicate count none)
  let metadata := insertion.metadata.getD (List.replicate count [])
  if ids.length = count ∧ count = texts.length ∧ texts.length = metadata.length then
    if count = 0 then return []
    else do
      let records ← Program.ofExcept (records insertion.embeddings texts metadata ids)
      s.insertRecords records
      return ids
  else
    Program.fail (.misconfigured
      (.lengthsDiffer ids.length count texts.length metadata.length)
      (some ⟨s.table, "add_all"⟩))

/-- Inserting one embedding. An identifier is issued unless one is given. -/
def add (s : Store) (embedding : Value) (text : Option String) (metadata : List (String × Value))
    (id : Value) : Program Value := do
  let id ← if id.truthy then pure id else Value.text <$> Program.freshId
  let _ ← s.addAll ⟨[embedding], some [text], some [metadata], some [id]⟩
  return id

/-- The number of rows that a command status reports: the number after its last space. -/
def affectedRows : Value → Int
  | .text status =>
    (Decimal.readInt? (String.ofList ((splitAt ' ' status.toList).getLastD []))).getD 0
  | _ => 0

/-- Deleting rows by identifier, in one statement. The result is the number of deleted rows. -/
def removeAll (s : Store) (ids : Value) : Program Int := do
  let query ← Program.ofExcept (s.schema.delete ids)
  let count ← Program.ofExcept ids.length
  let status ← s.operation "remove_all" [("count", .int count)]
    (Program.inTransaction (Program.statement .execute query.sql query.args s.timeout))
  let deleted := affectedRows status
  Program.recordRowsDeleted (.int deleted)
  Program.log (Log.event logger .info "Deleted embeddings"
    [tableField s.schema, ("requested", .int count), ("deleted", .int deleted)])
  return deleted

def remove (s : Store) (id : Value) : Program Int := s.removeAll (.list [id])

end Store

end VectorTable
