import VectorTable.Database
import VectorTable.Schema.Create

/-!
# Setting up a table

Creating the table of a schema together with the extension it needs, in one transaction: if anything fails, nothing has changed, and an existing table that was to be replaced is still there.
-/

namespace VectorTable

namespace TableSetup

def logger : String := "alloydb_vectorstore.storage.table"

def extensionStatement : String := "CREATE EXTENSION IF NOT EXISTS vector"

def dropPieces (s : Schema) : List Sql.Piece := .raw "DROP TABLE IF EXISTS " :: s.tablePieces

/-- The statements of the transaction, in order. -/
def statements (s : Schema) (create : List Sql.Piece) (overwrite : Bool) : List String :=
  [extensionStatement] ++ (if overwrite then [Sql.render (dropPieces s)] else [])
    ++ [Sql.render create]

def executeAll : List String → Program Unit
  | [] => pure ()
  | sql :: rest => do
    let _ ← Program.statement .execute sql [] none
    executeAll rest

/-- Creating the table of a schema. The arguments are checked before anything is sent. -/
def create (s : Schema) (size : Value) (overwrite storeMetadata : Bool) : Program Unit := do
  let create ← Program.ofExcept (s.createTable size storeMetadata)
  Program.accountFor s.qualifiedTable "init_table"
    (Program.inTransaction (executeAll (statements s create overwrite)))
  Program.log (Log.event logger .info "Initialized vector store table"
    [("table", .text s.qualifiedTable), ("vector_size", size),
      ("metadata_columns", .list (s.metadataNames.map .text)),
      ("overwrite_existing", .bool overwrite)])

end TableSetup

end VectorTable
