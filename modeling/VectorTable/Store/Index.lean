import VectorTable.Store.Basic

/-!
# Indexes of a store

Creating, dropping and rebuilding the index on the vector column. These statements run outside of transactions, since an index that is built without locking the table cannot be built in one.
-/

namespace VectorTable

open Sql

namespace Store

/-- The name of the index unless another is given. -/
def defaultIndexName (s : Store) : String := s.schema.table ++ "_langchainvectorindex"

/-- The name given, or the default. An empty name counts as not given. -/
def indexName (s : Store) (name : Option String) : String :=
  (name.filter fun name => !name.isEmpty).getD s.defaultIndexName

def indexPieces (s : Store) (name : String) : List Piece :=
  [.name s.schema.schema, .raw ".", .name name]

def createIndexPieces (s : Store) (index : IndexDefinition) (name : String) (concurrently : Bool) :
    List Piece :=
  [.raw ("CREATE INDEX " ++ (if concurrently then "CONCURRENTLY " else "") ++ "IF NOT EXISTS "),
    .name name, .raw " ON "]
    ++ s.schema.tablePieces
    ++ [.raw (" USING " ++ index.accessMethod ++ " ("), .name s.schema.embeddingColumn,
      .raw (" " ++ index.operatorClass ++ ") WITH " ++ index.method.parameters
        ++ index.whereClause)]

def dropIndexPieces (s : Store) (name : String) : List Piece :=
  .raw "DROP INDEX IF EXISTS " :: s.indexPieces name

def reindexPieces (s : Store) (name : String) : List Piece :=
  .raw "REINDEX INDEX " :: s.indexPieces name

def indexExtensionStatement : String := "CREATE EXTENSION IF NOT EXISTS alloydb_scann"

/-- A warning if an index serves another distance than the store. -/
def warnDistance (s : Store) (index : IndexDefinition) : Program Unit :=
  if index.distance = s.distance then pure ()
  else Program.log (Log.event logger .warning "Index distance strategy differs from the store's"
    [("index_strategy", .text index.distance.name), ("store_strategy", .text s.distance.name)])

def applyIndex (s : Store) (index : IndexDefinition) (name : Option String) (concurrently : Bool) :
    Program String := do
  let name := s.indexName name
  s.warnDistance index
  let _ ← s.operation "apply_vector_index" [("index_type", .text index.accessMethod)]
    (Program.withConnection do
      if index.method.needsExtension then
        let _ ← Program.statement .execute indexExtensionStatement [] none
      Program.statement .execute (render (s.createIndexPieces index name concurrently)) [] none)
  Program.log (Log.event logger .info "Created vector index"
    [tableField s.schema, ("index", .text name)])
  return name

def dropIndex (s : Store) (name : Option String) : Program Unit := do
  let name := s.indexName name
  let _ ← s.operation "drop_vector_index" []
    (Program.withConnection (Program.statement .execute (render (s.dropIndexPieces name)) [] none))
  Program.log (Log.event logger .info "Dropped vector index"
    [tableField s.schema, ("index", .text name)])

def reindex (s : Store) (name : Option String) : Program Unit := do
  let name := s.indexName name
  let _ ← s.operation "reindex" []
    (Program.withConnection (Program.statement .execute (render (s.reindexPieces name)) [] none))
  return ()

end Store

end VectorTable
