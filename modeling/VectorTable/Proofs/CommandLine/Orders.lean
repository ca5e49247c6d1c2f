import VectorTable.Proofs.CommandLine.Session
import VectorTable.Proofs.Schema.Created

/-!
# What commands have carried out

The statements of a command are known from its arguments and the settings alone, although most commands look at their table first. They are built from pieces, and here they are written down a second time, as they read when they are sent: whoever knows what a command was asked for knows the text of every statement it has committed.
-/

namespace VectorTable

open Sql

namespace CommandLine

/-! ### The statements as they are built -/

/-- The statements on a table: it is looked at first, and what is done then does not depend on what was found. -/
def onTable (settings : Except Failure Setting.Store) (table : Draft) (distance : Distance)
    (statements : Store → Except Failure (List Statement)) : Except Failure (List Statement) := do
  let schema ← Schema.ofDraft table
  let settings ← settings
  return Store.introspection schema :: (← statements ⟨schema, distance, none, settings⟩)

def healthStatement : Statement := ⟨.fetchValue, "SELECT 1", [[]], none⟩

def versionStatement : Statement :=
  ⟨.fetchValue, "SELECT extversion FROM pg_extension WHERE extname = 'vector'", [[]], none⟩

namespace Command

def statements (settings : Except Failure Setting.Store) :
    Command → Except Failure (List Statement)
  | initTable schema size overwrite storeMetadata => do
    let pieces ← schema.createTable (.int size) storeMetadata
    return (TableSetup.statements schema pieces overwrite).map plainStatement
  | createIndex table _ index name concurrently =>
    onTable settings table index.distance fun store =>
      .ok (store.applyIndexStatements index name concurrently)
  | dropIndex table name =>
    onTable settings table .cosine fun store =>
      .ok [plainStatement (Sql.render (store.dropIndexPieces (store.indexName name)))]
  | remove table ids =>
    onTable settings table .cosine fun store => store.removeAllStatements (.list (ids.map .text))
  | health => .ok [healthStatement, versionStatement]

end Command

/-! ### The statements as they read -/

/-- The full name of something in a schema. -/
def fullName (schema name : String) : String := quoteName schema ++ "." ++ quoteName name

def createTableText (s : Schema) (size : Nat) (typed : List TypedColumn) (json : Option String) :
    String :=
  "CREATE TABLE " ++ fullName s.schema s.table ++ " (" ++ String.intercalate ", "
    ((s.columnTexts size typed json).map fun column => quoteName column.1 ++ " " ++ column.2) ++ ")"

/-- The name that an index gets if none is given, or an empty one. -/
def nameOfIndex (table : String) (name : Option String) : String :=
  if name.getD "" = "" then table ++ "_langchainvectorindex" else name.getD ""

def createIndexText (d : Draft) (index : IndexDefinition) (name : Option String)
    (concurrently : Bool) : String :=
  "CREATE INDEX " ++ (if concurrently then "CONCURRENTLY " else "") ++ "IF NOT EXISTS "
    ++ quoteName (nameOfIndex d.table name) ++ " ON " ++ fullName d.schema d.table ++ " USING "
    ++ index.accessMethod ++ " (" ++ quoteName d.embeddingColumn ++ " " ++ index.operatorClass
    ++ ") WITH " ++ index.method.parameters ++ index.whereClause

def deleteText (d : Draft) : String :=
  "DELETE FROM " ++ fullName d.schema d.table ++ " WHERE " ++ quoteName d.idColumn ++ " = ANY($1)"

def columnsStatement (d : Draft) : Statement :=
  ⟨.fetch, Store.columnsQuery, [[.text d.table, .text d.schema]], none⟩

/-- The statements of a command, in order and as they read. -/
def Command.Commits (settings : Except Failure Setting.Store) : Command → List Statement → Prop
  | initTable s size overwrite storeMetadata, sent =>
    ∃ (n : Nat) (typed : List TypedColumn), size = n ∧ 0 < n ∧
      s.metadataColumns = typed.map .typed ∧
      sent = (["CREATE EXTENSION IF NOT EXISTS vector"]
        ++ (if overwrite then ["DROP TABLE IF EXISTS " ++ fullName s.schema s.table] else [])
        ++ [createTableText s n typed (s.wantedJsonColumn storeMetadata)]).map plainStatement
  | createIndex d _ index name concurrently, sent =>
    sent = columnsStatement d ::
      ((match index.method with
        | .scann .. => ["CREATE EXTENSION IF NOT EXISTS alloydb_scann"]
        | _ => [])
        ++ [createIndexText d index name concurrently]).map plainStatement
  | dropIndex d name, sent =>
    sent = [columnsStatement d,
      plainStatement ("DROP INDEX IF EXISTS " ++ fullName d.schema (nameOfIndex d.table name))]
  | remove d ids, sent =>
    ∃ store, settings = .ok store ∧
      sent = [columnsStatement d,
        ⟨.execute, deleteText d, [[.list (ids.map .text)]], some store.timeLimit⟩]
  | health, sent => sent = [healthStatement, versionStatement]

/-! ### Both are the same -/

theorem render_tablePieces (s : Schema) : render s.tablePieces = fullName s.schema s.table := by
  simp [Schema.tablePieces, fullName, String.append_assoc]

theorem render_createPieces (s : Schema) (size : Nat) (typed : List TypedColumn)
    (json : Option String) :
    render (s.createPieces size typed json) = createTableText s size typed json := by
  simp [Schema.createPieces, createTableText, fullName, render_separated, Sql.definition,
    Function.comp_def, String.append_assoc]

theorem onTable_eq_ok {settings : Except Failure Setting.Store} {table : Draft}
    {distance : Distance} {statements : Store → Except Failure (List Statement)}
    {sent : List Statement} (h : onTable settings table distance statements = .ok sent) :
    ∃ schema store rest, schema.toDraft = table.withoutBlankJson ∧ settings = .ok store ∧
      statements ⟨schema, distance, none, store⟩ = .ok rest ∧
      sent = Store.introspection schema :: rest := by
  obtain ⟨schema, hschema, h⟩ := bind_eq_ok_iff.mp h
  obtain ⟨store, hstore, h⟩ := bind_eq_ok_iff.mp h
  obtain ⟨rest, hrest, h⟩ := bind_eq_ok_iff.mp h
  exact ⟨schema, store, rest, Schema.ofDraft_eq_ok_iff.mp hschema, hstore, hrest,
    (Except.ok.inj h).symm⟩

theorem indexName_eq (store : Store) (name : Option String) :
    store.indexName name = nameOfIndex store.schema.table name := by
  cases name with
  | none => rfl
  | some name =>
    by_cases hname : name = ""
    · rw [hname]
      rfl
    · simp [Store.indexName, nameOfIndex, Option.filter_some, hname]

theorem render_createIndexPieces (store : Store) (index : IndexDefinition) (name : Option String)
    (concurrently : Bool) :
    render (store.createIndexPieces index (store.indexName name) concurrently) =
      createIndexText store.schema.toDraft index name concurrently := by
  rw [Store.createIndexPieces, indexName_eq]
  unfold createIndexText
  simp only [render_append, render_cons, render_nil, render_tablePieces, Piece.text_raw,
    Piece.text_name, String.append_empty, String.append_assoc]

theorem render_dropIndexPieces (store : Store) (name : Option String) :
    render (store.dropIndexPieces (store.indexName name)) =
      "DROP INDEX IF EXISTS " ++
        fullName store.schema.schema (nameOfIndex store.schema.table name) := by
  simp [Store.dropIndexPieces, Store.indexPieces, fullName, indexName_eq, String.append_assoc]

theorem removeAllStatements_eq_ok {store : Store} {ids : List Value} {sent : List Statement}
    (h : store.removeAllStatements (.list ids) = .ok sent) :
    sent = [⟨.execute, deleteText store.schema.toDraft, [[.list ids]], store.timeout⟩] := by
  obtain ⟨query, hquery, h⟩ := bind_eq_ok_iff.mp h
  obtain ⟨_, -, h⟩ := bind_eq_ok_iff.mp h
  obtain ⟨listed, hlisted, hquery⟩ := bind_eq_ok_iff.mp hquery
  have hids : listed = ids := by
    rw [Schema.identifiers] at hlisted
    split at hlisted
    · exact (Except.ok.inj hlisted).symm
    · cases hlisted
  obtain rfl := Except.ok.inj hquery
  obtain rfl := Except.ok.inj h
  have hslot : slotText 1 = "$1" := by decide
  rw [hids]
  simp [Store.queryStatement, Query.sql, deleteText, Schema.identifierClause, render_tablePieces,
    hslot, String.append_assoc]

theorem commits_of_statements {settings : Except Failure Setting.Store} {command : Command}
    {sent : List Statement} (h : command.statements settings = .ok sent) :
    command.Commits settings sent := by
  cases command with
  | initTable s size overwrite storeMetadata =>
    obtain ⟨pieces, hpieces, hsent⟩ := bind_eq_ok_iff.mp h
    obtain rfl := Except.ok.inj hsent
    obtain ⟨n, typed, hsize, htyped, rfl⟩ := s.createTable_eq_ok_iff.mp hpieces
    obtain ⟨rfl, hpositive⟩ := vectorSize?_int_eq_ok_iff.mp hsize
    refine ⟨n, typed, rfl, hpositive, htyped, ?_⟩
    rw [← render_createPieces]
    cases overwrite <;> simp [TableSetup.statements, TableSetup.extensionStatement,
      TableSetup.dropPieces, render_tablePieces]
  | createIndex table word index name concurrently =>
    rw [Command.statements] at h
    -- The schema differs from the draft in a blank JSON column only, which no statement names.
    obtain ⟨⟨_, _⟩, store, rest, rfl, -, hrest, rfl⟩ := onTable_eq_ok h
    obtain rfl := Except.ok.inj hrest
    have hextension : (if index.method.needsExtension then [Store.indexExtensionStatement] else []) =
        match index.method with
        | .scann .. => ["CREATE EXTENSION IF NOT EXISTS alloydb_scann"]
        | _ => [] := by
      cases index.method <;> rfl
    rw [Store.applyIndexStatements, render_createIndexPieces, hextension]
    rfl
  | dropIndex table name =>
    rw [Command.statements] at h
    obtain ⟨⟨_, _⟩, store, rest, rfl, -, hrest, rfl⟩ := onTable_eq_ok h
    obtain rfl := Except.ok.inj hrest
    rw [render_dropIndexPieces]
    rfl
  | remove table ids =>
    rw [Command.statements] at h
    obtain ⟨⟨_, _⟩, store, rest, rfl, hstore, hrest, rfl⟩ := onTable_eq_ok h
    rw [removeAllStatements_eq_ok hrest]
    exact ⟨store, hstore, rfl⟩
  | health => exact (Except.ok.inj h).symm

end CommandLine

end VectorTable
