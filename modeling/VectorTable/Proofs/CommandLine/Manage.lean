import VectorTable.Proofs.CommandLine.Exit
import VectorTable.Proofs.Schema.Created
import VectorTable.Proofs.Store.Opened

/-!
# Tables that commands create and commands manage

One command creates tables, with whatever names it is given for their columns; the others work on them and are given the names of three of those columns. They take it that the JSON column has its usual name, although the command that creates a table can be told otherwise. So a table can be managed unless one of the three columns has the usual name of the JSON column: then every other command refuses the names of the very columns that the table was created with.
-/

namespace VectorTable

open Program Sql

/-! ### The same table under another schema -/

/-- Drafts that name the same table, and the same columns for identifier, content and vector. -/
structure Draft.SameNames (d e : Draft) : Prop where
  table : d.table = e.table
  schema : d.schema = e.schema
  idColumn : d.idColumn = e.idColumn
  contentColumn : d.contentColumn = e.contentColumn
  embeddingColumn : d.embeddingColumn = e.embeddingColumn

namespace Draft.SameNames

variable {d e : Draft} (h : d.SameNames e)

include h

theorem reserved_eq : d.reserved = e.reserved := by
  rw [reserved, reserved, h.idColumn, h.contentColumn, h.embeddingColumn]

theorem requiredNames_eq : d.requiredNames = e.requiredNames := by
  rw [requiredNames, requiredNames, h.table, h.schema, h.idColumn, h.contentColumn,
    h.embeddingColumn]

end Draft.SameNames

namespace Schema

variable {s : Schema} {d : Draft} (hsame : d.SameNames s.toDraft) (hplain : d.metadataColumns = [])
  {json : String} (hjson : d.jsonColumn = some json)

include hsame hplain hjson

/-- What can be wrong with a draft that names no metadata columns, if its other names are those of a schema. -/
theorem fault?_of_sameNames :
    d.fault? = if json ∈ s.reserved then some (.jsonColumnTaken json) else none := by
  obtain ⟨hnames, hreserved, -, -, -⟩ := (Draft.fault?_eq_none_iff _).mp s.sound
  have hfound : (s.requiredNames.find? fun required => Text.isBlankText required.2) = none := by
    simpa using hnames
  have hnone : d.metadataNames = [] := by rw [Draft.metadataNames, hplain, List.map_nil]
  rw [Draft.fault?, hsame.requiredNames_eq, hfound, hsame.reserved_eq, hnone, hjson]
  simp [hreserved]

theorem ofDraft_of_mem_reserved (hblank : Text.isBlankText json = false)
    (hmem : json ∈ s.reserved) : ofDraft d = .error (.refused (.jsonColumnTaken json)) := by
  have hnames : ∀ name ∈ d.jsonColumn, Text.isBlankText name = false := by
    rw [hjson]
    rintro _ ⟨⟩
    exact hblank
  apply ofDraft_eq_error hnames
  rw [fault?_of_sameNames hsame hplain hjson, if_pos hmem]

theorem exists_resolve_of_notMem_reserved (hblank : Text.isBlankText json = false)
    (hnot : json ∉ s.reserved) {columns : TableColumns}
    (hid : (lookupName columns s.idColumn).isSome)
    (hcontent : lookupName columns s.contentColumn = some (.text "text"))
    (hembedding : lookupName columns s.embeddingColumn = some (.text "USER-DEFINED")) :
    ∃ declared resolved, ofDraft d = .ok declared ∧ declared.toDraft = d ∧
      declared.resolve columns none = .ok resolved ∧
      resolved.toDraft = { d with jsonColumn := declared.presentJsonColumn columns } := by
  have hnames : ∀ name ∈ d.jsonColumn, Text.isBlankText name = false := by
    rw [hjson]
    rintro _ ⟨⟩
    exact hblank
  obtain ⟨declared, hdeclared, rfl⟩ := exists_ofDraft hnames
    (by rw [fault?_of_sameNames hsame hplain hjson, if_neg hnot])
  rw [← hsame.idColumn] at hid
  rw [← hsame.contentColumn] at hcontent
  rw [← hsame.embeddingColumn] at hembedding
  have htyped : declared.metadataColumns = ([] : List TypedColumn).map .typed := hplain
  obtain ⟨resolved, hresolved, hdraft⟩ := declared.exists_resolve htyped hnames hid hcontent
    hembedding (List.forall_mem_nil _)
  exact ⟨declared, resolved, hdeclared, rfl, hresolved, hdraft⟩

end Schema

/-! ### Commands on a table -/

namespace CommandLine

/-- The table that a command works on, if it takes it to exist. -/
def Command.table? : Command → Option Draft
  | createIndex table .. | dropIndex table _ | remove table _ => some table
  | initTable .. | health => none

/-- The usual name of the JSON column, which commands on a table cannot be told to change. -/
def usualJsonColumn : String := "langchain_metadata"

theorem exists_ofWords_of_read {name : CommandName} {words : List String} {command : Command}
    (h : name.read words = .ok command) : ∃ sorted, name.ofWords sorted = .ok command := by
  rw [CommandName.read] at h
  split at h
  · cases h
  · split at h
    · cases h
    · split at h
      · cases h
      · split at h
        case h_1 sorted _ _ _ _ hwords =>
          cases h
          exact ⟨_, hwords⟩
        case h_2 => cases h

theorem table?_of_read {name : CommandName} {words : List String} {command : Command}
    (hread : name.read words = .ok command) {draft : Draft} (hdraft : command.table? = some draft) :
    draft.metadataColumns = [] ∧ draft.jsonColumn = some usualJsonColumn := by
  obtain ⟨sorted, hsorted⟩ := exists_ofWords_of_read hread
  cases name with
  | initTable =>
    obtain ⟨columns, -, hsorted⟩ := bind_eq_ok_iff.mp hsorted
    dsimp only at hsorted
    split at hsorted
    · cases hsorted
      cases hdraft
    · cases hsorted
  | health =>
    cases hsorted
    cases hdraft
  | createIndex | dropIndex | remove =>
    cases hsorted
    cases hdraft
    exact ⟨rfl, rfl⟩

/-- A command that refuses the names of its table sends no statement. -/
theorem path_onStore_refused {e : Environment} {aim : String} {table : Draft} {distance : Distance}
    {work : Store → Program Unit} {failure : Failure} (hrefused : Schema.ofDraft table = .error failure)
    {m : Memory} {h : History} {r : Except Failure Nat}
    (hpath : Path (onStore e aim table distance work) m h r) : asked h = [] ∧ exitCode r ≠ 0 := by
  have hwork : ∀ m h r, Path (reporting aim do
      let schema ← Program.ofExcept (Schema.ofDraft table)
      work (← Store.create schema none distance none e.store)) m h r →
      (m.afterAll h).connected = m.connected ∧ exchanges h = [] ∧ exitCode r ≠ 0 := by
    intro m h r hpath
    rw [hrefused] at hpath
    rcases path_reporting hpath with ⟨hdone, -⟩ | ⟨other, hw, hfailed, hend⟩
    · cases (path_done_iff.mp hdone).2
    · obtain ⟨rfl, -⟩ := path_done_iff.mp hfailed
      rcases hend with ⟨rfl, rfl⟩ | ⟨rfl, rfl⟩ <;> exact ⟨rfl, rfl, Nat.one_ne_zero⟩
  rcases Database.path_during (fun m hw result hinner => (hwork m hw result hinner).1) hpath with
    ⟨fault, hexchanges, -, rfl⟩ | ⟨m', hw, result, value, reply, hinner, -, hexchanges, rfl⟩
  · rw [asked, hexchanges]
    exact ⟨rfl, Nat.one_ne_zero⟩
  · obtain ⟨-, hsilent, hexit⟩ := hwork _ _ _ hinner
    rw [hsilent] at hexchanges
    rw [asked, hexchanges]
    exact ⟨rfl, fun hzero => hexit (exitCode_afterReply hzero)⟩

theorem path_run_refused {e : Environment} {command : Command} {draft : Draft}
    (hdraft : command.table? = some draft) {failure : Failure}
    (hrefused : Schema.ofDraft draft = .error failure) {m : Memory} {h : History}
    {r : Except Failure Nat} (hpath : Path (command.run e) m h r) :
    asked h = [] ∧ exitCode r ≠ 0 := by
  cases command with
  | initTable | health => cases hdraft
  | createIndex | dropIndex | remove =>
    cases hdraft
    exact path_onStore_refused hrefused hpath

theorem exists_createTable_of_committed {settings : Except Failure Setting.Store} {schema : Schema}
    {size : Int} {overwrite storeMetadata : Bool} {h : History}
    (hdone : (Command.initTable schema size overwrite storeMetadata).IsDone settings h)
    {statement : Statement} (hstatement : statement ∈ committed h) {other : String → String}
    {table : Table} (htable : createdTable? other statement.sql = some table) :
    ∃ pieces, schema.createTable (.int size) storeMetadata = .ok pieces ∧
      statement.sql = render pieces := by
  obtain ⟨n, typed, rfl, hpositive, htyped, hcommitted⟩ := hdone.committed
  rw [hcommitted] at hstatement
  obtain ⟨sql, hsql, rfl⟩ := List.mem_map.mp hstatement
  refine ⟨_, schema.createTable_eq_ok_iff.mpr
    ⟨n, typed, vectorSize?_int_eq_ok_iff.mpr ⟨rfl, hpositive⟩, htyped, rfl⟩, ?_⟩
  have hcreates : "CREATE TABLE ".toList <+: sql.toList := prefix_of_createdTable? htable
  have hcases : sql = "CREATE EXTENSION IF NOT EXISTS vector" ∨
      sql = "DROP TABLE IF EXISTS " ++ fullName schema.schema schema.table ∨
      sql = createTableText schema n typed (schema.wantedJsonColumn storeMetadata) := by
    cases overwrite with
    | false => exact (show sql = _ ∨ sql = _ by simpa using hsql).imp_right .inr
    | true => simpa using hsql
  rcases hcases with rfl | rfl | rfl
  · have hdiffers :
        ¬ "CREATE TABLE ".toList <+: "CREATE EXTENSION IF NOT EXISTS vector".toList := by decide
    exact absurd hcreates hdiffers
  · obtain ⟨rest, hrest⟩ := hcreates
    have hhead := congrArg List.head? hrest
    simp at hhead
  · exact (render_createPieces schema n typed _).symm

/-- A table that a command has created can be managed by every other command that is given the same names, whatever its metadata columns and its JSON column are called, unless the column for identifier, content or vector has the usual name of the JSON column. Then every such command refuses the names, sends no statement and ends with an exit code other than zero. -/
theorem manageable_iff {σ : Type} {sources : Setting.Sources} {line created : List String}
    {debug : Bool} (hline : Group.read line = .ok ⟨debug, .initTable, created⟩) {schema : Schema}
    {size : Int} {overwrite storeMetadata : Bool}
    (hinit : CommandName.initTable.read created =
      .ok (.initTable schema size overwrite storeMetadata)) (server : Server σ) (state : σ)
    (hexit : exitCode ((Plan.make sources line).program.run server state .fresh).result = 0)
    {statement : Statement}
    (hstatement : statement ∈
      committed ((Plan.make sources line).program.run server state .fresh).history)
    {other : String → String} {table : Table}
    (htable : createdTable? other statement.sql = some table) {name : CommandName}
    {words : List String} {command : Command} (hread : name.read words = .ok command) {draft : Draft}
    (hdraft : command.table? = some draft) (hsame : draft.SameNames schema.toDraft) :
    ((∃ declared resolved, Schema.ofDraft draft = .ok declared ∧
        Store.resolveRows declared none (catalogue table.columns) = .ok resolved) ↔
      usualJsonColumn ∉ schema.reserved) ∧
    (usualJsonColumn ∈ schema.reserved →
      Schema.ofDraft draft = .error (.refused (.jsonColumnTaken usualJsonColumn)) ∧
        ∀ (e : Environment) (m : Memory) (h : History) (r : Except Failure Nat),
          Path (command.run e) m h r → asked h = [] ∧ exitCode r ≠ 0) := by
  obtain ⟨hplain, hjson⟩ := table?_of_read hread hdraft
  have hblank : Text.isBlankText usualJsonColumn = false := by decide
  have hrefused (hmem : usualJsonColumn ∈ schema.reserved) :=
    Schema.ofDraft_of_mem_reserved hsame hplain hjson hblank hmem
  have hdone := (isTrustworthy_of_path hline hinit
    (path_run server (Plan.make sources line).program state .fresh)).exit hexit
  obtain ⟨pieces, hpieces, hsql⟩ := exists_createTable_of_committed hdone hstatement htable
  rw [hsql] at htable
  obtain ⟨hnodup, hid, hcontent, hembedding⟩ := schema.lookupName_of_createdTable? hpieces htable
  refine ⟨⟨?_, fun hnot => ?_⟩, fun hmem => ⟨hrefused hmem, fun e m h r hpath => ?_⟩⟩
  · rintro ⟨declared, resolved, hdeclared, -⟩ hmem
    rw [hrefused hmem] at hdeclared
    cases hdeclared
  · obtain ⟨declared, resolved, hdeclared, -, hresolved, -⟩ :=
      Schema.exists_resolve_of_notMem_reserved hsame hplain hjson hblank hnot hid hcontent hembedding
    have hsome : table.columns ≠ [] := by
      rintro heq
      rw [heq] at hid
      cases hid
    exact ⟨declared, resolved, hdeclared, (Store.resolveRows_catalogue hnodup hsome none).trans hresolved⟩
  · exact path_run_refused hdraft (hrefused hmem) hpath

/-- A metadata column has the usual name of the JSON column, which is called otherwise. Rows can be removed all the same. -/
theorem manageable_iff_metadataColumn :
    let server : Server Unit := fun _ _ => (.ok .null, ())
    let sources : Setting.Sources := ⟨[], [], []⟩
    let created := ["docs", "--vector-size", "3", "--metadata-column", "langchain_metadata:TEXT",
      "--json-column", "more"]
    let o := (Plan.make sources ("init-table" :: created)).program.run server () .fresh
    let draft := Draft.ofTable "docs"
    exitCode o.result = 0 ∧ CommandName.remove.read ["docs", "x"] = .ok (.remove draft ["x"]) ∧
      ∃ statement ∈ committed o.history, ∃ table,
        createdTable? (fun _ => "text") statement.sql = some table ∧
        ∃ declared resolved, Schema.ofDraft draft = .ok declared ∧
          Store.resolveRows declared none (catalogue table.columns) = .ok resolved := by
  intro server sources created o draft
  have hline : Group.read ("init-table" :: created) = .ok ⟨false, .initTable, created⟩ := rfl
  obtain ⟨schema, hinit, hreserved, hsame⟩ : ∃ schema, CommandName.initTable.read created =
      .ok (.initTable schema 3 false true) ∧ usualJsonColumn ∉ schema.reserved ∧
        draft.SameNames schema.toDraft :=
    ⟨_, by with_unfolding_all rfl, by decide, ⟨rfl, rfl, rfl, rfl, rfl⟩⟩
  have hexit : exitCode o.result = 0 := by decide +kernel
  have hread : CommandName.remove.read ["docs", "x"] = .ok (.remove draft ["x"]) := by
    with_unfolding_all rfl
  have hcreated : ((committed o.history).any fun statement =>
      (createdTable? (fun _ => "text") statement.sql).isSome) = true := by decide +kernel
  obtain ⟨statement, hstatement, hsome⟩ := List.any_eq_true.mp hcreated
  obtain ⟨table, htable⟩ := Option.isSome_iff_exists.mp hsome
  have hdraft : (Command.remove draft ["x"]).table? = some draft := rfl
  have hmanageable := manageable_iff hline hinit server () hexit hstatement htable hread hdraft hsame
  exact ⟨hexit, hread, statement, hstatement, table, htable, hmanageable.1.mpr hreserved⟩

/-- The identifiers are kept in a column with the usual name of the JSON column, and there is no JSON column. The table is created, but no rows can be removed from it. -/
theorem not_manageable_idColumn :
    let server : Server Unit := fun _ _ => (.ok .null, ())
    let sources : Setting.Sources := ⟨[], [], []⟩
    let columns := ["--id-column", "langchain_metadata"]
    let created := (Plan.make sources
      (["init-table", "docs", "--vector-size", "3", "--no-json"] ++ columns)).program.run server () .fresh
    let managed := (Plan.make sources (["remove", "docs", "x"] ++ columns)).program.run server () .fresh
    exitCode created.result = 0 ∧
      ((committed created.history).any fun statement =>
        (createdTable? (fun _ => "uuid") statement.sql).isSome) = true ∧
      exitCode managed.result = 1 ∧ (asked managed.history).length = 0 ∧
      printed managed.history = ["Failed to delete rows: metadata_json_column 'langchain_metadata' clashes with another configured column"] := by
  decide +kernel

end CommandLine

end VectorTable
